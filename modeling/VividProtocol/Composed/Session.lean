import Mathlib.Tactic
import VividProtocol.Composed.Sound

/-!
# The lease transitions of the composed model

Activation, its retries, welcome, loss, resumption and the ends of a lease.
-/

set_option autoImplicit false

namespace VividProtocol.Composed

open VividProtocol.Grant
open VividProtocol.Input
open VividProtocol.Lease
open Fired

variable {sha256 : Sha256} {buckets : Buckets} {elapsed : Nat} {model : Model}
  {seen : Finset Case}

/-- What a transition of the lease alone leaves of the model. -/
theorem Sound.with_lease (sound : Sound sha256 buckets elapsed model) {lease : LeaseMachine}
    {admitted lost charged : Bool} (phase : LeasePhase sha256 lease admitted lost charged)
    (resumes : lease.resumeGeneration.toNat ≤ buckets.maxResumeGeneration.toNat)
    (kept : model.lease.state = .active → lease.state = .active) :
    Sound sha256 buckets elapsed
      { model with
        lease := lease
        postHelloAdmitted := admitted
        controlLost := lost
        charged := charged } :=
  { sound with
    lease := phase
    resumes := resumes
    lane := fun opened => kept (sound.lane opened) }

/-- The model once its control transport and its grant are gone. -/
theorem Sound.torn_down (sound : Sound sha256 buckets elapsed model) (fit : buckets.Fit)
    (reason : UInt64) :
    ∃ next, model.presenterRevoke reason = (next, []) ∧ next.otherProbe = model.otherProbe ∧
      next.postHelloAdmitted = model.postHelloAdmitted ∧
      next.controlLost = model.controlLost ∧ next.charged = model.charged ∧
      ∀ {lease : LeaseMachine} {admitted lost charged : Bool},
        LeasePhase sha256 lease admitted lost charged →
        lease.resumeGeneration.toNat ≤ buckets.maxResumeGeneration.toNat →
        Sound sha256 buckets elapsed
          { next with
            lease := lease
            postHelloAdmitted := admitted
            controlLost := lost
            charged := charged }.teardownTransports := by
  have room : 2 * model.epoch.toNat < 2 ^ 64 := by
    have epochs := sound.epochs
    have bound := fit.epochs
    omega
  obtain ⟨grant, gate, observed, revoked, idle, paired⟩ :=
    presenterRevoke_spec sound.unbroken room sound.paired reason
  refine ⟨_, revoked, rfl, rfl, rfl, rfl, ?_⟩
  intro lease admitted lost charged phase resumes
  exact
    { unbroken := sound.unbroken
      lease := phase
      resumes := resumes
      lane := by
        intro impossible
        cases impossible
      lanes := by
        intro lane impossible
        cases impossible
      granted := by
        intro granted
        have present : gate.active.isSome = true := granted
        rw [idle] at present
        cases present
      named := sound.named
      epochs := sound.epochs
      paired := paired model.surfaceGeneration
      flow := ⟨Nat.le_refl _, Nat.le_refl _⟩
      other := sound.other
      clock := sound.clock }

theorem clean_activate (sound : Sound sha256 buckets elapsed model) :
    Clean sha256 buckets elapsed (model.fireActivate sha256) := by
  refine clean_unless fun enabled => ?_
  have issued := not_not.mp enabled
  obtain ⟨isLease, admitted, lost, charged⟩ := sound.lease.of_issued issued
  have phase : LeasePhase sha256
      (sessionLease .reserved 2 .zero (some (heldAttempt sha256 none false false)))
      model.postHelloAdmitted model.controlLost model.charged := by
    rw [admitted, lost, charged]
    exact .reserved rfl rfl
  rw [isLease, beginActivation_issued]
  refine clean_fired rfl (sound.with_lease phase (Nat.zero_le _) ?_)
  intro active
  exact absurd (issued.symm.trans active) (by decide)

/-- A held lease is the model's own, reserved or active. -/
theorem Sound.held_lease (sound : Sound sha256 buckets elapsed model)
    (held : LeaseState.holding model.lease.state = true) :
    ∃ state revision generation origin,
      model.lease = sessionLease state revision generation
        (some (heldAttempt sha256 origin model.postHelloAdmitted model.controlLost)) ∧
      Follows origin generation ∧ model.charged = true ∧
      (state = .reserved ∧ model.postHelloAdmitted = false ∧
          revision.toNat = 3 * generation.toNat + 2 ∨
        state = .active ∧ revision.toNat = 3 * generation.toNat + 3) := by
  rcases holding_iff.mp held with reserved | active
  · obtain ⟨revision, generation, origin, isLease, counted, follows, admitted, charged⟩ :=
      sound.lease.of_reserved reserved
    rw [← admitted] at isLease
    exact ⟨_, _, _, _, isLease, follows, charged, Or.inl ⟨rfl, admitted, counted⟩⟩
  · obtain ⟨revision, generation, origin, isLease, counted, follows, charged⟩ :=
      sound.lease.of_active active
    exact ⟨_, _, _, _, isLease, follows, charged, Or.inr ⟨rfl, counted⟩⟩

theorem held_kind {state : LeaseState} {first second : Prop}
    (counted : state = .reserved ∧ first ∨ state = .active ∧ second) :
    state = .reserved ∨ state = .active :=
  counted.imp And.left And.left

/-- The phase of a held lease whose transport is marked. -/
theorem held_phase {state : LeaseState} {revision : UInt64} {generation : ResumeGeneration}
    {origin : Option ResumeGeneration} {admitted lost : Bool}
    (follows : Follows origin generation)
    (counted : state = .reserved ∧ admitted = false ∧
        revision.toNat = 3 * generation.toNat + 2 ∨
      state = .active ∧ revision.toNat = 3 * generation.toNat + 3) :
    LeasePhase sha256
      (sessionLease state revision generation (some (heldAttempt sha256 origin admitted lost)))
      admitted lost true := by
  rcases counted with ⟨rfl, rfl, counted⟩ | ⟨rfl, counted⟩
  · exact .reserved counted follows
  · exact .active counted follows

theorem clean_activateRetryExact (sound : Sound sha256 buckets elapsed model) :
    Clean sha256 buckets elapsed (model.fireActivateRetryExact sha256) := by
  refine clean_unless fun first => clean_unless fun enabled => ?_
  rw [Bool.not_eq_true, Bool.not_eq_false'] at enabled
  obtain ⟨state, revision, generation, origin, isLease, follows, charged, counted⟩ :=
    sound.held_lease enabled
  have resumes := sound.resumes
  rw [isLease] at resumes
  rw [isLease, beginActivation_held sha256 (held_kind counted)]
  by_cases resumption : origin.isSome = true
  · rw [if_pos resumption, ← isLease]
    exact clean_quiet sound _
  rw [if_neg resumption]
  by_cases retryable : state = .reserved ∨ model.controlLost = true ∧
      model.postHelloAdmitted = false
  · rw [if_pos retryable, retry_held]
    have admitted : model.postHelloAdmitted = false := by
      rcases counted with ⟨-, admitted, -⟩ | ⟨active, -⟩
      · exact admitted
      · rcases retryable with reserved | ⟨-, admitted⟩
        · exact absurd (reserved.symm.trans active) (by decide)
        · exact admitted
    have phase : LeasePhase sha256
        (sessionLease state revision generation
          (some (heldAttempt sha256 origin model.postHelloAdmitted false)))
        false false model.charged := by
      rw [admitted] at counted ⊢
      rw [charged]
      exact held_phase follows counted
    refine clean_quiet (sound.with_lease phase resumes ?_) _
    rw [isLease]
    exact id
  · rw [if_neg retryable, ← isLease]
    exact clean_quiet sound _

theorem clean_activateRetryDifferent (sound : Sound sha256 buckets elapsed model) :
    Clean sha256 buckets elapsed (model.fireActivateRetryDifferent sha256 seen) := by
  refine clean_unless fun enabled => ?_
  rw [Bool.or_eq_true, not_or, Bool.not_eq_true, Bool.not_eq_false'] at enabled
  obtain ⟨state, revision, generation, origin, isLease, follows, charged, counted⟩ :=
    sound.held_lease enabled.1
  rw [isLease, beginActivation_held sha256 (held_kind counted), retry_other]
  split_ifs <;> exact clean_fired rfl sound

/-- A session of the model has room for one more revision. -/
theorem Sound.session_room (sound : Sound sha256 buckets elapsed model) (fit : buckets.Fit)
    {state : LeaseState} {revision : UInt64} {generation : ResumeGeneration}
    {attempt : Option Attempt}
    (isLease : model.lease = sessionLease state revision generation attempt)
    (live : state ≠ .closed ∧ state ≠ .revoked ∧ state ≠ .expired) :
    revision.toNat + 1 < 2 ^ 64 ∧
      generation.toNat ≤ buckets.maxResumeGeneration.toNat := by
  have resumes := sound.resumes
  have phase := sound.lease
  rw [isLease] at resumes phase
  have bound := fit.resumes
  refine ⟨phase.room ?_ ?_, resumes⟩
  · unfold LeaseMachine.Ended sessionLease
    simp [live]
  · omega

theorem held_live {state : LeaseState} (kind : state = .reserved ∨ state = .active) :
    state ≠ .closed ∧ state ≠ .revoked ∧ state ≠ .expired := by
  rcases kind with rfl | rfl <;> decide

theorem clean_welcomeCommitted (sound : Sound sha256 buckets elapsed model)
    (fit : buckets.Fit) : Clean sha256 buckets elapsed model.fireWelcomeCommitted := by
  refine clean_unless fun enabled => ?_
  have reserved := not_not.mp enabled
  obtain ⟨revision, generation, origin, isLease, counted, follows, admitted, charged⟩ :=
    sound.lease.of_reserved reserved
  obtain ⟨room, resumes⟩ := sound.session_room fit isLease (by decide)
  rw [isLease, commitWelcome_reserved room]
  have phase : LeasePhase sha256
      (sessionLease .active (revision + 1) generation
        (some (heldAttempt sha256 origin false model.controlLost)))
      model.postHelloAdmitted model.controlLost model.charged := by
    rw [admitted, charged]
    exact .active (by rw [toNat_succ room, counted]) follows
  exact clean_fired rfl (sound.with_lease phase resumes fun _ => rfl)

theorem clean_postHelloAdmitted (sound : Sound sha256 buckets elapsed model) :
    Clean sha256 buckets elapsed model.firePostHelloAdmitted := by
  refine clean_unless fun enabled => ?_
  rw [not_or, not_not] at enabled
  have resumes := sound.resumes
  obtain ⟨revision, generation, origin, isLease, counted, follows, charged⟩ :=
    sound.lease.of_active enabled.1
  rw [isLease] at resumes
  have phase : LeasePhase sha256
      (sessionLease .active revision generation
        (some (heldAttempt sha256 origin true model.controlLost)))
      true model.controlLost model.charged := by
    rw [charged]
    exact .active counted follows
  rw [isLease]
  exact clean_fired rfl (sound.with_lease phase resumes fun _ => rfl)

theorem clean_controlLostClean (sound : Sound sha256 buckets elapsed model)
    (fit : buckets.Fit) : Clean sha256 buckets elapsed model.fireControlLostClean := by
  refine clean_unless fun enabled => ?_
  rw [Bool.not_eq_true, Bool.not_eq_false'] at enabled
  obtain ⟨state, revision, generation, origin, isLease, follows, charged, counted⟩ :=
    sound.held_lease enabled
  obtain ⟨room, resumes⟩ := sound.session_room fit isLease (held_live (held_kind counted))
  obtain ⟨next, revoked, -, -, -, -, after⟩ := sound.torn_down fit Reason.PRESENTER_SHUTDOWN
  obtain ⟨machine, lost, closed, same⟩ :=
    confirmTransportLost_clean
      (some (heldAttempt sha256 origin model.postHelloAdmitted model.controlLost))
      (held_kind counted) room
  rw [revoked, isLease, lost]
  refine clean_fired rfl (after (.ended (Or.inl closed)) ?_)
  rw [same]
  exact resumes

theorem clean_controlLostUnclean (sound : Sound sha256 buckets elapsed model)
    (fit : buckets.Fit) : Clean sha256 buckets elapsed model.fireControlLostUnclean := by
  refine clean_unless fun enabled => ?_
  rw [Bool.not_eq_true, Bool.not_eq_false'] at enabled
  obtain ⟨state, revision, generation, origin, isLease, follows, charged, counted⟩ :=
    sound.held_lease enabled
  obtain ⟨room, resumes⟩ := sound.session_room fit isLease (held_live (held_kind counted))
  obtain ⟨next, revoked, -, admittedSame, -, chargedSame, after⟩ :=
    sound.torn_down fit Reason.SUSPENSION
  have isState : model.lease.state = state := by rw [isLease]; rfl
  rw [revoked, isState]
  by_cases retryable : state = .reserved ∨ state = .active ∧ model.postHelloAdmitted = false
  · have decided : Model.retryableLoss state model.postHelloAdmitted = true := by
      unfold Model.retryableLoss
      simpa using retryable
    rw [isLease, confirmTransportLost_retryable sha256 retryable]
    have phase : LeasePhase sha256
        (sessionLease state revision generation
          (some (heldAttempt sha256 origin model.postHelloAdmitted true)))
        next.postHelloAdmitted true next.charged := by
      rw [admittedSame, chargedSame, charged]
      exact held_phase follows counted
    dsimp only
    rw [if_pos decided]
    refine clean_fired ?_ (after phase resumes)
    simp [complain]
  · have decided : ¬ Model.retryableLoss state model.postHelloAdmitted = true := by
      unfold Model.retryableLoss
      simpa using retryable
    rcases counted with ⟨reserved, -⟩ | ⟨rfl, counted⟩
    · exact absurd (Or.inl reserved) retryable
    have admitted : model.postHelloAdmitted = true := by
      rw [not_or, not_and, Bool.not_eq_false] at retryable
      exact retryable.2 rfl
    rw [admitted] at decided
    rw [isLease, admitted, confirmTransportLost_admitted sha256 room]
    have phase : LeasePhase sha256 (sessionLease .suspended (revision + 1) generation none)
        next.postHelloAdmitted true next.charged := by
      rw [chargedSame, charged]
      exact .suspended (by rw [toNat_succ room, counted])
    dsimp only
    rw [if_neg decided]
    exact clean_fired rfl (after phase resumes)

theorem clean_resumeValid (sound : Sound sha256 buckets elapsed model) (fit : buckets.Fit) :
    Clean sha256 buckets elapsed (model.fireResumeValid sha256 buckets) := by
  refine clean_unless fun enabled => ?_
  rw [not_or, not_not] at enabled
  obtain ⟨revision, generation, isLease, counted, charged⟩ :=
    sound.lease.of_suspended enabled.1
  obtain ⟨room, -⟩ := sound.session_room fit isLease (by decide)
  have below : generation.toNat < buckets.maxResumeGeneration.toNat := by
    have below := enabled.2
    rw [isLease, UInt64.not_le, UInt64.lt_iff_toNat_lt] at below
    exact below
  have bound := buckets.maxResumeGeneration.toNat_lt
  obtain ⟨next, follows⟩ : ∃ next : ResumeGeneration, next.toNat = generation.toNat + 1 := by
    refine ⟨{ value := generation.value + 1 }, toNat_succ ?_⟩
    unfold Counter.toNat at below
    omega
  have phase : LeasePhase sha256
      (sessionLease .reserved (revision + 1) next
        (some (heldAttempt sha256 (some generation) false false)))
      false false model.charged := by
    rw [charged]
    refine .reserved ?_ follows
    rw [toNat_succ room, counted, follows]
    omega
  have resumed := beginResume_suspended sha256 none room follows
  have same : model.lease.resumeGeneration = generation := by rw [isLease]; rfl
  rw [same, isLease, resumed]
  refine clean_quiet (sound.with_lease phase ?_ ?_) _
  · show next.toNat ≤ _
    omega
  · intro active
    exact absurd (enabled.1.symm.trans active) (by decide)

theorem stale_lt {generation : ResumeGeneration} (resumed : generation.value ≠ 0) :
    (generation.value - 1).toNat + 1 = generation.toNat := by
  have positive : generation.value.toNat ≠ 0 := by
    intro zero
    exact resumed (UInt64.toNat_inj.mp zero)
  have one : (1 : UInt64).toNat = 1 := rfl
  unfold Counter.toNat
  rw [UInt64.toNat_sub_of_le _ _ (UInt64.le_iff_toNat_le.mpr (by omega)), one]
  omega

theorem clean_resumeRetry (sound : Sound sha256 buckets elapsed model) (exact : Bool) :
    Clean sha256 buckets elapsed (model.fireResumeRetry sha256 exact) := by
  refine clean_unless fun enabled => ?_
  rw [not_or, Bool.not_eq_true, Bool.not_eq_false'] at enabled
  obtain ⟨state, revision, generation, origin, isLease, follows, charged, counted⟩ :=
    sound.held_lease enabled.2
  have resumed : generation.value ≠ 0 := by
    have resumed := enabled.1
    rw [isLease] at resumed
    exact resumed
  have resumes := sound.resumes
  rw [isLease] at resumes
  have isStale : model.staleGeneration.toNat + 1 = generation.toNat := by
    unfold Model.staleGeneration
    rw [isLease]
    exact stale_lt resumed
  -- A resumed lease's attempt resumes from the generation before its own.
  obtain ⟨previous, rfl⟩ : ∃ previous, origin = some previous := by
    cases origin with
    | none => exact absurd (congrArg Counter.value follows) resumed
    | some previous => exact ⟨previous, rfl⟩
  have isPrevious : model.staleGeneration = previous := by
    unfold Follows at follows
    rw [← Counter.toNat_inj]
    omega
  have isState : model.lease.state = state := by rw [isLease]; rfl
  have sameGeneration : model.lease.resumeGeneration = generation := by rw [isLease]; rfl
  rw [isPrevious, isState, sameGeneration, isLease,
    beginResume_held sha256 (held_kind counted)]
  have kept : Sound sha256 buckets elapsed
      { model with
        lease := sessionLease state revision generation
          (some (heldAttempt sha256 (some previous) model.postHelloAdmitted
            model.controlLost)) } := by
    rw [← isLease]
    exact sound
  have level : complain
      (decide (generation ≠ generation)) Violation.resumeRetryAdvanced = [] := by
    simp [complain]
  cases exact with
  | false =>
      simp only [Bool.false_and, Bool.false_eq_true, if_false, retry_other, ite_self]
      refine clean_fired ?_ kept
      exact level
  | true =>
      simp only [Bool.true_and, if_true]
      by_cases replays : model.postHelloAdmitted = false ∧
          (state = .reserved ∨ model.controlLost = true)
      · have decided : (! model.postHelloAdmitted &&
            (decide (state = .reserved) || model.controlLost)) = true := by
          simpa using replays
        rw [if_pos replays, if_pos decided, retry_held]
        have phase : LeasePhase sha256
            (sessionLease state revision generation
              (some (heldAttempt sha256 (some previous) model.postHelloAdmitted false)))
            model.postHelloAdmitted false model.charged := by
          rw [charged]
          exact held_phase follows counted
        refine clean_fired ?_ (sound.with_lease phase resumes ?_)
        · show _ ++ complain (decide (generation ≠ generation)) _ = []
          rw [level]
          simp [complain]
        · rw [isLease]
          exact id
      · have decided : ¬ (! model.postHelloAdmitted &&
            (decide (state = .reserved) || model.controlLost)) = true := by
          simpa using replays
        rw [if_neg replays, if_neg decided]
        refine clean_fired ?_ kept
        exact level

theorem clean_resumeStale (sound : Sound sha256 buckets elapsed model) :
    Clean sha256 buckets elapsed (model.fireResumeStale sha256 seen) := by
  refine clean_unless fun enabled => ?_
  rw [not_or, not_or, not_not] at enabled
  obtain ⟨revision, generation, isLease, counted, charged⟩ :=
    sound.lease.of_suspended enabled.1
  have stale : model.staleGeneration ≠ generation := by
    have resumed := enabled.2.1
    rw [isLease] at resumed
    have before := stale_lt resumed
    unfold Model.staleGeneration
    rw [isLease, Ne, ← Counter.toNat_inj]
    show UInt64.toNat _ ≠ _
    unfold sessionLease at before ⊢
    dsimp only at before ⊢
    omega
  have kept : Sound sha256 buckets elapsed
      { model with lease := sessionLease .suspended revision generation none } := by
    rw [← isLease]
    exact sound
  rw [isLease, beginResume_stale sha256 none (attemptRequest ATTEMPT) stale]
  exact clean_fired rfl kept

theorem clean_graceExpiry (sound : Sound sha256 buckets elapsed model) (fit : buckets.Fit) :
    Clean sha256 buckets elapsed model.fireGraceExpiry := by
  refine clean_unless fun enabled => ?_
  have suspended := not_not.mp enabled
  obtain ⟨revision, generation, isLease, counted, charged⟩ :=
    sound.lease.of_suspended suspended
  obtain ⟨room, resumes⟩ := sound.session_room fit isLease (by decide)
  have live : ¬ model.lease.Ended := by
    unfold LeaseMachine.Ended
    rw [suspended]
    decide
  obtain ⟨after, ended, isEnded, same⟩ :=
    endIn_room (Or.inr (Or.inr rfl)) live (by rw [isLease]; exact room)
  have expired : model.lease.expire = (.ok (), after) := ended
  rw [expired]
  refine clean_fired rfl
    (sound.with_lease (.ended isEnded) (by rw [same]; exact sound.resumes) ?_)
  intro active
  exact absurd (suspended.symm.trans active) (by decide)

theorem clean_revoke (sound : Sound sha256 buckets elapsed model) (fit : buckets.Fit)
    (parent : Bool) : Clean sha256 buckets elapsed (model.fireRevoke parent) := by
  refine clean_unless fun enabled => ?_
  rw [Bool.or_eq_true, not_or] at enabled
  have live : ¬ model.lease.Ended := mt terminal_iff.mpr enabled.1
  have bound := fit.resumes
  have resumes := sound.resumes
  have room := sound.lease.room live (by omega)
  obtain ⟨after, ended, isEnded, same⟩ := endIn_room (Or.inr (Or.inl rfl)) live room
  have revoked : model.lease.revoke = (.ok (), after) := ended
  obtain ⟨next, dropped, undisturbed, -, -, -, kept⟩ := sound.torn_down fit Reason.AUTHORITY_LOSS
  rw [dropped, revoked]
  refine clean_fired ?_ (kept (.ended isEnded) (by rw [same]; exact resumes))
  have probe : decide
      ((({ next with lease := after, charged := false } : Model).teardownTransports).otherProbe ≠
        model.otherProbe) = false := decide_eq_false (not_not.mpr undisturbed)
  show [] ++ [] ++ complain _ _ = []
  rw [probe]
  rfl

end VividProtocol.Composed

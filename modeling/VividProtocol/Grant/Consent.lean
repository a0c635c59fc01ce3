import Mathlib.Tactic
import VividProtocol.Grant.Effect

/-!
# A grant follows consent

An active grant is the intersection that the last decided binding asked for and
was eligible for.  Once closed it stays closed until an enable under a greater
epoch, and its renewals are timely and in order.
-/

set_option autoImplicit false

namespace VividProtocol.Grant

open VividProtocol.Input
open VividProtocol.Library.Transition

/-! ## Reading the history -/

/-- An apply that was answered, other than as a retry. -/
def Decides (event : GrantEvent) : Prop :=
  ∃ outcome, event.output = .applied (.ok outcome) ∧ outcome ≠ .exactRetry

def Enables (event : GrantEvent) : Prop := event.output = .applied (.ok .enabled)

/-- A disable, a denial or a successful revocation. -/
def Closes (event : GrantEvent) : Prop :=
  event.output = .applied (.ok .disabled) ∨
    (∃ reason, event.output = .applied (.ok (.denied reason))) ∨
    ∃ payload, event.output = .revoked (some payload)

/-- The producer epoch a closing event belongs to: of the binding it answers, or
of the grant it revokes. -/
def ClosedEpoch (event : GrantEvent) (epoch : InputEpoch) : Prop :=
  (∃ binding eligibility now, event.input = .apply binding eligibility now ∧
    epoch = binding.producerEpoch) ∨
  ∃ reason active, event.input = .revoke reason ∧
    event.before.gate.active = some active ∧ epoch = active.binding.producerEpoch

/-- The classes are those the last decided binding requested and the presenter
was eligible to grant. -/
def ConsentedTo (history : List GrantEvent) (classes : UInt64) : Prop :=
  ∃ last since binding eligibility now,
    Latest Decides history last since ∧ last.input = .apply binding eligibility now ∧
    classes = binding.requestedClasses &&& eligibility.capabilityMask ∧
    Eligible eligibility binding

/-- A renewal belongs to an active grant, in the second half of its watchdog,
and exceeds every earlier renewal of the same grant. -/
structure RenewalLaw (past : List GrantEvent) (event : GrantEvent) : Prop where
  timely : ∀ now renewal, event.input = .dueRenewal now →
    event.output = .renewed (some renewal) →
    ∃ active, event.before.gate.active = some active ∧
      active.watchdogDeadline.toNat - active.watchdogTimeoutUs.toNat / 2 ≤ now.toNat ∧
      now.toNat < active.watchdogDeadline.toNat
  increasing : ∀ renewal, event.output = .renewed (some renewal) →
    ∀ earlier ∈ past, ∀ other, earlier.output = .renewed (some other) →
      earlier.before.gate.active.map ActiveGrant.binding =
        event.before.gate.active.map ActiveGrant.binding →
      other.sequence < renewal.sequence

/-! ## The ledger -/

structure GrantLedger (past : List GrantEvent) (grant : InputGrant) : Prop where
  coherent : Coherent grant
  consented : ∀ active, grant.gate.active = some active →
    ConsentedTo past active.effectiveClasses
  renewals : ∀ earlier ∈ past, ∀ other, earlier.output = .renewed (some other) →
    ∃ holder, earlier.before.gate.active = some holder ∧
      holder.binding.grantGeneration.toNat ≤ grant.gate.grantGeneration.toNat ∧
      ∀ active, grant.gate.active = some active → active.binding = holder.binding →
        other.sequence.toNat ≤ grant.renewalSequence.toNat

variable {past : List GrantEvent} {event : GrantEvent}

/-- A step that keeps the gate's generation and the grant's classes. -/
theorem GrantLedger.carry (ledger : GrantLedger past event.before)
    (coherent : Coherent event.after) (undecided : ¬ Decides event)
    (silent : ∀ renewal, event.output ≠ .renewed (some renewal))
    (kept : event.after.gate = event.before.gate)
    (sequence : ∀ active, event.after.gate.active = some active →
      event.before.renewalSequence.toNat ≤ event.after.renewalSequence.toNat) :
    GrantLedger (past ++ [event]) event.after where
  coherent := coherent
  consented := by
    rw [kept]
    intro active held
    obtain ⟨last, since, binding, eligibility, now, latest, rest⟩ :=
      ledger.consented active held
    exact ⟨last, since ++ [event], binding, eligibility, now, latest.snoc undecided, rest⟩
  renewals := by
    apply forall_snoc
    · intro earlier inside other answer
      obtain ⟨holder, held, bound, ordered⟩ := ledger.renewals earlier inside other answer
      refine ⟨holder, held, ?_, ?_⟩
      · rw [kept]
        exact bound
      · intro active isActive same
        have grown := sequence active isActive
        rw [kept] at isActive
        exact le_trans (ordered active isActive same) grown
    · intro other answer
      exact absurd answer (silent other)

/-- A step to a new generation, with no grant or with a grant of that generation. -/
theorem GrantLedger.advance (ledger : GrantLedger past event.before)
    (coherent : Coherent event.after)
    (consented : ∀ active, event.after.gate.active = some active →
      ConsentedTo (past ++ [event]) active.effectiveClasses)
    (silent : ∀ renewal, event.output ≠ .renewed (some renewal))
    (next : event.after.gate.grantGeneration.toNat =
      event.before.gate.grantGeneration.toNat + 1) :
    GrantLedger (past ++ [event]) event.after where
  coherent := coherent
  consented := consented
  renewals := by
    apply forall_snoc
    · intro earlier inside other answer
      obtain ⟨holder, held, bound, -⟩ := ledger.renewals earlier inside other answer
      refine ⟨holder, held, by omega, ?_⟩
      intro active isActive same
      have current := (coherent.held active isActive).current
      rw [same] at current
      rw [current] at bound
      omega
    · intro other answer
      exact absurd answer (silent other)

theorem GrantLedger.snoc (ledger : GrantLedger past event.before)
    (effect : GrantEffect event.before event.input event.output event.after) :
    GrantLedger (past ++ [event]) event.after := by
  have coherent := effect.preserves_coherent ledger.coherent
  obtain ⟨before, operation, answer, after⟩ := event
  dsimp only at ledger effect coherent
  cases effect with
  | refused error =>
      apply ledger.carry coherent _ _ rfl (fun _ _ => le_refl _)
      · simp [Decides]
      · simp
  | retried asked same =>
      apply ledger.carry coherent _ _ rfl (fun _ _ => le_refl _)
      · simp [Decides]
      · simp
  | disabledRetried asked same =>
      apply ledger.carry coherent _ _ rfl
      · intro active held
        -- The latest binding disables, so no grant is active.
        obtain ⟨binding, latest, kept, -⟩ := (ledger.coherent.held active held).latest
        rw [same] at latest
        cases latest
        rw [asked] at kept
        cases kept
      · simp [Decides]
      · simp
  | disabled asked accepted =>
      apply ledger.advance coherent _ (by simp) accepted.next
      intro active held
      cases held
  | denied asked accepted reason =>
      apply ledger.advance coherent _ (by simp) accepted.next
      intro active held
      cases held
  | enabled asked accepted eligible =>
      apply ledger.advance coherent _ (by simp) accepted.next
      intro active held
      cases held
      refine ⟨_, [], _, _, _, latest_snoc_self past ?_, rfl, rfl,
        eligible_of_refusal eligible⟩
      exact ⟨_, rfl, by simp⟩
  | revocationRefused reason =>
      apply ledger.carry coherent _ _ rfl (fun _ _ => le_refl _)
      · simp [Decides]
      · simp
  | revoked reason held next =>
      apply ledger.advance coherent _ (by simp) next
      intro active isActive
      cases isActive
  | renewalRefused now kept =>
      apply ledger.carry coherent _ _ rfl
      · intro _ _
        exact UInt64.le_iff_toNat_le.mp kept
      · simp [Decides]
      · simp
  | @renewed now deadline sequence active held next due early =>
      refine ⟨coherent, ?_, ?_⟩
      · intro renewed isRenewed
        cases isRenewed
        obtain ⟨last, since, binding, eligibility, decidedAt, latest, rest⟩ :=
          ledger.consented active held
        refine ⟨last, _, binding, eligibility, decidedAt, latest.snoc ?_, rest⟩
        simp [Decides]
      · apply forall_snoc
        · intro earlier inside other answer
          obtain ⟨holder, isHolder, bound, ordered⟩ :=
            ledger.renewals earlier inside other answer
          refine ⟨holder, isHolder, bound, ?_⟩
          intro renewed isRenewed same
          cases isRenewed
          have before := ordered active held same
          dsimp only
          omega
        · intro other answer
          cases answer
          refine ⟨active, held, ?_, fun _ _ _ => le_refl _⟩
          rw [(ledger.coherent.held active held).current]

theorem grantLedger_reachable (operations : List GrantOperation) :
    GrantLedger (grantRuns.history .new operations) (grantRuns.final .new operations) := by
  apply grantRuns.history_induction
  · refine ⟨coherent_new, ?_, ?_⟩
    · intro active held
      cases held
    · intro earlier inside
      cases inside
  · intro past grant operation ledger
    exact @GrantLedger.snoc past (grantRuns.event grant operation) ledger
      (grantStep_effect grant operation)

/-! ## The laws -/

theorem GrantLedger.renewal_law (ledger : GrantLedger past event.before)
    (effect : GrantEffect event.before event.input event.output event.after) :
    RenewalLaw past event := by
  by_cases renews : ∃ renewal, event.output = .renewed (some renewal)
  · obtain ⟨before, operation, answer, after⟩ := event
    obtain ⟨renewal, answered⟩ := renews
    dsimp only at ledger effect answered
    subst answered
    cases effect with
    | renewed held next due early =>
        have watchdog := (ledger.coherent.held _ held).watchdog
        refine ⟨?_, ?_⟩
        · intro now renewal isNow _
          cases isNow
          refine ⟨_, held, ?_, Monotonic.lt_iff_toNat.mp early⟩
          rw [watchdog, UInt64.toNat_div] at due
          have two : (2 : UInt64).toNat = 2 := rfl
          rw [two] at due
          omega
        · intro renewal isRenewal earlier inside other answer same
          cases isRenewal
          obtain ⟨holder, isHolder, -, ordered⟩ :=
            ledger.renewals earlier inside other answer
          dsimp only at same
          rw [isHolder, held, Option.map_some, Option.map_some, Option.some.injEq] at same
          have below := ordered _ held same.symm
          rw [UInt64.lt_iff_toNat_lt]
          dsimp only
          omega
  · refine ⟨?_, ?_⟩
    · intro now renewal _ answer
      exact absurd ⟨renewal, answer⟩ renews
    · intro renewal answer
      exact absurd ⟨renewal, answer⟩ renews

/-- A closing event leaves no grant, and the latest binding at its epoch. -/
theorem closed_after (coherent : Coherent event.before)
    (effect : GrantEffect event.before event.input event.output event.after)
    (closes : Closes event) :
    event.after.gate.active = none ∧
      ∀ epoch, ClosedEpoch event epoch → ∃ latest,
        event.after.gate.latestBinding = some latest ∧ epoch = latest.producerEpoch := by
  obtain ⟨before, operation, answer, after⟩ := event
  unfold Closes at closes
  unfold ClosedEpoch
  dsimp only at coherent effect closes
  cases effect with
  | refused error => simp at closes
  | retried asked same => simp at closes
  | disabledRetried asked same => simp at closes
  | disabled asked accepted =>
      refine ⟨rfl, ?_⟩
      rintro epoch (⟨binding, eligibility, now, isApply, rfl⟩ | ⟨reason, active, isRevoke, -⟩)
      · cases isApply
        exact ⟨_, rfl, rfl⟩
      · cases isRevoke
  | denied asked accepted reason =>
      refine ⟨rfl, ?_⟩
      rintro epoch (⟨binding, eligibility, now, isApply, rfl⟩ | ⟨reason, active, isRevoke, -⟩)
      · cases isApply
        exact ⟨_, rfl, rfl⟩
      · cases isRevoke
  | enabled asked accepted eligible => simp at closes
  | revocationRefused reason => simp at closes
  | revoked reason held next =>
      refine ⟨rfl, ?_⟩
      rintro epoch (⟨binding, eligibility, now, isApply, -⟩ | ⟨why, active, -, isActive, rfl⟩)
      · cases isApply
      · obtain ⟨binding, latest, -, same⟩ := (coherent.held active isActive).latest
        exact ⟨binding, latest, same⟩
  | renewalRefused now kept => simp at closes
  | renewed held next due early => simp at closes

/-- Without an enable a closed grant stays closed. -/
theorem closed_step {grant after : InputGrant} {operation : GrantOperation}
    {answer : GrantAnswer} (effect : GrantEffect grant operation answer after)
    (closed : grant.gate.active = none) (kept : answer ≠ .applied (.ok .enabled)) :
    after.gate.active = none := by
  cases effect with
  | refused error => exact closed
  | retried asked same => exact closed
  | disabledRetried asked same => exact closed
  | disabled asked accepted => rfl
  | denied asked accepted reason => rfl
  | enabled asked accepted eligible => exact absurd rfl kept
  | revocationRefused reason => exact closed
  | revoked reason held next => rfl
  | renewalRefused now still => exact closed
  | renewed held next due early =>
      rw [closed] at held
      cases held

theorem closed_run (grant : InputGrant) (closed : grant.gate.active = none)
    (operations : List GrantOperation)
    (kept : ∀ event ∈ grantRuns.history grant operations, ¬ Enables event) :
    (grantRuns.final grant operations).gate.active = none := by
  induction operations generalizing grant with
  | nil => exact closed
  | cons operation operations ih =>
      have first := kept _ List.mem_cons_self
      have after := closed_step (grantStep_effect grant operation) closed first
      exact ih _ after fun event inside => kept event (List.mem_cons_of_mem _ inside)

/-- The latest binding has at least this epoch. -/
def ReachedEpoch (epoch : InputEpoch) (grant : InputGrant) : Prop :=
  ∃ latest, grant.gate.latestBinding = some latest ∧
    epoch.toNat ≤ latest.producerEpoch.toNat

theorem Accepted.exceeds {gate : InputGate} {binding : InputBinding}
    {generation : GrantGeneration} {release : UInt64}
    (accepted : Accepted gate binding generation release) {epoch : InputEpoch}
    {latest : InputBinding} (isLatest : gate.latestBinding = some latest)
    (reached : epoch.toNat ≤ latest.producerEpoch.toNat) :
    epoch.toNat < binding.producerEpoch.toNat := by
  have newer := Counter.lt_iff_toNat.mp (accepted.newer latest isLatest)
  omega

theorem reached_step {grant after : InputGrant} {operation : GrantOperation}
    {answer : GrantAnswer} {epoch : InputEpoch}
    (effect : GrantEffect grant operation answer after)
    (reached : ReachedEpoch epoch grant) : ReachedEpoch epoch after := by
  obtain ⟨latest, isLatest, bound⟩ := reached
  cases effect with
  | refused error => exact ⟨latest, isLatest, bound⟩
  | retried asked same => exact ⟨latest, isLatest, bound⟩
  | disabledRetried asked same => exact ⟨latest, isLatest, bound⟩
  | disabled asked accepted => exact ⟨_, rfl, le_of_lt (accepted.exceeds isLatest bound)⟩
  | denied asked accepted reason => exact ⟨_, rfl, le_of_lt (accepted.exceeds isLatest bound)⟩
  | enabled asked accepted eligible =>
      exact ⟨_, rfl, le_of_lt (accepted.exceeds isLatest bound)⟩
  | revocationRefused reason => exact ⟨latest, isLatest, bound⟩
  | revoked reason held next => exact ⟨latest, isLatest, bound⟩
  | renewalRefused now kept => exact ⟨latest, isLatest, bound⟩
  | renewed held next due early => exact ⟨latest, isLatest, bound⟩

/-- Every later enable is under a greater epoch. -/
theorem enables_exceed (grant : InputGrant) {epoch : InputEpoch}
    (reached : ReachedEpoch epoch grant) (operations : List GrantOperation) :
    ∀ event ∈ grantRuns.history grant operations, Enables event →
      ∀ binding eligibility now, event.input = .apply binding eligibility now →
        epoch < binding.producerEpoch := by
  induction operations generalizing grant with
  | nil => simp
  | cons operation operations ih =>
      intro event inside enables binding eligibility now asked
      have effect := grantStep_effect grant operation
      rcases List.mem_cons.mp inside with rfl | inside
      · obtain ⟨latest, isLatest, bound⟩ := reached
        have isApply : operation = .apply binding eligibility now := asked
        have isEnabled : (grantStep grant operation).1 = .applied (.ok .enabled) := enables
        subst isApply
        rw [isEnabled] at effect
        generalize (grantStep grant _).2 = after at effect
        cases effect with
        | enabled asked accepted eligible =>
            exact Counter.lt_iff_toNat.mpr (accepted.exceeds isLatest bound)
      · exact ih _ (reached_step effect reached) event inside enables binding eligibility now
          asked

theorem tag_of_closed {grant : InputGrant} (closed : grant.gate.active = none) :
    grant.effectiveClasses = 0 ∧ ∀ «class», grant.tag «class» = none := by
  constructor
  · unfold InputGrant.effectiveClasses
    rw [closed]
  · intro «class»
    unfold InputGrant.tag
    rw [closed]

/-- `INPUT_BOUND` says enabled, with classes, exactly while a grant is active. -/
theorem Coherent.bound_enabled {grant : InputGrant} (coherent : Coherent grant)
    (producerEpoch : UInt64) :
    ((grant.boundPayload producerEpoch).lookup 6 = some (.unsigned STATE_ENABLED) ∧
      ∃ classes, classes ≠ 0 ∧
        (grant.boundPayload producerEpoch).lookup 5 = some (.unsigned classes)) ↔
      grant.gate.active.isSome := by
  have state : (grant.boundPayload producerEpoch).lookup 6 =
      some (.unsigned grant.lastState) := rfl
  rw [state]
  cases held : grant.gate.active with
  | none =>
      have idle := coherent.idle held
      simp [idle]
  | some active =>
      have holds := coherent.held active held
      simp only [holds.enabled, true_and, Option.isSome_some, iff_true]
      refine ⟨active.effectiveClasses, holds.classes, ?_⟩
      simp [InputGrant.boundPayload, held, holds.enabled, List.lookup_cons]

/-- In every run of the presenter: granted classes are consented to, a closed
grant stays closed until an enable under a greater epoch, `INPUT_BOUND` says
enabled exactly while a grant is active, and renewals are timely and in order. -/
theorem presenter_grant_laws (operations : List GrantOperation) :
    let history := grantRuns.history .new operations
    let grant := grantRuns.final .new operations
    (grant.effectiveClasses ≠ 0 → ConsentedTo history grant.effectiveClasses) ∧
      (∀ past cut future, history = past ++ cut :: future → Closes cut →
        ((∀ event ∈ future, ¬ Enables event) →
          grant.effectiveClasses = 0 ∧ ∀ «class», grant.tag «class» = none) ∧
        ∀ epoch, ClosedEpoch cut epoch → ∀ event ∈ future, Enables event →
          ∀ binding eligibility now, event.input = .apply binding eligibility now →
            epoch < binding.producerEpoch) ∧
      (∀ producerEpoch,
        ((grant.boundPayload producerEpoch).lookup 6 = some (.unsigned STATE_ENABLED) ∧
          ∃ classes, classes ≠ 0 ∧
            (grant.boundPayload producerEpoch).lookup 5 = some (.unsigned classes)) ↔
          grant.gate.active.isSome) ∧
      Always RenewalLaw history := by
  intro history grant
  have ledger : GrantLedger history grant := grantLedger_reachable operations
  refine ⟨?_, ?_, ledger.coherent.bound_enabled, ?_⟩
  · intro granted
    unfold InputGrant.effectiveClasses at granted ⊢
    cases held : grant.gate.active with
    | none =>
        rw [held] at granted
        exact absurd rfl granted
    | some active => exact ledger.consented active held
  · intro past cut future split closes
    obtain ⟨first, operation, second, whole, -, rfl, rfl⟩ := grantRuns.history_event split
    have effect := grantStep_effect (grantRuns.final .new first) operation
    obtain ⟨closed, reached⟩ :=
      @closed_after (grantRuns.event (grantRuns.final .new first) operation)
        (coherent_reachable first) effect closes
    constructor
    · intro kept
      apply tag_of_closed
      have last : grant = _ := congrArg (grantRuns.final .new) whole
      rw [last, grantRuns.final_append]
      exact closed_run _ closed second kept
    · intro epoch isClosed event inside enables
      obtain ⟨latest, isLatest, same⟩ := reached epoch isClosed
      apply enables_exceed _ ⟨latest, isLatest, le_of_eq (congrArg Counter.toNat same)⟩
        second event inside enables
  · refine grantRuns.always_history ?_ operations
    intro earlier operation
    exact @GrantLedger.renewal_law _ (grantRuns.event _ operation)
      (grantLedger_reachable earlier) (grantStep_effect _ operation)

end VividProtocol.Grant

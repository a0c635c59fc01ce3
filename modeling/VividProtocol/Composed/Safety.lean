import Mathlib.Tactic
import VividProtocol.Composed.Binding
import VividProtocol.Composed.Session
import VividProtocol.Library.Transition

/-!
# Safety of the composed authority machine

No run of the composed model, whatever its interleaving, reports a violation:
neither a transition complains nor is an invariant of the model broken.
-/

set_option autoImplicit false

namespace VividProtocol.Composed

open VividProtocol.Grant
open VividProtocol.Input
open VividProtocol.Lease
open VividProtocol.Library.Transition
open Fired

/-! ## Runs -/

/-- A transition and the cases the exploration has covered when it is tried. -/
structure Attempted where
  kind : T
  seen : Finset Case
  deriving DecidableEq

/-- What the exploration reports of one transition: its complaints, and those of
the invariants in the state it leads to. -/
def modelStep (sha256 : Sha256) (buckets : Buckets) (model : Model) (tried : Attempted) :
    List Violation × Model :=
  let fired := model.fire sha256 buckets tried.seen tried.kind
  match fired.next with
  | none => (fired.violations, model)
  | some next => (fired.violations ++ next.checkInvariants.1, next)

def modelRuns (sha256 : Sha256) (buckets : Buckets) :
    Machine Model Attempted (List Violation) :=
  { step := modelStep sha256 buckets }

/-- The microseconds a transition lets pass at most. -/
def T.passes (kind : T) : Nat := if kind = .timePass then TIME_STEP_US.toNat else 0

def elapsedBy (tried : List Attempted) : Nat :=
  (tried.map fun attempted => attempted.kind.passes).sum

variable {sha256 : Sha256} {buckets : Buckets} {elapsed : Nat} {model : Model}
  {seen : Finset Case}

theorem sound_new (sha256 : Sha256) (buckets : Buckets) :
    Sound sha256 buckets 0 (.new false) where
  unbroken := rfl
  lease := .issued
  resumes := Nat.zero_le _
  lane := by
    intro impossible
    cases impossible
  lanes := by
    intro lane impossible
    cases impossible
  granted := by
    intro impossible
    cases impossible
  named := by decide
  epochs := Nat.zero_le _
  paired :=
    { level := rfl
      latest := rfl
      made := .none
      shape := by
        intro active impossible
        cases impossible
      counted := Nat.le_refl _
      released := Nat.le_refl _
      observed := Nat.le_refl _
      outdated := by
        intro tuple impossible
        cases impossible
      pressed := by
        intro impossible
        cases impossible }
  flow := ⟨Nat.le_refl _, Nat.le_refl _⟩
  other := .idle
  clock := Nat.le_refl _

/-- Every transition keeps the invariant and has nothing to complain of. -/
theorem clean_attempt (sound : Sound sha256 buckets elapsed model) (fit : buckets.Fit)
    (early : elapsed + MAX_WATCHDOG_US.toNat < 2 ^ 64) (kind : T)
    (fires : model.mayFire buckets seen kind = true) :
    Clean sha256 buckets (elapsed + kind.passes) (model.attempt sha256 buckets seen kind) := by
  cases kind with
  | activate => exact clean_activate sound
  | activateRetryExact => exact clean_activateRetryExact sound
  | activateRetryDifferent => exact clean_activateRetryDifferent sound
  | welcomeCommitted => exact clean_welcomeCommitted sound fit
  | postHelloAdmitted => exact clean_postHelloAdmitted sound
  | controlLostClean => exact clean_controlLostClean sound fit
  | controlLostUnclean => exact clean_controlLostUnclean sound fit
  | resumeValid => exact clean_resumeValid sound fit
  | resumeStale => exact clean_resumeStale sound
  | resumeRetryExact => exact clean_resumeRetry sound true
  | resumeRetryDifferent => exact clean_resumeRetry sound false
  | graceExpiry => exact clean_graceExpiry sound fit
  | leaseRevoke => exact clean_revoke sound fit false
  | parentRevoke => exact clean_revoke sound fit true
  | oldControlRecord => exact clean_unless fun _ => clean_quiet sound _
  | laneOpen => exact clean_laneOpen sound fit fires
  | laneDuplicate => exact clean_unless fun _ => clean_quiet sound _
  | laneLoss => exact clean_laneLoss sound fit
  | laneRetry => exact clean_laneRetry sound
  | laneStaleRecord => exact clean_laneStaleRecord sound
  | channelOpen => exact clean_unless fun _ => clean_quiet (sound.with_channel _) _
  | channelDuplicate => exact clean_unless fun _ => clean_quiet sound _
  | channelAccept => exact clean_channelAccept sound
  | channelAcceptConfirmed => exact clean_unless fun _ => clean_quiet (sound.with_channel _) _
  | channelAcceptLost => exact clean_unless fun _ => clean_quiet (sound.with_channel _) _
  | channelAdvance => exact clean_unless fun _ => clean_quiet (sound.with_channel _) _
  | mediaAccept => exact clean_mediaAccept sound
  | mediaParseBegin => exact clean_unless fun _ => clean_quiet (sound.with_channel _) _
  | mediaParseEnd => exact clean_unless fun _ => clean_quiet (sound.with_channel _) _
  | flowUpdateBegin => exact clean_unless fun _ => clean_quiet (sound.with_channel _) _
  | flowUpdateComplete => exact clean_flowUpdateComplete sound
  | channelLoss => exact clean_unless fun _ => clean_quiet (sound.with_channel _) _
  | oldTransportMedia => exact clean_unless fun _ => clean_quiet sound _
  | bindEnable => exact clean_bindEnable sound fit early
  | bindDisable => exact clean_bindDisable sound fit
  | bindLowerEpoch => exact clean_bindLowerEpoch sound
  | bindRetrySame => exact clean_bindRetrySame sound
  | bindRetryDifferent => exact clean_bindRetryDifferent sound
  | renewSend => exact clean_renewSend sound
  | renewDeliver => exact clean_renewDeliver sound
  | timePass => exact clean_timePass sound early
  | watchdogFire => exact clean_watchdogFire sound fit
  | focusLoss => exact clean_focusLoss sound fit
  | focusGain => exact clean_focusGain sound
  | surfaceGenerationChange => exact clean_surfaceGenerationChange sound fit
  | eventPress => exact clean_event sound true
  | eventRelease => exact clean_event sound false
  | eventOldTuple => exact clean_eventOldTuple sound
  | eventWrongSurfaceGeneration => exact clean_eventWrongSurfaceGeneration sound
  | otherActivate => exact clean_otherActivate sound
  | otherBind => exact clean_otherBind sound early
  | otherTeardown => exact clean_otherTeardown sound
  | crossInject => exact clean_crossInject sound

/-- A key that is held can be released until the watchdog takes it. -/
theorem Sound.releasable (sound : Sound sha256 buckets elapsed model)
    (held : model.held = true) :
    model.gate.authorize (Model.keyEvent model.currentTuple false)
        { value := model.surfaceGeneration } model.now = .ok () ∨
      model.deadline = .expired := by
  obtain ⟨active, isActive⟩ := Option.isSome_iff_exists.mp (sound.paired.pressed held)
  obtain ⟨tuple, classes⟩ := sound.paired.shape active isActive
  have current : model.currentTuple = active.binding := by
    unfold Model.currentTuple
    rw [isActive]
  by_cases late : active.watchdogDeadline ≤ model.now
  · exact Or.inr ((deadline_of_active isActive).mpr late)
  · left
    have same : (Model.keyEvent model.currentTuple false).binding = active.binding := current
    have surface : active.binding.surfaceGeneration =
        { value := model.surfaceGeneration } := by
      rw [tuple]
      rfl
    unfold InputGate.authorize
    rw [isActive]
    dsimp only
    rw [same, if_neg (not_not.mpr rfl), surface, if_neg (not_not.mpr rfl), if_neg late, classes]
    have keyed : INPUT_CLASS_KEYBOARD &&& INPUT_CLASS_KEYBOARD ≠ 0 := by decide
    exact if_neg keyed

/-- A sound state breaks none of the model's invariants. -/
theorem Sound.checked (sound : Sound sha256 buckets elapsed model) :
    model.checkInvariants.1 = [] := by
  have present := level_present sound.paired.level
  have live : (model.laneLive && decide (model.lease.state ≠ .active)) = false := by
    cases live : model.laneLive with
    | false => rfl
    | true =>
        obtain ⟨lane, isLane, -⟩ := laneLive_eq_true live
        simp [sound.lane (Option.isSome_of_eq_some isLane)]
  have laneUp : (model.gate.active.isSome && ! model.laneLive) = false := by
    cases granted : model.gate.active.isSome with
    | false => rfl
    | true => simp [sound.granted granted]
  have leased : (model.gate.active.isSome && decide (model.lease.state ≠ .active)) = false := by
    cases granted : model.gate.active.isSome with
    | false => rfl
    | true => simp [sound.granted_active granted]
  have releasable : (model.held &&
      ! (model.gate.authorize (Model.keyEvent model.currentTuple false)
        { value := model.surfaceGeneration } model.now).isOk &&
      decide (model.deadline ≠ .expired)) = false := by
    cases held : model.held with
    | false => rfl
    | true =>
        rcases sound.releasable held with passed | expired
        · rw [passed]
          rfl
        · simp [expired]
  have charging : model.charged ≠ LeaseState.terminal model.lease.state := by
    have charged := sound.lease.charged_iff
    have ends : LeaseState.terminal model.lease.state = true ↔ model.lease.Ended := terminal_iff
    rw [← ends] at charged
    cases known : model.charged with
    | false => simpa [known] using charged
    | true => simpa [known] using charged
  have window : (decide (model.flow.maximumBodyBytes < model.flow.sentBodyBytes) ||
      decide (model.flow.maximumMediaRecords < model.flow.sentMediaRecords)) = false := by
    have bodyBytes := sound.flow.bodyBytes
    have records := sound.flow.records
    simp only [UInt64.lt_iff_toNat_lt, Bool.or_eq_false_iff, decide_eq_false_iff_not]
    omega
  have counted : (model.lane.any fun lane => lane.live && decide (lane.generation = 0)) =
      false := by
    cases isLane : model.lane with
    | none => rfl
    | some lane => simp [sound.lanes lane isLane]
  have shown : model.grant.active.isSome = model.gate.active.isSome := present
  unfold Model.checkInvariants
  dsimp only
  rw [live, laneUp, leased, releasable, window, counted, decide_eq_false charging,
    decide_eq_false (not_not.mpr shown)]
  rfl

/-- What one transition of a sound model reports and leads to. -/
theorem Sound.step (sound : Sound sha256 buckets elapsed model) (fit : buckets.Fit)
    (early : elapsed + MAX_WATCHDOG_US.toNat < 2 ^ 64) (tried : Attempted) :
    (modelStep sha256 buckets model tried).1 = [] ∧
      Sound sha256 buckets (elapsed + tried.kind.passes)
        (modelStep sha256 buckets model tried).2 := by
  have clean : Clean sha256 buckets (elapsed + tried.kind.passes)
      (model.fire sha256 buckets tried.seen tried.kind) := by
    unfold Model.fire
    refine clean_unless fun fires => ?_
    rw [Bool.not_eq_true, Bool.not_eq_false'] at fires
    exact clean_attempt sound fit early tried.kind fires
  have silent := clean.silent
  unfold modelStep
  dsimp only
  cases leads : (model.fire sha256 buckets tried.seen tried.kind).next with
  | none => exact ⟨silent, sound.mono (Nat.le_add_right _ _)⟩
  | some next =>
      have after := clean.sound next leads
      dsimp only
      rw [silent, after.checked]
      exact ⟨rfl, after⟩

theorem elapsedBy_snoc (tried : List Attempted) (last : Attempted) :
    elapsedBy (tried ++ [last]) = elapsedBy tried + last.kind.passes := by
  unfold elapsedBy
  simp

/-- Every state a run reaches is sound. -/
theorem sound_reachable (fit : buckets.Fit) (tried : List Attempted)
    (early : elapsedBy tried + MAX_WATCHDOG_US.toNat < 2 ^ 64) :
    Sound sha256 buckets (elapsedBy tried)
      ((modelRuns sha256 buckets).final (.new false) tried) := by
  induction tried using List.reverseRecOn with
  | nil => exact sound_new sha256 buckets
  | append_singleton tried last ih =>
      rw [elapsedBy_snoc] at early ⊢
      rw [Machine.final_snoc]
      exact ((ih (by omega)).step fit (by omega) last).2

/-- `Sha256::digest(HELLO_BODY)`. -/
def helloDigest : Bytes 32 :=
  #v[168, 213, 69, 99, 81, 133, 197, 90, 193, 61, 164, 242, 127, 57, 180, 91, 100, 234, 155,
    194, 6, 43, 38, 18, 154, 158, 100, 188, 245, 117, 172, 102]

/-- No interleaving of the composed machine's transitions reports a violation,
for buckets of any size, as long as its clock does not run out. -/
theorem composed_authority_safe (sha256 : Sha256) (buckets : Buckets) (fit : buckets.Fit)
    (tried : List Attempted) (early : elapsedBy tried + MAX_WATCHDOG_US.toNat < 2 ^ 64) :
    ∀ event ∈ (modelRuns sha256 buckets).history (.new false) tried, event.output = [] := by
  induction tried using List.reverseRecOn with
  | nil =>
      intro event impossible
      cases impossible
  | append_singleton tried last ih =>
      rw [elapsedBy_snoc] at early
      intro event inside
      rw [Machine.history_snoc] at inside
      rcases List.mem_append.mp inside with before | here
      · exact ih (by omega) event before
      · rw [List.mem_singleton.mp here]
        exact ((sound_reachable fit tried (by omega)).step fit (by omega) last).1

/-- A session from its activation to a key that is held on a lane. -/
def pressing : List Attempted :=
  [.activate, .welcomeCommitted, .postHelloAdmitted, .laneOpen, .bindEnable, .timePass,
    .eventPress].map fun kind => { kind := kind, seen := ∅ }

theorem composed_authority_safe_pressing :
    (∀ event ∈ (modelRuns (fun _ => helloDigest) .explored).history (.new false) pressing,
      event.output = []) ∧
      ((modelRuns (fun _ => helloDigest) .explored).final (.new false) pressing).held = true :=
  ⟨composed_authority_safe _ .explored ⟨by decide, by decide⟩ pressing (by decide), by
    decide +kernel⟩

end VividProtocol.Composed

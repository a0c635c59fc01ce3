import Mathlib.Tactic
import VividProtocol.Grant.Effect

/-!
# The reported grant generation

The presenter keeps a copy of the gate's grant generation for the time after a
grant ends.  Every branch refreshes the copy except the one that disables a
binding, so the copy is right in a run exactly when no disabling binding took
effect in it.
-/

set_option autoImplicit false

namespace VividProtocol.Grant

open VividProtocol.Input
open VividProtocol.Library.Result
open VividProtocol.Library.Transition

/-- The presenter reports the generation its gate holds, also in key 1 of
`INPUT_BOUND`. -/
def ReportsHeld (grant : InputGrant) : Prop :=
  grant.grantGeneration = grant.gate.grantGeneration.value ∧
    ∀ producerEpoch, (grant.boundPayload producerEpoch).lookup 1 =
      some (.unsigned grant.gate.grantGeneration.value)

/-- An enable, a denial, a disable or a revocation. -/
def Changes (event : GrantEvent) : Prop :=
  (∃ outcome, event.output = .applied (.ok outcome) ∧ outcome ≠ .exactRetry) ∨
    ∃ payload, event.output = .revoked (some payload)

def ReportsGeneration (event : GrantEvent) : Prop :=
  ReportsHeld event.after ∧
    (Changes event → event.before.grantGeneration < event.after.grantGeneration)

/-- A valid disabling binding of a new epoch, on a gate whose generations are
not exhausted. -/
def EffectiveDisable (event : GrantEvent) : Prop :=
  ∃ binding eligibility now generation release,
    event.input = .apply binding eligibility now ∧ binding.disabled = true ∧
      Accepted event.before.gate binding generation release

def Synced (grant : InputGrant) : Prop :=
  grant.generation = grant.gate.grantGeneration.value

variable {grant : InputGrant} {event : GrantEvent}

theorem Coherent.reports (coherent : Coherent grant) (synced : Synced grant) :
    ReportsHeld grant := by
  have reported : grant.grantGeneration = grant.gate.grantGeneration.value := by
    unfold InputGrant.grantGeneration
    cases held : grant.gate.active with
    | none => exact synced
    | some active => exact congrArg Counter.value (coherent.held active held).current
  refine ⟨reported, ?_⟩
  intro producerEpoch
  rw [← reported]
  rfl

/-- The gate accepts an effective disabling binding. -/
theorem applyBinding_disabled {gate : InputGate} {binding : InputBinding}
    {generation : GrantGeneration} {release : UInt64} (classes watchdogUs : UInt64)
    (now : Monotonic) (asked : binding.disabled = true)
    (accepted : Accepted gate binding generation release) :
    gate.applyBinding binding classes watchdogUs now =
      (.ok .disabled,
        { latestBinding := some binding
          grantGeneration := generation
          active := none
          releaseGeneration := release }) := by
  apply applyBinding_accepted accepted
  unfold InputGate.decision
  rw [if_pos asked]

/-- A disable that takes effect moves the gate and leaves the presenter's copy. -/
theorem disable_moves_gate {binding : InputBinding} {generation : GrantGeneration}
    {release : UInt64} (eligibility : Eligibility) (now : Monotonic)
    (asked : binding.disabled = true)
    (accepted : Accepted grant.gate binding generation release) :
    (grantStep grant (.apply binding eligibility now)).2.gate.grantGeneration = generation ∧
      (grantStep grant (.apply binding eligibility now)).2.grantGeneration =
        grant.generation := by
  have bound := applyBinding_disabled 0 0 now asked accepted
  simp [grantStep, InputGrant.apply, InputGrant.applyDisabled, asked, bound,
    InputGrant.grantGeneration]

theorem changes_advance
    (effect : GrantEffect event.before event.input event.output event.after)
    (changes : Changes event) :
    event.after.gate.grantGeneration.toNat =
      event.before.gate.grantGeneration.toNat + 1 := by
  obtain ⟨before, operation, answer, after⟩ := event
  unfold Changes at changes
  dsimp only at effect changes
  cases effect with
  | refused error => simp at changes
  | retried asked same => simp at changes
  | disabledRetried asked same => simp at changes
  | disabled asked accepted => exact accepted.next
  | denied asked accepted reason => exact accepted.next
  | enabled asked accepted eligible => exact accepted.next
  | revocationRefused reason => simp at changes
  | revoked reason held next => exact next
  | renewalRefused now kept => simp at changes
  | renewed held next due early => simp at changes

/-- Every branch but the disabling one keeps the copy in step. -/
theorem synced_step
    (effect : GrantEffect event.before event.input event.output event.after)
    (kept : ¬ EffectiveDisable event) (synced : Synced event.before) :
    Synced event.after := by
  obtain ⟨before, operation, answer, after⟩ := event
  dsimp only at effect synced
  cases effect with
  | refused error => exact synced
  | retried asked same => exact synced
  | disabledRetried asked same => exact synced
  | disabled asked accepted => exact absurd ⟨_, _, _, _, _, rfl, asked, accepted⟩ kept
  | denied asked accepted reason => exact rfl
  | enabled asked accepted eligible => exact rfl
  | revocationRefused reason => exact synced
  | revoked reason held next => exact rfl
  | renewalRefused now still => exact synced
  | renewed held next due early => exact synced

theorem reports_step
    (effect : GrantEffect event.before event.input event.output event.after)
    (coherent : Coherent event.before) (kept : ¬ EffectiveDisable event)
    (synced : Synced event.before) : ReportsGeneration event := by
  have after := (effect.preserves_coherent coherent).reports (synced_step effect kept synced)
  refine ⟨after, ?_⟩
  intro changes
  have advanced := changes_advance effect changes
  rw [after.1, (coherent.reports synced).1, UInt64.lt_iff_toNat_lt]
  unfold Counter.toNat at advanced
  omega

/-- While no disabling binding takes effect, the copy is the gate's generation. -/
theorem synced_reachable (operations : List GrantOperation)
    (kept : ∀ event ∈ grantRuns.history .new operations, ¬ EffectiveDisable event) :
    Synced (grantRuns.final .new operations) := by
  induction operations using List.reverseRecOn with
  | nil => rfl
  | append_singleton operations operation ih =>
      rw [grantRuns.history_snoc] at kept
      have before := ih fun event inside => kept event (List.mem_append_left _ inside)
      rw [grantRuns.final_snoc]
      exact @synced_step (grantRuns.event _ operation) (grantStep_effect _ operation)
        (kept _ (by simp)) before

/-- In a run of the presenter every answer reports the gate's generation, and
every change raises it, exactly when no disabling binding takes effect. -/
theorem reports_generation_iff (operations : List GrantOperation) :
    (∀ event ∈ grantRuns.history .new operations, ReportsGeneration event) ↔
      ∀ event ∈ grantRuns.history .new operations, ¬ EffectiveDisable event := by
  constructor
  · intro reports event inside disables
    have reported := (reports event inside).1.1
    obtain ⟨past, future, split⟩ := List.append_of_mem inside
    obtain ⟨first, operation, -, -, -, rfl, -⟩ := grantRuns.history_event split
    obtain ⟨binding, eligibility, now, generation, release, asked, isDisabled, accepted⟩ :=
      disables
    have isApply : operation = .apply binding eligibility now := asked
    subst isApply
    obtain ⟨moved, stale⟩ := disable_moves_gate eligibility now isDisabled accepted
    have bounded := (coherent_reachable first).bounded
    have next : generation.toNat = _ := accepted.next
    have same : (grantRuns.final .new first).generation = generation.value :=
      stale.symm.trans (reported.trans (congrArg Counter.value moved))
    rw [same] at bounded
    rw [grantRuns.event_before] at next
    unfold Counter.toNat at bounded next
    omega
  · intro kept event inside
    obtain ⟨past, future, split⟩ := List.append_of_mem inside
    obtain ⟨first, operation, second, -, pastEq, rfl, -⟩ := grantRuns.history_event split
    apply reports_step (grantStep_effect _ operation) (coherent_reachable first)
      (kept _ inside)
    apply synced_reachable
    intro earlier earlierInside
    apply kept
    rw [split, pastEq]
    exact List.mem_append_left _ earlierInside

def enablingBinding : InputBinding :=
  { producerEpoch := .one
    contextId := 1
    surfaceId := 2
    surfaceGeneration := .one
    requestedClasses := INPUT_CLASS_KEYBOARD
    reason := 6
    requestedWatchdogUs := 2000000 }

def disablingBinding : InputBinding :=
  { producerEpoch := { value := 2 }
    contextId := 0
    surfaceId := 0
    surfaceGeneration := .zero
    requestedClasses := 0
    reason := 5
    requestedWatchdogUs := 0 }

def fullEligibility : Eligibility :=
  { focused := true
    consented := true
    surfacePresent := true
    surfaceGeneration := .one
    capabilityMask := INPUT_CLASS_KEYBOARD
    presented := true
    laneLive := true
    mayReceiveInput := true }

def enableThenDisable : List GrantOperation :=
  [.apply enablingBinding fullEligibility { micros := 1000000 },
    .apply disablingBinding fullEligibility { micros := 1000000 }]

/-- Disabling right after enabling: the gate holds generation 2 and the presenter
still reports 1. -/
theorem disable_reports_stale_generation :
    (grantRuns.final .new enableThenDisable).grantGeneration = 1 ∧
      (grantRuns.final .new enableThenDisable).gate.grantGeneration.value = 2 ∧
      ¬ ∀ event ∈ grantRuns.history .new enableThenDisable, ReportsGeneration event := by
  have reported : (grantRuns.final .new enableThenDisable).grantGeneration = 1 := by decide
  have held : (grantRuns.final .new enableThenDisable).gate.grantGeneration.value = 2 := by
    decide
  refine ⟨reported, held, ?_⟩
  intro reports
  have last := (reports _ (List.mem_cons_of_mem _ List.mem_cons_self)).1.1
  have same : (grantRuns.final .new enableThenDisable).grantGeneration =
      (grantRuns.final .new enableThenDisable).gate.grantGeneration.value := last
  rw [reported, held] at same
  exact absurd same (by decide)

end VividProtocol.Grant

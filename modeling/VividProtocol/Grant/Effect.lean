import Mathlib.Tactic
import VividProtocol.Grant.Presenter

/-!
# What one presenter operation can do

`GrantEffect` lists the ends of `apply`, `revoke` and `due_renewal`, derived
from the effects of the gate underneath.  `Coherent` is the invariant that keeps
the presenter's copies in step with the gate.
-/

set_option autoImplicit false

namespace VividProtocol.Grant

open VividProtocol.Input
open VividProtocol.Library.Result
open VividProtocol.Library.Transition

/-- A new binding reached the gate, which moved to a new generation. -/
structure Accepted (gate : InputGate) (binding : InputBinding)
    (generation : GrantGeneration) (release : UInt64) : Prop where
  valid : binding.validate binding.surfaceId = .ok ()
  newer : gate.Newer binding
  next : generation.toNat = gate.grantGeneration.toNat + 1
  released : gate.Released release

/-- The gate takes an accepted binding as decided. -/
theorem applyBinding_accepted {gate : InputGate} {binding : InputBinding}
    {generation : GrantGeneration} {release classes watchdogUs : UInt64} {now : Monotonic}
    {outcome : BindingOutcome} {active : Option ActiveGrant}
    (accepted : Accepted gate binding generation release)
    (decided : InputGate.decision binding (InputGate.tuple binding generation)
      (classes &&& binding.requestedClasses) watchdogUs now = .ok (outcome, active)) :
    gate.applyBinding binding classes watchdogUs now =
      (.ok outcome,
        { latestBinding := some binding
          grantGeneration := generation
          active := active
          releaseGeneration := release }) := by
  have next := nextGrantGeneration_eq_ok.mpr accepted.next
  have released := nextReleaseGeneration_eq_ok.mpr accepted.released
  have rebound : gate.rebind binding classes watchdogUs now =
      .ok (outcome,
        { latestBinding := some binding
          grantGeneration := generation
          active := active
          releaseGeneration := release }) := by
    unfold InputGate.rebind
    rw [next, released, ok_bind, ok_bind, decided]
    rfl
  unfold InputGate.applyBinding
  rw [accepted.valid, ok_bind]
  cases latest : gate.latestBinding with
  | none =>
      dsimp only
      rw [rebound]
      rfl
  | some previous =>
      have newer := Counter.lt_iff_toNat.mp (accepted.newer previous latest)
      have notBackward : ¬ binding.producerEpoch < previous.producerEpoch := by
        rw [Counter.lt_iff_toNat]
        omega
      have notLevel : ¬ binding.producerEpoch = previous.producerEpoch := by
        rw [← Counter.toNat_inj]
        omega
      dsimp only
      rw [if_neg notBackward, if_neg notLevel, rebound]
      rfl

inductive GrantEffect (grant : InputGrant) :
    GrantOperation → GrantAnswer → InputGrant → Prop where
  | refused {binding : InputBinding} {eligibility : Eligibility} {now : Monotonic}
      (error : MessageError) :
      GrantEffect grant (.apply binding eligibility now) (.applied (.error error)) grant
  | retried {binding : InputBinding} {eligibility : Eligibility} {now : Monotonic}
      (asked : binding.disabled = false)
      (same : grant.gate.latestBinding = some binding) :
      GrantEffect grant (.apply binding eligibility now) (.applied (.ok .exactRetry)) grant
  | disabledRetried {binding : InputBinding} {eligibility : Eligibility} {now : Monotonic}
      (asked : binding.disabled = true)
      (same : grant.gate.latestBinding = some binding) :
      GrantEffect grant (.apply binding eligibility now) (.applied (.ok .exactRetry))
        { grant with
          watchdogUs := 0
          renewalSequence := 0
          lastState := STATE_DISABLED
          lastReason := binding.reason }
  | disabled {binding : InputBinding} {eligibility : Eligibility} {now : Monotonic}
      {generation : GrantGeneration} {release : UInt64}
      (asked : binding.disabled = true)
      (accepted : Accepted grant.gate binding generation release) :
      GrantEffect grant (.apply binding eligibility now) (.applied (.ok .disabled))
        { grant with
          gate :=
            { latestBinding := some binding
              grantGeneration := generation
              active := none
              releaseGeneration := release }
          watchdogUs := 0
          renewalSequence := 0
          lastState := STATE_DISABLED
          lastReason := binding.reason }
  | denied {binding : InputBinding} {eligibility : Eligibility} {now : Monotonic}
      {generation : GrantGeneration} {release : UInt64} (asked : binding.disabled = false)
      (accepted : Accepted grant.gate binding generation release) (reason : UInt64) :
      GrantEffect grant (.apply binding eligibility now) (.applied (.ok (.denied reason)))
        { grant with
          gate :=
            { latestBinding := some binding
              grantGeneration := generation
              active := none
              releaseGeneration := release }
          generation := generation.value
          watchdogUs := 0
          lastState := STATE_DENIED
          lastReason := reason }
  | enabled {binding : InputBinding} {eligibility : Eligibility} {now deadline : Monotonic}
      {generation : GrantGeneration} {release watchdogUs : UInt64}
      (asked : binding.disabled = false)
      (accepted : Accepted grant.gate binding generation release)
      (eligible : eligibility.refusal binding = none) :
      GrantEffect grant (.apply binding eligibility now) (.applied (.ok .enabled))
        { gate :=
            { latestBinding := some binding
              grantGeneration := generation
              active := some
                { binding := InputGate.tuple binding generation
                  effectiveClasses := binding.requestedClasses &&& eligibility.capabilityMask
                  watchdogTimeoutUs := watchdogUs
                  watchdogDeadline := deadline
                  renewalSequence := 0 }
              releaseGeneration := release }
          generation := generation.value
          watchdogUs := watchdogUs
          renewalSequence := 0
          lastState := STATE_ENABLED
          lastReason := binding.reason }
  | revocationRefused (reason : UInt64) :
      GrantEffect grant (.revoke reason) (.revoked none) grant
  | revoked {active : ActiveGrant} {generation : GrantGeneration} {release : UInt64}
      (reason : UInt64) (held : grant.gate.active = some active)
      (next : generation.toNat = grant.gate.grantGeneration.toNat + 1) :
      GrantEffect grant (.revoke reason)
        (.revoked (some (InputGrant.identity active.binding generation.value ++
          [(5, .unsigned reason)])))
        { gate :=
            { grant.gate with
              grantGeneration := generation
              releaseGeneration := release
              active := none }
          generation := generation.value
          watchdogUs := 0
          renewalSequence := 0
          lastState := STATE_DISABLED
          lastReason := reason }
  | renewalRefused (now : Monotonic) {sequence : UInt64}
      (kept : grant.renewalSequence ≤ sequence) :
      GrantEffect grant (.dueRenewal now) (.renewed none)
        { grant with renewalSequence := sequence }
  | renewed {now deadline : Monotonic} {sequence : UInt64} {active : ActiveGrant}
      (held : grant.gate.active = some active)
      (next : sequence.toNat = grant.renewalSequence.toNat + 1)
      (due : active.watchdogDeadline.toNat ≤ now.toNat + (grant.watchdogUs / 2).toNat)
      (early : now < active.watchdogDeadline) :
      GrantEffect grant (.dueRenewal now)
        (.renewed (some { sequence := sequence, watchdogUs := grant.watchdogUs }))
        { grant with
          gate :=
            { grant.gate with
              active := some
                { active with renewalSequence := sequence, watchdogDeadline := deadline } }
          renewalSequence := sequence }

variable (grant : InputGrant)

theorem narrowed_of_refused {binding : InputBinding} {eligibility : Eligibility}
    {reason : UInt64} (refused : eligibility.refusal binding = some reason) :
    InputGrant.narrowed binding eligibility = 0 := by
  unfold InputGrant.narrowed
  rw [refused]

/-- What the gate makes of the classes handed to it. -/
theorem narrowed_and_requested {binding : InputBinding} {eligibility : Eligibility}
    (valid : binding.validate binding.surfaceId = .ok ()) (asked : binding.disabled = false)
    (eligible : eligibility.refusal binding = none) :
    InputGrant.narrowed binding eligibility &&& binding.requestedClasses =
      binding.requestedClasses &&& eligibility.capabilityMask := by
  have known := InputBinding.known_of_validate valid asked
  unfold InputGrant.narrowed
  rw [eligible]
  dsimp only
  calc binding.requestedClasses &&& eligibility.capabilityMask &&&
          INPUT_CLASS_KNOWN_MASK &&& binding.requestedClasses
      = eligibility.capabilityMask &&& binding.requestedClasses &&&
          (binding.requestedClasses &&& INPUT_CLASS_KNOWN_MASK) := by
        ac_rfl
    _ = binding.requestedClasses &&& eligibility.capabilityMask := by
        rw [known, UInt64.and_assoc, UInt64.and_self, UInt64.and_comm]

theorem applyDisabled_effect {binding : InputBinding} (asked : binding.disabled = true)
    (eligibility : Eligibility) (now : Monotonic) :
    GrantEffect grant (.apply binding eligibility now)
      (.applied (grant.applyDisabled binding now).1) (grant.applyDisabled binding now).2 := by
  have effect := applyBinding_effect grant.gate binding 0 0 now
  unfold InputGrant.applyDisabled
  cases run : grant.gate.applyBinding binding 0 0 now with
  | mk result gate =>
      rw [run] at effect
      dsimp only at effect
      cases effect with
      | bindingRefused error => exact .refused error
      | retried valid same => exact .disabledRetried asked same
      | rebound valid newer next released decided =>
          cases decided with
          | disabled isAsked => exact .disabled asked ⟨valid, newer, next, released⟩
          | denied kept empty =>
              rw [asked] at kept
              cases kept
          | enabled kept granted range timed =>
              rw [asked] at kept
              cases kept

theorem apply_effect (binding : InputBinding) (eligibility : Eligibility) (now : Monotonic) :
    GrantEffect grant (.apply binding eligibility now)
      (.applied (grant.apply binding eligibility now).1)
      (grant.apply binding eligibility now).2 := by
  unfold InputGrant.apply
  by_cases asked : binding.disabled = true
  · rw [if_pos asked]
    exact applyDisabled_effect grant asked eligibility now
  rw [if_neg asked]
  have kept := Bool.eq_false_iff.mpr asked
  have effect := applyBinding_effect grant.gate binding
    (InputGrant.narrowed binding eligibility)
    (clamp binding.requestedWatchdogUs MIN_WATCHDOG_US MAX_WATCHDOG_US) now
  dsimp only
  cases run : grant.gate.applyBinding binding (InputGrant.narrowed binding eligibility)
      (clamp binding.requestedWatchdogUs MIN_WATCHDOG_US MAX_WATCHDOG_US) now with
  | mk result gate =>
      rw [run] at effect
      dsimp only at effect
      cases effect with
      | bindingRefused error => exact .refused error
      | retried valid same => exact .retried kept same
      | rebound valid newer next released decided =>
          cases decided with
          | disabled isAsked => exact absurd isAsked asked
          | denied isKept empty => exact .denied kept ⟨valid, newer, next, released⟩ _
          | enabled isKept granted range timed =>
              -- A refusal hands the gate no classes, so an enable had none.
              have eligible : eligibility.refusal binding = none := by
                cases refused : eligibility.refusal binding with
                | none => rfl
                | some reason =>
                    rw [narrowed_of_refused refused, UInt64.zero_and] at granted
                    exact absurd rfl granted
              rw [narrowed_and_requested valid kept eligible]
              exact .enabled kept ⟨valid, newer, next, released⟩ eligible

theorem revoke_grant_effect (reason : UInt64) :
    GrantEffect grant (.revoke reason) (.revoked (grant.revoke reason).1)
      (grant.revoke reason).2 := by
  unfold InputGrant.revoke
  cases held : grant.gate.active with
  | none => exact .revocationRefused reason
  | some active =>
      have effect := revoke_effect grant.gate
      dsimp only
      cases run : grant.gate.revoke with
      | mk result gate =>
          rw [run] at effect
          dsimp only at effect
          cases effect with
          | revocationRefused error => exact .revocationRefused reason
          | revoked next released => exact .revoked reason held next

theorem dueRenewal_effect (now : Monotonic) :
    GrantEffect grant (.dueRenewal now) (.renewed (grant.dueRenewal now).1)
      (grant.dueRenewal now).2 := by
  unfold InputGrant.dueRenewal
  cases held : grant.gate.active with
  | none => exact .renewalRefused now (UInt64.le_refl _)
  | some active =>
      dsimp only
      cases half : active.watchdogDeadline.checkedSubMicros (grant.watchdogUs / 2) with
      | none => exact .renewalRefused now (UInt64.le_refl _)
      | some elapsedDeadline =>
          dsimp only
          by_cases waiting : now < elapsedDeadline
          · rw [if_pos waiting]
            exact .renewalRefused now (UInt64.le_refl _)
          rw [if_neg waiting]
          cases sum : checkedAdd grant.renewalSequence 1 with
          | none => exact .renewalRefused now (UInt64.le_refl _)
          | some sequence =>
              have next : sequence.toNat = grant.renewalSequence.toNat + 1 :=
                checkedAdd_eq_some.mp sum
              have later : grant.renewalSequence ≤ sequence := by
                rw [UInt64.le_iff_toNat_le]
                omega
              have effect := renew_effect grant.gate active.binding sequence
                grant.watchdogUs now
              dsimp only
              cases run : grant.gate.renew active.binding sequence grant.watchdogUs now with
              | mk result gate =>
                  rw [run] at effect
                  dsimp only at effect
                  cases effect with
                  | renewalRefused error => exact .renewalRefused now later
                  | renewed isHeld same above early timed =>
                      rw [held] at isHeld
                      cases isHeld
                      rw [Monotonic.lt_iff_toNat] at waiting
                      have exact := Monotonic.checkedSubMicros_eq_some.mp half
                      exact .renewed held next (by omega) early

theorem grantStep_effect (operation : GrantOperation) :
    GrantEffect grant operation (grantStep grant operation).1
      (grantStep grant operation).2 := by
  cases operation with
  | apply binding eligibility now => exact apply_effect grant binding eligibility now
  | revoke reason => exact revoke_grant_effect grant reason
  | dueRenewal now => exact dueRenewal_effect grant now

/-! ## Coherence -/

/-- Every precondition holds when no reason to refuse was found. -/
structure Eligible (eligibility : Eligibility) (binding : InputBinding) : Prop where
  laneLive : eligibility.laneLive = true
  mayReceiveInput : eligibility.mayReceiveInput = true
  surfacePresent : eligibility.surfacePresent = true
  surfaceGeneration : binding.surfaceGeneration = eligibility.surfaceGeneration
  presented : eligibility.presented = true
  focused : eligibility.focused = true
  consented : eligibility.consented = true
  capable : binding.requestedClasses &&& eligibility.capabilityMask ≠ 0

theorem ite_some_eq_none {α : Type} {refused : Prop} [Decidable refused] {reason : α}
    {rest : Option α} :
    (if refused then some reason else rest) = none ↔ ¬ refused ∧ rest = none := by
  by_cases refused : refused <;> simp [refused]

theorem eligible_of_refusal {eligibility : Eligibility} {binding : InputBinding}
    (eligible : eligibility.refusal binding = none) : Eligible eligibility binding := by
  unfold Eligibility.refusal at eligible
  simp only [ite_some_eq_none, Bool.not_eq_true', Bool.not_eq_false, not_not] at eligible
  obtain ⟨lane, receives, surface, generation, presented, focused, consented, capable, -⟩ :=
    eligible
  exact ⟨lane, receives, surface, generation, presented, focused, consented, capable⟩

/-- The presenter's copies agree with an active grant. -/
structure Holds (grant : InputGrant) (active : ActiveGrant) : Prop where
  current : active.binding.grantGeneration = grant.gate.grantGeneration
  generation : grant.generation = grant.gate.grantGeneration.value
  enabled : grant.lastState = STATE_ENABLED
  watchdog : grant.watchdogUs = active.watchdogTimeoutUs
  classes : active.effectiveClasses ≠ 0
  latest : ∃ binding, grant.gate.latestBinding = some binding ∧ binding.disabled = false ∧
    active.binding.producerEpoch = binding.producerEpoch

structure Coherent (grant : InputGrant) : Prop where
  bounded : grant.generation.toNat ≤ grant.gate.grantGeneration.toNat
  held : ∀ active, grant.gate.active = some active → Holds grant active
  idle : grant.gate.active = none → grant.lastState ≠ STATE_ENABLED

theorem coherent_new : Coherent .new where
  bounded := le_refl _
  held := by
    intro active held
    cases held
  idle := by
    intro _ enabled
    cases enabled

variable {grant} {operation : GrantOperation} {answer : GrantAnswer} {after : InputGrant}

theorem GrantEffect.preserves_coherent (effect : GrantEffect grant operation answer after)
    (coherent : Coherent grant) : Coherent after := by
  have bounded := coherent.bounded
  cases effect with
  | refused error => exact coherent
  | retried asked same => exact coherent
  | disabledRetried asked same =>
      refine ⟨bounded, ?_, ?_⟩
      · intro active held
        obtain ⟨binding, latest, kept, -⟩ := (coherent.held active held).latest
        rw [same] at latest
        cases latest
        rw [asked] at kept
        cases kept
      · intro _ enabled
        cases enabled
  | disabled asked accepted =>
      have next := accepted.next
      refine ⟨?_, ?_, ?_⟩
      · dsimp only
        omega
      · intro active held
        cases held
      · intro _ enabled
        cases enabled
  | denied asked accepted reason =>
      refine ⟨le_refl _, ?_, ?_⟩
      · intro active held
        cases held
      · intro _ enabled
        cases enabled
  | enabled asked accepted eligible =>
      refine ⟨le_refl _, ?_, ?_⟩
      · intro active held
        cases held
        exact ⟨rfl, rfl, rfl, rfl, (eligible_of_refusal eligible).capable, _, rfl, asked, rfl⟩
      · intro none
        cases none
  | revocationRefused reason => exact coherent
  | revoked reason held next =>
      refine ⟨le_refl _, ?_, ?_⟩
      · intro active held
        cases held
      · intro _ enabled
        cases enabled
  | renewalRefused now kept =>
      refine ⟨bounded, ?_, coherent.idle⟩
      intro active held
      obtain ⟨current, generation, enabled, watchdog, classes, latest⟩ :=
        coherent.held active held
      exact ⟨current, generation, enabled, watchdog, classes, latest⟩
  | renewed held next due early =>
      refine ⟨bounded, ?_, ?_⟩
      · intro active isActive
        cases isActive
        obtain ⟨current, generation, enabled, watchdog, classes, latest⟩ :=
          coherent.held _ held
        exact ⟨current, generation, enabled, watchdog, classes, latest⟩
      · intro none
        cases none

theorem coherent_reachable (operations : List GrantOperation) :
    Coherent (grantRuns.final .new operations) := by
  apply grantRuns.invariant_final coherent_new
  intro grant operation coherent
  exact (grantStep_effect grant operation).preserves_coherent coherent

end VividProtocol.Grant

import Mathlib.Tactic
import VividProtocol.Grant.Effect
import VividProtocol.Library.Result

/-!
# Control messages of a grant

What a presenter's operation tells the producer and what the producer's gate
makes of it.  Both gates are compared without their clocks: deadlines and
renewal sequences are the only fields in which the two may differ.
-/

set_option autoImplicit false

namespace VividProtocol.Grant

open VividProtocol.Input
open VividProtocol.Library.Result

/-! ## Gates without their clocks -/

def untimedGrant (active : ActiveGrant) : ActiveGrant :=
  { active with
    watchdogDeadline := { micros := 0 }
    renewalSequence := 0 }

def untimed (gate : InputGate) : InputGate :=
  { gate with active := gate.active.map untimedGrant }

/-- The grant of a new binding, without its clock. -/
def settled (binding : InputBinding) (tuple : InputTuple)
    (effectiveClasses watchdogUs : UInt64) : Option ActiveGrant :=
  if binding.disabled then none
  else if effectiveClasses = 0 ∨
      ¬ (MIN_WATCHDOG_US ≤ watchdogUs ∧ watchdogUs ≤ MAX_WATCHDOG_US) then none
  else
    some
      { binding := tuple
        effectiveClasses := effectiveClasses
        watchdogTimeoutUs := watchdogUs
        watchdogDeadline := { micros := 0 }
        renewalSequence := 0 }

/-! ## Messages -/

/-- A control message of the presenter, in the order it was sent. -/
inductive ControlMessage where
  | bound (binding : InputBinding) (effectiveClasses watchdogUs : UInt64)
  | revoked (payload : PayloadMap)
  deriving Repr

/-- What the producer is told of one operation. -/
def control (after : InputGrant) : GrantOperation → GrantAnswer → Option ControlMessage
  | .apply binding _ _, .applied (.ok .enabled) =>
      some (.bound binding after.effectiveClasses after.watchdogUs)
  | .apply binding _ _, .applied (.ok (.denied _)) => some (.bound binding 0 0)
  | .apply binding _ _, .applied (.ok .disabled) => some (.bound binding 0 0)
  | .revoke _, .revoked (some payload) => some (.revoked payload)
  | _, _ => none

/-- The producer processes a control message. -/
def receive (gate : InputGate) (now : Monotonic) : ControlMessage → GateOutcome × InputGate
  | .bound binding effectiveClasses watchdogUs =>
      gateStep gate (.applyBinding binding effectiveClasses watchdogUs now)
  | .revoked _ => gateStep gate .revoke

/-- What a control message does to a gate, clocks aside. -/
inductive Conveys (gate : InputGate) : ControlMessage → InputGate → Prop where
  | bound {binding : InputBinding} {effectiveClasses watchdogUs : UInt64}
      {generation : GrantGeneration} {release : UInt64}
      (accepted : Accepted gate binding generation release) :
      Conveys gate (.bound binding effectiveClasses watchdogUs)
        { latestBinding := some binding
          grantGeneration := generation
          active :=
            settled binding (InputGate.tuple binding generation)
              (effectiveClasses &&& binding.requestedClasses) watchdogUs
          releaseGeneration := release }
  | revoked {payload : PayloadMap} {generation : GrantGeneration} {release : UInt64}
      (next : generation.toNat = gate.grantGeneration.toNat + 1)
      (released : gate.Released release)
      (named : payload.lookup 1 = some (.unsigned generation.value)) :
      Conveys gate (.revoked payload)
        { gate with
          grantGeneration := generation
          releaseGeneration := release
          active := none }

/-- A reading from which every watchdog deadline can be told. -/
def Far (now : Monotonic) : Prop := now.toNat + MAX_WATCHDOG_US.toNat < 2 ^ 64

/-! ## The producer's side -/

variable {gate : InputGate} {binding : InputBinding} {generation : GrantGeneration}
  {release : UInt64}

theorem released_untimed : (untimed gate).Released release ↔ gate.Released release := by
  unfold InputGate.Released untimed
  rw [Option.isSome_map]

theorem accepted_untimed :
    Accepted (untimed gate) binding generation release ↔
      Accepted gate binding generation release := by
  constructor
  · rintro ⟨valid, newer, next, released⟩
    exact ⟨valid, newer, next, released_untimed.mp released⟩
  · rintro ⟨valid, newer, next, released⟩
    exact ⟨valid, newer, next, released_untimed.mpr released⟩

theorem Far.deadline {now : Monotonic} {watchdogUs : UInt64} (far : Far now)
    (short : watchdogUs ≤ MAX_WATCHDOG_US) :
    ∃ deadline, now.checkedAddMicros watchdogUs = some deadline := by
  have bound := UInt64.le_iff_toNat_le.mp short
  have fits : now.micros.toNat + watchdogUs.toNat < 2 ^ 64 := by
    unfold Far Monotonic.toNat at far
    omega
  unfold Monotonic.checkedAddMicros checkedAdd
  rw [if_pos fits]
  exact ⟨_, rfl⟩

theorem decision_settled (binding : InputBinding) (tuple : InputTuple)
    (classes watchdogUs : UInt64) {now : Monotonic} (far : Far now) :
    ∃ outcome active,
      InputGate.decision binding tuple classes watchdogUs now = .ok (outcome, active) ∧
        active.map untimedGrant = settled binding tuple classes watchdogUs := by
  unfold InputGate.decision settled
  by_cases asked : binding.disabled = true
  · rw [if_pos asked, if_pos asked]
    exact ⟨_, _, rfl, rfl⟩
  rw [if_neg asked, if_neg asked]
  by_cases empty : classes = 0 ∨
      ¬ (MIN_WATCHDOG_US ≤ watchdogUs ∧ watchdogUs ≤ MAX_WATCHDOG_US)
  · rw [if_pos empty, if_pos empty]
    exact ⟨_, _, rfl, rfl⟩
  rw [if_neg empty, if_neg empty]
  rw [not_or, not_not] at empty
  obtain ⟨deadline, sum⟩ := far.deadline empty.2.2
  rw [sum]
  exact ⟨_, _, rfl, rfl⟩

/-- What the producer makes of a message is what it conveys. -/
theorem receive_conveys {message : ControlMessage} {next : InputGate} {now : Monotonic}
    (conveys : Conveys (untimed gate) message next) (far : Far now) :
    untimed (receive gate now message).2 = next ∧
      ∀ payload, message = .revoked payload → ∃ generation : GrantGeneration,
        (receive gate now message).1 = .revoked (.ok generation) ∧
          payload.lookup 1 = some (.unsigned generation.value) := by
  cases conveys with
  | @bound binding classes watchdogUs generation release accepted =>
      rw [accepted_untimed] at accepted
      obtain ⟨outcome, active, decided, same⟩ :=
        decision_settled binding (InputGate.tuple binding generation)
          (classes &&& binding.requestedClasses) watchdogUs far
      constructor
      · simp only [receive, gateStep, applyBinding_accepted accepted decided]
        unfold untimed
        rw [same]
      · intro payload impossible
        cases impossible
  | @revoked payload generation release next released named =>
      rw [released_untimed] at released
      have run : gate.revoke = (.ok generation, { gate with
          grantGeneration := generation
          releaseGeneration := release
          active := none }) := by
        unfold InputGate.revoke
        rw [(@nextGrantGeneration_eq_ok gate generation).mpr next,
          nextReleaseGeneration_eq_ok.mpr released]
        rfl
      simp only [receive, gateStep, run]
      refine ⟨rfl, ?_⟩
      intro other same
      cases same
      exact ⟨generation, rfl, named⟩

theorem renew_untimed (tuple : InputTuple) (sequence watchdogUs : UInt64)
    (receivedAt : Monotonic) :
    untimed (gateStep gate (.renew tuple sequence watchdogUs receivedAt)).2 =
      untimed gate := by
  have effect := gateStep_effect gate (.renew tuple sequence watchdogUs receivedAt)
  generalize (gateStep gate (.renew tuple sequence watchdogUs receivedAt)).1 = outcome at effect
  generalize (gateStep gate (.renew tuple sequence watchdogUs receivedAt)).2 = after at effect ⊢
  cases effect with
  | renewalRefused error => rfl
  | renewed held same later early timed =>
      unfold untimed
      rw [held]
      rfl

/-! ## The presenter's side -/

variable (grant : InputGrant)

theorem clamp_range (value : UInt64) :
    MIN_WATCHDOG_US ≤ clamp value MIN_WATCHDOG_US MAX_WATCHDOG_US ∧
      clamp value MIN_WATCHDOG_US MAX_WATCHDOG_US ≤ MAX_WATCHDOG_US := by
  unfold clamp
  by_cases below : value < MIN_WATCHDOG_US
  · rw [if_pos below]
    decide
  rw [if_neg below]
  by_cases above : MAX_WATCHDOG_US < value
  · rw [if_pos above]
    decide
  rw [if_neg above]
  exact ⟨UInt64.not_lt.mp below, UInt64.not_lt.mp above⟩

/-- The watchdog of an enable is in range, whatever was asked for. -/
theorem apply_enabled_range {binding : InputBinding} {eligibility : Eligibility}
    {now : Monotonic} (enabled : (grant.apply binding eligibility now).1 = .ok .enabled) :
    MIN_WATCHDOG_US ≤ (grant.apply binding eligibility now).2.watchdogUs ∧
      (grant.apply binding eligibility now).2.watchdogUs ≤ MAX_WATCHDOG_US := by
  unfold InputGrant.apply at enabled ⊢
  by_cases asked : binding.disabled = true
  · rw [if_pos asked] at enabled
    unfold InputGrant.applyDisabled at enabled
    generalize grant.gate.applyBinding binding 0 0 now = result at enabled
    rcases result with ⟨error | outcome, gate⟩
    · cases enabled
    · cases outcome <;> cases enabled
  rw [if_neg asked] at enabled ⊢
  dsimp only at enabled ⊢
  generalize grant.gate.applyBinding binding _ _ now = result at enabled ⊢
  rcases result with ⟨error | outcome, gate⟩
  · cases enabled
  · cases outcome with
    | enabled tuple => exact clamp_range binding.requestedWatchdogUs
    | disabled => cases enabled
    | denied tuple => cases enabled
    | exactRetry => cases enabled

/-- A message conveys the step of the gate, and no message means no step. -/
def Reported (before after : InputGate) : Option ControlMessage → Prop
  | some message => Conveys before message after
  | none => after = before

theorem settled_zero (binding : InputBinding) (tuple : InputTuple) (watchdogUs : UInt64) :
    settled binding tuple 0 watchdogUs = none := by
  unfold settled
  by_cases asked : binding.disabled = true
  · rw [if_pos asked]
  · rw [if_neg asked, if_pos (Or.inl rfl)]

theorem conveys_ended {binding : InputBinding}
    (accepted : Accepted grant.gate binding generation release) :
    Conveys (untimed grant.gate) (.bound binding 0 0)
      (untimed
        { latestBinding := some binding
          grantGeneration := generation
          active := none
          releaseGeneration := release }) := by
  have conveys := @Conveys.bound _ binding 0 0 _ _ (accepted_untimed.mpr accepted)
  rw [UInt64.zero_and, settled_zero] at conveys
  exact conveys

theorem apply_reported (binding : InputBinding) (eligibility : Eligibility)
    (now : Monotonic) :
    Reported (untimed grant.gate) (untimed (grant.apply binding eligibility now).2.gate)
      (control (grant.apply binding eligibility now).2 (.apply binding eligibility now)
        (.applied (grant.apply binding eligibility now).1)) := by
  have effect := apply_effect grant binding eligibility now
  have range := @apply_enabled_range grant binding eligibility now
  generalize (grant.apply binding eligibility now).1 = result at effect range ⊢
  generalize (grant.apply binding eligibility now).2 = after at effect range ⊢
  cases effect with
  | refused error => exact rfl
  | retried asked same => exact rfl
  | disabledRetried asked same => exact rfl
  | disabled asked accepted => exact conveys_ended grant accepted
  | denied asked accepted reason => exact conveys_ended grant accepted
  | @enabled _ _ _ deadline generation release watchdogUs asked accepted eligible =>
      have capable := (eligible_of_refusal eligible).capable
      have same : binding.requestedClasses &&& eligibility.capabilityMask &&&
          binding.requestedClasses =
          binding.requestedClasses &&& eligibility.capabilityMask := by
        rw [UInt64.and_assoc, UInt64.and_comm eligibility.capabilityMask, ← UInt64.and_assoc,
          UInt64.and_self]
      have conveys := @Conveys.bound _ binding
        (binding.requestedClasses &&& eligibility.capabilityMask) watchdogUs _ _
        (accepted_untimed.mpr accepted)
      have granted : ¬ (binding.requestedClasses &&& eligibility.capabilityMask = 0 ∨
          ¬ (MIN_WATCHDOG_US ≤ watchdogUs ∧ watchdogUs ≤ MAX_WATCHDOG_US)) := by
        rw [not_or, not_not]
        exact ⟨capable, range rfl⟩
      rw [same] at conveys
      unfold settled at conveys
      rw [if_neg (by rw [asked]; decide), if_neg granted] at conveys
      exact conveys

theorem revoke_reported (reason : UInt64) :
    Reported (untimed grant.gate) (untimed (grant.revoke reason).2.gate)
      (control (grant.revoke reason).2 (.revoke reason)
        (.revoked (grant.revoke reason).1)) := by
  unfold InputGrant.revoke
  cases held : grant.gate.active with
  | none => exact rfl
  | some active =>
      have effect := revoke_effect grant.gate
      dsimp only
      cases run : grant.gate.revoke with
      | mk result gate =>
          rw [run] at effect
          dsimp only at effect
          cases effect with
          | revocationRefused error => exact rfl
          | revoked next released =>
              exact .revoked next (released_untimed.mpr released) rfl

theorem dueRenewal_reported (now : Monotonic) :
    Reported (untimed grant.gate) (untimed (grant.dueRenewal now).2.gate) none := by
  have effect := dueRenewal_effect grant now
  generalize (grant.dueRenewal now).1 = renewal at effect
  generalize (grant.dueRenewal now).2 = after at effect ⊢
  cases effect with
  | renewalRefused now kept => exact rfl
  | renewed held next due early =>
      unfold Reported untimed
      rw [held]
      rfl

theorem grantStep_reported (operation : GrantOperation) :
    Reported (untimed grant.gate) (untimed (grantStep grant operation).2.gate)
      (control (grantStep grant operation).2 operation (grantStep grant operation).1) := by
  cases operation with
  | apply binding eligibility now => exact apply_reported grant binding eligibility now
  | revoke reason => exact revoke_reported grant reason
  | dueRenewal now => exact dueRenewal_reported grant now

end VividProtocol.Grant

import Mathlib.Tactic
import VividProtocol.Input.Gate

/-!
# The presenter's grant

`InputGrant` of `grant.rs`: what a presenter adds to the input gate.  It derives
the effective classes from its eligibility, schedules renewals and builds the
wire payloads.  Its own copies of the generation, the watchdog and the state are
fields beside the gate, as in the source.
-/

set_option autoImplicit false

namespace VividProtocol.Grant

open VividProtocol.Input
open VividProtocol.Library.Transition

namespace Reason

def FOCUS_LOSS : UInt64 := 1
def LOCAL_POLICY : UInt64 := 2
def SURFACE_UNAVAILABLE : UInt64 := 3
def GENERATION_CHANGE : UInt64 := 4
def AUTHORITY_LOSS : UInt64 := 5
def LANE_LOSS : UInt64 := 6
def SUSPENSION : UInt64 := 7
def WATCHDOG : UInt64 := 8
def PRESENTER_SHUTDOWN : UInt64 := 10

end Reason

def STATE_DISABLED : UInt64 := 0
def STATE_ENABLED : UInt64 := 1
def STATE_DENIED : UInt64 := 2

structure Eligibility where
  focused : Bool
  consented : Bool
  surfacePresent : Bool
  surfaceGeneration : SurfaceGeneration
  capabilityMask : UInt64
  presented : Bool
  laneLive : Bool
  mayReceiveInput : Bool
  deriving Repr, DecidableEq

def Eligibility.refusal (eligibility : Eligibility) (binding : InputBinding) :
    Option UInt64 :=
  if ! eligibility.laneLive then some Reason.LANE_LOSS
  else if ! eligibility.mayReceiveInput then some Reason.AUTHORITY_LOSS
  else if ! eligibility.surfacePresent then some Reason.SURFACE_UNAVAILABLE
  else if binding.surfaceGeneration ≠ eligibility.surfaceGeneration then
    some Reason.GENERATION_CHANGE
  else if ! eligibility.presented then some Reason.SURFACE_UNAVAILABLE
  else if ! eligibility.focused then some Reason.FOCUS_LOSS
  else if ! eligibility.consented then some Reason.LOCAL_POLICY
  else if binding.requestedClasses &&& eligibility.capabilityMask = 0 then
    some Reason.LOCAL_POLICY
  else none

inductive GrantOutcome where
  | disabled
  | enabled
  | denied (reason : UInt64)
  | exactRetry
  deriving Repr, DecidableEq

structure Renewal where
  sequence : UInt64
  watchdogUs : UInt64
  deriving Repr, DecidableEq

structure InputGrant where
  gate : InputGate
  watchdogUs : UInt64
  renewalSequence : UInt64
  lastReason : UInt64
  lastState : UInt64
  generation : UInt64
  deriving DecidableEq

/-- `Ord::clamp`. -/
def clamp (value minimum maximum : UInt64) : UInt64 :=
  if value < minimum then minimum else if maximum < value then maximum else value

namespace InputGrant

def new : InputGrant :=
  { gate := .default
    watchdogUs := 0
    renewalSequence := 0
    lastReason := 0
    lastState := 0
    generation := 0 }

def grantGeneration (grant : InputGrant) : UInt64 :=
  match grant.gate.active with
  | none => grant.generation
  | some active => active.binding.grantGeneration.value

def active (grant : InputGrant) : Option ActiveGrant := grant.gate.active

/-- The classes handed to the gate. -/
def narrowed (binding : InputBinding) (eligibility : Eligibility) : UInt64 :=
  match eligibility.refusal binding with
  | some _ => 0
  | none => binding.requestedClasses &&& eligibility.capabilityMask &&& INPUT_CLASS_KNOWN_MASK

/-- `apply` of a binding that asks to disable. -/
def applyDisabled (grant : InputGrant) (binding : InputBinding) (now : Monotonic) :
    Except MessageError GrantOutcome × InputGrant :=
  match grant.gate.applyBinding binding 0 0 now with
  | (.error error, gate) => (.error error, { grant with gate := gate })
  | (.ok outcome, gate) =>
      (match outcome with
        | .exactRetry => .ok .exactRetry
        | _ => .ok .disabled,
        { grant with
          gate := gate
          watchdogUs := 0
          renewalSequence := 0
          lastState := STATE_DISABLED
          lastReason := binding.reason })

def apply (grant : InputGrant) (binding : InputBinding) (eligibility : Eligibility)
    (now : Monotonic) : Except MessageError GrantOutcome × InputGrant :=
  if binding.disabled then grant.applyDisabled binding now
  else
    let watchdog := clamp binding.requestedWatchdogUs MIN_WATCHDOG_US MAX_WATCHDOG_US
    match grant.gate.applyBinding binding (narrowed binding eligibility) watchdog now with
    | (.error error, gate) => (.error error, { grant with gate := gate })
    | (.ok .exactRetry, gate) => (.ok .exactRetry, { grant with gate := gate })
    | (.ok (.enabled tuple), gate) =>
        (.ok .enabled,
          { gate := gate
            generation := tuple.grantGeneration.value
            watchdogUs := watchdog
            renewalSequence := 0
            lastState := STATE_ENABLED
            lastReason := binding.reason })
    | (.ok (.denied tuple), gate) =>
        let reason := (eligibility.refusal binding).getD Reason.LOCAL_POLICY
        (.ok (.denied reason),
          { grant with
            gate := gate
            generation := tuple.grantGeneration.value
            watchdogUs := 0
            lastState := STATE_DENIED
            lastReason := reason })
    | (.ok .disabled, gate) =>
        (.ok .disabled,
          { grant with
            gate := gate
            watchdogUs := 0
            lastState := STATE_DISABLED
            lastReason := binding.reason })

/-- Keys 0 to 4 of a payload about one grant. -/
def identity (tuple : InputTuple) (generation : UInt64) : PayloadMap :=
  [(0, .unsigned tuple.producerEpoch.value),
    (1, .unsigned generation),
    (2, .unsigned tuple.contextId),
    (3, .unsigned tuple.surfaceId),
    (4, .unsigned tuple.surfaceGeneration.value)]

def revoke (grant : InputGrant) (reason : UInt64) : Option PayloadMap × InputGrant :=
  match grant.gate.active with
  | none => (none, grant)
  | some active =>
      match grant.gate.revoke with
      | (.error _, gate) => (none, { grant with gate := gate })
      | (.ok generation, gate) =>
          (some (identity active.binding generation.value ++ [(5, .unsigned reason)]),
            { gate := gate
              generation := generation.value
              watchdogUs := 0
              renewalSequence := 0
              lastState := STATE_DISABLED
              lastReason := reason })

def dueRenewal (grant : InputGrant) (now : Monotonic) : Option Renewal × InputGrant :=
  match grant.gate.active with
  | none => (none, grant)
  | some active =>
      match active.watchdogDeadline.checkedSubMicros (grant.watchdogUs / 2) with
      | none => (none, grant)
      | some elapsedDeadline =>
          if now < elapsedDeadline then (none, grant)
          else
            match checkedAdd grant.renewalSequence 1 with
            | none => (none, grant)
            | some sequence =>
                let grant := { grant with renewalSequence := sequence }
                match grant.gate.renew active.binding sequence grant.watchdogUs now with
                | (.error _, gate) => (none, { grant with gate := gate })
                | (.ok (), gate) =>
                    (some { sequence := sequence, watchdogUs := grant.watchdogUs },
                      { grant with gate := gate })

def watchdogExpired (grant : InputGrant) (now : Monotonic) : Bool :=
  grant.gate.active.any fun active => decide (active.watchdogDeadline ≤ now)

def boundPayload (grant : InputGrant) (producerEpoch : UInt64) : PayloadMap :=
  let enabled := grant.gate.active.isSome && decide (grant.lastState = STATE_ENABLED)
  let (contextId, surfaceId, surfaceGeneration, classes) :=
    match grant.gate.active with
    | none => (0, 0, 0, 0)
    | some active =>
        if enabled then
          (active.binding.contextId, active.binding.surfaceId,
            active.binding.surfaceGeneration.value, active.effectiveClasses)
        else (0, 0, 0, 0)
  [(0, .unsigned producerEpoch),
    (1, .unsigned grant.grantGeneration),
    (2, .unsigned contextId),
    (3, .unsigned surfaceId),
    (4, .unsigned surfaceGeneration),
    (5, .unsigned classes),
    (6, .unsigned grant.lastState),
    (7, .unsigned grant.lastReason),
    (8, .unsigned (if enabled then grant.watchdogUs else 0))]

def tag (grant : InputGrant) («class» : UInt64) : Option PayloadMap :=
  match grant.gate.active with
  | none => none
  | some active =>
      if active.effectiveClasses &&& «class» = 0 then none
      else some (identity active.binding active.binding.grantGeneration.value)

def effectiveClasses (grant : InputGrant) : UInt64 :=
  match grant.gate.active with
  | none => 0
  | some active => active.effectiveClasses

end InputGrant

/-! ## Runs -/

inductive GrantOperation where
  | apply (binding : InputBinding) (eligibility : Eligibility) (now : Monotonic)
  | revoke (reason : UInt64)
  | dueRenewal (now : Monotonic)
  deriving DecidableEq

inductive GrantAnswer where
  | applied (result : Except MessageError GrantOutcome)
  | revoked (payload : Option PayloadMap)
  | renewed (renewal : Option Renewal)

def grantStep (grant : InputGrant) : GrantOperation → GrantAnswer × InputGrant
  | .apply binding eligibility now =>
      let (result, grant) := grant.apply binding eligibility now
      (.applied result, grant)
  | .revoke reason =>
      let (payload, grant) := grant.revoke reason
      (.revoked payload, grant)
  | .dueRenewal now =>
      let (renewal, grant) := grant.dueRenewal now
      (.renewed renewal, grant)

def grantRuns : Machine InputGrant GrantOperation GrantAnswer := { step := grantStep }

abbrev GrantEvent := Event InputGrant GrantOperation GrantAnswer

end VividProtocol.Grant

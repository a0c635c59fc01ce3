import Mathlib.Tactic
import VividProtocol.Grant.Presenter
import VividProtocol.Lease.Machine
import VividProtocol.Resource

/-!
# The composed authority model

The state of `tests/model.rs`: a presenter's lease, input grant, lane and
channel, the producer's gate, and a second owner whose object identifiers are
the same numbers.  The lease, grant, gate and flow machines are the real ones;
transport slots are abstract.  The bounds that keep the explored space finite
are a parameter.
-/

set_option autoImplicit false

namespace VividProtocol.Composed

open VividProtocol.Grant
open VividProtocol.Input
open VividProtocol.Lease

def WATCHDOG_US : UInt64 := 250000
def TIME_STEP_US : UInt64 := WATCHDOG_US / 2

/-- `MAX_EPOCH` and its siblings. -/
structure Buckets where
  maxEpoch : UInt64
  maxLaneGeneration : UInt64
  maxChannelGeneration : UInt64
  maxSurfaceGeneration : UInt64
  maxResumeGeneration : UInt64
  deriving Repr, DecidableEq

/-- The buckets of the source. -/
def Buckets.explored : Buckets :=
  { maxEpoch := 2
    maxLaneGeneration := 2
    maxChannelGeneration := 2
    maxSurfaceGeneration := 2
    maxResumeGeneration := 2 }

def CONTEXT : UInt64 := 1
def SURFACE : UInt64 := 1
def SESSION : UInt64 := 1

def FLOW_WINDOW_BYTES : UInt64 := 200
def FLOW_WINDOW_RECORDS : UInt64 := 2
def FLOW_RAISED_BYTES : UInt64 := 400
def FLOW_RAISED_RECORDS : UInt64 := 4
def MEDIA_BODY : UInt32 := 60

def ATTEMPT : Bytes 16 := Vector.replicate 16 10
def ATTEMPT_OTHER : Bytes 16 := Vector.replicate 16 11
def CLIENT_NONCE : Bytes 32 := Vector.replicate 32 12
def SERVER_NONCE : Bytes 32 := Vector.replicate 32 13
def FINGERPRINT : Bytes 32 := Vector.replicate 32 14
def HELLO_BODY : List UInt8 := "model-hello".toUTF8.toList
def WELCOME_BODY : List UInt8 := []

/-- The arguments of every `begin_activation` and `begin_resume` of the model. -/
def attemptRequest (attemptId : Bytes 16) : AttemptRequest :=
  { attemptId := attemptId
    clientNonce := CLIENT_NONCE
    helloBytes := HELLO_BODY
    profileFingerprint := FINGERPRINT
    sessionId := SESSION
    serverNonce := SERVER_NONCE
    welcome := WELCOME_BODY }

/-! ## The transition alphabet -/

inductive T where
  | activate
  | activateRetryExact
  | activateRetryDifferent
  | welcomeCommitted
  | postHelloAdmitted
  | controlLostClean
  | controlLostUnclean
  | resumeValid
  | resumeStale
  | resumeRetryExact
  | resumeRetryDifferent
  | graceExpiry
  | leaseRevoke
  | parentRevoke
  | oldControlRecord
  | laneOpen
  | laneDuplicate
  | laneLoss
  | laneRetry
  | laneStaleRecord
  | channelOpen
  | channelDuplicate
  | channelAccept
  | channelAcceptConfirmed
  | channelAcceptLost
  | channelAdvance
  | mediaAccept
  | mediaParseBegin
  | mediaParseEnd
  | flowUpdateBegin
  | flowUpdateComplete
  | channelLoss
  | oldTransportMedia
  | bindEnable
  | bindDisable
  | bindLowerEpoch
  | bindRetrySame
  | bindRetryDifferent
  | renewSend
  | renewDeliver
  | timePass
  | watchdogFire
  | focusLoss
  | focusGain
  | surfaceGenerationChange
  | eventPress
  | eventRelease
  | eventOldTuple
  | eventWrongSurfaceGeneration
  | otherActivate
  | otherBind
  | otherTeardown
  | crossInject
  deriving Repr, DecidableEq

inductive Case where
  | simultaneousActivation
  | lostWelcome
  | lostChannelAccepted
  | oldControlRecordIgnored
  | oldLaneRecordIgnored
  | oldChannelMediaIgnored
  | closedClean
  | suspendedOnUncleanLoss
  | retryableActivationLoss
  | resumed
  | explicitRevoke
  | parentRevoked
  | graceExpired
  | inputRejectedBeforeEnable
  | inputInjected
  | inputRejectedAfterRevoke
  | inputAfterRenewal
  | renewalLateRejected
  | channelLossDuringParse
  | channelLossDuringFlowUpdate
  | chargedWhileSuspended
  | twoOwnersCrossInjection
  | twoOwnersIsolated
  | watchdogRevocation
  | focusRevocation
  | noImplicitRestoration
  | staleResumeRejected
  | duplicateLaneBusy
  | laneRetryRefusedAfterInput
  | duplicateChannelReplayed
  | duplicateChannelRefusedAfterMedia
  | deniedWhileLaneDown
  | deniedWhileUnfocused
  deriving Repr, DecidableEq

/-- What the model reports: the invariants `check_invariants` numbers, and the
complaints of single transitions. -/
inductive Violation where
  | i1LaneLive
  | i2LaneDown
  | i3LeaseNotActive
  | i4LaneDown
  | i4PastWatchdog
  | i4LeaseNotActive
  | i4NoGrant
  | i5HeldKeyStuck
  | i6GenerationBackwards
  | i7Charging
  | i8FlowWindow
  | i9LaneGenerationZero
  | i11DivergedOnRevoke
  | i11DivergedOnEnable
  | i12PresenceDiverged
  | gateRevokeFailed
  | activationNotFresh
  | attemptDisplaced
  | welcomeCommitFailed
  | postHelloAdmitFailed
  | cleanLossNotClosed
  | retryableLossMoved
  | uncleanLossNotSuspended
  | validResumeRefused
  | lostWelcomeNotReplayed
  | resumeRetryAccepted
  | resumeRetryAdvanced
  | staleResumeAccepted
  | graceExpiryFailed
  | leaseRevokeFailed
  | otherDisturbed
  | bindingErrored
  | enabledBindingRefused
  | denialMishandled
  | notAFreshOutcome
  | disableNotDisabled
  | disableMishandled
  | lowerEpochAccepted
  | exactRetryNotRecognised
  | epochReused
  | oldTupleInjected
  | staleSurfaceInjected
  | otherActivationFailed
  | otherWelcomeFailed
  | otherBindingFailed
  | otherRevokeFailed
  | otherGateRevokeFailed
  | crossInjected
  deriving Repr, DecidableEq

/-! ## The state -/

structure Lane where
  generation : UInt64
  live : Bool
  admittedInput : Bool
  deriving Repr, DecidableEq

inductive ChannelPhase where
  | none
  | attaching
  | acceptedUnconfirmed
  | established
  | lost
  deriving Repr, DecidableEq

structure Channel where
  generation : UInt64
  phase : ChannelPhase
  mediaAdmitted : Bool
  parsing : Bool
  flowUpdate : Bool
  deriving Repr, DecidableEq

def Channel.none : Channel :=
  { generation := 0
    phase := .none
    mediaAdmitted := false
    parsing := false
    flowUpdate := false }

inductive Deadline where
  | none
  | early
  | late
  | expired
  deriving Repr, DecidableEq

structure OwnerB where
  lease : LeaseMachine
  gate : InputGate
  bound : Bool
  deriving DecidableEq

structure Model where
  lease : LeaseMachine
  grant : InputGrant
  gate : InputGate
  lane : Option Lane
  channel : Channel
  flow : ChannelFlow
  focused : Bool
  surfaceGeneration : UInt64
  nowUs : UInt64
  epoch : UInt64
  lastBinding : Option InputBinding
  retiredTuple : Option InputTuple
  held : Bool
  renewed : Bool
  pendingRenewal : Option Renewal
  postHelloAdmitted : Bool
  controlLost : Bool
  charged : Bool
  maxGenerationSeen : UInt64
  other : OwnerB
  brokenRevocation : Bool
  deriving DecidableEq

/-- The lease both owners start with. -/
def issuedLease : LeaseMachine := .new .suspendOnUncleanLoss 5000000

namespace Model

def new (brokenRevocation : Bool) : Model :=
  { lease := issuedLease
    grant := .new
    gate := .default
    lane := none
    channel := .none
    flow := .default
    focused := true
    surfaceGeneration := 1
    nowUs := 0
    epoch := 0
    lastBinding := none
    retiredTuple := none
    held := false
    renewed := false
    pendingRenewal := none
    postHelloAdmitted := false
    controlLost := false
    charged := true
    maxGenerationSeen := 0
    other :=
      { lease := issuedLease
        gate := .default
        bound := false }
    brokenRevocation := brokenRevocation }

def now (model : Model) : Monotonic := { micros := model.nowUs }

def deadline (model : Model) : Deadline :=
  match model.gate.active with
  | none => .none
  | some active =>
      if active.watchdogDeadline ≤ model.now then .expired
      else if WATCHDOG_US / 2 < active.watchdogDeadline.saturatingElapsedSince model.now then
        .early
      else .late

def laneLive (model : Model) : Bool := model.lane.any Lane.live

def eligibility (model : Model) : Eligibility :=
  { focused := model.focused
    consented := true
    surfacePresent := true
    surfaceGeneration := { value := model.surfaceGeneration }
    capabilityMask := INPUT_CLASS_KEYBOARD
    presented := true
    laneLive := model.laneLive
    mayReceiveInput := true }

def enabledBinding (model : Model) (epoch : UInt64) : InputBinding :=
  { producerEpoch := { value := epoch }
    contextId := CONTEXT
    surfaceId := SURFACE
    surfaceGeneration := { value := model.surfaceGeneration }
    requestedClasses := INPUT_CLASS_KEYBOARD
    reason := 0
    requestedWatchdogUs := WATCHDOG_US }

def disabledBinding (epoch : UInt64) : InputBinding :=
  { producerEpoch := { value := epoch }
    contextId := 0
    surfaceId := 0
    surfaceGeneration := .zero
    requestedClasses := 0
    reason := 0
    requestedWatchdogUs := 0 }

def keyEvent (tuple : InputTuple) (pressed : Bool) : InputEvent := .key tuple 4 pressed

/-- The tuple the producer would stamp now. -/
def currentTuple (model : Model) : InputTuple :=
  match model.gate.active with
  | none =>
      { producerEpoch := { value := max model.epoch 1 }
        grantGeneration := { value := max model.maxGenerationSeen 1 }
        contextId := CONTEXT
        surfaceId := SURFACE
        surfaceGeneration := { value := model.surfaceGeneration } }
  | some active => active.binding

/-- `observe_generation`: the state and what it reports. -/
def observeGeneration (model : Model) (generation : UInt64) : Model × List Violation :=
  ({ model with maxGenerationSeen := max model.maxGenerationSeen generation },
    if generation ≤ model.maxGenerationSeen ∧ generation ≠ 0 then
      [.i6GenerationBackwards]
    else [])

/-- `self.gate.active().map(|active| active.binding).or(self.retired_tuple)`. -/
def retiring (model : Model) : Option InputTuple :=
  (model.gate.active.map ActiveGrant.binding).or model.retiredTuple

/-- The presenter revokes and, unless the regression is injected, the
producer's gate hears of it in the same step. -/
def presenterRevoke (model : Model) (reason : UInt64) : Model × List Violation :=
  let (payload, grant) := model.grant.revoke reason
  let model :=
    { model with
      retiredTuple := model.retiring
      pendingRenewal := none
      grant := grant }
  let (model, violations) :=
    if payload.isSome && ! model.brokenRevocation then
      match model.gate.revoke with
      | (.ok generation, gate) =>
          let (model, backwards) :=
            { model with gate := gate }.observeGeneration generation.value
          (model,
            (if generation.value ≠ grant.grantGeneration then
              [.i11DivergedOnRevoke]
            else []) ++ backwards)
      | (.error _, gate) => ({ model with gate := gate }, [.gateRevokeFailed])
    else (model, [])
  (if model.brokenRevocation then model else { model with held := false }, violations)

/-- Everything that dies with the control transport. -/
def teardownTransports (model : Model) : Model :=
  { model with
    lane := none
    channel := .none
    flow := .default }

def otherProbe (model : Model) : LeaseState × Bool × Bool :=
  (model.other.lease.state, model.other.gate.active.isSome, model.other.bound)

end Model

end VividProtocol.Composed

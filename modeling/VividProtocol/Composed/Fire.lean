import Mathlib.Data.Finset.Insert
import VividProtocol.Composed.Model

/-!
# Transitions of the composed model

`may_fire`, `fire` and `check_invariants` of `tests/model.rs`.  A transition
that does not apply gives no next state; one that applies gives it together
with what the model complains of and the cases it covered.
-/

set_option autoImplicit false

namespace VividProtocol.Composed

open VividProtocol.Grant
open VividProtocol.Input
open VividProtocol.Lease

def LeaseState.holding (state : LeaseState) : Bool :=
  decide (state = .reserved) || decide (state = .active)

def LeaseState.terminal (state : LeaseState) : Bool :=
  decide (state = .closed) || decide (state = .revoked) || decide (state = .expired)

def ChannelPhase.attached : ChannelPhase → Bool
  | .attaching | .acceptedUnconfirmed | .established => true
  | .none | .lost => false

/-- What firing one transition gives: no next state where it does not apply. -/
structure Fired where
  next : Option Model
  violations : List Violation
  cases : List Case
  deriving DecidableEq

namespace Fired

def disabled : Fired := { next := none, violations := [], cases := [] }

def quiet (next : Model) (cases : List Case) : Fired :=
  { next := some next, violations := [], cases := cases }

/-- One complaint where the check failed. -/
def complain (failed : Bool) (violation : Violation) : List Violation :=
  if failed then [violation] else []

end Fired

open Fired

namespace Model

variable (sha256 : Sha256) (buckets : Buckets) (seen : Finset Case) (model : Model)

/-! ## The lease -/

def fireActivate : Fired :=
  if model.lease.state ≠ .issued then disabled
  else
    let (result, lease) := model.lease.beginActivation sha256 (attemptRequest ATTEMPT)
    { next := some { model with lease := lease }
      violations :=
        match result with
        | .ok (.fresh _ _ _) => []
        | _ => [.activationNotFresh]
      cases := [] }

def fireActivateRetryExact : Fired :=
  if model.lease.resumeGeneration.value ≠ 0 then disabled
  else if ! LeaseState.holding model.lease.state then disabled
  else
    let (result, lease) := model.lease.beginActivation sha256 (attemptRequest ATTEMPT)
    let next := { model with lease := lease }
    match result with
    | .ok (.exactReplay _ _ _) =>
        -- The retried attempt is fresh: admission must recur on it.
        quiet { next with postHelloAdmitted := false, controlLost := false }
          (if model.lease.state = .active then [.retryableActivationLoss] else [])
    | _ => quiet next []

def fireActivateRetryDifferent : Fired :=
  if ! LeaseState.holding model.lease.state || decide (.simultaneousActivation ∈ seen) then
    disabled
  else
    let (result, _) := model.lease.beginActivation sha256 (attemptRequest ATTEMPT_OTHER)
    { next := some model
      violations := complain result.isOk .attemptDisplaced
      cases := [.simultaneousActivation] }

def fireWelcomeCommitted : Fired :=
  if model.lease.state ≠ .reserved then disabled
  else
    let (result, lease) := model.lease.commitWelcome
    { next := some { model with lease := lease }
      violations := complain (! result.isOk) .welcomeCommitFailed
      cases := if 1 ≤ model.lease.resumeGeneration.value then [.resumed] else [] }

def firePostHelloAdmitted : Fired :=
  if model.lease.state ≠ .active ∨ model.postHelloAdmitted then disabled
  else
    let (result, lease) := model.lease.admitPostHello
    { next := some { model with lease := lease, postHelloAdmitted := true }
      violations := complain (! result.isOk) .postHelloAdmitFailed
      cases := [] }

def fireControlLostClean : Fired :=
  if ! LeaseState.holding model.lease.state then disabled
  else
    let (next, violations) := model.presenterRevoke Reason.PRESENTER_SHUTDOWN
    let (result, lease) := model.lease.confirmTransportLost true
    { next := some { next with lease := lease, charged := false }.teardownTransports
      violations :=
        violations ++
          match result with
          | .ok .closed => []
          | _ => [.cleanLossNotClosed]
      cases := [.closedClean] }

/-- The case an unclean loss covers. -/
def lossCases (state : LeaseState) (postHelloAdmitted : Bool) : List Case :=
  match state, postHelloAdmitted with
  | .reserved, _ => [.lostWelcome]
  | .active, false => [.retryableActivationLoss]
  | .active, true => [.suspendedOnUncleanLoss]
  | _, _ => []

/-- A loss before any admitted traffic: the machine stays put for an exact retry. -/
def retryableLoss (state : LeaseState) (postHelloAdmitted : Bool) : Bool :=
  decide (state = .reserved) || decide (state = .active) && ! postHelloAdmitted

def fireControlLostUnclean : Fired :=
  if ! LeaseState.holding model.lease.state then disabled
  else
    let (next, violations) := model.presenterRevoke Reason.SUSPENSION
    let (result, lease) := model.lease.confirmTransportLost false
    let next := { next with lease := lease, controlLost := true }.teardownTransports
    let covered := lossCases model.lease.state model.postHelloAdmitted
    if retryableLoss model.lease.state model.postHelloAdmitted then
      { next := some next
        violations :=
          violations ++
            match result with
            | .ok state => complain (decide (state ≠ model.lease.state)) .retryableLossMoved
            | .error _ => [.retryableLossMoved]
        cases := covered }
    else
      match result with
      | .ok .suspended =>
          { next := some next
            violations := violations
            cases := .chargedWhileSuspended :: covered }
      | _ =>
          { next := some next
            violations := violations ++ [.uncleanLossNotSuspended]
            cases := covered }

def fireResumeValid : Fired :=
  if model.lease.state ≠ .suspended ∨
      buckets.maxResumeGeneration ≤ model.lease.resumeGeneration.value then disabled
  else
    let (result, lease) :=
      model.lease.beginResume sha256 model.lease.resumeGeneration (attemptRequest ATTEMPT)
    let next := { model with lease := lease }
    match result with
    | .ok (.fresh _ _ _) =>
        -- The resumed attempt is fresh: admission must recur on it.
        quiet { next with postHelloAdmitted := false, controlLost := false } []
    | _ =>
        { next := some next
          violations := [.validResumeRefused]
          cases := [] }

/-- `ResumeGeneration::new(generation.get() - 1)`. -/
def staleGeneration : ResumeGeneration :=
  { value := model.lease.resumeGeneration.value - 1 }

def fireResumeRetry (exact : Bool) : Fired :=
  if model.lease.resumeGeneration.value = 0 ∨ ! LeaseState.holding model.lease.state then
    disabled
  else
    let shouldReplay := exact && ! model.postHelloAdmitted &&
      (decide (model.lease.state = .reserved) || model.controlLost)
    let (result, lease) :=
      model.lease.beginResume sha256 model.staleGeneration
        (attemptRequest (if exact then ATTEMPT else ATTEMPT_OTHER))
    let next := { model with lease := lease }
    let advanced := complain
      (decide (lease.resumeGeneration ≠ model.lease.resumeGeneration)) .resumeRetryAdvanced
    if shouldReplay then
      { next := some { next with controlLost := false }
        violations :=
          (match result with
          | .ok (.exactReplay sessionId serverNonce welcome) =>
              complain
                (! (decide (sessionId = SESSION) && decide (serverNonce = SERVER_NONCE) &&
                  decide (welcome = WELCOME_BODY)))
                .lostWelcomeNotReplayed
          | _ => [.lostWelcomeNotReplayed]) ++ advanced
        cases := [] }
    else
      { next := some next
        violations := complain result.isOk .resumeRetryAccepted ++ advanced
        cases := [] }

def fireResumeStale : Fired :=
  if model.lease.state ≠ .suspended ∨ model.lease.resumeGeneration.value = 0 ∨
      .staleResumeRejected ∈ seen then disabled
  else
    let (result, lease) :=
      model.lease.beginResume sha256 model.staleGeneration (attemptRequest ATTEMPT)
    { next := some { model with lease := lease }
      violations := complain result.isOk .staleResumeAccepted
      cases := [.staleResumeRejected] }

def fireGraceExpiry : Fired :=
  if model.lease.state ≠ .suspended then disabled
  else
    let (result, lease) := model.lease.expire
    { next := some { model with lease := lease, charged := false }
      violations := complain (! result.isOk) .graceExpiryFailed
      cases := [.graceExpired] }

def fireRevoke (parent : Bool) : Fired :=
  if LeaseState.terminal model.lease.state ||
      parent && decide (model.lease.state ≠ .active) then disabled
  else
    let (next, violations) := model.presenterRevoke Reason.AUTHORITY_LOSS
    let (result, lease) := model.lease.revoke
    let next := { next with lease := lease, charged := false }.teardownTransports
    let disturbed := decide (next.otherProbe ≠ model.otherProbe)
    { next := some next
      violations :=
        violations ++ complain (! result.isOk) .leaseRevokeFailed ++
          complain disturbed .otherDisturbed
      cases :=
        (if parent then Case.parentRevoked else .explicitRevoke) ::
          if disturbed then [] else [.twoOwnersIsolated] }

/-- A record on the transport a suspension replaced changes nothing. -/
def fireOldControlRecord : Fired :=
  if model.lease.state ≠ .active ∨ model.lease.resumeGeneration.value = 0 ∨
      .oldControlRecordIgnored ∈ seen then disabled
  else quiet model [.oldControlRecordIgnored]

/-! ## The lane and the channel -/

def fireLaneOpen : Fired :=
  if model.lease.state ≠ .active then disabled
  else
    let generation :=
      match model.lane with
      | none => 1
      | some lane => lane.generation + 1
    if buckets.maxLaneGeneration < generation then disabled
    else
      -- A replacement kills the previous transport, and input with it.
      let (next, violations) :=
        if model.lane.isSome then model.presenterRevoke Reason.LANE_LOSS else (model, [])
      { next := some
          { next with
            lane := some
              { generation := generation
                live := true
                admittedInput := false } }
        violations := violations
        cases := [] }

def fireLaneDuplicate : Fired :=
  if ! model.laneLive || decide (.duplicateLaneBusy ∈ seen) then disabled
  else quiet model [.duplicateLaneBusy]

def fireLaneLoss : Fired :=
  if ! model.laneLive then disabled
  else
    let lane := model.lane.map fun lane => { lane with live := false }
    let (next, violations) := { model with lane := lane }.presenterRevoke Reason.LANE_LOSS
    { next := some next
      violations := violations
      cases := [] }

def fireLaneRetry : Fired :=
  match model.lane with
  | none => disabled
  | some lane =>
      if lane.live then disabled
      else if lane.admittedInput then
        -- A generation that carried input can never be reopened.
        if .laneRetryRefusedAfterInput ∈ seen then disabled
        else quiet model [.laneRetryRefusedAfterInput]
      else quiet { model with lane := some { lane with live := true } } []

def fireLaneStaleRecord : Fired :=
  match model.lane with
  | none => disabled
  | some lane =>
      if lane.generation < 2 ∨ .oldLaneRecordIgnored ∈ seen then disabled
      else quiet model [.oldLaneRecordIgnored]

def fireChannelOpen : Fired :=
  if model.lease.state ≠ .active ∨ model.channel.phase ≠ .none then disabled
  else
    quiet { model with channel := { Channel.none with generation := 1, phase := .attaching } } []

def fireChannelDuplicate : Fired :=
  let refused := model.channel.mediaAdmitted
  let covered : Case :=
    if refused then .duplicateChannelRefusedAfterMedia else .duplicateChannelReplayed
  if ! model.channel.phase.attached || decide (covered ∈ seen) then disabled
  else quiet model [covered]

def fireChannelAccept : Fired :=
  if model.channel.phase ≠ .attaching then disabled
  else
    quiet
      { model with
        channel := { model.channel with phase := .acceptedUnconfirmed }
        flow := .new FLOW_WINDOW_BYTES FLOW_WINDOW_RECORDS } []

def fireChannelAcceptConfirmed : Fired :=
  if model.channel.phase ≠ .acceptedUnconfirmed then disabled
  else quiet { model with channel := { model.channel with phase := .established } } []

/-- The channel when its transport dies. -/
def Channel.drop (channel : Channel) : Channel :=
  { channel with
    phase := .lost
    parsing := false
    flowUpdate := false }

def fireChannelAcceptLost : Fired :=
  if model.channel.phase ≠ .acceptedUnconfirmed then disabled
  else quiet { model with channel := Channel.drop model.channel } [.lostChannelAccepted]

def fireChannelAdvance : Fired :=
  if model.lease.state ≠ .active ∨
      ¬ (model.channel.phase = .established ∨ model.channel.phase = .lost) ∨
      buckets.maxChannelGeneration ≤ model.channel.generation then disabled
  else
    quiet
      { model with
        channel :=
          { Channel.none with
            generation := model.channel.generation + 1
            phase := .attaching } } []

def fireMediaAccept : Fired :=
  if model.channel.phase ≠ .established then disabled
  else
    match model.flow.admitRecord MEDIA_BODY with
    | (.error _, _) => disabled
    | (.ok (), flow) =>
        quiet
          { model with
            flow := flow
            channel := { model.channel with mediaAdmitted := true } } []

def fireMediaParseBegin : Fired :=
  if ! model.channel.mediaAdmitted || model.channel.parsing then disabled
  else quiet { model with channel := { model.channel with parsing := true } } []

def fireMediaParseEnd : Fired :=
  if ! model.channel.parsing then disabled
  else quiet { model with channel := { model.channel with parsing := false } } []

def fireFlowUpdateBegin : Fired :=
  if model.channel.phase ≠ .established ∨ model.channel.flowUpdate then disabled
  else quiet { model with channel := { model.channel with flowUpdate := true } } []

def fireFlowUpdateComplete : Fired :=
  if ! model.channel.flowUpdate then disabled
  else
    quiet
      { model with
        flow := model.flow.raiseMaxima FLOW_RAISED_BYTES FLOW_RAISED_RECORDS
        channel := { model.channel with flowUpdate := false } } []

def fireChannelLoss : Fired :=
  if model.channel.phase ≠ .established then disabled
  else
    quiet { model with channel := Channel.drop model.channel }
      ((if model.channel.parsing then [.channelLossDuringParse] else []) ++
        if model.channel.flowUpdate then [.channelLossDuringFlowUpdate] else [])

/-- Bytes on the transport a channel advance replaced move nothing. -/
def fireOldTransportMedia : Fired :=
  if model.channel.phase ≠ .established ∨ model.channel.generation < 2 ∨
      .oldChannelMediaIgnored ∈ seen then disabled
  else quiet model [.oldChannelMediaIgnored]

/-! ## The input grant -/

def fireBindEnable : Fired :=
  if model.lease.state ≠ .active ∨ buckets.maxEpoch ≤ model.epoch then disabled
  else
    let binding := model.enabledBinding (model.epoch + 1)
    let (result, grant) := model.grant.apply binding model.eligibility model.now
    match result with
    | .error _ =>
        { next := some { model with grant := grant }
          violations := [.bindingErrored]
          cases := [] }
    | .ok .enabled =>
        let (bound, gate) :=
          model.gate.applyBinding binding INPUT_CLASS_KEYBOARD WATCHDOG_US model.now
        let next := { model with grant := grant, retiredTuple := model.retiring, gate := gate }
        let (next, violations) :=
          match bound with
          | .ok (.enabled tuple) =>
              let (next, backwards) := next.observeGeneration tuple.grantGeneration.value
              (next,
                complain (decide (tuple.grantGeneration.value ≠ grant.grantGeneration))
                  .i11DivergedOnEnable ++ backwards)
          | _ => (next, [.enabledBindingRefused])
        { next := some
            { next with
              epoch := model.epoch + 1
              lastBinding := some binding
              renewed := false
              held := false }
          violations := violations
          cases := [] }
    | .ok (.denied _) =>
        let (bound, gate) := model.gate.applyBinding binding 0 0 model.now
        let next := { model with grant := grant, retiredTuple := model.retiring, gate := gate }
        let (next, violations) :=
          match bound with
          | .ok (.denied tuple) => next.observeGeneration tuple.grantGeneration.value
          | _ => (next, [.denialMishandled])
        { next := some
            { next with
              epoch := model.epoch + 1
              lastBinding := some binding
              held := false }
          violations := violations
          cases :=
            (if model.laneLive then [] else [.deniedWhileLaneDown]) ++
              if model.focused then [] else [.deniedWhileUnfocused] }
    | .ok _ =>
        { next := some { model with grant := grant, retiredTuple := model.retiring }
          violations := [.notAFreshOutcome]
          cases := [] }

def fireBindDisable : Fired :=
  if model.lastBinding = none ∨ buckets.maxEpoch ≤ model.epoch then disabled
  else
    let binding := disabledBinding (model.epoch + 1)
    let (result, grant) := model.grant.apply binding model.eligibility model.now
    let (bound, gate) := model.gate.applyBinding binding 0 0 model.now
    { next := some
        { model with
          grant := grant
          gate := gate
          retiredTuple := model.retiring
          epoch := model.epoch + 1
          lastBinding := some binding
          held := false
          renewed := false }
      violations :=
        (match result with
        | .ok .disabled => []
        | _ => [.disableNotDisabled]) ++
          match bound with
          | .ok .disabled => []
          | _ => [.disableMishandled]
      cases := [] }

def fireBindLowerEpoch : Fired :=
  if model.epoch < 2 then disabled
  else
    let (result, grant) :=
      model.grant.apply (model.enabledBinding (model.epoch - 1)) model.eligibility model.now
    { next := some { model with grant := grant }
      violations := complain result.isOk .lowerEpochAccepted
      cases := [] }

def fireBindRetrySame : Fired :=
  match model.lastBinding with
  | none => disabled
  | some binding =>
      let (result, grant) := model.grant.apply binding model.eligibility model.now
      { next := some { model with grant := grant }
        violations :=
          match result with
          | .ok .exactRetry => []
          | .ok (.denied _) =>
              complain (model.laneLive && model.focused) .exactRetryNotRecognised
          | _ => [.exactRetryNotRecognised]
        cases := [] }

def fireBindRetryDifferent : Fired :=
  match model.lastBinding with
  | none => disabled
  | some binding =>
      if binding.requestedClasses = 0 then disabled
      else
        let (result, grant) :=
          model.grant.apply { binding with requestedClasses := INPUT_CLASS_KEYBOARD <<< 1 }
            model.eligibility model.now
        { next := some { model with grant := grant }
          violations := complain result.isOk .epochReused
          cases := [] }

def fireRenewSend : Fired :=
  if model.gate.active = none ∨ model.pendingRenewal ≠ none then disabled
  else
    match model.grant.dueRenewal model.now with
    | (none, _) => disabled
    | (some renewal, grant) =>
        quiet { model with grant := grant, pendingRenewal := some renewal } []

def fireRenewDeliver : Fired :=
  match model.pendingRenewal with
  | none => disabled
  | some renewal =>
      let next := { model with pendingRenewal := none }
      match next.gate.active with
      | none => quiet next [.renewalLateRejected]
      | some active =>
          match next.gate.renew active.binding renewal.sequence renewal.watchdogUs next.now with
          | (.ok (), gate) => quiet { next with gate := gate, renewed := true } []
          | (.error _, gate) => quiet { next with gate := gate } [.renewalLateRejected]

def fireTimePass : Fired :=
  if model.gate.active = none ∨ model.deadline = .expired then disabled
  else quiet { model with nowUs := model.nowUs + TIME_STEP_US } []

def fireWatchdogFire : Fired :=
  if model.gate.active = none ∨ model.deadline ≠ .expired then disabled
  else
    let (next, violations) := model.presenterRevoke Reason.WATCHDOG
    { next := some next
      violations := violations
      cases := [.watchdogRevocation] }

def fireFocusLoss : Fired :=
  if ! model.focused then disabled
  else
    let next := { model with focused := false }
    if model.gate.active.isSome then
      let (next, violations) := next.presenterRevoke Reason.FOCUS_LOSS
      { next := some next
        violations := violations
        cases := [.focusRevocation] }
    else quiet next []

/-- Focus returning changes eligibility only; the producer must bind again. -/
def fireFocusGain : Fired :=
  if model.focused then disabled
  else
    quiet { model with focused := true }
      (if 1 ≤ model.epoch ∧ model.gate.active = none then [.noImplicitRestoration] else [])

def fireSurfaceGenerationChange : Fired :=
  if buckets.maxSurfaceGeneration ≤ model.surfaceGeneration ∨ model.epoch = 0 then disabled
  else
    let (next, violations) :=
      { model with surfaceGeneration := model.surfaceGeneration + 1 }.presenterRevoke
        Reason.GENERATION_CHANGE
    { next := some next
      violations := violations
      cases := [] }

def fireEvent (pressed : Bool) : Fired :=
  if decide (pressed = model.held) && model.gate.active.isSome then disabled
  else if model.gate.active = none ∧ model.retiredTuple = none ∧
      .inputRejectedBeforeEnable ∈ seen then disabled
  else
    match model.gate.authorize (keyEvent model.currentTuple pressed)
        { value := model.surfaceGeneration } model.now with
    | .ok () =>
        { next := some
            { model with
              lane := model.lane.map fun lane => { lane with admittedInput := true }
              held := pressed }
          violations :=
            complain (! model.laneLive) .i4LaneDown ++
            complain (decide (model.deadline = .expired)) .i4PastWatchdog ++
            complain (decide (model.lease.state ≠ .active)) .i4LeaseNotActive ++
            complain (pressed && model.gate.active.isNone) .i4NoGrant
          cases := [if model.renewed then .inputAfterRenewal else .inputInjected] }
    | .error _ =>
        quiet model
          (if model.gate.active = none ∧ model.retiredTuple = none then
            [.inputRejectedBeforeEnable]
          else [])

def fireEventOldTuple : Fired :=
  match model.retiredTuple with
  | none => disabled
  | some tuple =>
      match model.gate.authorize (keyEvent tuple true)
          { value := model.surfaceGeneration } model.now with
      | .ok () =>
          { next := some model
            violations := [.oldTupleInjected]
            cases := [] }
      | .error _ => quiet model [.inputRejectedAfterRevoke]

def fireEventWrongSurfaceGeneration : Fired :=
  if model.gate.active = none then disabled
  else
    let tuple :=
      { model.currentTuple with
        surfaceGeneration := { value := if model.surfaceGeneration = 1 then 2 else 1 } }
    { next := some model
      violations :=
        complain
          (model.gate.authorize (keyEvent tuple true)
            { value := model.surfaceGeneration } model.now).isOk
          .staleSurfaceInjected
      cases := [] }

/-! ## The other owner -/

def fireOtherActivate : Fired :=
  if model.other.lease.state ≠ .issued then disabled
  else
    let (activated, lease) :=
      model.other.lease.beginActivation sha256 (attemptRequest ATTEMPT)
    let (committed, lease) := lease.commitWelcome
    { next := some { model with other := { model.other with lease := lease } }
      violations :=
        complain (! activated.isOk) .otherActivationFailed ++
          complain (! committed.isOk) .otherWelcomeFailed
      cases := [] }

def fireOtherBind : Fired :=
  if model.other.lease.state ≠ .active ∨ model.other.bound then disabled
  else
    let (bound, gate) :=
      model.other.gate.applyBinding (model.enabledBinding 1) INPUT_CLASS_KEYBOARD WATCHDOG_US
        model.now
    match bound with
    | .ok (.enabled _) =>
        quiet { model with other := { model.other with gate := gate, bound := true } } []
    | _ =>
        { next := some { model with other := { model.other with gate := gate } }
          violations := [.otherBindingFailed]
          cases := [] }

def fireOtherTeardown : Fired :=
  if model.other.lease.state ≠ .active then disabled
  else
    let (revoked, lease) := model.other.lease.revoke
    let (released, gate) := model.other.gate.revoke
    { next := some { model with other := { model.other with lease := lease, gate := gate } }
      violations :=
        complain (! revoked.isOk) .otherRevokeFailed ++
          complain (! released.isOk) .otherGateRevokeFailed
      cases := [] }

/-- An event stamped with this owner's tuple meets the other owner's gate. -/
def fireCrossInject : Fired :=
  if model.other.lease.state ≠ .active then disabled
  else
    let outcome :=
      model.other.gate.authorize (keyEvent model.currentTuple true)
        { value := model.surfaceGeneration } model.now
    { next := some model
      violations :=
        complain
          (outcome.isOk &&
            ! model.other.gate.active.any fun active =>
              decide (active.binding = model.currentTuple))
          .crossInjected
      cases := [.twoOwnersCrossInjection] }

/-! ## One transition -/

/-- `may_fire`: cheap, and true wherever the transition's own guards hold. -/
def mayFire : T → Bool
  | .activate => decide (model.lease.state = .issued)
  | .activateRetryExact =>
      decide (model.lease.resumeGeneration.value = 0) &&
        LeaseState.holding model.lease.state
  | .activateRetryDifferent =>
      LeaseState.holding model.lease.state && decide (.simultaneousActivation ∉ seen)
  | .welcomeCommitted => decide (model.lease.state = .reserved)
  | .postHelloAdmitted =>
      decide (model.lease.state = .active) && ! model.postHelloAdmitted
  | .controlLostClean | .controlLostUnclean => LeaseState.holding model.lease.state
  | .resumeValid =>
      decide (model.lease.state = .suspended) &&
        decide (model.lease.resumeGeneration.value < buckets.maxResumeGeneration)
  | .resumeRetryExact | .resumeRetryDifferent =>
      decide (model.lease.resumeGeneration.value ≠ 0) &&
        LeaseState.holding model.lease.state
  | .resumeStale =>
      decide (model.lease.state = .suspended) &&
        decide (model.lease.resumeGeneration.value ≠ 0) &&
        decide (.staleResumeRejected ∉ seen)
  | .graceExpiry => decide (model.lease.state = .suspended)
  | .leaseRevoke => ! LeaseState.terminal model.lease.state
  | .parentRevoke => decide (model.lease.state = .active)
  | .oldControlRecord =>
      decide (model.lease.state = .active) &&
        decide (model.lease.resumeGeneration.value ≠ 0) &&
        decide (.oldControlRecordIgnored ∉ seen)
  | .laneOpen =>
      decide (model.lease.state = .active) &&
        model.lane.all fun lane => decide (lane.generation < buckets.maxLaneGeneration)
  | .laneDuplicate => model.laneLive && decide (.duplicateLaneBusy ∉ seen)
  | .laneLoss => model.laneLive
  | .laneRetry =>
      model.lane.any fun lane =>
        ! lane.live &&
          (! lane.admittedInput || decide (.laneRetryRefusedAfterInput ∉ seen))
  | .laneStaleRecord =>
      (model.lane.any fun lane => decide (buckets.maxLaneGeneration ≤ lane.generation)) &&
        decide (.oldLaneRecordIgnored ∉ seen)
  | .channelOpen =>
      decide (model.lease.state = .active) && decide (model.channel.phase = .none)
  | .channelDuplicate =>
      model.channel.phase.attached &&
        if model.channel.mediaAdmitted then
          decide (.duplicateChannelRefusedAfterMedia ∉ seen)
        else decide (.duplicateChannelReplayed ∉ seen)
  | .channelAccept => decide (model.channel.phase = .attaching)
  | .channelAcceptConfirmed | .channelAcceptLost =>
      decide (model.channel.phase = .acceptedUnconfirmed)
  | .channelAdvance =>
      decide (model.lease.state = .active) &&
        (decide (model.channel.phase = .established) ||
          decide (model.channel.phase = .lost)) &&
        decide (model.channel.generation < buckets.maxChannelGeneration)
  | .mediaAccept => decide (model.channel.phase = .established)
  | .mediaParseBegin => model.channel.mediaAdmitted && ! model.channel.parsing
  | .mediaParseEnd => model.channel.parsing
  | .flowUpdateBegin =>
      decide (model.channel.phase = .established) && ! model.channel.flowUpdate
  | .flowUpdateComplete => model.channel.flowUpdate
  | .channelLoss => decide (model.channel.phase = .established)
  | .oldTransportMedia =>
      decide (model.channel.phase = .established) &&
        decide (buckets.maxChannelGeneration ≤ model.channel.generation) &&
        decide (.oldChannelMediaIgnored ∉ seen)
  | .bindEnable =>
      decide (model.lease.state = .active) && decide (model.epoch < buckets.maxEpoch)
  | .bindDisable => model.lastBinding.isSome && decide (model.epoch < buckets.maxEpoch)
  | .bindLowerEpoch => decide (buckets.maxEpoch ≤ model.epoch)
  | .bindRetrySame => model.lastBinding.isSome
  | .bindRetryDifferent =>
      model.lastBinding.any fun binding => decide (binding.requestedClasses ≠ 0)
  | .renewSend => model.gate.active.isSome && model.pendingRenewal.isNone
  | .renewDeliver => model.pendingRenewal.isSome
  | .timePass => model.gate.active.isSome && decide (model.deadline ≠ .expired)
  | .watchdogFire => model.gate.active.isSome && decide (model.deadline = .expired)
  | .focusLoss => model.focused
  | .focusGain => ! model.focused
  | .surfaceGenerationChange =>
      decide (model.surfaceGeneration < buckets.maxSurfaceGeneration) &&
        decide (model.epoch ≠ 0)
  | .eventPress => mayEvent true
  | .eventRelease => mayEvent false
  | .eventOldTuple => model.retiredTuple.isSome
  | .eventWrongSurfaceGeneration => model.gate.active.isSome
  | .otherActivate => decide (model.other.lease.state = .issued)
  | .otherBind => decide (model.other.lease.state = .active) && ! model.other.bound
  | .otherTeardown | .crossInject => decide (model.other.lease.state = .active)
where
  mayEvent (pressed : Bool) : Bool :=
    (decide (pressed ≠ model.held) || model.gate.active.isNone) &&
      ! (model.gate.active.isNone && model.retiredTuple.isNone &&
        decide (.inputRejectedBeforeEnable ∈ seen))

/-- The body of `fire` past `may_fire`. -/
def attempt : T → Fired
  | .activate => model.fireActivate sha256
  | .activateRetryExact => model.fireActivateRetryExact sha256
  | .activateRetryDifferent => model.fireActivateRetryDifferent sha256 seen
  | .welcomeCommitted => model.fireWelcomeCommitted
  | .postHelloAdmitted => model.firePostHelloAdmitted
  | .controlLostClean => model.fireControlLostClean
  | .controlLostUnclean => model.fireControlLostUnclean
  | .resumeValid => model.fireResumeValid sha256 buckets
  | .resumeStale => model.fireResumeStale sha256 seen
  | .resumeRetryExact => model.fireResumeRetry sha256 true
  | .resumeRetryDifferent => model.fireResumeRetry sha256 false
  | .graceExpiry => model.fireGraceExpiry
  | .leaseRevoke => model.fireRevoke false
  | .parentRevoke => model.fireRevoke true
  | .oldControlRecord => model.fireOldControlRecord seen
  | .laneOpen => model.fireLaneOpen buckets
  | .laneDuplicate => model.fireLaneDuplicate seen
  | .laneLoss => model.fireLaneLoss
  | .laneRetry => model.fireLaneRetry seen
  | .laneStaleRecord => model.fireLaneStaleRecord seen
  | .channelOpen => model.fireChannelOpen
  | .channelDuplicate => model.fireChannelDuplicate seen
  | .channelAccept => model.fireChannelAccept
  | .channelAcceptConfirmed => model.fireChannelAcceptConfirmed
  | .channelAcceptLost => model.fireChannelAcceptLost
  | .channelAdvance => model.fireChannelAdvance buckets
  | .mediaAccept => model.fireMediaAccept
  | .mediaParseBegin => model.fireMediaParseBegin
  | .mediaParseEnd => model.fireMediaParseEnd
  | .flowUpdateBegin => model.fireFlowUpdateBegin
  | .flowUpdateComplete => model.fireFlowUpdateComplete
  | .channelLoss => model.fireChannelLoss
  | .oldTransportMedia => model.fireOldTransportMedia seen
  | .bindEnable => model.fireBindEnable buckets
  | .bindDisable => model.fireBindDisable buckets
  | .bindLowerEpoch => model.fireBindLowerEpoch
  | .bindRetrySame => model.fireBindRetrySame
  | .bindRetryDifferent => model.fireBindRetryDifferent
  | .renewSend => model.fireRenewSend
  | .renewDeliver => model.fireRenewDeliver
  | .timePass => model.fireTimePass
  | .watchdogFire => model.fireWatchdogFire
  | .focusLoss => model.fireFocusLoss
  | .focusGain => model.fireFocusGain
  | .surfaceGenerationChange => model.fireSurfaceGenerationChange buckets
  | .eventPress => model.fireEvent seen true
  | .eventRelease => model.fireEvent seen false
  | .eventOldTuple => model.fireEventOldTuple
  | .eventWrongSurfaceGeneration => model.fireEventWrongSurfaceGeneration
  | .otherActivate => model.fireOtherActivate sha256
  | .otherBind => model.fireOtherBind
  | .otherTeardown => model.fireOtherTeardown
  | .crossInject => model.fireCrossInject

def fire (kind : T) : Fired :=
  if ! model.mayFire buckets seen kind then disabled else model.attempt sha256 buckets seen kind

/-! ## Invariants -/

/-- `check_invariants`, with the case it covers. -/
def checkInvariants : List Violation × List Case :=
  let terminal := LeaseState.terminal model.lease.state
  (complain (model.laneLive && decide (model.lease.state ≠ .active)) .i1LaneLive ++
    complain (model.gate.active.isSome && ! model.laneLive) .i2LaneDown ++
    complain (model.gate.active.isSome && decide (model.lease.state ≠ .active))
      .i3LeaseNotActive ++
    complain (decide (model.grant.active.isSome ≠ model.gate.active.isSome))
      .i12PresenceDiverged ++
    complain
      (model.held &&
        ! (model.gate.authorize (keyEvent model.currentTuple false)
          { value := model.surfaceGeneration } model.now).isOk &&
        decide (model.deadline ≠ .expired))
      .i5HeldKeyStuck ++
    complain (decide (model.charged = terminal)) .i7Charging ++
    complain
      (decide (model.flow.maximumBodyBytes < model.flow.sentBodyBytes) ||
        decide (model.flow.maximumMediaRecords < model.flow.sentMediaRecords))
      .i8FlowWindow ++
    complain (model.lane.any fun lane => lane.live && decide (lane.generation = 0))
      .i9LaneGenerationZero,
    if ! terminal && decide (model.lease.state = .suspended) && model.charged then
      [.chargedWhileSuspended]
    else [])

end Model

end VividProtocol.Composed

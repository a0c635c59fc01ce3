import Mathlib.Tactic
import VividProtocol.Counters
import VividProtocol.Library.Transition

/-!
# The lease machine

`LeaseMachine` of `lease.rs`: a delegated session credential that is activated
once, may be retried byte for byte until traffic follows, and is resumed once
for each resume generation.  An operation returns its result beside the next
state, since a refused operation may already have written to the machine.
SHA-256 is a parameter.
-/

set_option autoImplicit false

namespace VividProtocol.Lease

open VividProtocol.Library.Transition

inductive CleanupPolicy where
  | immediate
  | suspendOnUncleanLoss
  deriving Repr, DecidableEq

inductive LeaseState where
  | issued
  | reserved
  | active
  | suspended
  | closed
  | revoked
  | expired
  deriving Repr, DecidableEq

structure Attempt where
  attemptId : Bytes 16
  clientNonce : Bytes 32
  helloHash : Bytes 32
  sessionId : UInt64
  serverNonce : Bytes 32
  welcome : List UInt8
  transportLive : Bool
  postHelloAdmitted : Bool
  resumeFrom : Option ResumeGeneration
  deriving DecidableEq

inductive AttemptDecision where
  | fresh (sessionId : UInt64) (serverNonce : Bytes 32) (welcome : List UInt8)
  | exactReplay (sessionId : UInt64) (serverNonce : Bytes 32) (welcome : List UInt8)
  deriving DecidableEq

inductive LeaseTransitionError where
  | authenticationFailed
  | badState
  | staleResumeGeneration
  | exhausted
  deriving Repr, DecidableEq

structure LeaseMachine where
  state : LeaseState
  revision : UInt64
  resumeGeneration : ResumeGeneration
  cleanupPolicy : CleanupPolicy
  disconnectGraceUs : UInt64
  logicalSessionId : Option UInt64
  profileFingerprint : Option (Bytes 32)
  attempt : Option Attempt
  deriving DecidableEq

/-- The arguments that `begin_activation` and `begin_resume` share. -/
structure AttemptRequest where
  attemptId : Bytes 16
  clientNonce : Bytes 32
  helloBytes : List UInt8
  profileFingerprint : Bytes 32
  sessionId : UInt64
  serverNonce : Bytes 32
  welcome : List UInt8
  deriving DecidableEq

def Attempt.exact (sha256 : Sha256) (attempt : Attempt) (request : AttemptRequest) :
    Bool :=
  decide (attempt.attemptId = request.attemptId) &&
    decide (attempt.clientNonce = request.clientNonce) &&
    decide (attempt.helloHash = sha256 request.helloBytes)

/-- The attempt a fresh decision records. -/
def AttemptRequest.attempt (sha256 : Sha256) (request : AttemptRequest)
    (resumeFrom : Option ResumeGeneration) : Attempt :=
  { attemptId := request.attemptId
    clientNonce := request.clientNonce
    helloHash := sha256 request.helloBytes
    sessionId := request.sessionId
    serverNonce := request.serverNonce
    welcome := request.welcome
    transportLive := true
    postHelloAdmitted := false
    resumeFrom := resumeFrom }

namespace LeaseMachine

def new (cleanupPolicy : CleanupPolicy) (disconnectGraceUs : UInt64) : LeaseMachine :=
  { state := .issued
    revision := 1
    resumeGeneration := .zero
    cleanupPolicy := cleanupPolicy
    disconnectGraceUs := disconnectGraceUs
    logicalSessionId := none
    profileFingerprint := none
    attempt := none }

def advanceRevision (machine : LeaseMachine) :
    Except LeaseTransitionError Unit × LeaseMachine :=
  match checkedAdd machine.revision 1 with
  | some revision => (.ok (), { machine with revision := revision })
  | none => (.error .exhausted, machine)

def exactRetry (sha256 : Sha256) (machine : LeaseMachine) (request : AttemptRequest) :
    Except LeaseTransitionError AttemptDecision :=
  match machine.attempt with
  | none => .error .authenticationFailed
  | some attempt =>
      if ! attempt.exact sha256 request then .error .authenticationFailed
      else .ok (.exactReplay attempt.sessionId attempt.serverNonce attempt.welcome)

/-- The end of each retry branch: `exact_retry`, then the attempt's transport
is live.  `exact_retry` succeeds only with an attempt, so the source's `expect`
cannot fail. -/
def retry (sha256 : Sha256) (machine : LeaseMachine) (request : AttemptRequest) :
    Except LeaseTransitionError AttemptDecision × LeaseMachine :=
  match machine.exactRetry sha256 request with
  | .error error => (.error error, machine)
  | .ok decision =>
      (.ok decision,
        { machine with
          attempt := machine.attempt.map fun attempt =>
            { attempt with transportLive := true } })

def beginActivation (sha256 : Sha256) (machine : LeaseMachine)
    (request : AttemptRequest) :
    Except LeaseTransitionError AttemptDecision × LeaseMachine :=
  if request.sessionId = 0 then (.error .badState, machine)
  else if machine.attempt.any fun attempt => attempt.resumeFrom.isSome then
    (.error .authenticationFailed, machine)
  else
    match machine.state with
    | .issued =>
        match { machine with state := LeaseState.reserved }.advanceRevision with
        | (.error error, machine) => (.error error, machine)
        | (.ok (), machine) =>
            (.ok (.fresh request.sessionId request.serverNonce request.welcome),
              { machine with
                logicalSessionId := some request.sessionId
                profileFingerprint := some request.profileFingerprint
                attempt := some (request.attempt sha256 none) })
    | .reserved =>
        if machine.profileFingerprint ≠ some request.profileFingerprint then
          (.error .authenticationFailed, machine)
        else machine.retry sha256 request
    | .active =>
        if machine.profileFingerprint ≠ some request.profileFingerprint then
          (.error .authenticationFailed, machine)
        else if machine.attempt.any fun attempt =>
            ! attempt.transportLive && ! attempt.postHelloAdmitted then
          machine.retry sha256 request
        else (.error .authenticationFailed, machine)
    | _ => (.error .authenticationFailed, machine)

def commitWelcome (machine : LeaseMachine) :
    Except LeaseTransitionError Unit × LeaseMachine :=
  if machine.state ≠ .reserved then (.error .badState, machine)
  else { machine with state := LeaseState.active }.advanceRevision

def admitPostHello (machine : LeaseMachine) :
    Except LeaseTransitionError Unit × LeaseMachine :=
  if machine.state ≠ .active then (.error .badState, machine)
  else
    match machine.attempt with
    | none => (.error .badState, machine)
    | some attempt =>
        (.ok (), { machine with attempt := some { attempt with postHelloAdmitted := true } })

/-- The machine once the lease has ended in `state`, before its revision moves. -/
def cleared (machine : LeaseMachine) (state : LeaseState) : LeaseMachine :=
  { machine with
    state := state
    logicalSessionId := none
    profileFingerprint := none
    attempt := none }

/-- `self.advance_revision()?; Ok(self.state)`. -/
def settle (machine : LeaseMachine) : Except LeaseTransitionError LeaseState × LeaseMachine :=
  match machine.advanceRevision with
  | (.error error, machine) => (.error error, machine)
  | (.ok (), machine) => (.ok machine.state, machine)

def confirmTransportLost (machine : LeaseMachine) (clean : Bool) :
    Except LeaseTransitionError LeaseState × LeaseMachine :=
  if ¬ (machine.state = .reserved ∨ machine.state = .active) then
    (.error .badState, machine)
  else
    let machine :=
      { machine with
        attempt := machine.attempt.map fun attempt =>
          { attempt with transportLive := false } }
    if ! clean && (decide (machine.state = .reserved) ||
        decide (machine.state = .active) &&
          machine.attempt.any fun attempt => ! attempt.postHelloAdmitted) then
      (.ok machine.state, machine)
    else
      if clean || decide (machine.cleanupPolicy = .immediate) ||
          decide (machine.disconnectGraceUs = 0) then
        (machine.cleared .closed).settle
      else
        { machine with state := LeaseState.suspended, attempt := none }.settle

def beginResume (sha256 : Sha256) (machine : LeaseMachine)
    (expectedGeneration : ResumeGeneration) (request : AttemptRequest) :
    Except LeaseTransitionError AttemptDecision × LeaseMachine :=
  if machine.state = .reserved ∨ machine.state = .active then
    if machine.profileFingerprint ≠ some request.profileFingerprint ∨
        machine.logicalSessionId ≠ some request.sessionId then
      (.error .authenticationFailed, machine)
    else if machine.attempt.any fun attempt =>
        decide (attempt.resumeFrom = some expectedGeneration) &&
          ! attempt.postHelloAdmitted &&
          (decide (machine.state = .reserved) || ! attempt.transportLive) then
      machine.retry sha256 request
    else (.error .authenticationFailed, machine)
  else if machine.state ≠ .suspended then (.error .badState, machine)
  else if expectedGeneration ≠ machine.resumeGeneration then
    (.error .staleResumeGeneration, machine)
  else if machine.logicalSessionId ≠ some request.sessionId ∨
      machine.profileFingerprint ≠ some request.profileFingerprint then
    (.error .authenticationFailed, machine)
  else
    match checkedAdd machine.revision 1 with
    | none => (.error .exhausted, machine)
    | some nextRevision =>
        match machine.resumeGeneration.advance with
        | .error _ => (.error .exhausted, machine)
        | .ok nextGeneration =>
            (.ok (.fresh request.sessionId request.serverNonce request.welcome),
              { machine with
                resumeGeneration := nextGeneration
                state := .reserved
                revision := nextRevision
                attempt := some (request.attempt sha256 (some expectedGeneration)) })

/-- `revoke` and `expire` differ only in the state they end in. -/
def endIn (machine : LeaseMachine) (state : LeaseState) :
    Except LeaseTransitionError Unit × LeaseMachine :=
  if machine.state = .closed ∨ machine.state = .revoked ∨ machine.state = .expired then
    (.error .badState, machine)
  else (machine.cleared state).advanceRevision

def revoke (machine : LeaseMachine) : Except LeaseTransitionError Unit × LeaseMachine :=
  machine.endIn .revoked

def expire (machine : LeaseMachine) : Except LeaseTransitionError Unit × LeaseMachine :=
  machine.endIn .expired

end LeaseMachine

/-! ## Runs -/

inductive LeaseOperation where
  | beginActivation (request : AttemptRequest)
  | commitWelcome
  | admitPostHello
  | confirmTransportLost (clean : Bool)
  | beginResume (expectedGeneration : ResumeGeneration) (request : AttemptRequest)
  | revoke
  | expire
  deriving DecidableEq

inductive LeaseOutcome where
  | decided (result : Except LeaseTransitionError AttemptDecision)
  | done (result : Except LeaseTransitionError Unit)
  | settled (result : Except LeaseTransitionError LeaseState)

def LeaseOutcome.succeeded : LeaseOutcome → Bool
  | .decided (.ok _) => true
  | .done (.ok _) => true
  | .settled (.ok _) => true
  | _ => false

def leaseStep (sha256 : Sha256) (machine : LeaseMachine) :
    LeaseOperation → LeaseOutcome × LeaseMachine
  | .beginActivation request =>
      let (result, machine) := machine.beginActivation sha256 request
      (.decided result, machine)
  | .commitWelcome =>
      let (result, machine) := machine.commitWelcome
      (.done result, machine)
  | .admitPostHello =>
      let (result, machine) := machine.admitPostHello
      (.done result, machine)
  | .confirmTransportLost clean =>
      let (result, machine) := machine.confirmTransportLost clean
      (.settled result, machine)
  | .beginResume expectedGeneration request =>
      let (result, machine) := machine.beginResume sha256 expectedGeneration request
      (.decided result, machine)
  | .revoke =>
      let (result, machine) := machine.revoke
      (.done result, machine)
  | .expire =>
      let (result, machine) := machine.expire
      (.done result, machine)

def leaseRuns (sha256 : Sha256) : Machine LeaseMachine LeaseOperation LeaseOutcome :=
  { step := leaseStep sha256 }

abbrev LeaseEvent := Event LeaseMachine LeaseOperation LeaseOutcome

end VividProtocol.Lease

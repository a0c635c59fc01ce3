import Mathlib.Tactic
import VividProtocol.Lease.Machine

/-!
# What one lease operation can do

`Effect` lists every way an operation can end, with the guard it passed and
the machine it leaves.  `leaseStep_effect` says the list is complete, so the
laws of runs need only its cases and never the bodies of the operations.
-/

set_option autoImplicit false

namespace VividProtocol.Lease

def LeaseOperation.request? : LeaseOperation → Option AttemptRequest
  | .beginActivation request => some request
  | .beginResume _ request => some request
  | _ => none

def LeaseMachine.Ended (machine : LeaseMachine) : Prop :=
  machine.state = .closed ∨ machine.state = .revoked ∨ machine.state = .expired

def LeaseMachine.Held (machine : LeaseMachine) : Prop :=
  machine.state = .reserved ∨ machine.state = .active

/-- How `advance_revision` ends: one step on, or exhausted with nothing moved. -/
inductive Bump (revision : UInt64) : Except LeaseTransitionError Unit → UInt64 → Prop where
  | advanced {next : UInt64} (exact : next.toNat = revision.toNat + 1) :
      Bump revision (.ok ()) next
  | exhausted : Bump revision (.error .exhausted) revision

inductive Effect (sha256 : Sha256) (before : LeaseMachine) :
    LeaseOperation → LeaseOutcome → LeaseMachine → Prop where
  | refused {operation : LeaseOperation} {outcome : LeaseOutcome}
      (failed : outcome.succeeded = false) :
      Effect sha256 before operation outcome before
  | activated {request : AttemptRequest} {revision : UInt64}
      (issued : before.state = .issued)
      (exact : revision.toNat = before.revision.toNat + 1) :
      Effect sha256 before (.beginActivation request)
        (.decided (.ok (.fresh request.sessionId request.serverNonce request.welcome)))
        { before with
          state := .reserved
          revision := revision
          logicalSessionId := some request.sessionId
          profileFingerprint := some request.profileFingerprint
          attempt := some (request.attempt sha256 none) }
  | activationExhausted {request : AttemptRequest}
      (issued : before.state = .issued) (full : checkedAdd before.revision 1 = none) :
      Effect sha256 before (.beginActivation request) (.decided (.error .exhausted))
        { before with state := .reserved }
  | replayed {operation : LeaseOperation} {request : AttemptRequest} {attempt : Attempt}
      (asked : operation.request? = some request) (held : before.Held)
      (stored : before.attempt = some attempt)
      (exact : attempt.exact sha256 request = true)
      (quiet : before.state = .active → attempt.postHelloAdmitted = false) :
      Effect sha256 before operation
        (.decided (.ok (.exactReplay attempt.sessionId attempt.serverNonce
          attempt.welcome)))
        { before with attempt := some { attempt with transportLive := true } }
  | committed {result : Except LeaseTransitionError Unit} {revision : UInt64}
      (reserved : before.state = .reserved) (bump : Bump before.revision result revision) :
      Effect sha256 before .commitWelcome (.done result)
        { before with state := .active, revision := revision }
  | admitted {attempt : Attempt} (active : before.state = .active)
      (stored : before.attempt = some attempt) :
      Effect sha256 before .admitPostHello (.done (.ok ()))
        { before with attempt := some { attempt with postHelloAdmitted := true } }
  | detached (held : before.Held) :
      Effect sha256 before (.confirmTransportLost false) (.settled (.ok before.state))
        { before with
          attempt := before.attempt.map fun attempt =>
            { attempt with transportLive := false } }
  | closed {clean : Bool} {result : Except LeaseTransitionError Unit} {revision : UInt64}
      (held : before.Held) (bump : Bump before.revision result revision) :
      Effect sha256 before (.confirmTransportLost clean)
        (.settled (result.map fun _ => .closed))
        { before.cleared .closed with revision := revision }
  | suspended {result : Except LeaseTransitionError Unit} {revision : UInt64}
      (active : before.state = .active) (bump : Bump before.revision result revision) :
      Effect sha256 before (.confirmTransportLost false)
        (.settled (result.map fun _ => .suspended))
        { before with state := .suspended, attempt := none, revision := revision }
  | resumed {request : AttemptRequest} {revision : UInt64}
      {generation : ResumeGeneration} (suspended : before.state = .suspended)
      (session : before.logicalSessionId = some request.sessionId)
      (exact : revision.toNat = before.revision.toNat + 1)
      (next : generation.toNat = before.resumeGeneration.toNat + 1) :
      Effect sha256 before (.beginResume before.resumeGeneration request)
        (.decided (.ok (.fresh request.sessionId request.serverNonce request.welcome)))
        { before with
          resumeGeneration := generation
          state := .reserved
          revision := revision
          attempt := some (request.attempt sha256 (some before.resumeGeneration)) }
  | ended {operation : LeaseOperation} {state : LeaseState}
      {result : Except LeaseTransitionError Unit} {revision : UInt64}
      (finish : operation = .revoke ∧ state = .revoked ∨
        operation = .expire ∧ state = .expired)
      (live : ¬ before.Ended) (bump : Bump before.revision result revision) :
      Effect sha256 before operation (.done result)
        { before.cleared state with revision := revision }

variable (sha256 : Sha256) (machine : LeaseMachine)

theorem advanceRevision_bump :
    ∃ revision, Bump machine.revision machine.advanceRevision.1 revision ∧
      machine.advanceRevision.2 = { machine with revision := revision } := by
  unfold LeaseMachine.advanceRevision
  cases sum : checkedAdd machine.revision 1 with
  | none => exact ⟨machine.revision, .exhausted, rfl⟩
  | some revision => exact ⟨revision, .advanced (checkedAdd_eq_some.mp sum), rfl⟩

/-- A retry either refuses or replays the stored attempt. -/
theorem retry_cases (request : AttemptRequest) :
    (∃ error, machine.retry sha256 request = (.error error, machine)) ∨
    ∃ attempt, machine.attempt = some attempt ∧
      attempt.exact sha256 request = true ∧
      machine.retry sha256 request =
        (.ok (.exactReplay attempt.sessionId attempt.serverNonce attempt.welcome),
          { machine with attempt := some { attempt with transportLive := true } }) := by
  cases stored : machine.attempt with
  | none =>
      left
      exact ⟨.authenticationFailed, by
        simp [LeaseMachine.retry, LeaseMachine.exactRetry, stored]⟩
  | some attempt =>
      cases exact : attempt.exact sha256 request with
      | false =>
          left
          exact ⟨.authenticationFailed, by
            simp [LeaseMachine.retry, LeaseMachine.exactRetry, stored, exact]⟩
      | true =>
          right
          exact ⟨attempt, rfl, exact, by
            simp [LeaseMachine.retry, LeaseMachine.exactRetry, stored, exact]⟩

theorem retry_effect (operation : LeaseOperation) (request : AttemptRequest)
    (asked : operation.request? = some request) (held : machine.Held)
    (quiet : ∀ attempt, machine.attempt = some attempt → machine.state = .active →
      attempt.postHelloAdmitted = false) :
    Effect sha256 machine operation (.decided (machine.retry sha256 request).1)
      (machine.retry sha256 request).2 := by
  rcases retry_cases sha256 machine request with ⟨error, ends⟩ | ⟨attempt, stored, exact, ends⟩
  · rw [ends]
    exact .refused rfl
  · rw [ends]
    exact .replayed asked held stored exact (quiet attempt stored)

theorem beginActivation_effect (request : AttemptRequest) :
    Effect sha256 machine (.beginActivation request)
      (.decided (machine.beginActivation sha256 request).1)
      (machine.beginActivation sha256 request).2 := by
  unfold LeaseMachine.beginActivation
  by_cases unnamed : request.sessionId = 0
  · rw [if_pos unnamed]
    exact .refused rfl
  rw [if_neg unnamed]
  by_cases resumed : (machine.attempt.any fun attempt => attempt.resumeFrom.isSome) = true
  · rw [if_pos resumed]
    exact .refused rfl
  rw [if_neg resumed]
  cases phase : machine.state with
  | issued =>
      cases sum : checkedAdd machine.revision 1 with
      | none =>
          simp only [LeaseMachine.advanceRevision, sum]
          exact .activationExhausted phase sum
      | some revision =>
          simp only [LeaseMachine.advanceRevision, sum]
          exact .activated phase (checkedAdd_eq_some.mp sum)
  | reserved =>
      dsimp only
      split_ifs with fingerprint
      · exact .refused rfl
      · apply retry_effect sha256 machine _ request rfl (Or.inl phase)
        intro attempt _ active
        rw [phase] at active
        cases active
  | active =>
      dsimp only
      split_ifs with fingerprint retryable
      · exact .refused rfl
      · apply retry_effect sha256 machine _ request rfl (Or.inr phase)
        intro attempt stored _
        rw [stored] at retryable
        simp only [Option.any_some, Bool.and_eq_true, Bool.not_eq_true'] at retryable
        exact retryable.2
      · exact .refused rfl
  | suspended => exact .refused rfl
  | closed => exact .refused rfl
  | revoked => exact .refused rfl
  | expired => exact .refused rfl

theorem commitWelcome_effect :
    Effect sha256 machine .commitWelcome (.done machine.commitWelcome.1)
      machine.commitWelcome.2 := by
  unfold LeaseMachine.commitWelcome
  split_ifs with reserved
  · exact .refused rfl
  · obtain ⟨revision, bump, next⟩ :=
      advanceRevision_bump { machine with state := LeaseState.active }
    rw [next]
    exact .committed (not_not.mp reserved) bump

theorem admitPostHello_effect :
    Effect sha256 machine .admitPostHello (.done machine.admitPostHello.1)
      machine.admitPostHello.2 := by
  unfold LeaseMachine.admitPostHello
  split_ifs with active
  · exact .refused rfl
  · cases stored : machine.attempt with
    | none => exact .refused rfl
    | some attempt => exact .admitted (not_not.mp active) stored

theorem settle_cases :
    ∃ result revision, Bump machine.revision result revision ∧
      machine.settle = (result.map fun _ => machine.state,
        { machine with revision := revision }) := by
  unfold LeaseMachine.settle LeaseMachine.advanceRevision
  cases sum : checkedAdd machine.revision 1 with
  | none => exact ⟨.error .exhausted, machine.revision, .exhausted, rfl⟩
  | some revision =>
      exact ⟨.ok (), revision, .advanced (checkedAdd_eq_some.mp sum), rfl⟩

theorem confirmTransportLost_effect (clean : Bool) :
    Effect sha256 machine (.confirmTransportLost clean)
      (.settled (machine.confirmTransportLost clean).1)
      (machine.confirmTransportLost clean).2 := by
  unfold LeaseMachine.confirmTransportLost
  by_cases held : machine.state = .reserved ∨ machine.state = .active
  · rw [if_neg (not_not.mpr held)]
    dsimp only
    split_ifs with early ends
    · have dirty : clean = false := by
        cases clean with
        | false => rfl
        | true => simp at early
      subst dirty
      exact .detached held
    · obtain ⟨result, revision, bump, settled⟩ :=
        settle_cases (machine.cleared .closed)
      have ends := @Effect.closed sha256 machine clean result revision held bump
      have written : (machine.cleared .closed).settle = _ := settled
      unfold LeaseMachine.cleared at written ends ⊢
      dsimp only at written ends ⊢
      rw [written]
      exact ends
    · -- Neither branch closed the lease, so the loss was unclean and no early
      -- return applied: the machine was active.
      have dirty : clean = false := by
        cases clean with
        | false => rfl
        | true => simp at ends
      subst dirty
      have active : machine.state = .active := by
        rcases held with reserved | active
        · simp [reserved] at early
        · exact active
      obtain ⟨result, revision, bump, settled⟩ := settle_cases
        { machine with state := LeaseState.suspended, attempt := none }
      rw [settled]
      exact .suspended active bump
  · rw [if_pos held]
    exact .refused rfl

theorem beginResume_effect (expectedGeneration : ResumeGeneration)
    (request : AttemptRequest) :
    Effect sha256 machine (.beginResume expectedGeneration request)
      (.decided (machine.beginResume sha256 expectedGeneration request).1)
      (machine.beginResume sha256 expectedGeneration request).2 := by
  unfold LeaseMachine.beginResume
  by_cases held : machine.state = .reserved ∨ machine.state = .active
  · rw [if_pos held]
    split_ifs with mismatch retryable
    · exact .refused rfl
    · apply retry_effect sha256 machine _ request rfl held
      intro attempt stored _
      rw [stored] at retryable
      simp only [Option.any_some, Bool.and_eq_true, Bool.not_eq_true'] at retryable
      exact retryable.1.2
    · exact .refused rfl
  · rw [if_neg held]
    split_ifs with suspended stale mismatch
    · exact .refused rfl
    · exact .refused rfl
    · exact .refused rfl
    · have session := not_not.mp (not_or.mp mismatch).1
      cases sum : checkedAdd machine.revision 1 with
      | none => exact .refused rfl
      | some revision =>
          cases next : machine.resumeGeneration.advance with
          | error error => exact .refused rfl
          | ok generation =>
              have current := not_not.mp stale
              subst current
              exact .resumed (not_not.mp suspended) session
                (checkedAdd_eq_some.mp sum) (Counter.advance_eq_ok.mp next)

theorem endIn_effect (operation : LeaseOperation) (state : LeaseState)
    (finish : operation = .revoke ∧ state = .revoked ∨
      operation = .expire ∧ state = .expired) :
    Effect sha256 machine operation (.done (machine.endIn state).1)
      (machine.endIn state).2 := by
  unfold LeaseMachine.endIn
  split_ifs with finished
  · exact .refused rfl
  · obtain ⟨revision, bump, next⟩ := advanceRevision_bump (machine.cleared state)
    rw [next]
    exact .ended finish finished bump

theorem leaseStep_effect (operation : LeaseOperation) :
    Effect sha256 machine operation (leaseStep sha256 machine operation).1
      (leaseStep sha256 machine operation).2 := by
  cases operation with
  | beginActivation request => exact beginActivation_effect sha256 machine request
  | commitWelcome => exact commitWelcome_effect sha256 machine
  | admitPostHello => exact admitPostHello_effect sha256 machine
  | confirmTransportLost clean => exact confirmTransportLost_effect sha256 machine clean
  | beginResume expectedGeneration request =>
      exact beginResume_effect sha256 machine expectedGeneration request
  | revoke => exact endIn_effect sha256 machine .revoke .revoked (Or.inl ⟨rfl, rfl⟩)
  | expire => exact endIn_effect sha256 machine .expire .expired (Or.inr ⟨rfl, rfl⟩)

end VividProtocol.Lease

import Mathlib.Tactic
import VividProtocol.Composed.Model
import VividProtocol.Lease.Invariant

/-!
# The lease of the composed model

The model asks for one session with one attempt, so its lease machine is a
function of the phase, the resume generation and two flags, and its revision is
counted by them.  Each operation is computed on that form once.
-/

set_option autoImplicit false

namespace VividProtocol.Composed

open VividProtocol.Lease

variable {sha256 : Sha256} {state : LeaseState} {revision : UInt64}
  {generation : ResumeGeneration} {origin : Option ResumeGeneration}
  {admitted lost charged : Bool}

/-- The attempt behind a session that was opened or resumed. -/
def heldAttempt (sha256 : Sha256) (origin : Option ResumeGeneration) (admitted lost : Bool) :
    Attempt :=
  { (attemptRequest ATTEMPT).attempt sha256 origin with
    transportLive := ! lost
    postHelloAdmitted := admitted }

/-- A lease that holds the model's session. -/
def sessionLease (state : LeaseState) (revision : UInt64) (generation : ResumeGeneration)
    (attempt : Option Attempt) : LeaseMachine :=
  { state := state
    revision := revision
    resumeGeneration := generation
    cleanupPolicy := .suspendOnUncleanLoss
    disconnectGraceUs := 5000000
    logicalSessionId := some SESSION
    profileFingerprint := some FINGERPRINT
    attempt := attempt }

/-- An attempt resumes from the generation before the lease's own, and the
first one from none. -/
def Follows (origin : Option ResumeGeneration) (generation : ResumeGeneration) : Prop :=
  match origin with
  | none => generation = .zero
  | some previous => generation.toNat = previous.toNat + 1

/-- The lease, the two flags of its control transport and its reservation. -/
inductive LeasePhase (sha256 : Sha256) : LeaseMachine → Bool → Bool → Bool → Prop where
  | issued : LeasePhase sha256 issuedLease false false true
  | reserved {revision : UInt64} {generation : ResumeGeneration}
      {origin : Option ResumeGeneration} {lost : Bool}
      (counted : revision.toNat = 3 * generation.toNat + 2)
      (follows : Follows origin generation) :
      LeasePhase sha256
        (sessionLease .reserved revision generation
          (some (heldAttempt sha256 origin false lost)))
        false lost true
  | active {revision : UInt64} {generation : ResumeGeneration}
      {origin : Option ResumeGeneration} {admitted lost : Bool}
      (counted : revision.toNat = 3 * generation.toNat + 3)
      (follows : Follows origin generation) :
      LeasePhase sha256
        (sessionLease .active revision generation
          (some (heldAttempt sha256 origin admitted lost)))
        admitted lost true
  | suspended {revision : UInt64} {generation : ResumeGeneration} {admitted lost : Bool}
      (counted : revision.toNat = 3 * generation.toNat + 4) :
      LeasePhase sha256 (sessionLease .suspended revision generation none) admitted lost true
  | ended {machine : LeaseMachine} {admitted lost : Bool} (ended : machine.Ended) :
      LeasePhase sha256 machine admitted lost false

section

variable {machine : LeaseMachine} (phase : LeasePhase sha256 machine admitted lost charged)
include phase

theorem LeasePhase.of_issued (issued : machine.state = .issued) :
    machine = issuedLease ∧ admitted = false ∧ lost = false ∧ charged = true := by
  cases phase with
  | issued => exact ⟨rfl, rfl, rfl, rfl⟩
  | reserved counted follows => cases issued
  | active counted follows => cases issued
  | suspended counted => cases issued
  | ended ended =>
      have known := ended.state issued
      simp at known

theorem LeasePhase.of_reserved (reserved : machine.state = .reserved) :
    ∃ revision generation origin,
      machine = sessionLease .reserved revision generation
        (some (heldAttempt sha256 origin false lost)) ∧
      revision.toNat = 3 * generation.toNat + 2 ∧ Follows origin generation ∧
      admitted = false ∧ charged = true := by
  cases phase with
  | issued => cases reserved
  | reserved counted follows => exact ⟨_, _, _, rfl, counted, follows, rfl, rfl⟩
  | active counted follows => cases reserved
  | suspended counted => cases reserved
  | ended ended =>
      have known := ended.state reserved
      simp at known

theorem LeasePhase.of_active (active : machine.state = .active) :
    ∃ revision generation origin,
      machine = sessionLease .active revision generation
        (some (heldAttempt sha256 origin admitted lost)) ∧
      revision.toNat = 3 * generation.toNat + 3 ∧ Follows origin generation ∧
      charged = true := by
  cases phase with
  | issued => cases active
  | reserved counted follows => cases active
  | active counted follows => exact ⟨_, _, _, rfl, counted, follows, rfl⟩
  | suspended counted => cases active
  | ended ended =>
      have known := ended.state active
      simp at known

theorem LeasePhase.of_suspended (suspended : machine.state = .suspended) :
    ∃ revision generation, machine = sessionLease .suspended revision generation none ∧
      revision.toNat = 3 * generation.toNat + 4 ∧ charged = true := by
  cases phase with
  | issued => cases suspended
  | reserved counted follows => cases suspended
  | active counted follows => cases suspended
  | suspended counted => exact ⟨_, _, rfl, counted, rfl⟩
  | ended ended =>
      have known := ended.state suspended
      simp at known

/-- The reservation is charged exactly until the lease ends. -/
theorem LeasePhase.charged_iff : charged = true ↔ ¬ machine.Ended := by
  unfold LeaseMachine.Ended
  cases phase with
  | issued => decide
  | reserved counted follows => simp [sessionLease]
  | active counted follows => simp [sessionLease]
  | suspended counted => simp [sessionLease]
  | ended ended => simp [show machine.state = .closed ∨ _ ∨ _ from ended]

/-- The revision of a lease that has not ended leaves room for what its resume
generation leaves room for. -/
theorem LeasePhase.room (live : ¬ machine.Ended)
    (few : 3 * machine.resumeGeneration.toNat + 6 < 2 ^ 64) :
    machine.revision.toNat + 1 < 2 ^ 64 := by
  cases phase with
  | issued => decide
  | reserved counted follows =>
      unfold sessionLease at few ⊢
      dsimp only at few ⊢
      omega
  | active counted follows =>
      unfold sessionLease at few ⊢
      dsimp only at few ⊢
      omega
  | suspended counted =>
      unfold sessionLease at few ⊢
      dsimp only at few ⊢
      omega
  | ended ended => exact absurd ended live

end

theorem heldAttempt_exact (sha256 : Sha256) (origin : Option ResumeGeneration)
    (admitted lost : Bool) (attemptId : Bytes 16) :
    (heldAttempt sha256 origin admitted lost).exact sha256 (attemptRequest attemptId) =
      decide (ATTEMPT = attemptId) := by
  unfold Attempt.exact heldAttempt attemptRequest AttemptRequest.attempt
  simp

theorem attempts_differ : ATTEMPT ≠ ATTEMPT_OTHER := by decide

theorem session_ne_zero : SESSION ≠ 0 := by decide

/-- A revision that has room moves by one. -/
theorem advanceRevision_room {machine : LeaseMachine} (room : machine.revision.toNat + 1 < 2 ^ 64) :
    machine.advanceRevision = (.ok (), { machine with revision := machine.revision + 1 }) := by
  unfold LeaseMachine.advanceRevision checkedAdd
  rw [show (1 : UInt64).toNat = 1 from rfl, if_pos room]

theorem toNat_succ {word : UInt64} (room : word.toNat + 1 < 2 ^ 64) :
    (word + 1).toNat = word.toNat + 1 := by
  rw [UInt64.toNat_add, show (1 : UInt64).toNat = 1 from rfl, Nat.mod_eq_of_lt room]

/-! ## Activation -/

theorem beginActivation_issued (sha256 : Sha256) :
    issuedLease.beginActivation sha256 (attemptRequest ATTEMPT) =
      (.ok (.fresh SESSION SERVER_NONCE WELCOME_BODY),
        sessionLease .reserved 2 .zero (some (heldAttempt sha256 none false false))) := rfl

/-- The retry of the session's own attempt, wherever the machine takes one. -/
theorem retry_held (sha256 : Sha256) (state : LeaseState) (revision : UInt64)
    (generation : ResumeGeneration) (origin : Option ResumeGeneration) (admitted lost : Bool) :
    (sessionLease state revision generation
        (some (heldAttempt sha256 origin admitted lost))).retry sha256 (attemptRequest ATTEMPT) =
      (.ok (.exactReplay SESSION SERVER_NONCE WELCOME_BODY),
        sessionLease state revision generation
          (some (heldAttempt sha256 origin admitted false))) := by
  have exact := heldAttempt_exact sha256 origin admitted lost ATTEMPT
  rw [decide_eq_true rfl] at exact
  simp only [LeaseMachine.retry, LeaseMachine.exactRetry, sessionLease, exact]
  rfl

theorem retry_other (sha256 : Sha256) (state : LeaseState) (revision : UInt64)
    (generation : ResumeGeneration) (origin : Option ResumeGeneration) (admitted lost : Bool) :
    (sessionLease state revision generation
        (some (heldAttempt sha256 origin admitted lost))).retry sha256
          (attemptRequest ATTEMPT_OTHER) =
      (.error .authenticationFailed,
        sessionLease state revision generation
          (some (heldAttempt sha256 origin admitted lost))) := by
  have exact := heldAttempt_exact sha256 origin admitted lost ATTEMPT_OTHER
  rw [decide_eq_false attempts_differ] at exact
  simp only [LeaseMachine.retry, LeaseMachine.exactRetry, sessionLease, exact]
  rfl

/-- A held lease takes an activation attempt again before traffic followed,
while it is reserved or its transport is gone, and refuses it otherwise. -/
theorem beginActivation_held (sha256 : Sha256) (held : state = .reserved ∨ state = .active)
    (revision : UInt64) (generation : ResumeGeneration) (origin : Option ResumeGeneration)
    (admitted lost : Bool) (attemptId : Bytes 16) :
    (sessionLease state revision generation
        (some (heldAttempt sha256 origin admitted lost))).beginActivation sha256
          (attemptRequest attemptId) =
      if origin.isSome then
        (.error .authenticationFailed,
          sessionLease state revision generation
            (some (heldAttempt sha256 origin admitted lost)))
      else if state = .reserved ∨ lost = true ∧ admitted = false then
        (sessionLease state revision generation
          (some (heldAttempt sha256 origin admitted lost))).retry sha256
            (attemptRequest attemptId)
      else
        (.error .authenticationFailed,
          sessionLease state revision generation
            (some (heldAttempt sha256 origin admitted lost))) := by
  unfold LeaseMachine.beginActivation
  rw [if_neg (show (attemptRequest attemptId).sessionId ≠ 0 from session_ne_zero)]
  cases origin with
  | some previous => rfl
  | none => rcases held with rfl | rfl <;> cases lost <;> cases admitted <;> rfl

/-! ## Welcome -/

theorem commitWelcome_reserved {attempt : Option Attempt}
    (room : revision.toNat + 1 < 2 ^ 64) :
    (sessionLease .reserved revision generation attempt).commitWelcome =
      (.ok (), sessionLease .active (revision + 1) generation attempt) := by
  unfold LeaseMachine.commitWelcome
  rw [if_neg (by simp [sessionLease]), advanceRevision_room room]
  rfl

theorem settle_room {machine : LeaseMachine} (room : machine.revision.toNat + 1 < 2 ^ 64) :
    machine.settle =
      (.ok machine.state, { machine with revision := machine.revision + 1 }) := by
  unfold LeaseMachine.settle
  rw [advanceRevision_room room]

/-! ## Loss, resumption and the end -/

theorem confirmTransportLost_clean (attempt : Option Attempt)
    (held : state = .reserved ∨ state = .active) (room : revision.toNat + 1 < 2 ^ 64) :
    ∃ machine : LeaseMachine,
      (sessionLease state revision generation attempt).confirmTransportLost true =
          (.ok .closed, machine) ∧
        machine.state = .closed ∧ machine.resumeGeneration = generation := by
  refine ⟨{ (sessionLease state revision generation attempt).cleared .closed with
    revision := revision + 1 }, ?_, rfl, rfl⟩
  have settled : ((sessionLease state revision generation none).cleared .closed).settle = _ :=
    settle_room room
  rcases held with rfl | rfl <;> exact settled

/-- Before admitted traffic an unclean loss only marks the transport. -/
theorem confirmTransportLost_retryable (sha256 : Sha256)
    (held : state = .reserved ∨ state = .active ∧ admitted = false) (revision : UInt64)
    (generation : ResumeGeneration) (origin : Option ResumeGeneration) (lost : Bool) :
    (sessionLease state revision generation
        (some (heldAttempt sha256 origin admitted lost))).confirmTransportLost false =
      (.ok state,
        sessionLease state revision generation
          (some (heldAttempt sha256 origin admitted true))) := by
  rcases held with rfl | ⟨rfl, rfl⟩ <;> rfl

theorem confirmTransportLost_admitted (sha256 : Sha256)
    (room : revision.toNat + 1 < 2 ^ 64) (generation : ResumeGeneration)
    (origin : Option ResumeGeneration) (lost : Bool) :
    (sessionLease .active revision generation
        (some (heldAttempt sha256 origin true lost))).confirmTransportLost false =
      (.ok .suspended, sessionLease .suspended (revision + 1) generation none) := by
  have settled : (sessionLease .suspended revision generation none).settle =
      (.ok .suspended, sessionLease .suspended (revision + 1) generation none) :=
    settle_room room
  exact settled

theorem beginResume_suspended (sha256 : Sha256) (attempt : Option Attempt)
    (room : revision.toNat + 1 < 2 ^ 64) {next : ResumeGeneration}
    (follows : next.toNat = generation.toNat + 1) :
    (sessionLease .suspended revision generation attempt).beginResume sha256 generation
        (attemptRequest ATTEMPT) =
      (.ok (.fresh SESSION SERVER_NONCE WELCOME_BODY),
        sessionLease .reserved (revision + 1) next
          (some (heldAttempt sha256 (some generation) false false))) := by
  have advanced : generation.advance = .ok next := Counter.advance_eq_ok.mpr follows
  have counted : checkedAdd revision 1 = some (revision + 1) :=
    checkedAdd_eq_some.mpr (toNat_succ room)
  unfold LeaseMachine.beginResume
  rw [if_neg (by simp [sessionLease]), if_neg (by simp [sessionLease]),
    if_neg (by simp [sessionLease]), if_neg (by simp [sessionLease, attemptRequest])]
  simp only [sessionLease, counted, advanced]
  rfl

/-- A suspended lease takes no other generation. -/
theorem beginResume_stale (sha256 : Sha256) (attempt : Option Attempt) (request : AttemptRequest)
    {stale : ResumeGeneration} (different : stale ≠ generation) :
    (sessionLease .suspended revision generation attempt).beginResume sha256 stale request =
      (.error .staleResumeGeneration,
        sessionLease .suspended revision generation attempt) := by
  unfold LeaseMachine.beginResume
  rw [if_neg (by simp [sessionLease]), if_neg (by simp [sessionLease])]
  exact if_pos different

/-- A held lease takes its own resumption again before traffic followed, while
it is reserved or its transport is gone, and refuses it otherwise. -/
theorem beginResume_held (sha256 : Sha256) (held : state = .reserved ∨ state = .active)
    (revision : UInt64) (generation : ResumeGeneration) {previous : ResumeGeneration}
    (admitted lost : Bool) (attemptId : Bytes 16) :
    (sessionLease state revision generation
        (some (heldAttempt sha256 (some previous) admitted lost))).beginResume sha256 previous
          (attemptRequest attemptId) =
      if admitted = false ∧ (state = .reserved ∨ lost = true) then
        (sessionLease state revision generation
          (some (heldAttempt sha256 (some previous) admitted lost))).retry sha256
            (attemptRequest attemptId)
      else
        (.error .authenticationFailed,
          sessionLease state revision generation
            (some (heldAttempt sha256 (some previous) admitted lost))) := by
  unfold LeaseMachine.beginResume
  refine (if_pos held).trans ?_
  rw [if_neg (by simp [sessionLease, attemptRequest])]
  rcases held with rfl | rfl <;> cases lost <;> cases admitted <;>
    simp [sessionLease, heldAttempt, AttemptRequest.attempt]

/-- `revoke` and `expire` of a lease that has not ended. -/
theorem endIn_room {machine : LeaseMachine}
    (ends : state = .closed ∨ state = .revoked ∨ state = .expired)
    (live : ¬ machine.Ended) (room : machine.revision.toNat + 1 < 2 ^ 64) :
    ∃ after : LeaseMachine, machine.endIn state = (.ok (), after) ∧ after.Ended ∧
      after.resumeGeneration = machine.resumeGeneration := by
  refine ⟨{ machine.cleared state with revision := machine.revision + 1 }, ?_, ends, rfl⟩
  unfold LeaseMachine.endIn
  exact (if_neg live).trans (advanceRevision_room room)

end VividProtocol.Composed

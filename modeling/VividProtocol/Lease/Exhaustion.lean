import Mathlib.Tactic
import VividProtocol.Lease.Effect

/-!
# Refused lease operations

`begin_resume` finds both of its counters before it writes.  The other
operations that move the lease write its next state first, and
`advance_revision` may still refuse after that: a machine whose revision is
exhausted is left written.
-/

set_option autoImplicit false

namespace VividProtocol.Lease

open VividProtocol.Library.Transition

/-- No revision follows. -/
def LeaseMachine.Exhausted (machine : LeaseMachine) : Prop :=
  machine.revision.toNat + 1 = 2 ^ 64

/-- The calls that pass their guards and write a new state before the revision is
advanced. -/
def LeaseMachine.Writes (machine : LeaseMachine) : LeaseOperation → Prop
  | .beginActivation request =>
      machine.state = .issued ∧ request.sessionId ≠ 0 ∧
        ∀ attempt, machine.attempt = some attempt → attempt.resumeFrom = none
  | .commitWelcome => machine.state = .reserved
  | .confirmTransportLost clean =>
      machine.Held ∧ (clean = true ∨ machine.state = .active ∧
        ∀ attempt, machine.attempt = some attempt → attempt.postHelloAdmitted = true)
  | .revoke => ¬ machine.Ended
  | .expire => ¬ machine.Ended
  | .admitPostHello => False
  | .beginResume _ _ => False

variable (sha256 : Sha256) (machine : LeaseMachine)

/-- A call that changes the machine only if it succeeds. -/
def Atomic (operation : LeaseOperation) : Prop :=
  (leaseStep sha256 machine operation).1.succeeded = false →
    (leaseStep sha256 machine operation).2 = machine

/-- A call that moves the state and then needs the next revision. -/
def Advances (operation : LeaseOperation) : Prop :=
  ∃ written : LeaseMachine, written.state ≠ machine.state ∧
    ((∃ revision, checkedAdd machine.revision 1 = some revision) →
      (leaseStep sha256 machine operation).1.succeeded = true) ∧
    (checkedAdd machine.revision 1 = none →
      (leaseStep sha256 machine operation).1.succeeded = false ∧
        (leaseStep sha256 machine operation).2 = written)

variable {sha256 machine}

theorem checkedAdd_one_eq_none {value : UInt64} :
    checkedAdd value 1 = none ↔ value.toNat + 1 = 2 ^ 64 := by
  have bound := value.toNat_lt
  have one : (1 : UInt64).toNat = 1 := rfl
  unfold checkedAdd
  split_ifs with fits
  · simp only [false_iff]
    omega
  · simp only [true_iff]
    omega

theorem Advances.atomic_iff {operation : LeaseOperation}
    (advances : Advances sha256 machine operation) :
    Atomic sha256 machine operation ↔ ¬ machine.Exhausted := by
  obtain ⟨written, moved, succeeds, refused⟩ := advances
  unfold LeaseMachine.Exhausted
  rw [← checkedAdd_one_eq_none]
  cases sum : checkedAdd machine.revision 1 with
  | none =>
      obtain ⟨failed, after⟩ := refused sum
      constructor
      · intro atomic
        have same := atomic failed
        rw [after] at same
        exact absurd (congrArg LeaseMachine.state same) moved
      · intro impossible
        exact absurd rfl impossible
  | some revision =>
      have success := succeeds ⟨revision, sum⟩
      constructor
      · intro _ impossible
        cases impossible
      · intro _ failed
        rw [success] at failed
        cases failed

/-! ## Each operation -/

theorem retry_atomic (request : AttemptRequest) (error : LeaseTransitionError)
    (refused : (machine.retry sha256 request).1 = .error error) :
    (machine.retry sha256 request).2 = machine := by
  rcases retry_cases sha256 machine request with ⟨reason, ends⟩ | ⟨attempt, -, -, ends⟩
  · rw [ends]
  · rw [ends] at refused
    cases refused

theorem LeaseOutcome.decided_failed {result : Except LeaseTransitionError AttemptDecision}
    (failed : (LeaseOutcome.decided result).succeeded = false) :
    ∃ error, result = .error error := by
  cases result with
  | error error => exact ⟨error, rfl⟩
  | ok decision => cases failed

theorem settle_succeeded (written : LeaseMachine) :
    (LeaseOutcome.settled written.settle.1).succeeded =
      (checkedAdd written.revision 1).isSome := by
  unfold LeaseMachine.settle LeaseMachine.advanceRevision
  cases checkedAdd written.revision 1 <;> rfl

theorem settle_exhausted (written : LeaseMachine)
    (full : checkedAdd written.revision 1 = none) : written.settle.2 = written := by
  unfold LeaseMachine.settle LeaseMachine.advanceRevision
  rw [full]

theorem advanceRevision_succeeded (written : LeaseMachine) :
    (LeaseOutcome.done written.advanceRevision.1).succeeded =
      (checkedAdd written.revision 1).isSome := by
  unfold LeaseMachine.advanceRevision
  cases checkedAdd written.revision 1 <;> rfl

theorem advanceRevision_exhausted (written : LeaseMachine)
    (full : checkedAdd written.revision 1 = none) : written.advanceRevision.2 = written := by
  unfold LeaseMachine.advanceRevision
  rw [full]

/-- A call that ends in `advance_revision` on a machine it has written. -/
theorem advances_of_advanceRevision {operation : LeaseOperation} (written : LeaseMachine)
    (moved : written.state ≠ machine.state) (kept : written.revision = machine.revision)
    (answer : leaseStep sha256 machine operation =
      (.done written.advanceRevision.1, written.advanceRevision.2)) :
    Advances sha256 machine operation := by
  refine ⟨written, moved, ?_, ?_⟩
  · rintro ⟨revision, sum⟩
    rw [answer, advanceRevision_succeeded, kept, sum]
    rfl
  · intro full
    rw [← kept] at full
    rw [answer, advanceRevision_succeeded, advanceRevision_exhausted written full, full]
    exact ⟨rfl, rfl⟩

theorem advances_of_settle {operation : LeaseOperation} (written : LeaseMachine)
    (moved : written.state ≠ machine.state) (kept : written.revision = machine.revision)
    (answer : leaseStep sha256 machine operation =
      (.settled written.settle.1, written.settle.2)) :
    Advances sha256 machine operation := by
  refine ⟨written, moved, ?_, ?_⟩
  · rintro ⟨revision, sum⟩
    rw [answer, settle_succeeded, kept, sum]
    rfl
  · intro full
    rw [← kept] at full
    rw [answer, settle_succeeded, settle_exhausted written full, full]
    exact ⟨rfl, rfl⟩

theorem resumed_iff :
    (machine.attempt.any fun attempt => attempt.resumeFrom.isSome) = true ↔
      ¬ ∀ attempt, machine.attempt = some attempt → attempt.resumeFrom = none := by
  cases machine.attempt with
  | none => simp
  | some attempt => cases resumed : attempt.resumeFrom <;> simp [resumed]

theorem beginActivation_advances (request : AttemptRequest)
    (writes : machine.Writes (.beginActivation request)) :
    Advances sha256 machine (.beginActivation request) := by
  obtain ⟨issued, named, fresh⟩ := writes
  have first : (machine.attempt.any fun attempt => attempt.resumeFrom.isSome) ≠ true :=
    fun resumed => resumed_iff.mp resumed fresh
  refine ⟨{ machine with state := .reserved }, by simp [issued], ?_, ?_⟩
  · rintro ⟨revision, sum⟩
    show (LeaseOutcome.decided (machine.beginActivation sha256 request).1).succeeded = true
    unfold LeaseMachine.beginActivation
    rw [if_neg named, if_neg first, issued]
    simp only [LeaseMachine.advanceRevision, sum]
    rfl
  · intro full
    have answer : machine.beginActivation sha256 request =
        (.error .exhausted, { machine with state := .reserved }) := by
      unfold LeaseMachine.beginActivation
      rw [if_neg named, if_neg first, issued]
      simp only [LeaseMachine.advanceRevision, full]
    show (LeaseOutcome.decided (machine.beginActivation sha256 request).1).succeeded = false ∧
      (machine.beginActivation sha256 request).2 = _
    rw [answer]
    exact ⟨rfl, rfl⟩

theorem beginActivation_atomic (request : AttemptRequest)
    (guarded : ¬ machine.Writes (.beginActivation request)) :
    Atomic sha256 machine (.beginActivation request) := by
  intro failed
  change (LeaseOutcome.decided (machine.beginActivation sha256 request).1).succeeded = false
    at failed
  obtain ⟨error, refused⟩ := LeaseOutcome.decided_failed failed
  show (machine.beginActivation sha256 request).2 = machine
  unfold LeaseMachine.beginActivation at refused ⊢
  by_cases unnamed : request.sessionId = 0
  · rw [if_pos unnamed]
  rw [if_neg unnamed] at refused ⊢
  by_cases resumed : (machine.attempt.any fun attempt => attempt.resumeFrom.isSome) = true
  · rw [if_pos resumed]
  rw [if_neg resumed] at refused ⊢
  cases phase : machine.state with
  | issued =>
      rw [resumed_iff, not_not] at resumed
      exact absurd ⟨phase, unnamed, resumed⟩ guarded
  | reserved =>
      rw [phase] at refused
      dsimp only at refused ⊢
      split_ifs at refused ⊢ with fingerprint
      · rfl
      · exact retry_atomic request error refused
  | active =>
      rw [phase] at refused
      dsimp only at refused ⊢
      split_ifs at refused ⊢ with fingerprint retryable
      · rfl
      · exact retry_atomic request error refused
      · rfl
  | suspended => rfl
  | closed => rfl
  | revoked => rfl
  | expired => rfl

theorem commitWelcome_advances (reserved : machine.state = .reserved) :
    Advances sha256 machine .commitWelcome := by
  apply advances_of_advanceRevision { machine with state := .active }
  · simp [reserved]
  · rfl
  · show (LeaseOutcome.done machine.commitWelcome.1, machine.commitWelcome.2) = _
    unfold LeaseMachine.commitWelcome
    rw [if_neg (not_not.mpr reserved)]

theorem commitWelcome_atomic (early : machine.state ≠ .reserved) :
    Atomic sha256 machine .commitWelcome := by
  intro _
  show machine.commitWelcome.2 = machine
  unfold LeaseMachine.commitWelcome
  rw [if_pos early]

theorem admitPostHello_atomic : Atomic sha256 machine .admitPostHello := by
  intro failed
  change (LeaseOutcome.done machine.admitPostHello.1).succeeded = false at failed
  show machine.admitPostHello.2 = machine
  unfold LeaseMachine.admitPostHello at failed ⊢
  split_ifs at failed ⊢ with inactive
  · rfl
  · cases stored : machine.attempt with
    | none => rfl
    | some attempt =>
        rw [stored] at failed
        cases failed

theorem beginResume_atomic (expectedGeneration : ResumeGeneration) (request : AttemptRequest) :
    Atomic sha256 machine (.beginResume expectedGeneration request) := by
  intro failed
  change (LeaseOutcome.decided
    (machine.beginResume sha256 expectedGeneration request).1).succeeded = false at failed
  obtain ⟨error, refused⟩ := LeaseOutcome.decided_failed failed
  show (machine.beginResume sha256 expectedGeneration request).2 = machine
  unfold LeaseMachine.beginResume at refused ⊢
  by_cases held : machine.state = .reserved ∨ machine.state = .active
  · rw [if_pos held] at refused ⊢
    split_ifs at refused ⊢ with mismatch retryable
    · rfl
    · exact retry_atomic request error refused
    · rfl
  · rw [if_neg held] at refused ⊢
    split_ifs at refused ⊢ with suspended stale mismatch
    · rfl
    · rfl
    · rfl
    · cases sum : checkedAdd machine.revision 1 with
      | none => rfl
      | some revision =>
          cases next : machine.resumeGeneration.advance with
          | error error => rfl
          | ok generation =>
              rw [sum] at refused
              simp only [next] at refused
              cases refused

/-- An early return is what an unclean loss ends in while the client may retry. -/
theorem early_iff (held : machine.Held) (clean : Bool) :
    (! clean && (decide (machine.state = .reserved) || decide (machine.state = .active) &&
        (machine.attempt.map fun attempt => { attempt with transportLive := false }).any
          fun attempt => ! attempt.postHelloAdmitted)) = true ↔
      ¬ machine.Writes (.confirmTransportLost clean) := by
  unfold LeaseMachine.Writes
  rcases held with reserved | active
  · cases clean <;> simp [LeaseMachine.Held, reserved]
  · cases machine.attempt with
    | none => cases clean <;> simp [LeaseMachine.Held, active]
    | some attempt =>
        cases clean <;> cases admitted : attempt.postHelloAdmitted <;>
          simp [LeaseMachine.Held, active, admitted]

theorem confirmTransportLost_advances (clean : Bool)
    (writes : machine.Writes (.confirmTransportLost clean)) :
    Advances sha256 machine (.confirmTransportLost clean) := by
  have held : machine.state = .reserved ∨ machine.state = .active := writes.1
  have late := mt (early_iff held clean).mp (not_not.mpr writes)
  have answer : machine.confirmTransportLost clean =
      if clean || decide (machine.cleanupPolicy = .immediate) ||
          decide (machine.disconnectGraceUs = 0) then
        (machine.cleared .closed).settle
      else { machine with state := LeaseState.suspended, attempt := none }.settle := by
    unfold LeaseMachine.confirmTransportLost
    rw [if_neg (not_not.mpr held)]
    dsimp only
    rw [if_neg late]
    rfl
  by_cases ends : (clean || decide (machine.cleanupPolicy = .immediate) ||
      decide (machine.disconnectGraceUs = 0)) = true
  · apply advances_of_settle (machine.cleared .closed)
    · rcases held with reserved | active
      · simp [LeaseMachine.cleared, reserved]
      · simp [LeaseMachine.cleared, active]
    · rfl
    · show (LeaseOutcome.settled (machine.confirmTransportLost clean).1,
        (machine.confirmTransportLost clean).2) = _
      rw [answer, if_pos ends]
  · apply advances_of_settle { machine with state := LeaseState.suspended, attempt := none }
    · rcases held with reserved | active
      · simp [reserved]
      · simp [active]
    · rfl
    · show (LeaseOutcome.settled (machine.confirmTransportLost clean).1,
        (machine.confirmTransportLost clean).2) = _
      rw [answer, if_neg ends]

theorem confirmTransportLost_atomic (clean : Bool)
    (guarded : ¬ machine.Writes (.confirmTransportLost clean)) :
    Atomic sha256 machine (.confirmTransportLost clean) := by
  intro failed
  change (LeaseOutcome.settled (machine.confirmTransportLost clean).1).succeeded = false at failed
  show (machine.confirmTransportLost clean).2 = machine
  unfold LeaseMachine.confirmTransportLost at failed ⊢
  by_cases held : machine.state = .reserved ∨ machine.state = .active
  · -- The early return succeeds.
    have early := (early_iff held clean).mpr guarded
    rw [if_neg (not_not.mpr held)] at failed
    dsimp only at failed
    rw [if_pos early] at failed
    cases failed
  · rw [if_pos held]

theorem endIn_advances {operation : LeaseOperation} {state : LeaseState}
    (ended : ∀ machine : LeaseMachine, machine.state = state → machine.Ended)
    (answer : leaseStep sha256 machine operation =
      (.done (machine.endIn state).1, (machine.endIn state).2))
    (live : ¬ machine.Ended) : Advances sha256 machine operation := by
  apply advances_of_advanceRevision (machine.cleared state)
  · exact fun same => live (ended machine same.symm)
  · rfl
  · unfold LeaseMachine.Ended at live
    rw [answer, LeaseMachine.endIn, if_neg live]

theorem endIn_atomic {operation : LeaseOperation} {state : LeaseState}
    (answer : leaseStep sha256 machine operation =
      (.done (machine.endIn state).1, (machine.endIn state).2))
    (finished : machine.Ended) : Atomic sha256 machine operation := by
  intro _
  unfold LeaseMachine.Ended at finished
  rw [answer, LeaseMachine.endIn, if_pos finished]

/-! ## Every operation -/

variable (sha256 machine)

/-- A refused operation leaves the machine as it was, unless it passed its guards
and found no next revision. -/
theorem lease_operations_atomic_iff (operation : LeaseOperation) :
    ((leaseStep sha256 machine operation).1.succeeded = false →
        (leaseStep sha256 machine operation).2 = machine) ↔
      ¬ (machine.Exhausted ∧ machine.Writes operation) := by
  -- A call that writes is atomic exactly with a revision left, any other call always.
  have settled : (machine.Writes operation → Advances sha256 machine operation) ∧
      (¬ machine.Writes operation → Atomic sha256 machine operation) := by
    cases operation with
    | beginActivation request =>
        exact ⟨beginActivation_advances request, beginActivation_atomic request⟩
    | commitWelcome => exact ⟨commitWelcome_advances, commitWelcome_atomic⟩
    | admitPostHello => exact ⟨False.elim, fun _ => admitPostHello_atomic⟩
    | confirmTransportLost clean =>
        exact ⟨confirmTransportLost_advances clean, confirmTransportLost_atomic clean⟩
    | beginResume expectedGeneration request =>
        exact ⟨False.elim, fun _ => beginResume_atomic expectedGeneration request⟩
    | revoke =>
        exact ⟨endIn_advances (fun _ same => Or.inr (Or.inl same)) rfl,
          fun finished => endIn_atomic rfl (not_not.mp finished)⟩
    | expire =>
        exact ⟨endIn_advances (fun _ same => Or.inr (Or.inr same)) rfl,
          fun finished => endIn_atomic rfl (not_not.mp finished)⟩
  by_cases writes : machine.Writes operation
  · rw [and_iff_left writes]
    exact (settled.1 writes).atomic_iff
  · simp only [writes, and_false, not_false_eq_true, iff_true]
    exact settled.2 writes

/-! ## The last revision -/

section LastRevision

variable (request : AttemptRequest)

/-- A lease that has traffic. -/
def usedLease (revision : UInt64) (generation : ResumeGeneration)
    (resumeFrom : Option ResumeGeneration) : LeaseMachine :=
  { state := .active
    revision := revision
    resumeGeneration := generation
    cleanupPolicy := .suspendOnUncleanLoss
    disconnectGraceUs := 1
    logicalSessionId := some request.sessionId
    profileFingerprint := some request.profileFingerprint
    attempt := some { request.attempt sha256 resumeFrom with postHelloAdmitted := true } }

/-- The calls of one more resume. -/
def resumeOnce (generation : ResumeGeneration) : List LeaseOperation :=
  [.confirmTransportLost false, .beginResume generation request, .commitWelcome, .admitPostHello]

theorem usedLease_resumeOnce {revision lost resumed welcomed : UInt64}
    {generation next : ResumeGeneration} (resumeFrom : Option ResumeGeneration)
    (first : checkedAdd revision 1 = some lost) (second : checkedAdd lost 1 = some resumed)
    (third : checkedAdd resumed 1 = some welcomed) (advanced : generation.advance = .ok next) :
    (leaseRuns sha256).final (usedLease sha256 request revision generation resumeFrom)
        (resumeOnce request generation) =
      usedLease sha256 request welcomed next (some generation) := by
  simp [Machine.final, leaseRuns, leaseStep, resumeOnce, usedLease,
    LeaseMachine.confirmTransportLost, LeaseMachine.settle, LeaseMachine.advanceRevision,
    LeaseMachine.beginResume, LeaseMachine.commitWelcome, LeaseMachine.admitPostHello,
    AttemptRequest.attempt, first, second, third, advanced]

theorem exists_word {value : Nat} (fits : value < 2 ^ 64) : ∃ word : UInt64, word.toNat = value :=
  ⟨UInt64.ofNat value, UInt64.toNat_ofNat_of_lt' fits⟩

theorem exists_resumeFrom {resumes : Nat} (fits : resumes < 2 ^ 64) :
    ∃ resumeFrom : Option ResumeGeneration,
      (resumeFrom.elim 0 fun earlier => earlier.toNat + 1) = resumes := by
  cases resumes with
  | zero => exact ⟨none, rfl⟩
  | succ earlier =>
      obtain ⟨word, exact⟩ := exists_word (Nat.lt_of_succ_lt fits)
      exact ⟨some ⟨word⟩, congrArg Nat.succ exact⟩

/-- A lease that keeps being resumed gets to every third revision. -/
theorem usedLease_reached (named : request.sessionId ≠ 0) (resumes : Nat) :
    ∀ (revision : UInt64) (generation : ResumeGeneration) (resumeFrom : Option ResumeGeneration),
      revision.toNat = 3 * resumes + 3 → generation.toNat = resumes →
      (resumeFrom.elim 0 fun earlier => earlier.toNat + 1) = resumes →
        ∃ operations, (leaseRuns sha256).final (.new .suspendOnUncleanLoss 1) operations =
          usedLease sha256 request revision generation resumeFrom := by
  have one : (1 : UInt64).toNat = 1 := rfl
  induction resumes with
  | zero =>
      intro revision generation resumeFrom third zeroth fresh
      obtain rfl : revision = 3 := UInt64.toNat_inj.mp third
      obtain rfl : generation = .zero := Counter.toNat_inj.mp zeroth
      obtain rfl : resumeFrom = none := by
        cases resumeFrom with
        | none => rfl
        | some earlier => cases fresh
      refine ⟨[.beginActivation request, .commitWelcome, .admitPostHello], ?_⟩
      have reserved : checkedAdd 1 1 = some 2 := rfl
      have welcomed : checkedAdd 2 1 = some 3 := rfl
      simp [Machine.final, leaseRuns, leaseStep, usedLease, LeaseMachine.new,
        LeaseMachine.beginActivation, LeaseMachine.advanceRevision, LeaseMachine.commitWelcome,
        LeaseMachine.admitPostHello, AttemptRequest.attempt, named, reserved, welcomed]
  | succ resumes before =>
      intro revision generation resumeFrom third counted resumed
      have bound : revision.toNat < 2 ^ 64 := revision.toNat_lt
      obtain ⟨current, at_current⟩ := exists_word (show 3 * resumes + 3 < 2 ^ 64 by omega)
      obtain ⟨lost, at_lost⟩ := exists_word (show 3 * resumes + 4 < 2 ^ 64 by omega)
      obtain ⟨reserved, at_reserved⟩ := exists_word (show 3 * resumes + 5 < 2 ^ 64 by omega)
      cases resumeFrom with
      | none => cases resumed
      | some earlier =>
          have prior : earlier.toNat = resumes := Nat.succ.inj resumed
          obtain ⟨original, known⟩ := exists_resumeFrom (show resumes < 2 ^ 64 by omega)
          obtain ⟨operations, reached⟩ := before current earlier original at_current prior known
          refine ⟨operations ++ resumeOnce request earlier, ?_⟩
          rw [Machine.final_append, reached]
          apply usedLease_resumeOnce
          · exact checkedAdd_eq_some.mpr (by rw [at_lost, at_current, one])
          · exact checkedAdd_eq_some.mpr (by rw [at_reserved, at_lost, one])
          · exact checkedAdd_eq_some.mpr (by rw [third, at_reserved, one]; rfl)
          · exact Counter.advance_eq_ok.mpr (by rw [counted, prior])

end LastRevision

/-- An attempt of session 1. -/
def firstAttempt : AttemptRequest :=
  { attemptId := Vector.replicate 16 1
    clientNonce := Vector.replicate 32 2
    helloBytes := []
    profileFingerprint := Vector.replicate 32 3
    sessionId := 1
    serverNonce := Vector.replicate 32 4
    welcome := [] }

/-- An active lease at the last revision. -/
def lastRevision : LeaseMachine :=
  usedLease (fun _ => Vector.replicate 32 0) firstAttempt ⟨BitVec.allOnes 64⟩
    ⟨6148914691236517204⟩ (some ⟨6148914691236517203⟩)

theorem lastRevision_reached :
    ∃ operations, (leaseRuns fun _ => Vector.replicate 32 0).final (.new .suspendOnUncleanLoss 1)
      operations = lastRevision :=
  usedLease_reached _ firstAttempt (by decide) 6148914691236517204 _ _ _ rfl rfl rfl

/-- Revoking it fails, and leaves it revoked. -/
theorem lease_operations_not_atomic :
    ¬ ∀ (sha256 : Sha256) (machine : LeaseMachine) (operation : LeaseOperation),
      (leaseStep sha256 machine operation).1.succeeded = false →
        (leaseStep sha256 machine operation).2 = machine := by
  intro atomic
  have same := atomic (fun _ => Vector.replicate 32 0) lastRevision .revoke (by decide)
  exact absurd (congrArg LeaseMachine.state same) (by decide)

end VividProtocol.Lease

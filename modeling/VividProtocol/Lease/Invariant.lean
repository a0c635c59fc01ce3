import Mathlib.Tactic
import VividProtocol.Lease.Effect

/-!
# The reachable lease states

Which of the session, the fingerprint and the attempt are present is a
function of the state, in every state a run can reach, including the runs that
exhaust a counter.
-/

set_option autoImplicit false

namespace VividProtocol.Lease

open VividProtocol.Library.Transition

/-- What each lease state says about the optional parts of the machine. -/
structure LeaseMachine.Coherent (machine : LeaseMachine) : Prop where
  held : machine.Held → ∃ attempt session fingerprint,
    machine.attempt = some attempt ∧ machine.logicalSessionId = some session ∧
    machine.profileFingerprint = some fingerprint ∧ attempt.sessionId = session
  suspended : machine.state = .suspended → machine.attempt = none ∧
    machine.logicalSessionId.isSome ∧ machine.profileFingerprint.isSome
  empty : machine.state = .issued ∨ machine.Ended → machine.attempt = none ∧
    machine.logicalSessionId = none ∧ machine.profileFingerprint = none
  admitted : ∀ attempt, machine.attempt = some attempt →
    attempt.postHelloAdmitted = true → machine.state = .active

/-- An issued lease still has its first revision, so activation cannot exhaust
it half-way. -/
structure LeaseMachine.Invariant (machine : LeaseMachine) : Prop
    extends machine.Coherent where
  first : machine.state = .issued → machine.revision = 1

theorem LeaseMachine.Ended.state {machine : LeaseMachine} (ended : machine.Ended)
    {state : LeaseState} (known : machine.state = state) :
    state = .closed ∨ state = .revoked ∨ state = .expired :=
  known ▸ ended

/-- A lease that holds or suspends a session is neither issued nor ended. -/
theorem not_empty_of_live {machine : LeaseMachine}
    (live : machine.Held ∨ machine.state = .suspended) :
    ¬ (machine.state = .issued ∨ machine.Ended) := by
  intro empty
  rcases live with (known | known) | known
  all_goals
    rcases empty with issued | ended
    · rw [known] at issued
      cases issued
    · exact absurd (ended.state known) (by decide)

theorem invariant_new (cleanupPolicy : CleanupPolicy) (disconnectGraceUs : UInt64) :
    (LeaseMachine.new cleanupPolicy disconnectGraceUs).Invariant where
  held := by
    rintro (reserved | active)
    · cases reserved
    · cases active
  suspended := by
    intro suspended
    cases suspended
  empty := fun _ => ⟨rfl, rfl, rfl⟩
  admitted := by
    intro attempt stored
    cases stored
  first := fun _ => rfl

theorem not_exhausted_first {machine : LeaseMachine} (first : machine.revision = 1)
    (full : checkedAdd machine.revision 1 = none) : False := by
  rw [first] at full
  revert full
  decide

variable {sha256 : Sha256} {before after : LeaseMachine} {operation : LeaseOperation}
  {outcome : LeaseOutcome}

theorem LeaseMachine.Invariant.stored_session (invariant : before.Invariant) (held : before.Held)
    {attempt : Attempt} (stored : before.attempt = some attempt) :
    ∃ fingerprint, before.logicalSessionId = some attempt.sessionId ∧
      before.profileFingerprint = some fingerprint := by
  obtain ⟨other, session, fingerprint, isStored, isSession, isFingerprint, same⟩ :=
    invariant.held held
  have isSame := Option.some.inj (stored.symm.trans isStored)
  subst isSame
  rw [same]
  exact ⟨fingerprint, isSession, isFingerprint⟩

/-- Marking the stored attempt keeps the invariant, as long as only an active
lease is marked as followed by traffic. -/
theorem LeaseMachine.Invariant.with_attempt (invariant : before.Invariant) (held : before.Held)
    {attempt marked : Attempt} (stored : before.attempt = some attempt)
    (same : marked.sessionId = attempt.sessionId)
    (active : marked.postHelloAdmitted = true → before.state = .active) :
    ({ before with attempt := some marked }).Invariant := by
  obtain ⟨fingerprint, isSession, isFingerprint⟩ :=
    invariant.stored_session held stored
  exact
    { held := fun _ => ⟨_, _, _, rfl, isSession, isFingerprint, same⟩
      suspended := by
        intro suspended
        rcases held with reserved | active
        · exact absurd (reserved.symm.trans suspended) (by decide)
        · exact absurd (active.symm.trans suspended) (by decide)
      empty := by
        intro empty
        have absent := (invariant.empty empty).1
        rw [stored] at absent
        cases absent
      admitted := by
        intro other isMarked admitted
        cases isMarked
        exact active admitted
      first := invariant.first }

/-- A lease that has ended keeps nothing, whatever its revision. -/
theorem cleared_invariant (machine : LeaseMachine) {state : LeaseState} (revision : UInt64)
    (ends : state = .closed ∨ state = .revoked ∨ state = .expired) :
    ({ machine.cleared state with revision := revision }).Invariant where
  held := by
    rintro (reserved | active)
    · rcases ends with rfl | rfl | rfl <;> cases reserved
    · rcases ends with rfl | rfl | rfl <;> cases active
  suspended := by
    intro suspended
    rcases ends with rfl | rfl | rfl <;> cases suspended
  empty := fun _ => ⟨rfl, rfl, rfl⟩
  admitted := by
    intro attempt stored
    cases stored
  first := by
    intro issued
    rcases ends with rfl | rfl | rfl <;> cases issued

theorem Effect.preserves_invariant (effect : Effect sha256 before operation outcome after)
    (invariant : before.Invariant) : after.Invariant := by
  cases effect with
  | refused failed => exact invariant
  | activated issued exact =>
      exact
        { held := fun _ => ⟨_, _, _, rfl, rfl, rfl, rfl⟩
          suspended := by intro suspended; cases suspended
          empty := fun empty => absurd empty (not_empty_of_live (Or.inl (Or.inl rfl)))
          admitted := by
            intro attempt stored admitted
            cases stored
            cases admitted
          first := by intro issued; cases issued }
  | activationExhausted issued full =>
      exact False.elim (not_exhausted_first (invariant.first issued) full)
  | replayed asked held stored exact quiet =>
      refine invariant.with_attempt held stored rfl ?_
      intro admitted
      exact invariant.admitted _ stored admitted
  | committed reserved bump =>
      obtain ⟨attempt, session, fingerprint, stored, isSession, isFingerprint, same⟩ :=
        invariant.held (Or.inl reserved)
      exact
        { held := fun _ => ⟨_, _, _, stored, isSession, isFingerprint, same⟩
          suspended := by intro suspended; cases suspended
          empty := fun empty => absurd empty (not_empty_of_live (Or.inl (Or.inr rfl)))
          admitted := fun _ _ _ => rfl
          first := by intro issued; cases issued }
  | admitted active stored =>
      exact invariant.with_attempt (Or.inr active) stored rfl fun _ => active
  | detached held =>
      obtain ⟨attempt, -, -, stored, -⟩ := invariant.held held
      rw [stored, Option.map_some]
      refine invariant.with_attempt held stored rfl ?_
      intro admitted
      exact invariant.admitted _ stored admitted
  | closed held bump => exact cleared_invariant before _ (Or.inl rfl)
  | suspended active bump =>
      obtain ⟨attempt, session, fingerprint, -, isSession, isFingerprint, -⟩ :=
        invariant.held (Or.inr active)
      exact
        { held := by rintro (reserved | active) <;> contradiction
          suspended := fun _ => ⟨rfl, Option.isSome_of_eq_some isSession,
            Option.isSome_of_eq_some isFingerprint⟩
          empty := fun empty => absurd empty (not_empty_of_live (Or.inr rfl))
          admitted := by intro attempt stored; cases stored
          first := by intro issued; cases issued }
  | resumed suspended session exact next =>
      obtain ⟨-, -, fingerprint⟩ := invariant.suspended suspended
      obtain ⟨fingerprint, isFingerprint⟩ := Option.isSome_iff_exists.mp fingerprint
      exact
        { held := fun _ => ⟨_, _, _, rfl, session, isFingerprint, rfl⟩
          suspended := by intro suspended; cases suspended
          empty := fun empty => absurd empty (not_empty_of_live (Or.inl (Or.inl rfl)))
          admitted := by
            intro attempt stored admitted
            cases stored
            cases admitted
          first := by intro issued; cases issued }
  | ended finish live bump =>
      rcases finish with ⟨-, rfl⟩ | ⟨-, rfl⟩
      · exact cleared_invariant before _ (Or.inr (Or.inl rfl))
      · exact cleared_invariant before _ (Or.inr (Or.inr rfl))

/-- The lease laws hold in every state a run reaches. -/
theorem invariant_reachable (sha256 : Sha256) (cleanupPolicy : CleanupPolicy)
    (disconnectGraceUs : UInt64) (operations : List LeaseOperation) :
    ((leaseRuns sha256).final (.new cleanupPolicy disconnectGraceUs)
      operations).Invariant := by
  apply (leaseRuns sha256).invariant_final (invariant_new cleanupPolicy disconnectGraceUs)
  intro machine operation invariant
  exact (leaseStep_effect sha256 machine operation).preserves_invariant invariant

/-- Nothing leaves an ended lease: every operation is refused and writes nothing. -/
theorem Effect.absorbed (effect : Effect sha256 before operation outcome after)
    (finished : before.Ended) : outcome.succeeded = false ∧ after = before := by
  have notHeld : ¬ before.Held := by
    intro held
    exact not_empty_of_live (Or.inl held) (Or.inr finished)
  cases effect with
  | refused failed => exact ⟨failed, rfl⟩
  | activated issued exact => exact absurd (finished.state issued) (by decide)
  | activationExhausted issued full => exact absurd (finished.state issued) (by decide)
  | replayed asked held stored exact quiet => exact absurd held notHeld
  | committed reserved bump => exact absurd (Or.inl reserved) notHeld
  | admitted active stored => exact absurd (Or.inr active) notHeld
  | detached held => exact absurd held notHeld
  | closed held bump => exact absurd held notHeld
  | suspended active bump => exact absurd (Or.inr active) notHeld
  | resumed suspended session exact next =>
      exact absurd (finished.state suspended) (by decide)
  | ended finish live bump => exact absurd finished live

theorem ended_run_absorbed (machine : LeaseMachine) (finished : machine.Ended)
    (later : List LeaseOperation) :
    (leaseRuns sha256).final machine later = machine ∧
      ∀ event ∈ (leaseRuns sha256).history machine later,
        event.output.succeeded = false := by
  induction later with
  | nil => simp
  | cons operation later ih =>
      obtain ⟨refused, same⟩ :=
        (leaseStep_effect sha256 machine operation).absorbed finished
      have still : ((leaseRuns sha256).step machine operation).2 = machine := same
      simp only [Machine.final, Machine.history, still]
      refine ⟨ih.1, ?_⟩
      intro event inside
      rcases List.mem_cons.mp inside with rfl | inside
      · exact refused
      · exact ih.2 event inside

/-- A successful operation moves the revision exactly when it moves the state,
and then by one. -/
def RevisionFollowsState (before after : LeaseMachine) : Prop :=
  (after.revision ≠ before.revision ↔ after.state ≠ before.state) ∧
    (after.state ≠ before.state → after.revision.toNat = before.revision.toNat + 1)

theorem revisionFollowsState_of_same (state : after.state = before.state)
    (revision : after.revision = before.revision) : RevisionFollowsState before after := by
  refine ⟨?_, ?_⟩
  · simp [state, revision]
  · intro moved
    exact absurd state moved

theorem revisionFollowsState_of_bump {result : Except LeaseTransitionError Unit}
    (state : after.state ≠ before.state) (bump : Bump before.revision result after.revision)
    (success : result = .ok ()) : RevisionFollowsState before after := by
  subst success
  cases bump with
  | advanced exact =>
      refine ⟨?_, fun _ => exact⟩
      refine ⟨fun _ => state, fun _ same => ?_⟩
      rw [same] at exact
      omega

theorem Bump.ok_of_map {state : LeaseState} {revision next : UInt64}
    {result : Except LeaseTransitionError Unit} (bump : Bump revision result next)
    (success : (LeaseOutcome.settled (result.map fun _ => state)).succeeded = true) :
    result = .ok () := by
  cases bump with
  | advanced exact => rfl
  | exhausted => cases success

theorem Bump.ok_of_done {revision next : UInt64}
    {result : Except LeaseTransitionError Unit} (bump : Bump revision result next)
    (success : (LeaseOutcome.done result).succeeded = true) : result = .ok () := by
  cases bump with
  | advanced exact => rfl
  | exhausted => cases success

theorem Effect.revision_follows_state
    (effect : Effect sha256 before operation outcome after)
    (success : outcome.succeeded = true) : RevisionFollowsState before after := by
  cases effect with
  | refused failed =>
      rw [failed] at success
      cases success
  | activated issued exact =>
      apply revisionFollowsState_of_bump _ (Bump.advanced exact) rfl
      simp [issued]
  | activationExhausted issued full => cases success
  | replayed asked held stored exact quiet => exact revisionFollowsState_of_same rfl rfl
  | committed reserved bump =>
      apply revisionFollowsState_of_bump _ bump (bump.ok_of_done success)
      simp [reserved]
  | admitted active stored => exact revisionFollowsState_of_same rfl rfl
  | detached held => exact revisionFollowsState_of_same rfl rfl
  | closed held bump =>
      apply revisionFollowsState_of_bump _ bump (bump.ok_of_map success)
      rcases held with reserved | active
      · simp [LeaseMachine.cleared, reserved]
      · simp [LeaseMachine.cleared, active]
  | suspended active bump =>
      apply revisionFollowsState_of_bump _ bump (bump.ok_of_map success)
      simp [active]
  | resumed suspended session exact next =>
      apply revisionFollowsState_of_bump _ (Bump.advanced exact) rfl
      simp [suspended]
  | ended finish live bump =>
      apply revisionFollowsState_of_bump _ bump (bump.ok_of_done success)
      intro same
      apply live
      rcases finish with ⟨-, rfl⟩ | ⟨-, rfl⟩
      · exact Or.inr (Or.inl same.symm)
      · exact Or.inr (Or.inr same.symm)

/-- In every reachable state the optional parts are as the state says, an ended
lease absorbs every later run, and the revision counts state changes. -/
theorem lease_reachable_laws (sha256 : Sha256) (cleanupPolicy : CleanupPolicy)
    (disconnectGraceUs : UInt64) (operations : List LeaseOperation) :
    let machine := (leaseRuns sha256).final (.new cleanupPolicy disconnectGraceUs)
      operations
    machine.Coherent ∧
      (machine.Ended → ∀ later,
        (leaseRuns sha256).final machine later = machine ∧
          ∀ event ∈ (leaseRuns sha256).history machine later,
            event.output.succeeded = false) ∧
      ∀ operation, (leaseStep sha256 machine operation).1.succeeded = true →
        RevisionFollowsState machine (leaseStep sha256 machine operation).2 := by
  intro machine
  have invariant : machine.Invariant :=
    invariant_reachable sha256 cleanupPolicy disconnectGraceUs operations
  refine ⟨invariant.toCoherent, ?_, ?_⟩
  · intro finished later
    exact ended_run_absorbed machine finished later
  · intro operation success
    exact (leaseStep_effect sha256 machine operation).revision_follows_state success

end VividProtocol.Lease

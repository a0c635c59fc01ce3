import Mathlib.Tactic
import VividProtocol.Delegation.Context

/-!
# Refused context operations

Each operation of `ContextState` writes its ledger or its lifecycle and then
advances the revision.  At the last revision that second step fails, and what
was written stays written.
-/

set_option autoImplicit false

namespace VividProtocol.Delegation

def ContextOutput.failed : ContextOutput → Prop
  | .reserved result => ∃ error, result = .error error
  | .done result => ∃ error, result = .error error

/-- What a refused call must leave alone. -/
structure Untouched (before after : ContextState) : Prop where
  reservations : after.reservations = before.reservations
  revision : after.revision = before.revision
  lifecycle : after.lifecycle = before.lifecycle

theorem untouched_self (context : ContextState) : Untouched context context :=
  ⟨rfl, rfl, rfl⟩

/-- The calls that pass their guards and write something before the revision is
advanced. -/
def ContextState.Writes (context : ContextState) : ContextInput → Prop
  | .reserveChild definition policy =>
      context.lifecycle = .active ∧ definition.parentContextId = context.contextId ∧
        context.operationClasses &&& OP_DELEGATE ≠ 0 ∧
        context.reservations.Takes definition.requestedContract policy
  | .releaseChild contract => context.reservations.Returns contract
  | .revoke => context.lifecycle = .active

/-! ## The ledger -/

variable {ledger : ReservationLedger}

theorem add_moves {left right total : UInt64} (sum : checkedAdd left right = some total) :
    total ≠ left ↔ right ≠ 0 := by
  have exact := checkedAdd_eq_some.mp sum
  rw [not_iff_not, ← UInt64.toNat_inj, ← UInt64.toNat_inj]
  have zero : (0 : UInt64).toNat = 0 := rfl
  omega

theorem sub_moves {left right rest : UInt64} (difference : checkedSub left right = some rest) :
    rest ≠ left ↔ right ≠ 0 := by
  have exact := checkedSub_eq_some.mp difference
  rw [not_iff_not, ← UInt64.toNat_inj, ← UInt64.toNat_inj]
  have zero : (0 : UInt64).toNat = 0 := rfl
  omega

/-- A reservation is refused, or moves the ledger exactly when it takes something. -/
theorem reserve_takes (requested policy : ResourceContract) :
    ((∃ error, ledger.reserve requested policy = (.error error, ledger)) ∧
        ¬ ledger.Takes requested policy) ∨
      ∃ reserved, ledger.reserve requested policy =
          (.ok (ledger.effective requested policy), { ledger with reserved := reserved }) ∧
        (reserved ≠ ledger.reserved ↔ ledger.Takes requested policy) := by
  unfold ReservationLedger.Takes
  cases combined : combine checkedAdd ledger.reserved
      (ledger.effective requested policy).values with
  | none =>
      refine Or.inl ⟨⟨.overflow, ?_⟩, ?_⟩
      · unfold ReservationLedger.reserve
        dsimp only
        rw [← ReservationLedger.effective, combined]
      · rintro ⟨room, -⟩
        obtain ⟨i, full⟩ := combine_eq_none combined
        rw [checkedAdd, if_pos (room i)] at full
        cases full
  | some reserved =>
      have sums := combine_eq_some.mp combined
      refine Or.inr ⟨reserved, ?_, ?_⟩
      · unfold ReservationLedger.reserve
        dsimp only
        rw [← ReservationLedger.effective, combined]
      · have room (i : Fin RESOURCE_COUNT) : ledger.reserved[i].toNat +
            (ledger.effective requested policy).values[i].toNat < 2 ^ 64 := by
          rw [← checkedAdd_eq_some.mp (sums i)]
          exact UInt64.toNat_lt _
        rw [and_iff_right room, vector_ne]
        exact exists_congr fun i => add_moves (sums i)

/-- A release is refused, or moves the ledger exactly when it returns something. -/
theorem release_returns (contract : ResourceContract) :
    ((∃ error, ledger.release contract = (.error error, ledger)) ∧
        ¬ ledger.Returns contract) ∨
      ∃ reserved, ledger.release contract = (.ok (), { ledger with reserved := reserved }) ∧
        (reserved ≠ ledger.reserved ↔ ledger.Returns contract) := by
  unfold ReservationLedger.Returns ReservationLedger.release
  cases combined : combine checkedSub ledger.reserved contract.values with
  | none =>
      refine Or.inl ⟨⟨.overflow, rfl⟩, ?_⟩
      rintro ⟨held, -⟩
      obtain ⟨i, short⟩ := combine_eq_none combined
      rw [checkedSub, if_pos (UInt64.le_iff_toNat_le.mp (held i))] at short
      cases short
  | some reserved =>
      have rests := combine_eq_some.mp combined
      refine Or.inr ⟨reserved, rfl, ?_⟩
      have held (i : Fin RESOURCE_COUNT) : contract.values[i] ≤ ledger.reserved[i] := by
        have exact := checkedSub_eq_some.mp (rests i)
        rw [UInt64.le_iff_toNat_le]
        omega
      rw [and_iff_right held, vector_ne]
      exact exists_congr fun i => sub_moves (rests i)

/-! ## The context -/

variable (context : ContextState)

theorem reserveChild_atomic_iff (definition : ContextDefinition) (policy : ResourceContract) :
    ((ContextOutput.reserved (context.reserveChild definition policy).1).failed →
        Untouched context (context.reserveChild definition policy).2) ↔
      ¬ (context.Exhausted ∧ context.Writes (.reserveChild definition policy)) := by
  change _ ↔ ¬ (context.Exhausted ∧ context.lifecycle = .active ∧
    definition.parentContextId = context.contextId ∧
    context.operationClasses &&& OP_DELEGATE ≠ 0 ∧
    context.reservations.Takes definition.requestedContract policy)
  unfold ContextState.reserveChild
  by_cases outside : context.lifecycle ≠ .active ∨
      definition.parentContextId ≠ context.contextId ∨
      context.operationClasses &&& OP_DELEGATE = 0
  · rw [if_pos outside]
    refine iff_of_true (fun _ => untouched_self context) ?_
    rintro ⟨-, active, parent, delegate, -⟩
    rcases outside with other | other | other
    · exact other active
    · exact other parent
    · exact delegate other
  rw [if_neg outside]
  rw [not_or, not_or, not_not, not_not] at outside
  rw [and_iff_right outside.1, and_iff_right outside.2.1, and_iff_right outside.2.2]
  rcases reserve_takes definition.requestedContract policy with
    ⟨⟨error, refused⟩, empty⟩ | ⟨reserved, taken, moves⟩
  · rw [refused]
    exact iff_of_true (fun _ => untouched_self context) fun both => empty both.2
  · rw [taken]
    dsimp only
    rcases advanceRevision_cases { context with
        reservations := { context.reservations with reserved := reserved } } with
      ⟨exhausted, error, ends⟩ | ⟨live, revision, ends⟩
    · rw [ends, and_iff_right (show context.Exhausted from exhausted), ← moves, not_not]
      constructor
      · intro atomic
        exact congrArg ReservationLedger.reserved (atomic ⟨error, rfl⟩).reservations
      · rintro same -
        exact ⟨by rw [same], rfl, rfl⟩
    · rw [ends]
      refine iff_of_true ?_ fun both => live both.1
      rintro ⟨error, impossible⟩
      cases impossible

theorem releaseChild_atomic_iff (contract : ResourceContract) :
    ((ContextOutput.done (context.releaseChild contract).1).failed →
        Untouched context (context.releaseChild contract).2) ↔
      ¬ (context.Exhausted ∧ context.Writes (.releaseChild contract)) := by
  change _ ↔ ¬ (context.Exhausted ∧ context.reservations.Returns contract)
  unfold ContextState.releaseChild
  rcases release_returns contract with ⟨⟨error, refused⟩, empty⟩ | ⟨reserved, freed, moves⟩
  · rw [refused]
    exact iff_of_true (fun _ => untouched_self context) fun both => empty both.2
  · rw [freed]
    dsimp only
    rcases advanceRevision_cases { context with
        reservations := { context.reservations with reserved := reserved } } with
      ⟨exhausted, error, ends⟩ | ⟨live, revision, ends⟩
    · rw [ends, and_iff_right (show context.Exhausted from exhausted), ← moves, not_not]
      constructor
      · intro atomic
        exact congrArg ReservationLedger.reserved (atomic ⟨error, rfl⟩).reservations
      · rintro same -
        exact ⟨by rw [same], rfl, rfl⟩
    · rw [ends]
      refine iff_of_true ?_ fun both => live both.1
      rintro ⟨error, impossible⟩
      cases impossible

theorem revoke_atomic_iff :
    ((ContextOutput.done context.revoke.1).failed → Untouched context context.revoke.2) ↔
      ¬ (context.Exhausted ∧ context.Writes .revoke) := by
  change _ ↔ ¬ (context.Exhausted ∧ context.lifecycle = .active)
  unfold ContextState.revoke
  by_cases active : context.lifecycle = .active
  · rw [if_neg (not_not.mpr active)]
    rcases advanceRevision_cases { context with lifecycle := .revoked } with
      ⟨exhausted, error, ends⟩ | ⟨live, revision, ends⟩
    · rw [ends]
      refine iff_of_false ?_ (not_not.mpr ⟨exhausted, active⟩)
      intro atomic
      have same := (atomic ⟨error, rfl⟩).lifecycle
      rw [active] at same
      cases same
    · rw [ends]
      refine iff_of_true ?_ fun both => live both.1
      rintro ⟨error, impossible⟩
      cases impossible
  · rw [if_pos active]
    exact iff_of_true (fun _ => untouched_self context) fun both => active both.2

/-- A refused call leaves reservations, revision and lifecycle alone, unless it
passed its guards at the last revision with something to write. -/
theorem context_operations_atomic_iff (input : ContextInput) :
    ((contextStep context input).1.failed →
        Untouched context (contextStep context input).2) ↔
      ¬ (context.Exhausted ∧ context.Writes input) := by
  cases input with
  | reserveChild definition policy => exact reserveChild_atomic_iff context definition policy
  | releaseChild contract => exact releaseChild_atomic_iff context contract
  | revoke => exact revoke_atomic_iff context

/-- An active context at the last revision. -/
def lastRevision : ContextState :=
  { identity := ⟨⟨⟨Vector.replicate 16 1⟩, 1⟩, 1⟩
    parentContextId := none
    operationClasses := OP_DELEGATE
    revision := ⟨⟨BitVec.allOnes 64⟩⟩
    contract := .denied
    reservations := .new .denied
    lifecycle := .active }

/-- Revoking it fails, and leaves it revoked. -/
theorem context_operations_not_atomic :
    ¬ ∀ (context : ContextState) (input : ContextInput),
      (contextStep context input).1.failed →
        Untouched context (contextStep context input).2 := by
  intro atomic
  have same := (atomic lastRevision .revoke ⟨_, rfl⟩).lifecycle
  exact absurd same (by decide)

end VividProtocol.Delegation

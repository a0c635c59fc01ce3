import Mathlib.Tactic
import VividProtocol.Resource
import VividProtocol.Library.Result
import VividProtocol.Library.Transition

/-!
# Reserved resources

`ReservationLedger` of `resource.rs`: a reservation is cut to its request, the policy
and what is left, and a release gives it back.  `Conserved` says that what is held
and what is available make up the capacity.
-/

set_option autoImplicit false

namespace VividProtocol.Delegation

open VividProtocol.Library.Transition

/-- A checked operation on every component of a copy: one failure refuses all. -/
def combine (operation : UInt64 → UInt64 → Option UInt64)
    (left right : Vector UInt64 RESOURCE_COUNT) : Option (Vector UInt64 RESOURCE_COUNT) :=
  if all : ∀ i : Fin RESOURCE_COUNT, (operation left[i] right[i]).isSome then
    some (Vector.ofFn fun i => (operation left[i] right[i]).get (all i))
  else none

structure ReservationLedger where
  capacity : ResourceContract
  reserved : Vector UInt64 RESOURCE_COUNT
  deriving Repr, DecidableEq

namespace ReservationLedger

def new (capacity : ResourceContract) : ReservationLedger :=
  { capacity := capacity
    reserved := Vector.replicate RESOURCE_COUNT 0 }

/-- The subtraction wraps where the source would overflow. -/
def available (ledger : ReservationLedger) : ResourceContract :=
  ⟨Vector.ofFn fun i => ledger.capacity.values[i] - ledger.reserved[i]⟩

def reserve (ledger : ReservationLedger) (requested policy : ResourceContract) :
    Except ResourceError ResourceContract × ReservationLedger :=
  let effective := (requested.componentMin policy).componentMin ledger.available
  match combine checkedAdd ledger.reserved effective.values with
  | none => (.error .overflow, ledger)
  | some reserved => (.ok effective, { ledger with reserved := reserved })

def release (ledger : ReservationLedger) (contract : ResourceContract) :
    Except ResourceError Unit × ReservationLedger :=
  match combine checkedSub ledger.reserved contract.values with
  | none => (.error .overflow, ledger)
  | some reserved => (.ok (), { ledger with reserved := reserved })

end ReservationLedger

theorem combine_eq_some {operation : UInt64 → UInt64 → Option UInt64}
    {left right result : Vector UInt64 RESOURCE_COUNT} :
    combine operation left right = some result ↔
      ∀ i : Fin RESOURCE_COUNT, operation left[i] right[i] = some result[i] := by
  unfold combine
  split_ifs with all
  · rw [Option.some.injEq]
    constructor
    · intro same i
      rw [← same]
      simp
    · intro each
      ext i inside
      have component := each ⟨i, inside⟩
      simp only [Fin.getElem_fin] at component
      simp [component]
  · constructor
    · intro impossible
      cases impossible
    · intro each
      exact absurd (fun i => by rw [each i]; rfl) all

/-- What a reservation is cut to. -/
def ReservationLedger.effective (ledger : ReservationLedger)
    (requested policy : ResourceContract) : ResourceContract :=
  (requested.componentMin policy).componentMin ledger.available

/-- The ledger takes a reservation on, and it is not empty. -/
def ReservationLedger.Takes (ledger : ReservationLedger)
    (requested policy : ResourceContract) : Prop :=
  let effective := ledger.effective requested policy
  (∀ i : Fin RESOURCE_COUNT,
      ledger.reserved[i].toNat + effective.values[i].toNat < 2 ^ 64) ∧
    ∃ i : Fin RESOURCE_COUNT, effective.values[i] ≠ 0

/-- The ledger gives a contract back, and it is not empty. -/
def ReservationLedger.Returns (ledger : ReservationLedger) (contract : ResourceContract) :
    Prop :=
  (∀ i : Fin RESOURCE_COUNT, contract.values[i] ≤ ledger.reserved[i]) ∧
    ∃ i : Fin RESOURCE_COUNT, contract.values[i] ≠ 0

/-- A vector that differs from another does so at some component. -/
theorem vector_ne {left right : Vector UInt64 RESOURCE_COUNT} :
    left ≠ right ↔ ∃ i : Fin RESOURCE_COUNT, left[i] ≠ right[i] := by
  constructor
  · intro different
    by_contra same
    simp only [ne_eq, not_exists, not_not] at same
    exact different (Vector.ext fun i inside => same ⟨i, inside⟩)
  · rintro ⟨i, different⟩ rfl
    exact different rfl

/-- One component that fails refuses all. -/
theorem combine_eq_none {operation : UInt64 → UInt64 → Option UInt64}
    {left right : Vector UInt64 RESOURCE_COUNT} (refused : combine operation left right = none) :
    ∃ i : Fin RESOURCE_COUNT, operation left[i] right[i] = none := by
  unfold combine at refused
  split_ifs at refused with all
  simpa only [not_forall, Bool.not_eq_true, Option.isSome_eq_false_iff, Option.isNone_iff_eq_none]
    using all

/-! ## What is held -/

/-- What a set of contracts holds of one resource. -/
def total (held : List ResourceContract) (i : Fin RESOURCE_COUNT) : Nat :=
  (held.map fun contract => contract.values[i].toNat).sum

theorem total_append (held : List ResourceContract) (contract : ResourceContract)
    (i : Fin RESOURCE_COUNT) :
    total (held ++ [contract]) i = total held i + contract.values[i].toNat := by
  simp [total]

theorem total_erase {held : List ResourceContract} {contract : ResourceContract}
    (inside : contract ∈ held) (i : Fin RESOURCE_COUNT) :
    total held i = contract.values[i].toNat + total (held.erase contract) i := by
  have moved := (List.perm_cons_erase inside).map fun other => other.values[i].toNat
  simpa [total] using moved.sum_eq

/-- What is held is what is reserved, within the capacity. -/
structure Conserved (capacity : ResourceContract) (held : List ResourceContract)
    (ledger : ReservationLedger) : Prop where
  fixed : ledger.capacity = capacity
  reserved : ∀ i : Fin RESOURCE_COUNT, ledger.reserved[i].toNat = total held i
  covered : ∀ i : Fin RESOURCE_COUNT, total held i ≤ capacity.values[i].toNat

variable {capacity : ResourceContract} {held : List ResourceContract}
  {ledger : ReservationLedger}

theorem ofFn_getElem (view : Fin RESOURCE_COUNT → UInt64) (i : Fin RESOURCE_COUNT) :
    (Vector.ofFn view)[i] = view i := by
  simp

theorem conserved_new (capacity : ResourceContract) : Conserved capacity [] (.new capacity) := by
  refine ⟨rfl, ?_, ?_⟩
  · intro i
    simp [ReservationLedger.new, total]
  · intro i
    simp [total]

/-- Held and available make up the capacity, without any wrap. -/
theorem Conserved.exact (conserved : Conserved capacity held ledger) (i : Fin RESOURCE_COUNT) :
    total held i + ledger.available.values[i].toNat = capacity.values[i].toNat := by
  have reserved := conserved.reserved i
  have covered := conserved.covered i
  have component : ledger.available.values[i] = capacity.values[i] - ledger.reserved[i] := by
    simp [ReservationLedger.available, conserved.fixed]
  rw [component, UInt64.toNat_sub_of_le]
  · omega
  · rw [UInt64.le_iff_toNat_le]
    omega

/-- A contract lies within a bound on every resource. -/
def Within (contract bound : ResourceContract) : Prop :=
  ∀ i : Fin RESOURCE_COUNT, contract.values[i] ≤ bound.values[i]

theorem componentMin_value (left right : ResourceContract) (i : Fin RESOURCE_COUNT) :
    (left.componentMin right).values[i] = min left.values[i] right.values[i] :=
  Vector.getElem_ofFn i.isLt

theorem toNat_min (left right : UInt64) :
    (min left right).toNat = min left.toNat right.toNat := by
  have cases : min left right = if left ≤ right then left else right := rfl
  rw [cases]
  by_cases below : left ≤ right
  · have bound := UInt64.le_iff_toNat_le.mp below
    rw [if_pos below]
    omega
  · have bound := mt UInt64.le_iff_toNat_le.mpr below
    rw [if_neg below]
    omega

theorem componentMin_within_left (left right : ResourceContract) :
    Within (left.componentMin right) left := by
  intro i
  rw [componentMin_value, UInt64.le_iff_toNat_le, toNat_min]
  exact Nat.min_le_left _ _

theorem componentMin_within_right (left right : ResourceContract) :
    Within (left.componentMin right) right := by
  intro i
  rw [componentMin_value, UInt64.le_iff_toNat_le, toNat_min]
  exact Nat.min_le_right _ _

theorem Within.trans {first second third : ResourceContract} (lower : Within first second)
    (upper : Within second third) : Within first third :=
  fun i => UInt64.le_trans (lower i) (upper i)

/-- What is available can be added to what is reserved without overflow. -/
theorem Conserved.combine_add (conserved : Conserved capacity held ledger)
    {granted : ResourceContract} (within : Within granted ledger.available) :
    ∃ sums, combine checkedAdd ledger.reserved granted.values = some sums ∧
      ∀ i : Fin RESOURCE_COUNT,
        sums[i].toNat = total held i + granted.values[i].toNat := by
  have summed (i : Fin RESOURCE_COUNT) :
      (ledger.reserved[i] + granted.values[i]).toNat =
        ledger.reserved[i].toNat + granted.values[i].toNat := by
    have exact := conserved.exact i
    have reserved := conserved.reserved i
    have bound := UInt64.le_iff_toNat_le.mp (within i)
    have limit := capacity.values[i].toNat_lt
    rw [UInt64.toNat_add, Nat.mod_eq_of_lt (by omega)]
  refine ⟨Vector.ofFn fun i => ledger.reserved[i] + granted.values[i], ?_, ?_⟩
  · rw [combine_eq_some]
    intro i
    rw [checkedAdd_eq_some, ofFn_getElem, summed]
  · intro i
    rw [ofFn_getElem, summed, conserved.reserved]

/-- What is held can be taken off what is reserved. -/
theorem Conserved.combine_sub (conserved : Conserved capacity held ledger)
    {contract : ResourceContract} (inside : contract ∈ held) :
    ∃ rest, combine checkedSub ledger.reserved contract.values = some rest ∧
      ∀ i : Fin RESOURCE_COUNT, rest[i].toNat = total (held.erase contract) i := by
  have left (i : Fin RESOURCE_COUNT) :
      (ledger.reserved[i] - contract.values[i]).toNat = total (held.erase contract) i := by
    have split := total_erase inside i
    have reserved := conserved.reserved i
    rw [UInt64.toNat_sub_of_le, reserved, split]
    · omega
    · rw [UInt64.le_iff_toNat_le]
      omega
  refine ⟨Vector.ofFn fun i => ledger.reserved[i] - contract.values[i], ?_, ?_⟩
  · rw [combine_eq_some]
    intro i
    have split := total_erase inside i
    rw [checkedSub_eq_some, ofFn_getElem, left, conserved.reserved]
    omega
  · intro i
    rw [ofFn_getElem, left]

theorem Conserved.reserve (conserved : Conserved capacity held ledger)
    (requested policy : ResourceContract) :
    ∃ granted after, ledger.reserve requested policy = (.ok granted, after) ∧
      Within granted requested ∧ Within granted policy ∧ Within granted ledger.available ∧
      Conserved capacity (held ++ [granted]) after := by
  have within := componentMin_within_right (requested.componentMin policy) ledger.available
  have asked := componentMin_within_left (requested.componentMin policy) ledger.available
  obtain ⟨sums, combined, summed⟩ := conserved.combine_add within
  refine ⟨(requested.componentMin policy).componentMin ledger.available,
    { ledger with reserved := sums }, ?_, asked.trans (componentMin_within_left requested policy),
    asked.trans (componentMin_within_right requested policy), within, conserved.fixed, ?_, ?_⟩
  · unfold ReservationLedger.reserve
    simp only [combined]
  · intro i
    rw [summed, total_append]
  · intro i
    have exact := conserved.exact i
    have bound := UInt64.le_iff_toNat_le.mp (within i)
    rw [total_append]
    omega

theorem Conserved.release (conserved : Conserved capacity held ledger)
    {contract : ResourceContract} (inside : contract ∈ held) :
    ∃ after, ledger.release contract = (.ok (), after) ∧
      Conserved capacity (held.erase contract) after := by
  obtain ⟨rest, combined, left⟩ := conserved.combine_sub inside
  refine ⟨{ ledger with reserved := rest }, ?_, conserved.fixed, left, ?_⟩
  · unfold ReservationLedger.release
    simp only [combined]
  · intro i
    have split := total_erase inside i
    have covered := conserved.covered i
    omega

theorem reserve_error {ledger after : ReservationLedger} {requested policy : ResourceContract}
    {error : ResourceError} (failed : ledger.reserve requested policy = (.error error, after)) :
    after = ledger := by
  unfold ReservationLedger.reserve at failed
  simp only at failed
  cases combined : combine checkedAdd ledger.reserved
      ((requested.componentMin policy).componentMin ledger.available).values with
  | none =>
      rw [combined] at failed
      exact (Prod.mk.inj failed).2.symm
  | some reserved =>
      rw [combined] at failed
      cases (Prod.mk.inj failed).1

theorem release_error {ledger : ReservationLedger} {contract : ResourceContract}
    {error : ResourceError} (failed : (ledger.release contract).1 = .error error) :
    (ledger.release contract).2 = ledger := by
  unfold ReservationLedger.release at failed ⊢
  cases combined : combine checkedSub ledger.reserved contract.values with
  | none => rfl
  | some reserved =>
      rw [combined] at failed
      cases failed

/-! ## Runs -/

inductive LedgerInput where
  | reserve (requested policy : ResourceContract)
  | release (contract : ResourceContract)
  deriving Repr, DecidableEq

inductive LedgerOutput where
  | reserved (result : Except ResourceError ResourceContract)
  | released (result : Except ResourceError Unit)

def ledgerStep (ledger : ReservationLedger) : LedgerInput → LedgerOutput × ReservationLedger
  | .reserve requested policy =>
      let (result, next) := ledger.reserve requested policy
      (.reserved result, next)
  | .release contract =>
      let (result, next) := ledger.release contract
      (.released result, next)

def ledgerMachine : Machine ReservationLedger LedgerInput LedgerOutput := ⟨ledgerStep⟩

abbrev LedgerEvent := Event ReservationLedger LedgerInput LedgerOutput

/-- What is held after one more event. -/
def hold (held : List ResourceContract) (event : LedgerEvent) : List ResourceContract :=
  match event.input, event.output with
  | .reserve _ _, .reserved (.ok granted) => held ++ [granted]
  | .release contract, .released (.ok ()) => held.erase contract
  | _, _ => held

/-- The contracts reserved and not yet released. -/
def outstanding (history : List LedgerEvent) : List ResourceContract :=
  history.foldl hold []

theorem outstanding_snoc (past : List LedgerEvent) (event : LedgerEvent) :
    outstanding (past ++ [event]) = hold (outstanding past) event := by
  simp [outstanding]

theorem hold_released {event : LedgerEvent} {contract : ResourceContract}
    (asked : event.input = .release contract) (accepted : event.output = .released (.ok ())) :
    hold held event = held.erase contract := by
  unfold hold
  rw [asked, accepted]

/-- Only what is held is released. -/
def Disciplined (history : List LedgerEvent) : Prop :=
  Always (fun past event => ∀ contract, event.input = .release contract →
    contract ∈ outstanding past) history

/-- The law of one call: a reservation is granted within its three bounds, and a
release is accepted. -/
structure GrantLaw (past : List LedgerEvent) (event : LedgerEvent) : Prop where
  reserve : ∀ requested policy, event.input = .reserve requested policy →
    ∃ granted, event.output = .reserved (.ok granted) ∧ Within granted requested ∧
      Within granted policy ∧ Within granted event.before.available
  release : ∀ contract, event.input = .release contract →
    event.output = .released (.ok ())

theorem Conserved.step (conserved : Conserved capacity held ledger) (input : LedgerInput)
    (owned : ∀ contract, input = .release contract → contract ∈ held) :
    let event := ledgerMachine.event ledger input
    Conserved capacity (hold held event) event.after ∧
      ∀ past, GrantLaw past event := by
  cases input with
  | reserve requested policy =>
      obtain ⟨granted, after, answer, within, allowed, available, next⟩ :=
        conserved.reserve requested policy
      have event : ledgerMachine.event ledger (.reserve requested policy) =
          ⟨ledger, .reserve requested policy, .reserved (.ok granted), after⟩ := by
        simp [Machine.event, ledgerMachine, ledgerStep, answer]
      simp only [event]
      refine ⟨next, fun past => ⟨?_, by nofun⟩⟩
      intro _ _ asked
      cases asked
      exact ⟨granted, rfl, within, allowed, available⟩
  | release contract =>
      obtain ⟨after, answer, next⟩ := conserved.release (owned contract rfl)
      have event : ledgerMachine.event ledger (.release contract) =
          ⟨ledger, .release contract, .released (.ok ()), after⟩ := by
        simp [Machine.event, ledgerMachine, ledgerStep, answer]
      simp only [event]
      exact ⟨next, fun past => ⟨by nofun, fun _ _ => rfl⟩⟩

theorem conserved_run (capacity : ResourceContract) (inputs : List LedgerInput)
    (disciplined : Disciplined (ledgerMachine.history (.new capacity) inputs)) :
    Conserved capacity (outstanding (ledgerMachine.history (.new capacity) inputs))
      (ledgerMachine.final (.new capacity) inputs) := by
  induction inputs using List.reverseRecOn with
  | nil => exact conserved_new capacity
  | append_singleton inputs input ih =>
      rw [Machine.history_snoc] at disciplined ⊢
      rw [Machine.final_snoc, outstanding_snoc]
      exact ((ih disciplined.left).step input disciplined.last).1

theorem grantLaw_run (capacity : ResourceContract) (inputs : List LedgerInput)
    (disciplined : Disciplined (ledgerMachine.history (.new capacity) inputs)) :
    Always GrantLaw (ledgerMachine.history (.new capacity) inputs) := by
  intro past event future cut
  have owned := disciplined past event future cut
  obtain ⟨first, input, second, rfl, rfl, rfl, -⟩ := ledgerMachine.history_event cut
  rw [cut] at disciplined
  exact ((conserved_run capacity first disciplined.left).step input owned).2 _

/-- Releasing everything held, in any order, succeeds and frees the capacity. -/
theorem Conserved.restore (conserved : Conserved capacity held ledger)
    {order : List ResourceContract} (whole : order.Perm held) :
    (∀ event ∈ ledgerMachine.history ledger (order.map .release),
        event.output = .released (.ok ())) ∧
      (ledgerMachine.final ledger (order.map .release)).available = capacity := by
  induction order generalizing held ledger with
  | nil =>
      refine ⟨by simp, ?_⟩
      have none : held = [] := List.nil_perm.mp whole
      have available : ledger.available = capacity := by
        have same : ledger.available.values = capacity.values := by
          ext i inside
          have exact := conserved.exact ⟨i, inside⟩
          rw [none] at exact
          simpa [total, UInt64.toNat_inj] using exact
        calc ledger.available = ⟨ledger.available.values⟩ := rfl
          _ = ⟨capacity.values⟩ := by rw [same]
          _ = capacity := rfl
      exact available
  | cons contract rest ih =>
      have inside : contract ∈ held := whole.subset (by simp)
      obtain ⟨next, law⟩ := conserved.step (.release contract) (by
        intro other same
        cases same
        exact inside)
      have accepted := (law []).release contract rfl
      have kept : Conserved capacity (held.erase contract)
          (ledgerMachine.event ledger (.release contract)).after := by
        rw [hold_released rfl accepted] at next
        exact next
      have remaining : rest.Perm (held.erase contract) := by
        have cut := whole.erase contract
        simpa using cut
      obtain ⟨answers, available⟩ := ih kept remaining
      refine ⟨?_, available⟩
      intro event member
      rcases List.mem_cons.mp member with rfl | member
      · exact accepted
      · exact answers event member

end VividProtocol.Delegation

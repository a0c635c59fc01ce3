import Mathlib.Tactic

/-!
# Indexing that can leave its list

A function over a list refuses an input, gives a value, or reads an index that
the list does not have.  The last of these is kept apart, so that it can be
proved absent.
-/

set_option autoImplicit false

namespace VividProtocol.Library.Bounds

inductive Fault (ε : Type) where
  | refused (error : ε)
  | outOfRange
  deriving Repr, DecidableEq

variable {ε α β : Type}

def refuse (error : ε) : Except (Fault ε) α := .error (.refused error)

/-- `items[index]`. -/
def item (items : List α) (index : Nat) : Except (Fault ε) α :=
  match items[index]? with
  | some value => .ok value
  | none => .error .outOfRange

/-- `items[start..stop]`. -/
def range (items : List α) (start stop : Nat) : Except (Fault ε) (List α) :=
  if start ≤ stop ∧ stop ≤ items.length then .ok ((items.drop start).take (stop - start))
  else .error .outOfRange

/-- No index has left its list. -/
def InRange : Except (Fault ε) α → Prop
  | .ok _ => True
  | .error (.refused _) => True
  | .error .outOfRange => False

@[simp] theorem inRange_ok (value : α) : InRange (.ok value : Except (Fault ε) α) := trivial

@[simp] theorem inRange_refuse (error : ε) : InRange (refuse error : Except (Fault ε) α) :=
  trivial

theorem InRange.bind {first : Except (Fault ε) α} {rest : α → Except (Fault ε) β}
    (inside : InRange first) (after : ∀ value, first = .ok value → InRange (rest value)) :
    InRange (first >>= rest) := by
  cases first with
  | ok value => exact after value rfl
  | error fault =>
      cases fault with
      | refused error => trivial
      | outOfRange => exact inside

theorem InRange.ite {condition : Prop} [Decidable condition]
    {yes no : Except (Fault ε) α} (whenTrue : condition → InRange yes)
    (whenFalse : ¬ condition → InRange no) : InRange (if condition then yes else no) := by
  split_ifs with holds
  · exact whenTrue holds
  · exact whenFalse holds

@[simp] theorem refuse_ne_ok (error : ε) (value : α) :
    (refuse error : Except (Fault ε) α) ≠ .ok value := by
  intro same
  cases same

theorem item_eq_ok {items : List α} {index : Nat} {value : α} :
    (item items index : Except (Fault ε) α) = .ok value ↔ items[index]? = some value := by
  unfold item
  cases items[index]? with
  | none => simp
  | some held => simp

theorem item_inRange {items : List α} {index : Nat} (inside : index < items.length) :
    InRange (item items index : Except (Fault ε) α) := by
  rw [item, List.getElem?_eq_getElem inside]
  trivial

theorem range_of_le {items : List α} {start stop : Nat} (ordered : start ≤ stop)
    (inside : stop ≤ items.length) :
    (range items start stop : Except (Fault ε) (List α)) =
      .ok ((items.drop start).take (stop - start)) := by
  rw [range, if_pos ⟨ordered, inside⟩]

theorem range_inRange {items : List α} {start stop : Nat} (ordered : start ≤ stop)
    (inside : stop ≤ items.length) : InRange (range items start stop : Except (Fault ε) (List α)) := by
  rw [range_of_le ordered inside]
  trivial

/-- A part that stands behind a front of known length. -/
theorem range_part {front part rest : List α} {start stop : Nat} (here : front.length = start)
    (ends : start + part.length = stop) :
    (range (front ++ (part ++ rest)) start stop : Except (Fault ε) (List α)) = .ok part := by
  rw [range_of_le (by omega) (by simp only [List.length_append]; omega), ← here, List.drop_left,
    show stop - front.length = part.length by omega, List.take_left]

/-! ## Sums in a word -/

/-- `left + right` in a word of `limit` values; a sum that leaves it is a fault too. -/
def sum (limit left right : Nat) : Except (Fault ε) Nat :=
  if left + right < limit then .ok (left + right) else .error .outOfRange

/-- `checked_add(..)` with an error where the sum leaves the word. -/
def checkedSum (limit left right : Nat) (error : ε) : Except (Fault ε) Nat :=
  if left + right < limit then .ok (left + right) else refuse error

theorem sum_of_lt {limit left right : Nat} (small : left + right < limit) :
    (sum limit left right : Except (Fault ε) Nat) = .ok (left + right) := if_pos small

theorem checkedSum_of_lt {limit left right : Nat} {error : ε} (small : left + right < limit) :
    checkedSum limit left right error = .ok (left + right) := if_pos small

theorem checkedSum_of_le {limit left right : Nat} {error : ε} (large : limit ≤ left + right) :
    checkedSum limit left right error = refuse error := if_neg (Nat.not_lt.mpr large)

/-! ## Checks -/

theorem ite_refuse_eq_ok {refused : Prop} [Decidable refused] {error : ε}
    {rest : Except (Fault ε) α} {value : α} :
    (if refused then refuse error else rest) = .ok value ↔ ¬ refused ∧ rest = .ok value := by
  split_ifs with held
  · simp [held]
  · simp [held]

/-- A refusal decides a question whose answer is no. -/
theorem refuse_decides {accepted : Prop} {error : ε} {value : α} (never : ¬ accepted) :
    InRange (refuse error : Except (Fault ε) α) ∧
      ((refuse error : Except (Fault ε) α) = .ok value ↔ accepted) :=
  ⟨trivial, fun same => absurd same (refuse_ne_ok error value), fun held => absurd held never⟩

end VividProtocol.Library.Bounds

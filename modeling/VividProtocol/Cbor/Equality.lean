import Mathlib.Tactic
import VividProtocol.Cbor.Codec

/-!
# Equality of values

`PartialEq` of `Value`, which compares trees: arrays item by item and maps
entry by entry in the order they are held.
-/

set_option autoImplicit false

namespace VividProtocol.Cbor.Value

mutual

def eq : Value → Value → Bool
  | .unsigned left, .unsigned right => decide (left = right)
  | .negative left, .negative right => decide (left = right)
  | .bytes left, .bytes right => decide (left = right)
  | .text left, .text right => decide (left = right)
  | .array left, .array right => eqItems left right
  | .map left, .map right => eqEntries left right
  | .bool left, .bool right => decide (left = right)
  | .null, .null => true
  | _, _ => false

def eqItems : List Value → List Value → Bool
  | [], [] => true
  | left :: lefts, right :: rights => eq left right && eqItems lefts rights
  | _, _ => false

def eqEntries : List (UInt64 × Value) → List (UInt64 × Value) → Bool
  | [], [] => true
  | (key, left) :: lefts, (other, right) :: rights =>
      decide (key = other) && eq left right && eqEntries lefts rights
  | _, _ => false

end

mutual

theorem eq_iff : (left right : Value) → (eq left right = true ↔ left = right)
  | .unsigned left, right => by cases right <;> simp [eq]
  | .negative left, right => by cases right <;> simp [eq]
  | .bytes left, right => by cases right <;> simp [eq]
  | .text left, right => by cases right <;> simp [eq]
  | .bool left, right => by cases right <;> simp [eq]
  | .null, right => by cases right <;> simp [eq]
  | .array left, right => by
      cases right with
      | array right => rw [eq, eqItems_iff left right, array.injEq]
      | _ => simp [eq]
  | .map left, right => by
      cases right with
      | map right => rw [eq, eqEntries_iff left right, map.injEq]
      | _ => simp [eq]

theorem eqItems_iff : (left right : List Value) → (eqItems left right = true ↔ left = right)
  | [], right => by cases right <;> simp [eqItems]
  | left :: lefts, right => by
      cases right with
      | nil => simp [eqItems]
      | cons right rights =>
          rw [eqItems, Bool.and_eq_true, eq_iff left right, eqItems_iff lefts rights,
            List.cons.injEq]

theorem eqEntries_iff :
    (left right : List (UInt64 × Value)) → (eqEntries left right = true ↔ left = right)
  | [], right => by cases right <;> simp [eqEntries]
  | (key, left) :: lefts, right => by
      cases right with
      | nil => simp [eqEntries]
      | cons entry rights =>
          rw [eqEntries, Bool.and_eq_true, Bool.and_eq_true, decide_eq_true_iff,
            eq_iff left entry.2, eqEntries_iff lefts rights, List.cons.injEq, Prod.mk.injEq]

end

instance : DecidableEq Value := fun left right =>
  decidable_of_iff (eq left right = true) (eq_iff left right)

end VividProtocol.Cbor.Value

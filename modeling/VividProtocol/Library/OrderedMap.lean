import Mathlib.Tactic

/-!
# Ordered maps

`BTreeMap` as the extensional tree map of the standard library, over keys with
a total comparison.  The lookup laws are restated with equality of keys, and
structures take the comparison of the tuple of their fields.
-/

set_option autoImplicit false

namespace VividProtocol.Library

open Std

/-- The derived order of a tuple: field by field. -/
instance pairOrd {α β : Type} [Ord α] [Ord β] : Ord (α × β) := lexOrd

/-- Comparing through an injective view is a lawful comparison. -/
theorem lawfulEqCmp_compareOn {α β : Type} [Ord β] [LawfulEqOrd β] {view : α → β}
    (injective : Function.Injective view) : LawfulEqCmp (compareOn view) where
  compare_self := ReflOrd.compare_self (α := β)
  eq_of_compare same := injective (LawfulEqOrd.eq_of_compare same)

abbrev OrderedMap (Key Value : Type) [Ord Key] := ExtTreeMap Key Value compare

namespace OrderedMap

variable {Key Value : Type} [Ord Key] [TransOrd Key] [LawfulEqOrd Key]
  [DecidableEq Key] (map : OrderedMap Key Value)

theorem lookup_insert (key probe : Key) (value : Value) :
    (map.insert key value)[probe]? = if key = probe then some value else map[probe]? := by
  rw [ExtTreeMap.getElem?_insert]
  simp only [Std.compare_eq_iff_eq]

theorem lookup_erase (key probe : Key) :
    (map.erase key)[probe]? = if key = probe then none else map[probe]? := by
  rw [ExtTreeMap.getElem?_erase]
  simp only [Std.compare_eq_iff_eq]

end OrderedMap

end VividProtocol.Library

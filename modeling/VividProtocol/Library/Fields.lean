import Mathlib.Tactic

/-!
# Fields at offsets

The part of a list at an offset, if the list is long enough.  A field is read
past what stands before it, and a list is its fields and what follows them.
-/

set_option autoImplicit false

namespace VividProtocol.Library.Fields

universe u

variable {α : Type u}

/-- `get(offset..offset + width)`. -/
def slice (offset width : Nat) (items : List α) : Option (List α) :=
  if offset + width ≤ items.length then some ((items.drop offset).take width) else none

variable {offset width : Nat} {items field rest : List α}

theorem slice_eq_some :
    slice offset width items = some field ↔
      offset + width ≤ items.length ∧
        items.drop offset = field ++ items.drop (offset + width) := by
  unfold slice
  have split : (items.drop offset).take width ++ items.drop (offset + width) =
      items.drop offset := by
    rw [← List.drop_drop]
    exact List.take_append_drop width (items.drop offset)
  by_cases enough : offset + width ≤ items.length
  · rw [if_pos enough, Option.some.injEq]
    constructor
    · intro same
      rw [← same, split]
      exact ⟨enough, rfl⟩
    · intro held
      rw [← split] at held
      exact List.append_cancel_right held.2
  · simp [enough]

theorem slice_length (read : slice offset width items = some field) : field.length = width := by
  obtain ⟨enough, split⟩ := slice_eq_some.mp read
  have sizes := congrArg List.length split
  simp only [List.length_append, List.length_drop] at sizes
  omega

theorem slice_front (sized : field.length = width) : slice 0 width (field ++ rest) = some field := by
  refine slice_eq_some.mpr ⟨?_, ?_⟩
  · rw [List.length_append]
    omega
  · rw [Nat.zero_add, ← sized, List.drop_left]
    rfl

theorem drop_past {front : List α} {past : Nat} (sized : front.length = past) :
    (front ++ rest).drop (offset + past) = rest.drop offset := by
  rw [← sized, Nat.add_comm, ← List.drop_drop, List.drop_left]

/-- What stands before a field is passed over. -/
theorem slice_past {front : List α} {past : Nat} (sized : front.length = past) :
    slice (offset + past) width (front ++ rest) = slice offset width rest := by
  unfold slice
  rw [drop_past sized, List.length_append, sized]
  by_cases enough : offset + width ≤ rest.length
  · rw [if_pos enough, if_pos (by omega)]
  · rw [if_neg enough, if_neg (by omega)]

/-- A slice is its front and the slice after it. -/
theorem slice_append {front : List α} {past : Nat} (sized : front.length = past) :
    slice offset (width + past) items = some (front ++ rest) ↔
      slice offset past items = some front ∧ slice (offset + past) width items = some rest := by
  have sum : offset + (width + past) = offset + past + width := by omega
  simp only [slice_eq_some, sum]
  constructor
  · intro held
    obtain ⟨enough, split⟩ := held
    have later : items.drop (offset + past) = rest ++ items.drop (offset + past + width) := by
      rw [← List.drop_drop, split, ← sized, List.append_assoc, List.drop_left]
    refine ⟨⟨by omega, ?_⟩, enough, later⟩
    rw [later, ← List.append_assoc]
    exact split
  · intro held
    obtain ⟨⟨_, first⟩, enough, later⟩ := held
    refine ⟨enough, ?_⟩
    rw [first, later, List.append_assoc]

theorem slice_zero : slice offset 0 items = some [] ↔ offset ≤ items.length := by
  simp [slice_eq_some]

theorem slice_all (enough : width = items.length) :
    slice 0 width items = some field ↔ items = field := by
  rw [slice_eq_some, enough, Nat.zero_add, List.drop_length, List.append_nil]
  exact and_iff_right (Nat.le_refl _)

end VividProtocol.Library.Fields

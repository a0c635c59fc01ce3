import Mathlib.Tactic

/-!
# Paths

A path as the components between its separators, and where it leads.  The empty
component and the one that stands for the place itself stay, and the one that
stands for the parent climbs.
-/

set_option autoImplicit false

namespace VividProtocol.Library.Paths

universe u

variable {α : Type u} [DecidableEq α]

/-- The component that stands for the place itself, and the one for its parent. -/
structure Dots (α : Type u) where
  here : List α
  parent : List α

/-- One component further.  The root is its own parent. -/
def step (dots : Dots α) (place : List (List α)) (part : List α) : List (List α) :=
  if part = [] ∨ part = dots.here then place
  else if part = dots.parent then place.dropLast
  else place ++ [part]

/-- Where the components lead from the root. -/
def walk (dots : Dots α) (parts : List (List α)) : List (List α) :=
  parts.foldl (step dots) []

variable {dots : Dots α} {parts : List (List α)}

theorem walk_concat {part : List α} :
    walk dots (parts ++ [part]) = step dots (walk dots parts) part := by
  unfold walk
  rw [List.foldl_append]
  rfl

theorem descends_step {place : List (List α)} {part : List α} (descends : part ≠ dots.parent) :
    place <+: step dots place part := by
  unfold step
  split_ifs
  · exact List.prefix_rfl
  · exact List.prefix_append _ _

/-- A path that never names the parent passes only through places above its end. -/
theorem walk_prefix {before after : List (List α)} (descends : dots.parent ∉ before ++ after) :
    walk dots before <+: walk dots (before ++ after) := by
  induction after using List.reverseRecOn with
  | nil =>
      rw [List.append_nil]
  | append_singleton rest part ih =>
      rw [← List.append_assoc] at descends ⊢
      have earlier := fun among => descends (List.mem_append_left [part] among)
      have last : part ≠ dots.parent := by
        rintro rfl
        exact descends (List.mem_append_right _ List.mem_cons_self)
      rw [walk_concat]
      exact (ih earlier).trans (descends_step last)

/-! ## The last component -/

variable {separator : α}

omit [DecidableEq α] in
theorem intercalate_concat {first last : List α} {rest : List (List α)} :
    [separator].intercalate ((first :: rest) ++ [last]) =
      [separator].intercalate (first :: rest) ++ separator :: last := by
  induction rest generalizing first with
  | nil =>
      rw [List.singleton_append, List.intercalate_cons_cons, List.intercalate_singleton,
        List.intercalate_singleton, List.append_assoc]
      rfl
  | cons second rest ih =>
      rw [List.cons_append, List.cons_append, List.intercalate_cons_cons, ← List.cons_append, ih,
        List.intercalate_cons_cons]
      simp only [List.append_assoc]

/-- A text with a separator is what stands before the last one and what stands
after it. -/
theorem exists_directory {text last : List α} (ends : (text.splitOn separator).getLast? = some last)
    (parted : text ≠ last) : ∃ directory, text = directory ++ separator :: last := by
  obtain ⟨before, split⟩ := List.getLast?_eq_some_iff.mp ends
  have whole : [separator].intercalate (text.splitOn separator) = text :=
    List.intercalate_splitOn separator
  rw [split] at whole
  cases before with
  | nil =>
      rw [List.nil_append, List.intercalate_singleton] at whole
      exact absurd whole.symm parted
  | cons first rest =>
      rw [intercalate_concat] at whole
      exact ⟨_, whole.symm⟩

theorem splitOn_directory {directory last : List α} (plain : separator ∉ last) :
    (directory ++ separator :: last).splitOn separator =
      directory.splitOn separator ++ [last] := by
  rw [List.splitOn_append_cons_self, List.splitOn_eq_singleton plain]

end VividProtocol.Library.Paths

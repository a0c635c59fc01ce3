import Mathlib.Tactic

/-!
# Coalesced sequences

A sequence from which entries are missing that the next entry of the whole
sequence supersedes.  Appending an entry, in place of the last one or after it,
keeps such a sequence coalesced.
-/

set_option autoImplicit false

namespace VividProtocol.Library

universe u

/-- `Coalesced supersedes full kept`: every entry of `full` is in `kept`, in
order, or is directly followed in `full` by an entry that supersedes it. -/
inductive Coalesced {α : Type u} (supersedes : α → α → Prop) : List α → List α → Prop
  | nil : Coalesced supersedes [] []
  | kept {full kept : List α} (entry : α) (rest : Coalesced supersedes full kept) :
      Coalesced supersedes (entry :: full) (entry :: kept)
  | dropped {full kept : List α} {entry next : α} (superseded : supersedes entry next)
      (rest : Coalesced supersedes (next :: full) kept) :
      Coalesced supersedes (entry :: next :: full) kept

namespace Coalesced

variable {α : Type u} {supersedes : α → α → Prop} {full kept : List α}

theorem eq_nil (coalesced : Coalesced supersedes full kept) (empty : kept = []) :
    full = [] := by
  induction coalesced with
  | nil => rfl
  | kept => cases empty
  | dropped _ _ ih => exact absurd (ih empty) (List.cons_ne_nil _ _)

theorem sublist (coalesced : Coalesced supersedes full kept) : kept.Sublist full := by
  induction coalesced with
  | nil => exact .slnil
  | kept entry _ ih => exact ih.cons_cons entry
  | dropped _ _ ih => exact ih.cons _

/-- An entry is added to both. -/
theorem snoc (coalesced : Coalesced supersedes full kept) (entry : α) :
    Coalesced supersedes (full ++ [entry]) (kept ++ [entry]) := by
  induction coalesced with
  | nil => exact .kept entry .nil
  | kept first _ ih => exact .kept first ih
  | dropped superseded _ ih => exact .dropped superseded ih

/-- An entry takes the place of the last one, which it supersedes. -/
theorem replace {last entry : α} (coalesced : Coalesced supersedes full (kept ++ [last]))
    (superseded : supersedes last entry) :
    Coalesced supersedes (full ++ [entry]) (kept ++ [entry]) := by
  generalize whole : kept ++ [last] = queue at coalesced
  induction coalesced generalizing kept with
  | nil => simp at whole
  | @kept full rest first coalesced ih =>
      cases kept with
      | nil =>
          cases whole
          rw [coalesced.eq_nil rfl]
          exact .dropped superseded (.kept entry .nil)
      | cons head tail =>
          rw [List.cons_append, List.cons.injEq] at whole
          rw [whole.1]
          exact .kept first (ih whole.2)
  | dropped earlier _ ih => exact .dropped earlier (ih whole)

end Coalesced

end VividProtocol.Library

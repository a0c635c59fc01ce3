import Mathlib.Tactic

/-!
# Lists cut at a mark

A list is the part before the first occurrence of a mark and the pieces that
follow each occurrence.  Where no end of the mark is also its beginning, the
occurrences do not overlap, and pieces without the mark are found again in the
list they are joined to.
-/

set_option autoImplicit false

namespace VividProtocol.Library.Delimited

universe u

variable {α : Type u}

/-- No end of the mark but the whole is a beginning of it. -/
def Unbordered (mark : List α) : Prop :=
  ∀ front back, mark = front ++ back → front ≠ [] → back <+: mark → back = []

def Free (mark piece : List α) : Prop := ¬ mark <:+: piece

/-- The part before the first mark, and a mark before every piece. -/
def joined (mark before : List α) : List (List α) → List α
  | [] => before
  | piece :: pieces => before ++ mark ++ joined mark piece pieces

variable {mark before piece items : List α}

theorem free_nil (some_mark : mark ≠ []) : Free mark [] := by
  intro inside
  exact some_mark (List.infix_nil.mp inside)

theorem Free.of_infix {part : List α} (free : Free mark piece) (inside : part <:+: piece) :
    Free mark part := fun occurs => free (occurs.trans inside)

theorem joined_before (mark before piece : List α) (pieces : List (List α)) :
    joined mark (before ++ piece) pieces = before ++ joined mark piece pieces := by
  cases pieces with
  | nil => rfl
  | cons first pieces => simp [joined]

theorem joined_append (mark before : List α) (pieces more : List (List α)) :
    joined mark before (pieces ++ more) = joined mark (joined mark before pieces) more := by
  induction pieces generalizing before with
  | nil => rfl
  | cons piece pieces ih => rw [List.cons_append, joined, ih, joined, joined_before]

theorem prefix_of_append {front tail rest : List α} (whole : mark = front ++ tail)
    {more : List α} (same : mark ++ rest = tail ++ more) : tail <+: mark := by
  have within : tail <+: mark ++ rest := by
    rw [same]
    exact List.prefix_append tail more
  apply List.prefix_of_prefix_length_le within (List.prefix_append mark rest)
  rw [whole, List.length_append]
  omega

/-- A second occurrence of the mark is the one after the free part, or comes
after that. -/
theorem occurrence_after (unbordered : Unbordered mark) (free : Free mark before)
    {tail front rest : List α}
    (same : before ++ (mark ++ tail) = front ++ (mark ++ rest)) :
    front = before ∧ rest = tail ∨
      ∃ between, front = before ++ mark ++ between ∧ tail = between ++ (mark ++ rest) := by
  rcases List.append_eq_append_iff.mp same with ⟨more, later, inner⟩ | ⟨less, earlier, inner⟩
  · rcases List.append_eq_append_iff.mp inner with ⟨between, past, after⟩ | ⟨back, whole, after⟩
    · right
      exact ⟨between, by rw [later, past, List.append_assoc], after⟩
    · cases more with
      | nil =>
          left
          rw [List.append_nil] at later
          exact ⟨later, (List.append_cancel_left inner).symm⟩
      | cons item more =>
          right
          have ended := unbordered _ back whole (by simp) (prefix_of_append whole after)
          rw [ended, List.append_nil] at whole
          rw [ended, List.nil_append] at after
          exact ⟨[], by rw [later, ← whole, List.append_nil], by rw [List.nil_append, after]⟩
  · rcases List.append_eq_append_iff.mp inner with ⟨between, inside, after⟩ | ⟨back, whole, after⟩
    · refine absurd ?_ free
      exact ⟨front, between, by rw [earlier, inside, List.append_assoc]⟩
    · cases less with
      | nil =>
          left
          rw [List.append_nil] at earlier
          exact ⟨earlier.symm, List.append_cancel_left inner⟩
      | cons item less =>
          have ended := unbordered _ back whole (by simp) (prefix_of_append whole after)
          rw [ended, List.append_nil] at whole
          refine absurd ?_ free
          exact ⟨front, [], by rw [earlier, ← whole, List.append_nil]⟩

/-- The first mark after a free part is the one that stands there. -/
theorem le_of_occurrence (unbordered : Unbordered mark) (free : Free mark before)
    {tail front rest : List α}
    (same : before ++ (mark ++ tail) = front ++ (mark ++ rest)) :
    before.length ≤ front.length := by
  rcases occurrence_after unbordered free same with ⟨here, -⟩ | ⟨between, later, -⟩
  · rw [here]
  · rw [later, List.length_append, List.length_append]
    omega

/-- Every occurrence of the mark stands before a piece. -/
theorem occurrence_split (unbordered : Unbordered mark) {pieces : List (List α)}
    (free : Free mark before) (all : ∀ piece ∈ pieces, Free mark piece) {front rest : List α}
    (same : joined mark before pieces = front ++ (mark ++ rest)) :
    ∃ earlier piece later, pieces = earlier ++ piece :: later ∧ rest = joined mark piece later := by
  induction pieces generalizing before front with
  | nil => exact absurd ⟨front, rest, by rw [List.append_assoc]; exact same.symm⟩ free
  | cons piece pieces ih =>
      rw [joined, List.append_assoc] at same
      rcases occurrence_after unbordered free same with ⟨-, here⟩ | ⟨between, -, later⟩
      · exact ⟨[], piece, pieces, rfl, here⟩
      · have own := all piece List.mem_cons_self
        have others := fun other among => all other (List.mem_cons_of_mem piece among)
        obtain ⟨earlier, found, rest, split, ends⟩ := ih own others later
        exact ⟨piece :: earlier, found, rest, by rw [split, List.cons_append], ends⟩

theorem joined_split (mark before : List α) (earlier : List (List α)) (piece : List α)
    (later : List (List α)) :
    joined mark before (earlier ++ piece :: later) =
      joined mark before earlier ++ (mark ++ joined mark piece later) := by
  rw [joined_append, joined, List.append_assoc]

/-- Every list is cut at its marks into pieces without one. -/
theorem exists_joined (some_mark : mark ≠ []) (items : List α) :
    ∃ before pieces, items = joined mark before pieces ∧ Free mark before ∧
      ∀ piece ∈ pieces, Free mark piece := by
  induction items with
  | nil => exact ⟨[], [], rfl, free_nil some_mark, by simp⟩
  | cons item items ih =>
      obtain ⟨before, pieces, cut, free, all⟩ := ih
      have shape : item :: items = joined mark (item :: before) pieces := by
        rw [cut]
        exact (joined_before mark [item] before pieces).symm
      by_cases first : Free mark (item :: before)
      · exact ⟨item :: before, pieces, shape, first, all⟩
      · rcases List.infix_cons_iff.mp (not_not.mp first) with ⟨tail, here⟩ | inside
        · refine ⟨[], tail :: pieces, ?_, free_nil some_mark, ?_⟩
          · rw [shape, ← here, joined_before, joined, List.nil_append]
          · intro piece among
            rcases List.mem_cons.mp among with same | among
            · rw [same]
              cases mark with
              | nil => exact absurd rfl some_mark
              | cons start mark =>
                  rw [List.cons_append] at here
                  have suffix : tail <:+: before := by
                    rw [← (List.cons.inj here).2]
                    exact (List.suffix_append mark tail).isInfix
                  exact free.of_infix suffix
            · exact all piece among
        · exact absurd inside free

end VividProtocol.Library.Delimited

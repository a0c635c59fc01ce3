import Mathlib.Tactic

/-!
# Alternating histories

A history of entering and leaving, in which every place that is entered is left
before the next one is entered.
-/

set_option autoImplicit false

namespace VividProtocol.Library.Alternation

variable {Place : Type}

/-- What a mark makes of the place that is entered, if there is a mark. -/
inductive Turn : Option (Place × Bool) → Option Place → Option Place → Prop
  | still (place : Option Place) : Turn none place place
  | enter (place : Place) : Turn (some (place, true)) none (some place)
  | leave (place : Place) : Turn (some (place, false)) (some place) none

/-- A history whose marks alternate, and the place that is entered at its end. -/
inductive Alternates : List (Place × Bool) → Option Place → Prop
  | nil : Alternates [] none
  | snoc {history : List (Place × Bool)} {before after : Option Place} {mark : Place × Bool}
      (alternates : Alternates history before) (turn : Turn (some mark) before after) :
      Alternates (history ++ [mark]) after

namespace Alternates

variable {history : List (Place × Bool)} {before after : Option Place}

/-- A history goes on with a mark that fits, or with none. -/
theorem turn {mark : Option (Place × Bool)} (alternates : Alternates history before)
    (turn : Turn mark before after) : Alternates (history ++ mark.toList) after := by
  cases mark with
  | none =>
      cases turn
      rw [Option.toList_none, List.append_nil]
      exact alternates
  | some mark => exact alternates.snoc turn

/-- The place that is entered is the one of the last mark, if that is an entry. -/
theorem last (alternates : Alternates history after) :
    after = (history.getLast?.filter Prod.snd).map Prod.fst := by
  cases alternates with
  | nil => rfl
  | snoc earlier turn =>
      rw [List.getLast?_concat]
      cases turn with
      | enter place => rfl
      | leave place => rfl

/-- The first mark is an entry, and after each entry comes the exit from its place. -/
theorem chain (alternates : Alternates history after) :
    history.head?.all Prod.snd = true ∧
      history.IsChain fun first second =>
        if first.2 then second = (first.1, false) else second.2 = true := by
  induction alternates with
  | nil => exact ⟨rfl, .nil⟩
  | @snoc history before after mark earlier turn ih =>
      obtain ⟨starts, chained⟩ := ih
      have ends := earlier.last
      cases history using List.reverseRecOn with
      | nil =>
          cases turn with
          | enter place => exact ⟨rfl, .singleton _⟩
          | leave place => cases ends
      | append_singleton front final =>
          rw [List.getLast?_concat] at ends
          refine ⟨by cases front <;> exact starts, ?_⟩
          rw [List.isChain_append]
          refine ⟨chained, .singleton _, ?_⟩
          obtain ⟨place, entered⟩ := final
          rintro _ isLast _ isMark
          rw [List.getLast?_concat, Option.mem_some_iff] at isLast
          rw [List.head?_cons, Option.mem_some_iff] at isMark
          subst isLast isMark
          cases turn with
          | enter other =>
              cases entered with
              | false => rfl
              | true => cases ends
          | leave other =>
              cases entered with
              | false => cases ends
              | true =>
                  cases ends
                  rfl

end Alternates

/-- Entries and exits alternate from an entry on, each exit is from the place entered
last, and the last mark is the entry to a place, or no place is entered. -/
structure InStep (history : List (Place × Bool)) (place : Option Place) : Prop where
  first : history.head?.all Prod.snd = true
  chain : history.IsChain fun first second =>
    if first.2 then second = (first.1, false) else second.2 = true
  last : place = (history.getLast?.filter Prod.snd).map Prod.fst

theorem Alternates.inStep {history : List (Place × Bool)} {place : Option Place}
    (alternates : Alternates history place) : InStep history place :=
  ⟨alternates.chain.1, alternates.chain.2, alternates.last⟩

end VividProtocol.Library.Alternation

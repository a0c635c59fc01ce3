import Mathlib.Tactic

/-!
# Values between fixed texts

A text with a value after each of its fixed parts but the last.  Where no value
holds the first item of the text that follows it, the values are found again.
-/

set_option autoImplicit false

namespace VividProtocol.Library.Template

universe u

variable {α : Type u}

/-- Each value stands before the fixed text it is paired with. -/
def fill (text : List α) : List (List α × List α) → List α
  | [] => text
  | (value, next) :: rest => text ++ (value ++ fill next rest)

/-- The text begins with an item that is not in the value. -/
def Closes (value text : List α) : Prop := ∃ mark rest, text = mark :: rest ∧ mark ∉ value

/-- A list is cut at the first mark in one way. -/
theorem cut_inj {mark : α} {first second rest others : List α} (absent : mark ∉ first)
    (missing : mark ∉ second) (same : first ++ mark :: rest = second ++ mark :: others) :
    first = second ∧ rest = others := by
  induction first generalizing second with
  | nil =>
      cases second with
      | nil => exact ⟨rfl, List.tail_eq_of_cons_eq same⟩
      | cons item second =>
          have head : mark = item := List.head_eq_of_cons_eq same
          exact absurd (head ▸ List.mem_cons_self) missing
  | cons item first ih =>
      cases second with
      | nil =>
          have head : item = mark := List.head_eq_of_cons_eq same
          exact absurd (head ▸ List.mem_cons_self) absent
      | cons other second =>
          obtain ⟨rfl, tail⟩ := List.cons.inj same
          obtain ⟨rfl, ends⟩ := ih (fun among => absent (List.mem_cons_of_mem _ among))
            (fun among => missing (List.mem_cons_of_mem _ among)) tail
          exact ⟨rfl, ends⟩

theorem closed_inj {first second text : List α} {rest others : List α}
    (closed : Closes first text) (other : Closes second text)
    (same : first ++ (text ++ rest) = second ++ (text ++ others)) :
    first = second ∧ rest = others := by
  obtain ⟨mark, more, rfl, absent⟩ := closed
  obtain ⟨_, _, again, missing⟩ := other
  cases again
  rw [List.cons_append, List.cons_append] at same
  obtain ⟨values, tails⟩ := cut_inj absent missing same
  exact ⟨values, List.append_cancel_left tails⟩

theorem fill_text {text : List α} {parts : List (List α × List α)} :
    ∃ rest, fill text parts = text ++ rest := by
  cases parts with
  | nil => exact ⟨[], (List.append_nil text).symm⟩
  | cons part rest => exact ⟨_, rfl⟩

/-- Texts over the same fixed parts are the same only if their values are. -/
theorem fill_inj {text : List α} {parts others : List (List α × List α)}
    (texts : parts.map Prod.snd = others.map Prod.snd)
    (closed : ∀ part ∈ parts, Closes part.1 part.2)
    (closes : ∀ part ∈ others, Closes part.1 part.2)
    (same : fill text parts = fill text others) : parts = others := by
  induction parts generalizing text others with
  | nil =>
      cases others with
      | nil => rfl
      | cons => cases texts
  | cons part rest ih =>
      obtain ⟨value, next⟩ := part
      cases others with
      | nil => cases texts
      | cons other later =>
          obtain ⟨found, again⟩ := other
          obtain ⟨head, tails⟩ := List.cons.inj texts
          dsimp only at head
          subst head
          rw [List.forall_mem_cons] at closed closes
          have inner : value ++ fill next rest = found ++ fill next later :=
            List.append_cancel_left same
          obtain ⟨left, first⟩ := @fill_text _ next rest
          obtain ⟨right, second⟩ := @fill_text _ next later
          rw [first, second] at inner
          obtain ⟨rfl, ends⟩ := closed_inj closed.1 closes.1 inner
          rw [ih tails closed.2 closes.2 (by rw [first, second, ends])]

theorem mem_fill {text : List α} {parts : List (List α × List α)} {item : α} :
    item ∈ fill text parts ↔
      item ∈ text ∨ ∃ part ∈ parts, item ∈ part.1 ∨ item ∈ part.2 := by
  induction parts generalizing text with
  | nil => simp [fill]
  | cons part rest ih =>
      obtain ⟨value, next⟩ := part
      simp only [fill, List.mem_append, ih, List.exists_mem_cons_iff, or_assoc]

theorem fill_append {text value next tail : List α} {parts : List (List α × List α)} :
    fill text (parts ++ [(value, next ++ tail)]) = fill text (parts ++ [(value, next)]) ++ tail := by
  induction parts generalizing text with
  | nil => simp [fill]
  | cons part rest ih =>
      rw [List.cons_append, List.cons_append, fill, ih, fill, List.append_assoc, List.append_assoc]

/-- Lines that hold their mark at the end only can be joined and found again. -/
theorem lines_inj {β : Type u} {line : β → List α} {mark : α}
    (ends : ∀ value, ∃ body, line value = body ++ [mark] ∧ mark ∉ body)
    (injective : ∀ {first second}, line first = line second → first = second) :
    ∀ {values others : List β}, values.flatMap line = others.flatMap line → values = others := by
  intro values
  induction values with
  | nil =>
      intro others same
      cases others with
      | nil => rfl
      | cons other rest =>
          obtain ⟨body, written, -⟩ := ends other
          simp [written] at same
  | cons value rest ih =>
      intro others same
      cases others with
      | nil =>
          obtain ⟨body, written, -⟩ := ends value
          simp [written] at same
      | cons other later =>
          obtain ⟨body, written, free⟩ := ends value
          obtain ⟨found, again, clear⟩ := ends other
          rw [List.flatMap_cons, List.flatMap_cons, written, again, List.append_assoc,
            List.append_assoc] at same
          obtain ⟨bodies, tails⟩ := cut_inj free clear same
          have lines : line value = line other := by rw [written, again, bodies]
          rw [injective lines, ih tails]

end VividProtocol.Library.Template

import Mathlib.Tactic

/-!
# Breadth-first exploration

A search that takes states from a queue, reports on each and puts the successors
it has not met at the end.  When the queue is empty it has met the reachable
states, each once, and it comes to that if they are finitely many.
-/

set_option autoImplicit false

namespace VividProtocol.Library.Exploration

universe u v

variable {α : Type u} {ρ : Type v} [DecidableEq α]

/-- The states that wait, and all that were met. -/
structure Frontier (α : Type u) where
  queue : List α
  visited : List α

def Frontier.visit (frontier : Frontier α) (state : α) : Frontier α :=
  if state ∈ frontier.visited then frontier
  else ⟨frontier.queue ++ [state], frontier.visited ++ [state]⟩

def Frontier.expand (frontier : Frontier α) (states : List α) : Frontier α :=
  states.foldl Frontier.visit frontier

/-- The report and the states that were met, unless the fuel runs out first. -/
def search (next : α → List α) (survey : ρ → α → ρ) : Nat → ρ → Frontier α → Option (ρ × List α)
  | 0, _, _ => none
  | _ + 1, report, ⟨[], visited⟩ => some (report, visited)
  | fuel + 1, report, ⟨state :: rest, visited⟩ =>
      search next survey fuel (survey report state)
        (Frontier.expand ⟨rest, visited⟩ (next state))

def Reaches (next : α → List α) : α → α → Prop :=
  Relation.ReflTransGen fun before after => after ∈ next before

/-- An expansion adds the states that were not met, once each. -/
theorem Frontier.expand_eq (frontier : Frontier α) (states : List α) :
    ∃ added, frontier.expand states = ⟨frontier.queue ++ added, frontier.visited ++ added⟩ ∧
      (∀ state ∈ added, state ∈ states) ∧ (∀ state ∈ states, state ∈ frontier.visited ++ added) ∧
      (frontier.visited.Nodup → (frontier.visited ++ added).Nodup) := by
  induction states generalizing frontier with
  | nil =>
      refine ⟨[], ?_, nofun, nofun, ?_⟩
      · simp [expand]
      · rw [List.append_nil]
        exact id
  | cons state rest ih =>
      obtain ⟨added, expanded, among, met, distinct⟩ := ih (frontier.visit state)
      unfold visit at expanded met distinct
      by_cases known : state ∈ frontier.visited
      · rw [if_pos known] at expanded met distinct
        refine ⟨added, ?_, fun other inside => List.mem_cons_of_mem _ (among other inside), ?_,
          distinct⟩
        · unfold expand at expanded ⊢
          rw [List.foldl_cons, visit, if_pos known, expanded]
        · intro other inside
          rcases List.mem_cons.mp inside with rfl | inside
          · exact List.mem_append_left _ known
          · exact met other inside
      · rw [if_neg known] at expanded met distinct
        simp only [List.append_assoc] at expanded met distinct
        refine ⟨[state] ++ added, ?_, ?_, ?_, ?_⟩
        · unfold expand at expanded ⊢
          rw [List.foldl_cons, visit, if_neg known, expanded]
        · intro other inside
          rcases List.mem_cons.mp inside with rfl | inside
          · exact List.mem_cons_self
          · exact List.mem_cons_of_mem _ (among other inside)
        · intro other inside
          rcases List.mem_cons.mp inside with rfl | inside
          · exact List.mem_append_right _ List.mem_cons_self
          · exact met other inside
        · intro nodup
          refine distinct ?_
          rw [List.nodup_append]
          refine ⟨nodup, List.nodup_singleton state, ?_⟩
          intro first inside second single
          rw [List.mem_singleton.mp single]
          rintro rfl
          exact known inside

section Search

variable {next : α → List α} {survey : ρ → α → ρ} {initial : ρ} {start : α}

/-- How far the search is: the states that were taken stand in front of those
that wait. -/
structure Searching (next : α → List α) (survey : ρ → α → ρ) (initial : ρ) (start : α)
    (taken : List α) (report : ρ) (frontier : Frontier α) : Prop where
  order : frontier.visited = taken ++ frontier.queue
  distinct : frontier.visited.Nodup
  reached : ∀ state ∈ frontier.visited, Reaches next start state
  closed : ∀ state ∈ taken, ∀ after ∈ next state, after ∈ frontier.visited
  started : start ∈ frontier.visited
  reported : report = taken.foldl survey initial

omit [DecidableEq α] in
theorem searching_start :
    Searching next survey initial start [] initial ⟨[start], [start]⟩ where
  order := rfl
  distinct := List.nodup_singleton start
  reached := by
    intro state among
    rw [List.mem_singleton.mp among]
    exact Relation.ReflTransGen.refl
  closed := nofun
  started := List.mem_cons_self
  reported := rfl

theorem Searching.step {taken rest visited : List α} {report : ρ} {state : α}
    (searching : Searching next survey initial start taken report ⟨state :: rest, visited⟩) :
    Searching next survey initial start (taken ++ [state]) (survey report state)
      (Frontier.expand ⟨rest, visited⟩ (next state)) := by
  obtain ⟨added, expanded, among, met, distinct⟩ :=
    Frontier.expand_eq ⟨rest, visited⟩ (next state)
  have order : visited = taken ++ state :: rest := searching.order
  have here : state ∈ visited := by
    rw [order]
    exact List.mem_append_right _ List.mem_cons_self
  rw [expanded]
  exact
    { order := by
        dsimp only
        rw [order]
        simp only [List.append_assoc, List.cons_append, List.nil_append]
      distinct := distinct searching.distinct
      reached := by
        intro other inside
        rcases List.mem_append.mp inside with earlier | later
        · exact searching.reached other earlier
        · exact (searching.reached state here).tail (among other later)
      closed := by
        intro other inside after following
        rcases List.mem_append.mp inside with earlier | now
        · exact List.mem_append_left _ (searching.closed other earlier after following)
        · rw [List.mem_singleton.mp now] at following
          exact met after following
      started := List.mem_append_left _ searching.started
      reported := by rw [searching.reported, List.foldl_append, List.foldl_cons, List.foldl_nil] }

omit [DecidableEq α] in
/-- A search with nothing left has met what is reachable. -/
theorem Searching.finished {taken visited : List α} {report : ρ}
    (searching : Searching next survey initial start taken report ⟨[], visited⟩) :
    report = visited.foldl survey initial ∧ visited.Nodup ∧
      ∀ state, state ∈ visited ↔ Reaches next start state := by
  have order : visited = taken := searching.order.trans (List.append_nil taken)
  refine ⟨?_, searching.distinct, fun state => ⟨searching.reached state, ?_⟩⟩
  · rw [order]
    exact searching.reported
  · intro reaches
    induction reaches with
    | refl => exact searching.started
    | tail _ following ih =>
        rw [order] at ih
        exact searching.closed _ ih _ following

/-- The search ends if more fuel is left than states that were not taken. -/
theorem Searching.search {bound : Finset α} (within : ∀ state, Reaches next start state → state ∈ bound)
    {fuel : Nat} {taken : List α} {report : ρ} {frontier : Frontier α}
    (searching : Searching next survey initial start taken report frontier)
    (enough : bound.card < fuel + taken.length) :
    ∃ visited, search next survey fuel report frontier =
        some (visited.foldl survey initial, visited) ∧
      visited.Nodup ∧ ∀ state, state ∈ visited ↔ Reaches next start state := by
  induction fuel generalizing taken report frontier with
  | zero =>
      have few : taken.length ≤ frontier.visited.length := by
        rw [searching.order, List.length_append]
        exact Nat.le_add_right _ _
      have inside : frontier.visited.toFinset ⊆ bound := by
        intro state among
        exact within state (searching.reached state (List.mem_toFinset.mp among))
      have bounded := Finset.card_le_card inside
      rw [List.toFinset_card_of_nodup searching.distinct] at bounded
      omega
  | succ fuel ih =>
      obtain ⟨queue, visited⟩ := frontier
      cases queue with
      | nil =>
          obtain ⟨reported, distinct, exact⟩ := searching.finished
          refine ⟨visited, ?_, distinct, exact⟩
          rw [Exploration.search, reported]
      | cons state rest =>
          refine ih searching.step ?_
          rw [List.length_append, List.length_singleton]
          omega

/-- The search meets the reachable states, each once, and reports on each. -/
theorem search_exact {bound : Finset α} (within : ∀ state, Reaches next start state → state ∈ bound)
    {fuel : Nat} (enough : bound.card < fuel) :
    ∃ visited, search next survey fuel initial ⟨[start], [start]⟩ =
        some (visited.foldl survey initial, visited) ∧
      visited.Nodup ∧ ∀ state, state ∈ visited ↔ Reaches next start state :=
  searching_start.search within enough

end Search

end VividProtocol.Library.Exploration

import Mathlib.Tactic

/-!
# Runs of answering machines

A `Machine` answers every input and moves to a next state.  `history` lists
the events of a run in order and `final` is the state the run ends in.  Both
are functions of the input list, so a law about every run is a law about every
list of inputs.  Temporal laws are read off the history: what the most recent
event of a kind was, and what came after it.
-/

set_option autoImplicit false

namespace VividProtocol.Library.Transition

universe u

structure Machine (State Input Output : Type u) where
  step : State → Input → Output × State

/-- One answered input, with the states on either side of it. -/
structure Event (State Input Output : Type u) where
  before : State
  input : Input
  output : Output
  after : State

namespace Machine

variable {State Input Output : Type u} (machine : Machine State Input Output)

def event (state : State) (input : Input) : Event State Input Output :=
  { before := state
    input := input
    output := (machine.step state input).1
    after := (machine.step state input).2 }

@[simp] theorem event_before (state : State) (input : Input) :
    (machine.event state input).before = state := rfl

@[simp] theorem event_input (state : State) (input : Input) :
    (machine.event state input).input = input := rfl

@[simp] theorem event_output (state : State) (input : Input) :
    (machine.event state input).output = (machine.step state input).1 := rfl

@[simp] theorem event_after (state : State) (input : Input) :
    (machine.event state input).after = (machine.step state input).2 := rfl

def final : State → List Input → State
  | state, [] => state
  | state, input :: rest => final (machine.step state input).2 rest

def history : State → List Input → List (Event State Input Output)
  | _, [] => []
  | state, input :: rest =>
      machine.event state input :: history (machine.step state input).2 rest

@[simp] theorem final_nil (state : State) : machine.final state [] = state := rfl

@[simp] theorem history_nil (state : State) : machine.history state [] = [] := rfl

theorem final_cons (state : State) (input : Input) (rest : List Input) :
    machine.final state (input :: rest) = machine.final (machine.step state input).2 rest := rfl

theorem history_cons (state : State) (input : Input) (rest : List Input) :
    machine.history state (input :: rest) =
      machine.event state input :: machine.history (machine.step state input).2 rest := rfl

theorem final_append (state : State) (first second : List Input) :
    machine.final state (first ++ second) =
      machine.final (machine.final state first) second := by
  induction first generalizing state with
  | nil => rfl
  | cons input rest ih => exact ih (machine.step state input).2

theorem history_append (state : State) (first second : List Input) :
    machine.history state (first ++ second) =
      machine.history state first ++
        machine.history (machine.final state first) second := by
  induction first generalizing state with
  | nil => rfl
  | cons input rest ih =>
      simp only [List.cons_append, history, final, ih]

theorem final_snoc (state : State) (inputs : List Input) (input : Input) :
    machine.final state (inputs ++ [input]) =
      (machine.step (machine.final state inputs) input).2 := by
  rw [final_append]
  rfl

theorem history_snoc (state : State) (inputs : List Input) (input : Input) :
    machine.history state (inputs ++ [input]) =
      machine.history state inputs ++
        [machine.event (machine.final state inputs) input] := by
  rw [history_append]
  rfl

/-- What holds of the start and is kept by every step holds at the end of
every run. -/
theorem invariant_final {Holds : State → Prop} {start : State}
    (initial : Holds start)
    (preserved : ∀ state input, Holds state →
      Holds (machine.step state input).2)
    (inputs : List Input) : Holds (machine.final start inputs) := by
  induction inputs generalizing start with
  | nil => exact initial
  | cons input rest ih => exact ih (preserved start input initial)

/-- Induction along a run, with the whole history so far in the invariant. -/
theorem history_induction
    {Holds : List (Event State Input Output) → State → Prop} {start : State}
    (initial : Holds [] start)
    (preserved : ∀ past state input, Holds past state →
      Holds (past ++ [machine.event state input])
        (machine.step state input).2)
    (inputs : List Input) :
    Holds (machine.history start inputs) (machine.final start inputs) := by
  induction inputs using List.reverseRecOn with
  | nil => exact initial
  | append_singleton inputs input ih =>
      rw [history_snoc, final_snoc]
      exact preserved _ _ input ih

/-- Any cut of a history is a cut of the inputs that produced it. -/
theorem history_split {start : State} {inputs : List Input}
    {past future : List (Event State Input Output)}
    (cut : machine.history start inputs = past ++ future) :
    ∃ first second, inputs = first ++ second ∧
      past = machine.history start first ∧
      future = machine.history (machine.final start first) second := by
  induction past generalizing start inputs with
  | nil => exact ⟨[], inputs, rfl, rfl, cut.symm⟩
  | cons event past ih =>
      cases inputs with
      | nil => simp at cut
      | cons input rest =>
          simp only [history, List.cons_append, List.cons.injEq] at cut
          obtain ⟨head, tail⟩ := cut
          obtain ⟨first, second, split, pastEq, futureEq⟩ := ih tail
          refine ⟨input :: first, second, ?_, ?_, futureEq⟩
          · rw [split, List.cons_append]
          · rw [pastEq, ← head, history]

/-- An event inside a history is the answer to one input, given in the state
that the earlier inputs led to. -/
theorem history_event {start : State} {inputs : List Input}
    {past future : List (Event State Input Output)}
    {event : Event State Input Output}
    (cut : machine.history start inputs = past ++ event :: future) :
    ∃ first input second, inputs = first ++ input :: second ∧
      past = machine.history start first ∧
      event = machine.event (machine.final start first) input ∧
      future = machine.history event.after second := by
  obtain ⟨first, rest, split, pastEq, restEq⟩ := machine.history_split cut
  cases rest with
  | nil => simp at restEq
  | cons input second =>
      simp only [history, List.cons.injEq] at restEq
      obtain ⟨eventEq, futureEq⟩ := restEq
      refine ⟨first, input, second, split, pastEq, eventEq, ?_⟩
      rw [futureEq, eventEq, event_after]

end Machine

/-! ## Laws read off a history -/

section Histories

variable {α : Type u}

/-- Every entry stands in the given relation to what came before it. -/
def Always (law : List α → α → Prop) (entries : List α) : Prop :=
  ∀ past entry future, entries = past ++ entry :: future → law past entry

theorem Always.left {law : List α → α → Prop} {first second : List α}
    (always : Always law (first ++ second)) : Always law first := by
  intro past entry future cut
  apply always past entry (future ++ second)
  rw [cut, List.append_assoc, List.cons_append]

theorem Always.last {law : List α → α → Prop} {entries : List α} {entry : α}
    (always : Always law (entries ++ [entry])) : law entries entry :=
  always entries entry [] rfl

theorem always_nil (law : List α → α → Prop) : Always law [] := by
  intro past entry future cut
  simp at cut

theorem Always.snoc {law : List α → α → Prop} {entries : List α} {entry : α}
    (always : Always law entries) (added : law entries entry) :
    Always law (entries ++ [entry]) := by
  intro past other future cut
  rcases List.eq_nil_or_concat future with rfl | ⟨sooner, last, rfl⟩
  · obtain ⟨rfl, same⟩ := List.append_inj' cut rfl
    cases same
    exact added
  · rw [List.concat_eq_append, ← List.cons_append, ← List.append_assoc] at cut
    obtain ⟨same, -⟩ := List.append_inj' cut rfl
    exact always past other sooner same

/-- `last` is the most recent entry of a kind and `since` is what followed. -/
def Latest (kind : α → Prop) (entries : List α) (last : α)
    (since : List α) : Prop :=
  (∃ earlier, entries = earlier ++ last :: since) ∧
    kind last ∧ ∀ entry ∈ since, ¬ kind entry

theorem Latest.mem {kind : α → Prop} {entries since : List α} {last : α}
    (latest : Latest kind entries last since) : last ∈ entries := by
  obtain ⟨⟨earlier, rfl⟩, -, -⟩ := latest
  simp

theorem Latest.kind {kind : α → Prop} {entries since : List α} {last : α}
    (latest : Latest kind entries last since) : kind last :=
  latest.2.1

theorem latest_snoc_self {kind : α → Prop} (entries : List α) {entry : α}
    (matched : kind entry) : Latest kind (entries ++ [entry]) entry [] :=
  ⟨⟨entries, rfl⟩, matched, by simp⟩

theorem Latest.snoc {kind : α → Prop} {entries since : List α}
    {last entry : α} (latest : Latest kind entries last since)
    (other : ¬ kind entry) :
    Latest kind (entries ++ [entry]) last (since ++ [entry]) := by
  obtain ⟨⟨earlier, rfl⟩, matched, quiet⟩ := latest
  refine ⟨⟨earlier, by simp⟩, matched, ?_⟩
  intro member inside
  rcases List.mem_append.mp inside with inside | inside
  · exact quiet member inside
  · rw [List.mem_singleton.mp inside]
    exact other

/-- The most recent entry of a kind is the last one, or was so before it. -/
theorem Latest.of_snoc {kind : α → Prop} {entries since : List α} {last entry : α}
    (latest : Latest kind (entries ++ [entry]) last since) :
    last = entry ∨ ¬ kind entry ∧
      ∃ sooner, since = sooner ++ [entry] ∧ Latest kind entries last sooner := by
  obtain ⟨⟨earlier, cut⟩, matched, quiet⟩ := latest
  rcases List.eq_nil_or_concat since with rfl | ⟨sooner, final, rfl⟩
  · obtain ⟨-, same⟩ := List.append_inj' cut rfl
    exact .inl (List.cons.inj same).1.symm
  · rw [List.concat_eq_append, ← List.cons_append, ← List.append_assoc] at cut
    obtain ⟨rest, same⟩ := List.append_inj' cut rfl
    cases same
    refine .inr ⟨quiet entry (by simp), sooner, List.concat_eq_append, ⟨earlier, rest⟩, matched,
      fun member inside => quiet member (by simp [inside])⟩

/-- A history with no entry of a kind keeps having none until one is added. -/
theorem forall_snoc {law : α → Prop} {entries : List α} {entry : α}
    (before : ∀ member ∈ entries, law member) (added : law entry) :
    ∀ member ∈ entries ++ [entry], law member := by
  intro member inside
  rcases List.mem_append.mp inside with inside | inside
  · exact before member inside
  · rw [List.mem_singleton.mp inside]
    exact added

end Histories

/-- A law holds throughout a run if it holds of each next event, whatever the
inputs before it were. -/
theorem Machine.always_history {State Input Output : Type u}
    (machine : Machine State Input Output) {start : State}
    {law : List (Event State Input Output) → Event State Input Output → Prop}
    (next : ∀ inputs input, law (machine.history start inputs)
      (machine.event (machine.final start inputs) input))
    (inputs : List Input) : Always law (machine.history start inputs) := by
  intro past entry future cut
  obtain ⟨first, input, second, -, rfl, rfl, -⟩ := machine.history_event cut
  exact next first input

end VividProtocol.Library.Transition

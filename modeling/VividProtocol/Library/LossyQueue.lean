import Mathlib.Tactic
import VividProtocol.Library.Transition

/-!
# A bounded queue that may lose records

Any number of senders put records into a bounded queue that one worker empties.
A sender never waits: a record that finds no room is lost and counted, in a
second step.  Before it hands on a record the worker takes the count and reports
it.  A guard asks the worker to stop through the same queue, or is dropped while
the worker hands on a record and then only marks that it should stop.
-/

set_option autoImplicit false

namespace VividProtocol.Library.LossyQueue

open VividProtocol.Library.Transition

universe u

variable {α : Type u}

inductive Worker (α : Type u) where
  | idle
  | received (record : α)
  | announced (record : α)
  | ended

/-- The record that the worker holds. -/
def Worker.held : Worker α → List α
  | .received record => [record]
  | .announced record => [record]
  | _ => []

def Worker.hasEnded : Worker α → Bool
  | .ended => true
  | _ => false

inductive Guard where
  | live
  | stopping
  | detached
  deriving DecidableEq

/-- An entry without a record asks the worker to stop.  `uncounted` are the senders
that were refused and have not counted it yet. -/
structure State (α : Type u) where
  queue : List (Option α)
  worker : Worker α
  guard : Guard
  dropped : Nat
  uncounted : Nat

def start : State α :=
  { queue := []
    worker := .idle
    guard := .live
    dropped := 0
    uncounted := 0 }

inductive Action (α : Type u) where
  | send (record : α)
  | count
  | stop
  | receive
  | report
  | detach
  | deliver

inductive Effect (α : Type u) where
  | nothing
  | queued (record : α)
  | refused
  | stopping
  | reported (lost : Nat)
  | delivered (record : α)

section Steps

variable (capacity limit : Nat)

def send (state : State α) (record : α) : Effect α × State α :=
  if state.worker.hasEnded then (.nothing, state)
  else if state.queue.length < capacity then
    (.queued record, { state with queue := state.queue ++ [some record] })
  else (.refused, { state with uncounted := state.uncounted + 1 })

def count (state : State α) : Effect α × State α :=
  match state.uncounted with
  | 0 => (.nothing, state)
  | more + 1 =>
      (.nothing, { state with uncounted := more, dropped := min (state.dropped + 1) limit })

/-- The guard waits while there is no room. -/
def stop (state : State α) : Effect α × State α :=
  match state.guard with
  | .live =>
      if state.queue.length < capacity then
        (.stopping, { state with queue := state.queue ++ [none], guard := .stopping })
      else (.nothing, state)
  | _ => (.nothing, state)

def receive (state : State α) : Effect α × State α :=
  match state.worker, state.queue with
  | .idle, some record :: rest =>
      (.nothing, { state with queue := rest, worker := .received record })
  | .idle, none :: rest => (.nothing, { state with queue := rest, worker := .ended })
  | _, _ => (.nothing, state)

def report (state : State α) : Effect α × State α :=
  match state.worker with
  | .received record =>
      let taken := { state with worker := .announced record, dropped := 0 }
      if state.dropped = 0 then (.nothing, taken) else (.reported state.dropped, taken)
  | _ => (.nothing, state)

/-- Only what the worker calls can drop the guard without waiting for it. -/
def detach (state : State α) : Effect α × State α :=
  match state.worker, state.guard with
  | .announced _, .live => (.nothing, { state with guard := .detached })
  | _, _ => (.nothing, state)

def deliver (state : State α) : Effect α × State α :=
  match state.worker with
  | .announced record =>
      (.delivered record,
        { state with worker := if state.guard = .detached then .ended else .idle })
  | _ => (.nothing, state)

def step (state : State α) : Action α → Effect α × State α
  | .send record => send capacity state record
  | .count => count limit state
  | .stop => stop capacity state
  | .receive => receive state
  | .report => report state
  | .detach => detach state
  | .deliver => deliver state

def machine : Machine (State α) (Action α) (Effect α) := { step := step capacity limit }

end Steps

/-! ## What a run did -/

namespace Effect

def queued? : Effect α → List α
  | .queued record => [record]
  | _ => []

def delivered? : Effect α → List α
  | .delivered record => [record]
  | _ => []

def refusals : Effect α → Nat
  | .refused => 1
  | _ => 0

def lost : Effect α → Nat
  | .reported lost => lost
  | _ => 0

/-- What is handed on: a record, or a report without one. -/
def call? : Effect α → List (Option α)
  | .reported _ => [none]
  | .delivered record => [some record]
  | _ => []

end Effect

abbrev History (α : Type u) := List (Event (State α) (Action α) (Effect α))

namespace History

def accepted (history : History α) : List α := history.flatMap fun event => event.output.queued?
def delivered (history : History α) : List α :=
  history.flatMap fun event => event.output.delivered?
def refusals (history : History α) : Nat := (history.map fun event => event.output.refusals).sum
def reported (history : History α) : Nat := (history.map fun event => event.output.lost).sum
def calls (history : History α) : List (Option α) :=
  history.flatMap fun event => event.output.call?

section Snoc

variable {past : History α} {event : Event (State α) (Action α) (Effect α)}

theorem delivered_append (first second : History α) :
    delivered (first ++ second) = first.delivered ++ second.delivered :=
  List.flatMap_append

@[simp] theorem accepted_snoc :
    accepted (past ++ [event]) = past.accepted ++ event.output.queued? := by
  simp [accepted]

@[simp] theorem delivered_snoc :
    delivered (past ++ [event]) = past.delivered ++ event.output.delivered? := by
  simp [delivered]

@[simp] theorem refusals_snoc :
    refusals (past ++ [event]) = past.refusals + event.output.refusals := by
  simp [refusals]

@[simp] theorem reported_snoc :
    reported (past ++ [event]) = past.reported + event.output.lost := by
  simp [reported]

@[simp] theorem calls_snoc : calls (past ++ [event]) = past.calls ++ event.output.call? := by
  simp [calls]

end Snoc

end History

/-- All that a step can do. -/
inductive Moves (capacity limit : Nat) (state : State α) : Effect α → State α → Prop where
  | rests : Moves capacity limit state .nothing state
  | queued (record : α) (alive : state.worker.hasEnded = false)
      (room : state.queue.length < capacity) :
      Moves capacity limit state (.queued record)
        { state with queue := state.queue ++ [some record] }
  | refused (full : capacity ≤ state.queue.length) :
      Moves capacity limit state .refused { state with uncounted := state.uncounted + 1 }
  | counted (more : Nat) (some : state.uncounted = more + 1) :
      Moves capacity limit state .nothing
        { state with uncounted := more, dropped := min (state.dropped + 1) limit }
  | stopping (live : state.guard = .live) (room : state.queue.length < capacity) :
      Moves capacity limit state .stopping
        { state with queue := state.queue ++ [none], guard := .stopping }
  | received (record : α) (rest : List (Option α)) (idle : state.worker = .idle)
      (head : state.queue = some record :: rest) :
      Moves capacity limit state .nothing
        { state with queue := rest, worker := .received record }
  | asked (rest : List (Option α)) (idle : state.worker = .idle)
      (head : state.queue = none :: rest) :
      Moves capacity limit state .nothing { state with queue := rest, worker := .ended }
  | announced (record : α) (holds : state.worker = .received record) (none : state.dropped = 0) :
      Moves capacity limit state .nothing
        { state with worker := .announced record, dropped := 0 }
  | reported (record : α) (holds : state.worker = .received record) (some : state.dropped ≠ 0) :
      Moves capacity limit state (.reported state.dropped)
        { state with worker := .announced record, dropped := 0 }
  | detached (record : α) (holds : state.worker = .announced record)
      (live : state.guard = .live) :
      Moves capacity limit state .nothing { state with guard := .detached }
  | delivered (record : α) (holds : state.worker = .announced record) :
      Moves capacity limit state (.delivered record)
        { state with worker := if state.guard = .detached then .ended else .idle }

section Invariant

variable {capacity limit : Nat}

theorem step_moves (state : State α) (action : Action α) :
    Moves capacity limit state (step capacity limit state action).1
      (step capacity limit state action).2 := by
  cases action with
  | send record =>
      unfold step send
      dsimp only
      split_ifs with ended room
      · exact .rests
      · exact .queued record (Bool.not_eq_true _ ▸ ended) room
      · exact .refused (Nat.le_of_not_lt room)
  | count =>
      unfold step count
      cases some : state.uncounted with
      | zero => exact .rests
      | succ more => exact .counted more some
  | stop =>
      unfold step stop
      cases live : state.guard with
      | live =>
          dsimp only
          split_ifs with room
          · exact .stopping live room
          · exact .rests
      | stopping => exact .rests
      | detached => exact .rests
  | receive =>
      unfold step receive
      cases idle : state.worker with
      | idle =>
          cases head : state.queue with
          | nil => exact .rests
          | cons entry rest =>
              cases entry with
              | none => exact .asked rest idle head
              | some record => exact .received record rest idle head
      | received record => exact .rests
      | announced record => exact .rests
      | ended => exact .rests
  | report =>
      unfold step report
      cases holds : state.worker with
      | received record =>
          dsimp only
          split_ifs with none
          · exact .announced record holds none
          · exact .reported record holds none
      | idle => exact .rests
      | announced record => exact .rests
      | ended => exact .rests
  | detach =>
      unfold step detach
      dsimp only
      split
      · rename_i record holds live
        exact .detached record holds live
      · exact .rests
  | deliver =>
      unfold step deliver
      cases holds : state.worker with
      | announced record => exact .delivered record holds
      | idle => exact .rests
      | received record => exact .rests
      | ended => exact .rests

/-- The records that stand before the request to stop. -/
def ahead (queue : List (Option α)) : List α := (queue.takeWhile Option.isSome).filterMap id

@[simp] theorem ahead_none (rest : List (Option α)) : ahead (none :: rest) = [] := rfl

@[simp] theorem ahead_some (record : α) (rest : List (Option α)) :
    ahead (some record :: rest) = record :: ahead rest := rfl

theorem ahead_append {queue : List (Option α)} (asked : none ∈ queue) (more : List (Option α)) :
    ahead (queue ++ more) = ahead queue := by
  induction queue with
  | nil => cases asked
  | cons entry rest ih =>
      cases entry with
      | none => rfl
      | some record =>
          have later : none ∈ rest := by simpa using asked
          rw [List.cons_append, ahead_some, ahead_some, ih later]

theorem ahead_free {queue : List (Option α)} (free : none ∉ queue) :
    ahead (queue ++ [none]) = queue.filterMap id := by
  induction queue with
  | nil => rfl
  | cons entry rest ih =>
      cases entry with
      | none => exact absurd List.mem_cons_self free
      | some record =>
          have later : none ∉ rest := fun among => free (List.mem_cons_of_mem _ among)
          rw [List.cons_append, ahead_some, ih later]
          rfl

/-- Everything that was accepted before the worker was asked to stop is handed on,
held, or stands before the request. -/
def Drains (state : State α) (past history : History α) : Prop :=
  state.worker.hasEnded = true ∧ history.delivered = past.accepted ∨
    state.worker.hasEnded = false ∧ none ∈ state.queue ∧
      past.accepted = history.delivered ++ (state.worker.held ++ ahead state.queue)

/-- What holds after every run. -/
structure Kept (capacity limit : Nat) (history : History α) (state : State α) : Prop where
  bounded : state.queue.length ≤ capacity
  ordered : history.accepted =
    history.delivered ++ (state.worker.held ++ state.queue.filterMap id)
  counted : state.uncounted + state.dropped + history.reported ≤ history.refusals
  exactly : history.refusals ≤ limit →
    history.refusals = state.uncounted + state.dropped + history.reported
  running : state.guard ≠ .stopping → none ∉ state.queue
  live : state.guard = .live → state.worker.hasEnded = false
  drains : state.guard = .stopping → ∃ past event future,
    history = past ++ event :: future ∧ event.output = .stopping ∧ Drains state past history
  announces : ∀ before after, history.calls = before ++ none :: after →
    (∃ record rest, after = some record :: rest) ∨
      after = [] ∧ ∃ record, state.worker = .announced record

theorem kept_start : Kept capacity limit ([] : History α) start where
  bounded := Nat.zero_le _
  ordered := rfl
  counted := Nat.le_refl _
  exactly _ := rfl
  running _ := by simp [start]
  live _ := rfl
  drains stopped := nomatch stopped
  announces before after split := by simp [History.calls] at split

namespace Kept

variable {history : History α} {state after : State α} {effect : Effect α}

theorem bounded_step (kept : Kept capacity limit history state)
    (moves : Moves capacity limit state effect after) : after.queue.length ≤ capacity := by
  have bounded := kept.bounded
  cases moves with
  | queued record alive room => simpa using room
  | stopping live room => simpa using room
  | received record rest idle head =>
      rw [head, List.length_cons] at bounded
      exact (Nat.le_succ _).trans bounded
  | asked rest idle head =>
      rw [head, List.length_cons] at bounded
      exact (Nat.le_succ _).trans bounded
  | _ => exact bounded

/-- No record is lost, repeated or overtaken in the queue. -/
theorem ordered_step (kept : Kept capacity limit history state)
    (moves : Moves capacity limit state effect after) :
    history.accepted ++ effect.queued? =
      history.delivered ++ effect.delivered? ++
        (after.worker.held ++ after.queue.filterMap id) := by
  have ordered := kept.ordered
  cases moves with
  | queued record alive room => simp [ordered, Effect.queued?, Effect.delivered?]
  | stopping live room => simp [ordered, Effect.queued?, Effect.delivered?]
  | received record rest idle head =>
      rw [idle, head] at ordered
      simpa [Effect.queued?, Effect.delivered?, Worker.held] using ordered
  | asked rest idle head =>
      rw [idle, head] at ordered
      simpa [Effect.queued?, Effect.delivered?, Worker.held] using ordered
  | announced record holds none =>
      rw [holds] at ordered
      simpa [Effect.queued?, Effect.delivered?, Worker.held] using ordered
  | reported record holds some =>
      rw [holds] at ordered
      simpa [Effect.queued?, Effect.delivered?, Worker.held] using ordered
  | delivered record holds =>
      rw [holds] at ordered
      have released : (if state.guard = .detached then Worker.ended else .idle).held =
          ([] : List α) := by
        split_ifs <;> rfl
      dsimp only
      rw [released]
      simpa [Effect.queued?, Effect.delivered?, Worker.held] using ordered
  | _ => simpa [Effect.queued?, Effect.delivered?] using ordered

theorem counted_step (kept : Kept capacity limit history state)
    (moves : Moves capacity limit state effect after) :
    after.uncounted + after.dropped + (history.reported + effect.lost) ≤
      history.refusals + effect.refusals := by
  have counted := kept.counted
  cases moves with
  | counted more some =>
      simp only [Effect.lost, Effect.refusals]
      omega
  | _ =>
      simp only [Effect.lost, Effect.refusals]
      omega

theorem exactly_step (kept : Kept capacity limit history state)
    (moves : Moves capacity limit state effect after)
    (few : history.refusals + effect.refusals ≤ limit) :
    history.refusals + effect.refusals =
      after.uncounted + after.dropped + (history.reported + effect.lost) := by
  have exactly := kept.exactly (by omega)
  cases moves with
  | counted more some =>
      simp only [Effect.lost, Effect.refusals] at few ⊢
      omega
  | _ =>
      simp only [Effect.lost, Effect.refusals] at few ⊢
      omega

theorem running_step (kept : Kept capacity limit history state)
    (moves : Moves capacity limit state effect after) (other : after.guard ≠ .stopping) :
    none ∉ after.queue := by
  cases moves with
  | queued record alive room => simpa using kept.running other
  | stopping live room => exact absurd rfl other
  | received record rest idle head =>
      have absent := kept.running other
      rw [head] at absent
      exact fun among => absent (List.mem_cons_of_mem _ among)
  | asked rest idle head =>
      have absent := kept.running other
      rw [head] at absent
      exact absurd List.mem_cons_self absent
  | detached record holds live =>
      exact kept.running fun stopping => by
        rw [live] at stopping
        cases stopping
  | _ => exact kept.running other

theorem live_step (kept : Kept capacity limit history state)
    (moves : Moves capacity limit state effect after) (live : after.guard = .live) :
    after.worker.hasEnded = false := by
  cases moves with
  | stopping before room => cases live
  | received record rest idle head => rfl
  | asked rest idle head =>
      have absent := kept.running (by rw [live]; exact Guard.noConfusion)
      rw [head] at absent
      exact absurd List.mem_cons_self absent
  | announced record holds none => rfl
  | reported record holds some => rfl
  | detached record holds before => cases live
  | delivered record holds =>
      have other : state.guard ≠ .detached := by
        rw [show state.guard = .live from live]
        exact Guard.noConfusion
      simp [other, Worker.hasEnded]
  | _ => exact kept.live live

theorem snoc_split {calls first second : List (Option α)} {last : Option α}
    (split : calls ++ [last] = first ++ none :: second) :
    second = [] ∧ last = none ∨
      ∃ earlier, second = earlier ++ [last] ∧ calls = first ++ none :: earlier := by
  rcases List.eq_nil_or_concat' second with rfl | ⟨earlier, final, rfl⟩
  · exact .inl ⟨rfl, (List.append_inj' split rfl).2 |> List.head_eq_of_cons_eq⟩
  · rw [← List.cons_append, ← List.append_assoc] at split
    obtain ⟨same, ends⟩ := List.append_inj' split rfl
    rw [List.head_eq_of_cons_eq ends]
    exact .inr ⟨earlier, rfl, same⟩

/-- A report is followed by the record that was held when the count was taken. -/
theorem announces_step (kept : Kept capacity limit history state)
    (moves : Moves capacity limit state effect after) {first second : List (Option α)}
    (split : history.calls ++ effect.call? = first ++ none :: second) :
    (∃ record rest, second = some record :: rest) ∨
      second = [] ∧ ∃ record, after.worker = .announced record := by
  have announces := kept.announces first
  have quiet : history.calls = first ++ none :: second →
      (∀ record, state.worker = .announced record → ∃ other, after.worker = .announced other) →
      (∃ record rest, second = some record :: rest) ∨
        second = [] ∧ ∃ record, after.worker = .announced record := by
    intro same still
    rcases announces second same with next | ⟨last, record, holds⟩
    · exact .inl next
    · exact .inr ⟨last, still record holds⟩
  cases moves with
  | received record rest idle head =>
      refine quiet (by simpa [Effect.call?] using split) ?_
      intro other holds
      rw [idle] at holds
      cases holds
  | asked rest idle head =>
      refine quiet (by simpa [Effect.call?] using split) ?_
      intro other holds
      rw [idle] at holds
      cases holds
  | announced record holds none =>
      exact quiet (by simpa [Effect.call?] using split) fun _ _ => ⟨record, rfl⟩
  | reported record holds some =>
      rcases snoc_split split with ⟨rfl, -⟩ | ⟨earlier, rfl, same⟩
      · exact .inr ⟨rfl, record, rfl⟩
      · rcases kept.announces first earlier same with ⟨next, rest, rfl⟩ | ⟨-, other, announced⟩
        · exact .inl ⟨next, rest ++ [none], rfl⟩
        · rw [holds] at announced
          cases announced
  | delivered record holds =>
      rcases snoc_split split with ⟨-, last⟩ | ⟨earlier, rfl, same⟩
      · cases last
      · rcases kept.announces first earlier same with ⟨next, rest, rfl⟩ | ⟨rfl, -, -⟩
        · exact .inl ⟨next, rest ++ [some record], rfl⟩
        · exact .inl ⟨record, [], rfl⟩
  | _ => exact quiet (by simpa [Effect.call?] using split) fun record holds => ⟨record, holds⟩

theorem drains_step (moves : Moves capacity limit state effect after) {past : History α}
    (stopped : state.guard = .stopping) (drains : Drains state past history)
    {whole : History α} (handed : whole.delivered = history.delivered ++ effect.delivered?) :
    Drains after past whole := by
  unfold Drains at drains ⊢
  rw [handed]
  rcases drains with ⟨ended, all⟩ | ⟨running, asked, all⟩
  · left
    cases moves with
    | received record rest idle head => simp [idle, Worker.hasEnded] at ended
    | asked rest idle head => simp [idle, Worker.hasEnded] at ended
    | announced record holds none => simp [holds, Worker.hasEnded] at ended
    | reported record holds some => simp [holds, Worker.hasEnded] at ended
    | delivered record holds => simp [holds, Worker.hasEnded] at ended
    | _ => exact ⟨ended, by simpa [Effect.delivered?] using all⟩
  · cases moves with
    | queued record alive room =>
        refine .inr ⟨running, List.mem_append_left _ asked, ?_⟩
        rw [ahead_append asked]
        simpa [Effect.delivered?] using all
    | stopping live room =>
        rw [live] at stopped
        cases stopped
    | received record rest idle head =>
        rw [head] at asked all
        rw [idle] at all
        exact .inr ⟨rfl, by simpa using asked,
          by simpa [Effect.delivered?, Worker.held] using all⟩
    | asked rest idle head =>
        rw [head, idle] at all
        exact .inl ⟨rfl, by simpa [Effect.delivered?, Worker.held] using all.symm⟩
    | announced record holds none =>
        rw [holds] at all
        exact .inr ⟨rfl, asked, by simpa [Effect.delivered?, Worker.held] using all⟩
    | reported record holds some =>
        rw [holds] at all
        exact .inr ⟨rfl, asked, by simpa [Effect.delivered?, Worker.held] using all⟩
    | delivered record holds =>
        have other : state.guard ≠ .detached := by
          rw [stopped]
          exact Guard.noConfusion
        rw [holds] at all
        dsimp only
        rw [if_neg other]
        exact .inr ⟨rfl, asked, by simpa [Effect.delivered?, Worker.held] using all⟩
    | _ => exact .inr ⟨running, asked, by simpa [Effect.delivered?] using all⟩

/-- When the worker is asked to stop, all that was accepted is still to be handed on. -/
theorem drains_stop (kept : Kept capacity limit history state)
    (moves : Moves capacity limit state effect after) (before : state.guard ≠ .stopping)
    (stopped : after.guard = .stopping) :
    effect = .stopping ∧ Drains after history history := by
  cases moves with
  | stopping live room =>
      refine ⟨rfl, .inr ⟨kept.live live, by simp, ?_⟩⟩
      rw [ahead_free (kept.running before)]
      exact kept.ordered
  | detached record holds live => cases stopped
  | _ => exact absurd stopped before

/-- Every step keeps all of it. -/
theorem snoc (kept : Kept capacity limit history state)
    {event : Event (State α) (Action α) (Effect α)}
    (moves : Moves capacity limit state event.output event.after) :
    Kept capacity limit (history ++ [event]) event.after where
  bounded := kept.bounded_step moves
  ordered := by simpa using kept.ordered_step moves
  counted := by simpa using kept.counted_step moves
  exactly few := by simpa using kept.exactly_step moves (by simpa using few)
  running := kept.running_step moves
  live := kept.live_step moves
  announces first second split := kept.announces_step moves (by simpa using split)
  drains stopped := by
    by_cases already : state.guard = .stopping
    · obtain ⟨past, asked, future, split, request, drains⟩ := kept.drains already
      exact ⟨past, asked, future ++ [event], by simp [split], request,
        drains_step moves already drains History.delivered_snoc⟩
    · obtain ⟨request, drains⟩ := kept.drains_stop moves already stopped
      refine ⟨history, event, [], rfl, request, ?_⟩
      unfold Drains at drains ⊢
      rw [History.delivered_snoc, request]
      simpa [Effect.delivered?] using drains

end Kept

theorem kept_final (actions : List (Action α)) :
    Kept capacity limit ((machine capacity limit).history start actions)
      ((machine capacity limit).final start actions) :=
  (machine capacity limit).history_induction kept_start
    (fun _ state action kept => kept.snoc (step_moves state action)) actions

/-! ## The worker alone -/

/-- One turn of the worker's loop. -/
def turn : List (Action α) := [.receive, .report, .deliver]

def turns (count : Nat) : List (Action α) := (List.replicate count turn).flatten

theorem turns_succ (count : Nat) : (turns (count + 1) : List (Action α)) = turn ++ turns count := by
  rw [turns, List.replicate_succ, List.flatten_cons]
  rfl

variable {state : State α}

/-- An idle worker that was asked to stop stops, or hands on the first record. -/
theorem turn_idle (idle : state.worker = .idle) (asked : none ∈ state.queue) :
    ((machine capacity limit).final state turn).worker.hasEnded = true ∨
      ((machine capacity limit).final state turn).worker = .idle ∧
        ∃ record, state.queue = some record :: ((machine capacity limit).final state turn).queue := by
  obtain ⟨queue, worker, guard, dropped, uncounted⟩ := state
  cases idle
  cases queue with
  | nil => cases asked
  | cons entry rest =>
      cases entry with
      | none => exact .inl rfl
      | some record =>
          cases guard with
          | detached =>
              left
              by_cases none : dropped = 0 <;>
                simp [turn, Machine.final, machine, step, receive, report, deliver, none,
                  Worker.hasEnded]
          | _ =>
              right
              by_cases none : dropped = 0 <;>
                simp [turn, Machine.final, machine, step, receive, report, deliver, none]

/-- A worker that holds a record hands it on. -/
theorem turn_busy (running : state.worker.hasEnded = false) (busy : state.worker ≠ .idle) :
    ((machine capacity limit).final state turn).worker.hasEnded = true ∨
      ((machine capacity limit).final state turn).worker = .idle ∧
        ((machine capacity limit).final state turn).queue = state.queue := by
  obtain ⟨queue, worker, guard, dropped, uncounted⟩ := state
  cases worker with
  | idle => exact absurd rfl busy
  | ended => cases running
  | received record =>
      cases guard with
      | detached =>
          left
          by_cases none : dropped = 0 <;>
            simp [turn, Machine.final, machine, step, receive, report, deliver, none,
              Worker.hasEnded]
      | _ =>
          right
          by_cases none : dropped = 0 <;>
            simp [turn, Machine.final, machine, step, receive, report, deliver, none]
  | announced record =>
      cases guard with
      | detached => exact .inl rfl
      | _ => exact .inr ⟨rfl, rfl⟩

theorem idle_stops (idle : state.worker = .idle) (asked : none ∈ state.queue) :
    ∃ count, ((machine capacity limit).final state (turns count)).worker.hasEnded = true := by
  induction length : state.queue.length generalizing state with
  | zero =>
      rw [List.length_eq_zero_iff.mp length] at asked
      cases asked
  | succ size ih =>
      rcases @turn_idle _ capacity limit _ idle asked with ended | ⟨still, record, head⟩
      · exact ⟨1, by simpa [turns] using ended⟩
      · rw [head] at asked length
        obtain ⟨count, ended⟩ := ih still (by simpa using asked) (by simpa using length)
        exact ⟨count + 1, by rw [turns_succ, Machine.final_append, ended]⟩

/-- A guard that asked the worker to stop stays so. -/
theorem stopping_final (stopped : state.guard = .stopping) (actions : List (Action α)) :
    ((machine capacity limit).final state actions).guard = .stopping := by
  refine @Machine.invariant_final _ _ _ (machine capacity limit) (fun state => state.guard = .stopping)
    state stopped ?_ actions
  intro state action stopped
  have kept : ∀ {effect after}, Moves capacity limit state effect after →
      after.guard = .stopping := by
    intro effect after moves
    cases moves with
    | detached record holds live =>
        rw [live] at stopped
        cases stopped
    | stopping live room => rfl
    | _ => exact stopped
  exact kept (step_moves state action)

/-- Whoever waits for a worker that was asked to stop does not wait forever. -/
theorem worker_stops {history : History α} (kept : Kept capacity limit history state)
    (stopped : state.guard = .stopping) :
    ∃ count, ((machine capacity limit).final state (turns count)).worker.hasEnded = true := by
  obtain ⟨past, asked, future, -, -, drains⟩ := kept.drains stopped
  rcases drains with ⟨ended, -⟩ | ⟨running, request, -⟩
  · exact ⟨0, ended⟩
  · by_cases idle : state.worker = .idle
    · exact idle_stops idle request
    · rcases @turn_busy _ capacity limit _ running idle with ended | ⟨freed, same⟩
      · exact ⟨1, by simpa [turns] using ended⟩
      · obtain ⟨count, ended⟩ := @idle_stops _ capacity limit _ freed (same ▸ request)
        exact ⟨count + 1, by rw [turns_succ, Machine.final_append, ended]⟩

/-- A worker that was asked to stop ends after some turns, and then everything that was
accepted before it was asked is handed on. -/
theorem drained {actions : List (Action α)}
    (stopped : ((machine capacity limit).final start actions).guard = .stopping) :
    ∃ count past event future,
      ((machine capacity limit).final start (actions ++ turns count)).worker.hasEnded = true ∧
      (machine capacity limit).history start (actions ++ turns count) = past ++ event :: future ∧
      event.output = .stopping ∧
      History.delivered ((machine capacity limit).history start (actions ++ turns count)) =
        History.accepted past := by
  obtain ⟨count, ended⟩ := worker_stops (kept_final actions) stopped
  rw [← Machine.final_append] at ended
  have still : ((machine capacity limit).final start (actions ++ turns count)).guard =
      .stopping := by
    rw [Machine.final_append]
    exact stopping_final stopped (turns count)
  obtain ⟨past, event, future, split, request, drains⟩ :=
    (kept_final (actions ++ turns count)).drains still
  rcases drains with ⟨-, all⟩ | ⟨running, -⟩
  · exact ⟨count, past, event, future, ended, split, request, all⟩
  · rw [ended] at running
    cases running

/-! ## An ended worker -/

theorem ended_step {effect : Effect α} {after : State α}
    (moves : Moves capacity limit state effect after) (ended : state.worker.hasEnded = true) :
    after.worker.hasEnded = true ∧ after.queue.filterMap id = state.queue.filterMap id ∧
      effect.delivered? = [] := by
  cases moves with
  | queued record alive room =>
      rw [ended] at alive
      cases alive
  | stopping live room => exact ⟨ended, by simp, rfl⟩
  | received record rest idle head =>
      rw [idle] at ended
      cases ended
  | asked rest idle head =>
      rw [idle] at ended
      cases ended
  | announced record holds none =>
      rw [holds] at ended
      cases ended
  | reported record holds some =>
      rw [holds] at ended
      cases ended
  | detached record holds live =>
      rw [holds] at ended
      cases ended
  | delivered record holds =>
      rw [holds] at ended
      cases ended
  | _ => exact ⟨ended, rfl, rfl⟩

/-- What an ended worker leaves in the queue is never handed on. -/
theorem ended_final (ended : state.worker.hasEnded = true) (actions : List (Action α)) :
    ((machine capacity limit).final state actions).queue.filterMap id =
        state.queue.filterMap id ∧
      History.delivered ((machine capacity limit).history state actions) = [] := by
  induction actions generalizing state with
  | nil => exact ⟨rfl, rfl⟩
  | cons action rest ih =>
      obtain ⟨still, same, silent⟩ :=
        ended_step (@step_moves _ capacity limit state action) ended
      obtain ⟨left, later⟩ := ih still
      refine ⟨left.trans same, ?_⟩
      rw [Machine.history_cons]
      exact List.append_eq_nil_iff.mpr ⟨silent, later⟩

end Invariant

end VividProtocol.Library.LossyQueue

import Mathlib.Tactic
import VividProtocol.Library.LossyQueue
import VividProtocol.Trace.Line

/-!
# The trace queue

Emitters, the guard and the worker of `trace.rs` around one bounded queue.  `emit`
is `send` with `count` after it when there was no room; dropping the guard is
`stop`, or `detach` in the thread of the worker; the loop of the worker is
`receive`, `report` and `deliver`.
-/

set_option autoImplicit false

namespace VividProtocol.Trace

open VividProtocol.Library.Transition
open VividProtocol.Library.LossyQueue

def TRACE_QUEUE_CAPACITY : Nat := 256

/-- The count of losses saturates. -/
def traceMachine : Machine (State TraceRecord) (Action TraceRecord) (Effect TraceRecord) :=
  machine TRACE_QUEUE_CAPACITY (2 ^ 64 - 1)

def traceHistory (actions : List (Action TraceRecord)) : History TraceRecord :=
  traceMachine.history start actions

def traceState (actions : List (Action TraceRecord)) : State TraceRecord :=
  traceMachine.final start actions

/-- However emitters, guard and worker take turns: the queue stays bounded; what was
accepted is handed on once and in order, or held, or queued; every loss is reported or
counted or about to be counted; a report comes right before a record; and a worker that
was asked to stop ends after some turns of its own with everything handed on that was
accepted before.  What an ended worker leaves in the queue, as one whose guard was
dropped in its own thread may, is discarded. -/
theorem trace_accounted (actions : List (Action TraceRecord)) :
    (traceState actions).queue.length ≤ TRACE_QUEUE_CAPACITY ∧
    (traceHistory actions).accepted = (traceHistory actions).delivered ++
      ((traceState actions).worker.held ++ (traceState actions).queue.filterMap id) ∧
    ((traceHistory actions).refusals < 2 ^ 64 →
      (traceHistory actions).refusals = (traceState actions).uncounted +
        (traceState actions).dropped + (traceHistory actions).reported) ∧
    (∀ before after, (traceHistory actions).calls = before ++ none :: after →
      (∃ record rest, after = some record :: rest) ∨
        after = [] ∧ ∃ record, (traceState actions).worker = .announced record) ∧
    ((traceState actions).guard = .stopping →
      ∃ count past event future,
        (traceState (actions ++ turns count)).worker.hasEnded = true ∧
        traceHistory (actions ++ turns count) = past ++ event :: future ∧
        event.output = .stopping ∧
        (traceHistory (actions ++ turns count)).delivered = History.accepted past) ∧
    ((traceState actions).worker.hasEnded = true → ∀ later,
      (traceState (actions ++ later)).queue.filterMap id =
          (traceState actions).queue.filterMap id ∧
        (traceHistory (actions ++ later)).delivered = (traceHistory actions).delivered) := by
  have kept : Kept TRACE_QUEUE_CAPACITY (2 ^ 64 - 1) (traceHistory actions) (traceState actions) :=
    kept_final actions
  refine ⟨kept.bounded, kept.ordered, fun few => kept.exactly (Nat.le_sub_one_of_lt few),
    kept.announces, drained, fun ended later => ?_⟩
  obtain ⟨left, silent⟩ := ended_final ended later
  constructor
  · unfold traceState
    rw [Machine.final_append]
    exact left
  · unfold traceHistory
    rw [Machine.history_append, History.delivered_append]
    exact (congrArg _ silent).trans (List.append_nil _)

/-- The record of a policy that hides a track. -/
def restrictedTrack : TraceRecord :=
  { monotonicTsUs := 5
    component := .sdk
    hop := .relay
    direction := .send
    recordType := 0
    bodyLength := 3
    connectionSequence := 1
    objectKind := .track
    objectId := none
    requestId := none
    causationId := none
    localSessionHint := Vector.replicate 16 7
    outcome := .restricted }

/-- One record finds no room, and the worker reports it before it is asked to stop. -/
def overfull : List (Action TraceRecord) :=
  List.replicate 257 (.send restrictedTrack) ++ [.count, .receive, .report, .deliver, .stop]

/-- The guard is dropped while the first of two records is handed on. -/
def detachedGuard : List (Action TraceRecord) :=
  [.send restrictedTrack, .send restrictedTrack, .receive, .report, .detach, .deliver]

theorem trace_accounted_overfull :
    ((traceHistory overfull).refusals = 1 ∧ (traceHistory overfull).reported = 1 ∧
      (traceHistory overfull).refusals = (traceState overfull).uncounted +
        (traceState overfull).dropped + (traceHistory overfull).reported) ∧
    (∃ count past event future,
      (traceState (overfull ++ turns count)).worker.hasEnded = true ∧
      traceHistory (overfull ++ turns count) = past ++ event :: future ∧
      event.output = .stopping ∧
      (traceHistory (overfull ++ turns count)).delivered = History.accepted past) ∧
    (traceHistory (detachedGuard ++ turns 1)).delivered = (traceHistory detachedGuard).delivered :=
  ⟨⟨by decide +kernel, by decide +kernel,
      (trace_accounted overfull).2.2.1 (by decide +kernel)⟩,
    (trace_accounted overfull).2.2.2.2.1 (by decide +kernel),
    ((trace_accounted detachedGuard).2.2.2.2.2 rfl (turns 1)).2⟩

end VividProtocol.Trace

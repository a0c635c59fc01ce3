import Mathlib.Tactic
import VividProtocol.Messages
import VividProtocol.Library.Transition

/-!
# The observation queue

`ObservationQueue` of `observation.rs`: a subscription mask and a bounded queue
that coalesces on its key, drops its oldest entry when full, and reports what
it dropped in one gap record ahead of the next observation.  The debug
assertion of `push` on actionable records is not part of a release build.
-/

set_option autoImplicit false

namespace VividProtocol.Observations

open VividProtocol.Library.Transition

def OBSERVATION_GAP : UInt16 := 0x000f

/-- Where the observation sequence rides in every observation payload. -/
def OBSERVATION_SEQUENCE_KEY : UInt64 := 90

/-- `class::KNOWN_MASK`. -/
def KNOWN_MASK : UInt64 := ((1 : UInt64) <<< 5) - 1

structure ObservationKey where
  recordType : UInt16
  contextId : UInt64
  objectId : UInt64
  deriving Repr, DecidableEq

structure Entry where
  key : ObservationKey
  classBits : UInt64
  payload : PayloadMap

/-- One observation ready to write. -/
structure Observation where
  recordType : UInt16
  objectId : UInt64
  payload : PayloadMap

structure ObservationQueue where
  mask : UInt64
  capacity : Nat
  sequence : UInt64
  entries : List Entry
  /-- The first sequence lost since the last gap, and the classes it spanned. -/
  lost : Option (UInt64 × UInt64)

/-- Puts the payload into the first entry with the key, if there is one. -/
def coalesce (key : ObservationKey) (payload : PayloadMap) : List Entry → Option (List Entry)
  | [] => none
  | entry :: rest =>
      if entry.key = key then some ({ entry with payload := payload } :: rest)
      else (coalesce key payload rest).map (entry :: ·)

/-- The record a gap is reported in. -/
def gapRecord (firstLost classes sequence : UInt64) : Observation :=
  { recordType := OBSERVATION_GAP
    objectId := 0
    payload := [(0, .unsigned firstLost), (1, .unsigned classes), (2, .unsigned sequence)] }

/-- The record an entry is written in. -/
def Entry.record (entry : Entry) (sequence : UInt64) : Observation :=
  { recordType := entry.key.recordType
    objectId := entry.key.objectId
    payload := entry.payload ++ [(OBSERVATION_SEQUENCE_KEY, .unsigned sequence)] }

namespace ObservationQueue

def new (capacity : UInt64) : ObservationQueue :=
  { mask := 0
    capacity := max capacity.toNat 1
    sequence := 0
    entries := []
    lost := none }

def subscribe (queue : ObservationQueue) (mask : UInt64) :
    Except MessageError Unit × ObservationQueue :=
  if mask &&& ~~~KNOWN_MASK ≠ 0 then
    (.error (invalidValue "SET_OBSERVATION" 0 "has unassigned observation class bits"), queue)
  else
    (.ok (), { queue with
      mask := mask
      entries := queue.entries.filter fun entry => entry.classBits &&& mask ≠ 0 })

def noteLoss (queue : ObservationQueue) (classes : UInt64) : ObservationQueue :=
  match queue.lost with
  | some (first, seen) => { queue with lost := some (first, seen ||| classes) }
  | none => { queue with lost := some (saturatingAdd queue.sequence 1, classes) }

/-- `entries.pop_front()` and the loss it is noted as. -/
def evict (queue : ObservationQueue) : ObservationQueue :=
  match queue.entries with
  | [] => queue.noteLoss 0
  | dropped :: rest => { queue with entries := rest }.noteLoss dropped.classBits

def push (queue : ObservationQueue) (classBits : UInt64) (key : ObservationKey)
    (payload : PayloadMap) : Bool × ObservationQueue :=
  if queue.mask &&& classBits = 0 then (false, queue)
  else
    match coalesce key payload queue.entries with
    | some entries => (true, { queue with entries := entries })
    | none =>
        let queue := if queue.capacity ≤ queue.entries.length then queue.evict else queue
        (true, { queue with entries := queue.entries ++ [⟨key, classBits, payload⟩] })

def drainNext (queue : ObservationQueue) : Option Observation × ObservationQueue :=
  match queue.lost with
  | some (firstLost, classes) =>
      let sequence := saturatingAdd queue.sequence 1
      (some (gapRecord firstLost classes sequence),
        { queue with lost := none, sequence := sequence })
  | none =>
      match queue.entries with
      | [] => (none, queue)
      | entry :: rest =>
          let sequence := saturatingAdd queue.sequence 1
          (some (entry.record sequence), { queue with entries := rest, sequence := sequence })

end ObservationQueue

/-! ## Runs -/

inductive QueueInput where
  | subscribe (mask : UInt64)
  | push (classBits : UInt64) (key : ObservationKey) (payload : PayloadMap)
  | drainNext

inductive QueueOutput where
  | subscribed (result : Except MessageError Unit)
  | pushed (accepted : Bool)
  | drained (observation : Option Observation)

abbrev QueueEvent := Event ObservationQueue QueueInput QueueOutput

/-! ## What one call does -/

/-- Everything a call can do to the queue. -/
inductive QueueEffect (before : ObservationQueue) :
    QueueInput → QueueOutput → ObservationQueue → Prop where
  | unassigned (mask : UInt64) (error : MessageError) :
      QueueEffect before (.subscribe mask) (.subscribed (.error error)) before
  | subscribed (mask : UInt64) :
      QueueEffect before (.subscribe mask) (.subscribed (.ok ()))
        { before with
          mask := mask
          entries := before.entries.filter fun entry => entry.classBits &&& mask ≠ 0 }
  | ignored (classBits : UInt64) (key : ObservationKey) (payload : PayloadMap) :
      QueueEffect before (.push classBits key payload) (.pushed false) before
  | coalesced (classBits : UInt64) (key : ObservationKey) (payload : PayloadMap)
      (first : List Entry) (entry : Entry) (rest : List Entry)
      (found : before.entries = first ++ entry :: rest) (same : entry.key = key)
      (earlier : ∀ other ∈ first, other.key ≠ key) :
      QueueEffect before (.push classBits key payload) (.pushed true)
        { before with entries := first ++ { entry with payload := payload } :: rest }
  | queued (classBits : UInt64) (key : ObservationKey) (payload : PayloadMap)
      (absent : ∀ other ∈ before.entries, other.key ≠ key)
      (room : before.entries.length < before.capacity) :
      QueueEffect before (.push classBits key payload) (.pushed true)
        { before with entries := before.entries ++ [⟨key, classBits, payload⟩] }
  | evicted (classBits : UInt64) (key : ObservationKey) (payload : PayloadMap)
      (absent : ∀ other ∈ before.entries, other.key ≠ key)
      (full : before.capacity ≤ before.entries.length) :
      QueueEffect before (.push classBits key payload) (.pushed true)
        { before.evict with entries := before.evict.entries ++ [⟨key, classBits, payload⟩] }
  | reported (firstLost classes : UInt64) (pending : before.lost = some (firstLost, classes)) :
      QueueEffect before .drainNext
        (.drained (some (gapRecord firstLost classes (saturatingAdd before.sequence 1))))
        { before with lost := none, sequence := saturatingAdd before.sequence 1 }
  | delivered (entry : Entry) (rest : List Entry) (settled : before.lost = none)
      (queued : before.entries = entry :: rest) :
      QueueEffect before .drainNext
        (.drained (some (entry.record (saturatingAdd before.sequence 1))))
        { before with
          entries := rest
          lost := none
          sequence := saturatingAdd before.sequence 1 }
  | empty (settled : before.lost = none) (drained : before.entries = []) :
      QueueEffect before .drainNext (.drained none) before

end VividProtocol.Observations

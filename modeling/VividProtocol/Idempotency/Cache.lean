import Mathlib.Tactic
import VividProtocol.Counters
import VividProtocol.Library.OrderedMap
import VividProtocol.Library.Transition

/-!
# The idempotency cache

`IdempotencyCache` of `idempotency.rs`: a bounded table from idempotency keys
to the hash of the request that reserved them and what is known of its outcome.
-/

set_option autoImplicit false

namespace VividProtocol.Idempotency

open Std VividProtocol.Library VividProtocol.Library.Transition

inductive StoredResult where
  | pending
  | complete (result : List UInt8)
  | unknownOutcome
  deriving Repr, DecidableEq

structure Entry where
  requestHash : Bytes 32
  result : StoredResult
  deriving Repr, DecidableEq

inductive BeginResult where
  | fresh
  | replay (result : List UInt8)
  | pending
  | unknownOutcome
  | conflictingReuse
  | limitExceeded
  deriving Repr, DecidableEq

inductive CompletionError where
  | notReserved
  | alreadyComplete
  deriving Repr, DecidableEq

abbrev Key := Bytes 16

structure IdempotencyCache where
  maximumEntries : Nat
  entries : OrderedMap Key Entry

/-- The answer to an exact retry. -/
def StoredResult.answer : StoredResult → BeginResult
  | .pending => .pending
  | .complete result => .replay result
  | .unknownOutcome => .unknownOutcome

namespace IdempotencyCache

def new (maximumEntries : Nat) : IdempotencyCache :=
  { maximumEntries := maximumEntries
    entries := ∅ }

def begin (sha256 : Sha256) (cache : IdempotencyCache) (key : Key)
    (completeRequest : List UInt8) : BeginResult × IdempotencyCache :=
  let requestHash := sha256 completeRequest
  match cache.entries[key]? with
  | some entry =>
      if entry.requestHash ≠ requestHash then (.conflictingReuse, cache)
      else (entry.result.answer, cache)
  | none =>
      if cache.maximumEntries ≤ cache.entries.size then (.limitExceeded, cache)
      else
        (.fresh, { cache with
          entries := cache.entries.insert key ⟨requestHash, .pending⟩ })

/-- The common body of `complete` and `mark_unknown`. -/
def settle (cache : IdempotencyCache) (key : Key) (outcome : StoredResult) :
    Except CompletionError Unit × IdempotencyCache :=
  match cache.entries[key]? with
  | none => (.error .notReserved, cache)
  | some entry =>
      if entry.result ≠ .pending then (.error .alreadyComplete, cache)
      else
        (.ok (), { cache with
          entries := cache.entries.insert key { entry with result := outcome } })

def complete (cache : IdempotencyCache) (key : Key) (result : List UInt8) :
    Except CompletionError Unit × IdempotencyCache :=
  cache.settle key (.complete result)

def markUnknown (cache : IdempotencyCache) (key : Key) :
    Except CompletionError Unit × IdempotencyCache :=
  cache.settle key .unknownOutcome

def clearOnClose (cache : IdempotencyCache) : IdempotencyCache :=
  { cache with entries := ∅ }

end IdempotencyCache

/-! ## Runs -/

inductive CacheInput where
  | begin (key : Key) (completeRequest : List UInt8)
  | complete (key : Key) (result : List UInt8)
  | markUnknown (key : Key)
  | clearOnClose
  deriving Repr, DecidableEq

inductive CacheOutput where
  | begun (result : BeginResult)
  | settled (result : Except CompletionError Unit)
  | cleared

def cacheStep (sha256 : Sha256) (cache : IdempotencyCache) :
    CacheInput → CacheOutput × IdempotencyCache
  | .begin key completeRequest =>
      let (result, next) := cache.begin sha256 key completeRequest
      (.begun result, next)
  | .complete key result =>
      let (result, next) := cache.complete key result
      (.settled result, next)
  | .markUnknown key =>
      let (result, next) := cache.markUnknown key
      (.settled result, next)
  | .clearOnClose => (.cleared, cache.clearOnClose)

def cacheMachine (sha256 : Sha256) : Machine IdempotencyCache CacheInput CacheOutput :=
  ⟨cacheStep sha256⟩

abbrev CacheEvent := Event IdempotencyCache CacheInput CacheOutput

/-! ## What one call does -/

/-- What a call that settles a reservation stores. -/
def CacheInput.outcome? : CacheInput → Option (Key × StoredResult)
  | .complete key result => some (key, .complete result)
  | .markUnknown key => some (key, .unknownOutcome)
  | _ => none

inductive CacheEffect (sha256 : Sha256) (before : IdempotencyCache) :
    CacheInput → CacheOutput → IdempotencyCache → Prop where
  | conflicting (key : Key) (request : List UInt8) (entry : Entry)
      (found : before.entries[key]? = some entry)
      (other : entry.requestHash ≠ sha256 request) :
      CacheEffect sha256 before (.begin key request) (.begun .conflictingReuse) before
  | retried (key : Key) (request : List UInt8) (entry : Entry)
      (found : before.entries[key]? = some entry)
      (same : entry.requestHash = sha256 request) :
      CacheEffect sha256 before (.begin key request) (.begun entry.result.answer) before
  | full (key : Key) (request : List UInt8) (absent : before.entries[key]? = none)
      (limit : before.maximumEntries ≤ before.entries.size) :
      CacheEffect sha256 before (.begin key request) (.begun .limitExceeded) before
  | reserved (key : Key) (request : List UInt8) (absent : before.entries[key]? = none)
      (room : before.entries.size < before.maximumEntries) :
      CacheEffect sha256 before (.begin key request) (.begun .fresh)
        { before with entries := before.entries.insert key ⟨sha256 request, .pending⟩ }
  | rejected (input : CacheInput) (key : Key) (outcome : StoredResult)
      (error : CompletionError) (asked : input.outcome? = some (key, outcome)) :
      CacheEffect sha256 before input (.settled (.error error)) before
  | settled (input : CacheInput) (key : Key) (outcome : StoredResult) (entry : Entry)
      (asked : input.outcome? = some (key, outcome))
      (found : before.entries[key]? = some entry) (pending : entry.result = .pending) :
      CacheEffect sha256 before input (.settled (.ok ()))
        { before with
          entries := before.entries.insert key { entry with result := outcome } }
  | cleared : CacheEffect sha256 before .clearOnClose .cleared before.clearOnClose

theorem settle_effect (sha256 : Sha256) (cache : IdempotencyCache) {input : CacheInput}
    {key : Key} {outcome : StoredResult} (asked : input.outcome? = some (key, outcome)) :
    CacheEffect sha256 cache input (.settled (cache.settle key outcome).1)
      (cache.settle key outcome).2 := by
  unfold IdempotencyCache.settle
  cases found : cache.entries[key]? with
  | none => exact .rejected input key outcome .notReserved asked
  | some entry =>
      by_cases decided : entry.result ≠ .pending
      · simp only [if_pos decided]
        exact .rejected input key outcome .alreadyComplete asked
      · simp only [if_neg decided]
        exact .settled input key outcome entry asked found (not_not.mp decided)

theorem begin_effect (sha256 : Sha256) (cache : IdempotencyCache) (key : Key)
    (request : List UInt8) :
    CacheEffect sha256 cache (.begin key request) (.begun (cache.begin sha256 key request).1)
      (cache.begin sha256 key request).2 := by
  unfold IdempotencyCache.begin
  cases found : cache.entries[key]? with
  | some entry =>
      by_cases other : entry.requestHash ≠ sha256 request
      · simp only [if_pos other]
        exact .conflicting key request entry found other
      · simp only [if_neg other]
        exact .retried key request entry found (not_not.mp other)
  | none =>
      by_cases limit : cache.maximumEntries ≤ cache.entries.size
      · simp only [if_pos limit]
        exact .full key request found limit
      · simp only [if_neg limit]
        exact .reserved key request found (by omega)

theorem cacheStep_effect (sha256 : Sha256) (cache : IdempotencyCache) (input : CacheInput) :
    CacheEffect sha256 cache input (cacheStep sha256 cache input).1
      (cacheStep sha256 cache input).2 := by
  cases input with
  | begin key request => exact begin_effect sha256 cache key request
  | complete key result => exact settle_effect sha256 cache rfl
  | markUnknown key => exact settle_effect sha256 cache rfl
  | clearOnClose => exact .cleared

end VividProtocol.Idempotency

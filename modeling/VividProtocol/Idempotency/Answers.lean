import Mathlib.Tactic
import VividProtocol.Idempotency.Cache

/-!
# One answer for one key

Between two closes every key goes through one protocol: reserved once, pending
until it is settled once, and then answered the same way for good.  The ledger
ties the table to the requests and answers since the last close.
-/

set_option autoImplicit false

namespace VividProtocol.Idempotency

open Std VividProtocol.Library VividProtocol.Library.Transition

/-! ## Reading the history -/

/-- The events since the last `clear_on_close`. -/
def current (history : List CacheEvent) : List CacheEvent :=
  history.foldl (fun session event =>
    if event.input = .clearOnClose then [] else session ++ [event]) []

theorem current_snoc (past : List CacheEvent) (event : CacheEvent) :
    current (past ++ [event]) =
      if event.input = .clearOnClose then [] else current past ++ [event] := by
  simp [current]

theorem mem_of_current {history : List CacheEvent} {event : CacheEvent}
    (inside : event ∈ current history) : event ∈ history := by
  induction history using List.reverseRecOn with
  | nil => exact inside
  | append_singleton history last ih =>
      rw [current_snoc] at inside
      split_ifs at inside
      · cases inside
      · rcases List.mem_append.mp inside with inside | inside
        · exact List.mem_append_left _ (ih inside)
        · exact List.mem_append_right _ inside

/-- The event reserved the key for the request. -/
def Reserves (key : Key) (request : List UInt8) (event : CacheEvent) : Prop :=
  event.input = .begin key request ∧ event.output = .begun .fresh

/-- The event settled the reservation of the key with the outcome. -/
def Settles (key : Key) (outcome : StoredResult) (event : CacheEvent) : Prop :=
  event.input.outcome? = some (key, outcome) ∧ event.output = .settled (.ok ())

def CacheInput.key? : CacheInput → Option Key
  | .begin key _ => some key
  | .complete key _ => some key
  | .markUnknown key => some key
  | .clearOnClose => none

/-- The complete requests presented in a history. -/
def requestsPresented (history : List CacheEvent) : Set (List UInt8) :=
  { request | ∃ event ∈ history, ∃ key, event.input = .begin key request }

/-- What any call on a key would be answered, in two states of the cache. -/
structure SameAnswers (sha256 : Sha256) (key : Key) (before after : IdempotencyCache) :
    Prop where
  begins : ∀ request,
    (after.begin sha256 key request).1 = (before.begin sha256 key request).1 ∨
      (before.begin sha256 key request).1 = .fresh ∧
        (after.begin sha256 key request).1 = .limitExceeded ∧
        before.entries.size < before.maximumEntries ∧
        after.maximumEntries ≤ after.entries.size
  completes : ∀ result, (after.complete key result).1 = (before.complete key result).1
  marks : (after.markUnknown key).1 = (before.markUnknown key).1

/-- The law of one call, given every call before it. -/
structure AnswerLaw (sha256 : Sha256) (maximum : Nat) (past : List CacheEvent)
    (event : CacheEvent) : Prop where
  reservedOnce : ∀ key request, Reserves key request event →
    ∀ earlier ∈ current past, ∀ original, ¬ Reserves key original earlier
  conflict : ∀ key request original earlier, earlier ∈ current past →
    Reserves key original earlier → event.input = .begin key request →
    sha256 request ≠ sha256 original → event.output = .begun .conflictingReuse
  pending : ∀ key request original earlier, earlier ∈ current past →
    Reserves key original earlier → event.input = .begin key request →
    sha256 request = sha256 original →
    (∀ settling ∈ current past, ∀ outcome, ¬ Settles key outcome settling) →
    event.output = .begun .pending
  replay : ∀ key request original outcome earlier settling,
    earlier ∈ current past → Reserves key original earlier →
    settling ∈ current past → Settles key outcome settling →
    event.input = .begin key request → sha256 request = sha256 original →
    event.output = .begun outcome.answer
  settledOnce : ∀ key outcome, Settles key outcome event →
    ∀ earlier ∈ current past, ∀ other, ¬ Settles key other earlier
  differentBytes : Set.InjOn sha256 (requestsPresented (past ++ [event])) →
    ∀ key request original earlier, earlier ∈ current past →
    Reserves key original earlier → event.input = .begin key request →
    request ≠ original → event.output = .begun .conflictingReuse
  bounded : event.after.entries.size ≤ maximum
  isolated : ∀ own key, event.input.key? = some own → key ≠ own →
    SameAnswers sha256 key event.before event.after

/-! ## The ledger -/

structure CacheLedger (sha256 : Sha256) (maximum : Nat) (session : List CacheEvent)
    (cache : IdempotencyCache) : Prop where
  fixed : cache.maximumEntries = maximum
  bounded : cache.entries.size ≤ maximum
  reserved : ∀ event ∈ session, ∀ key request, Reserves key request event →
    ∃ entry, cache.entries[key]? = some entry ∧ entry.requestHash = sha256 request
  settled : ∀ event ∈ session, ∀ key outcome, Settles key outcome event →
    ∃ entry, cache.entries[key]? = some entry ∧ entry.result = outcome
  resolved : ∀ (key : Key) entry, cache.entries[key]? = some entry →
    entry.result ≠ .pending → ∃ event ∈ session, Settles key entry.result event

variable {sha256 : Sha256} {maximum : Nat} {session past : List CacheEvent}
  {before after : IdempotencyCache} {input : CacheInput} {output : CacheOutput}

theorem outcome_ne_pending {key : Key} {outcome : StoredResult}
    (asked : input.outcome? = some (key, outcome)) : outcome ≠ .pending := by
  cases input with
  | begin key request => cases asked
  | complete key result =>
      cases asked
      nofun
  | markUnknown key =>
      cases asked
      nofun
  | clearOnClose => cases asked

/-- A call that changes nothing and neither reserves nor settles. -/
theorem CacheLedger.idle {event : CacheEvent} (ledger : CacheLedger sha256 maximum session before)
    (reserves : ∀ key request, ¬ Reserves key request event)
    (settles : ∀ key outcome, ¬ Settles key outcome event) :
    CacheLedger sha256 maximum (session ++ [event]) before := by
  refine ⟨ledger.fixed, ledger.bounded, ?_, ?_, ?_⟩
  · exact forall_snoc ledger.reserved fun key request absurdity =>
      absurd absurdity (reserves key request)
  · exact forall_snoc ledger.settled fun key outcome absurdity =>
      absurd absurdity (settles key outcome)
  · intro key entry found decided
    obtain ⟨settling, inside, settled⟩ := ledger.resolved key entry found decided
    exact ⟨settling, List.mem_append_left _ inside, settled⟩

theorem size_insert_of_lookup {Value : Type} {map : OrderedMap Key Value} {key : Key}
    {value added : Value} (found : map[key]? = some value) :
    (map.insert key added).size = map.size := by
  have inside : map.contains key = true := by
    rw [ExtTreeMap.contains_eq_isSome_getElem?, found]
    rfl
  rw [ExtTreeMap.size_insert, if_pos inside]

theorem size_insert_of_absent {Value : Type} {map : OrderedMap Key Value} {key : Key}
    {added : Value} (absent : map[key]? = none) :
    (map.insert key added).size = map.size + 1 := by
  have outside : map.contains key = false := by
    rw [ExtTreeMap.contains_eq_isSome_getElem?, absent]
    rfl
  rw [ExtTreeMap.size_insert, outside]
  rfl

theorem CacheLedger.snoc (ledger : CacheLedger sha256 maximum session before)
    (open' : input ≠ .clearOnClose) (effect : CacheEffect sha256 before input output after) :
    CacheLedger sha256 maximum (session ++ [⟨before, input, output, after⟩]) after := by
  cases effect with
  | conflicting key request entry found other =>
      exact ledger.idle (fun _ _ reserves => nomatch reserves.2) (fun _ _ settles => nomatch settles.1)
  | retried key request entry found same =>
      refine ledger.idle (fun _ _ reserves => ?_) (fun _ _ settles => nomatch settles.1)
      have answer := reserves.2
      cases stored : entry.result <;> simp [stored, StoredResult.answer] at answer
  | full key request absent limit =>
      exact ledger.idle (fun _ _ reserves => nomatch reserves.2) (fun _ _ settles => nomatch settles.1)
  | reserved key request absent room =>
      have fixed := ledger.fixed
      have kept (other : Key) (entry : Entry) (found : before.entries[other]? = some entry) :
          (before.entries.insert key ⟨sha256 request, .pending⟩)[other]? = some entry := by
        rw [OrderedMap.lookup_insert, if_neg, found]
        rintro rfl
        rw [found] at absent
        cases absent
      refine ⟨ledger.fixed, ?_, forall_snoc ?_ ?_, forall_snoc ?_ ?_, ?_⟩
      · simp only [size_insert_of_absent absent]
        omega
      · intro event inside other original reserves
        obtain ⟨entry, found, hash⟩ := ledger.reserved event inside other original reserves
        exact ⟨entry, kept other entry found, hash⟩
      · rintro other original ⟨asked, -⟩
        cases asked
        exact ⟨_, by rw [OrderedMap.lookup_insert, if_pos rfl], rfl⟩
      · intro event inside other outcome settles
        obtain ⟨entry, found, result⟩ := ledger.settled event inside other outcome settles
        exact ⟨entry, kept other entry found, result⟩
      · exact fun other outcome settles => nomatch settles.2
      · intro other entry found decided
        simp only [OrderedMap.lookup_insert] at found
        split_ifs at found with same
        · cases found
          exact absurd rfl decided
        · obtain ⟨settling, inside, settles⟩ := ledger.resolved other entry found decided
          exact ⟨settling, List.mem_append_left _ inside, settles⟩
  | rejected input key outcome error asked =>
      exact ledger.idle (fun _ _ reserves => nomatch reserves.2) (fun _ _ settles => nomatch settles.2)
  | settled input key outcome entry asked found pending =>
      have lookup (other : Key) :
          (before.entries.insert key { entry with result := outcome })[other]? =
            if key = other then some { entry with result := outcome }
            else before.entries[other]? := OrderedMap.lookup_insert _ _ _ _
      refine ⟨ledger.fixed, ?_, forall_snoc ?_ ?_, forall_snoc ?_ ?_, ?_⟩
      · simp only [size_insert_of_lookup found]
        exact ledger.bounded
      · intro event inside other original reserves
        obtain ⟨stored, present, hash⟩ := ledger.reserved event inside other original reserves
        by_cases same : key = other
        · subst same
          rw [found] at present
          cases present
          exact ⟨{ entry with result := outcome }, by rw [lookup, if_pos rfl], hash⟩
        · exact ⟨stored, by rw [lookup, if_neg same, present], hash⟩
      · exact fun other original reserves => nomatch reserves.2
      · intro event inside other decided settles
        obtain ⟨stored, present, result⟩ := ledger.settled event inside other decided settles
        by_cases same : key = other
        · subst same
          rw [found] at present
          cases present
          exact absurd (result.symm.trans pending) (outcome_ne_pending settles.1)
        · exact ⟨stored, by rw [lookup, if_neg same, present], result⟩
      · rintro other decided ⟨named, -⟩
        simp only [asked, Option.some.injEq, Prod.mk.injEq] at named
        obtain ⟨rfl, rfl⟩ := named
        exact ⟨_, by rw [lookup, if_pos rfl], rfl⟩
      · intro other stored present decided
        simp only [lookup] at present
        split_ifs at present with same
        · cases present
          subst same
          exact ⟨_, List.mem_append_right _ (List.mem_singleton.mpr rfl), asked, rfl⟩
        · obtain ⟨settling, inside, settles⟩ := ledger.resolved other stored present decided
          exact ⟨settling, List.mem_append_left _ inside, settles⟩
  | cleared => exact absurd rfl open'

theorem cacheLedger_reachable (sha256 : Sha256) (maximum : Nat) (inputs : List CacheInput) :
    CacheLedger sha256 maximum (current ((cacheMachine sha256).history (.new maximum) inputs))
      ((cacheMachine sha256).final (.new maximum) inputs) := by
  refine @Machine.history_induction _ _ _ (cacheMachine sha256)
    (fun past cache => CacheLedger sha256 maximum (current past) cache) _ ?_ ?_ inputs
  · refine ⟨rfl, by simp [IdempotencyCache.new], by nofun, by nofun, ?_⟩
    intro key entry found
    simp [IdempotencyCache.new] at found
  · intro past cache input ledger
    rw [current_snoc, Machine.event_input]
    by_cases closing : input = .clearOnClose
    · rw [if_pos closing]
      subst closing
      refine ⟨ledger.fixed, by simp [cacheMachine, cacheStep, IdempotencyCache.clearOnClose],
        by nofun, by nofun, ?_⟩
      intro key entry found
      simp [cacheMachine, cacheStep, IdempotencyCache.clearOnClose] at found
    · rw [if_neg closing]
      exact ledger.snoc closing (cacheStep_effect sha256 cache input)

/-! ## The law of one call -/

/-- What a cache answers for a key depends on the entry of that key and on the
room left. -/
theorem sameAnswers_of_entry {key : Key} (same : after.entries[key]? = before.entries[key]?)
    (fixed : after.maximumEntries = before.maximumEntries)
    (grown : before.entries.size ≤ after.entries.size) :
    SameAnswers sha256 key before after := by
  constructor
  · intro request
    unfold IdempotencyCache.begin
    rw [same]
    cases found : before.entries[key]? with
    | some entry =>
        by_cases other : entry.requestHash ≠ sha256 request
        · simp only [if_pos other]
          exact Or.inl trivial
        · simp only [if_neg other]
          exact Or.inl trivial
    | none =>
        by_cases limit : before.maximumEntries ≤ before.entries.size
        · have still : after.maximumEntries ≤ after.entries.size := by omega
          simp only [if_pos limit, if_pos still]
          exact Or.inl trivial
        · by_cases full : after.maximumEntries ≤ after.entries.size
          · simp only [if_neg limit, if_pos full]
            exact Or.inr ⟨trivial, trivial, by omega, full⟩
          · simp only [if_neg limit, if_neg full]
            exact Or.inl trivial
  · intro result
    unfold IdempotencyCache.complete IdempotencyCache.settle
    rw [same]
    cases before.entries[key]? with
    | none => rfl
    | some entry => simp only; split_ifs <;> rfl
  · unfold IdempotencyCache.markUnknown IdempotencyCache.settle
    rw [same]
    cases before.entries[key]? with
    | none => rfl
    | some entry => simp only; split_ifs <;> rfl

theorem CacheEffect.isolated {own key : Key} (named : input.key? = some own)
    (other : key ≠ own) (effect : CacheEffect sha256 before input output after) :
    SameAnswers sha256 key before after := by
  cases effect with
  | conflicting owner request entry found differs => exact sameAnswers_of_entry rfl rfl le_rfl
  | retried owner request entry found same => exact sameAnswers_of_entry rfl rfl le_rfl
  | full owner request absent limit => exact sameAnswers_of_entry rfl rfl le_rfl
  | reserved owner request absent room =>
      cases named
      refine sameAnswers_of_entry ?_ rfl ?_
      · rw [OrderedMap.lookup_insert, if_neg (Ne.symm other)]
      · rw [size_insert_of_absent absent]
        omega
  | rejected input owner outcome error asked => exact sameAnswers_of_entry rfl rfl le_rfl
  | settled input owner outcome entry asked found pending =>
      have same : owner = own := by
        cases input <;> cases asked <;> exact Option.some.inj named
      subst same
      refine sameAnswers_of_entry ?_ rfl ?_
      · rw [OrderedMap.lookup_insert, if_neg (Ne.symm other)]
      · rw [size_insert_of_lookup found]
  | cleared => cases named

/-- A key that was reserved in this session has the entry of that request. -/
theorem CacheEffect.begin_reserved {key : Key} {request original : List UInt8} {entry : Entry}
    (effect : CacheEffect sha256 before (.begin key request) output after)
    (found : before.entries[key]? = some entry) (hash : entry.requestHash = sha256 original) :
    (sha256 request ≠ sha256 original → output = .begun .conflictingReuse) ∧
      (sha256 request = sha256 original → output = .begun entry.result.answer) := by
  cases effect with
  | conflicting key request stored present other =>
      rw [found] at present
      cases present
      exact ⟨fun _ => rfl, fun same => absurd (hash.trans same.symm) other⟩
  | retried key request stored present same =>
      rw [found] at present
      cases present
      exact ⟨fun other => absurd (same.symm.trans hash) other, fun _ => rfl⟩
  | full key request absent limit =>
      rw [found] at absent
      cases absent
  | reserved key request absent room =>
      rw [found] at absent
      cases absent
  | rejected input owner outcome error asked => cases asked
  | settled input owner outcome stored asked present pending => cases asked

theorem CacheLedger.law (ledger : CacheLedger sha256 maximum (current past) before)
    (bounded : after.entries.size ≤ maximum)
    (effect : CacheEffect sha256 before input output after) :
    AnswerLaw sha256 maximum past ⟨before, input, output, after⟩ := by
  have conflict (key : Key) (request original : List UInt8) (earlier : CacheEvent)
      (inside : earlier ∈ current past) (reserves : Reserves key original earlier)
      (asked : input = .begin key request) (other : sha256 request ≠ sha256 original) :
      output = .begun .conflictingReuse := by
    obtain ⟨entry, found, hash⟩ := ledger.reserved earlier inside key original reserves
    subst asked
    exact (effect.begin_reserved found hash).1 other
  refine
    { reservedOnce := ?_, conflict := conflict, pending := ?_, replay := ?_,
      settledOnce := ?_, differentBytes := ?_, bounded := bounded, isolated := ?_ }
  · rintro key request ⟨asked, answer⟩ earlier inside original reserves
    obtain ⟨entry, found, hash⟩ := ledger.reserved earlier inside key original reserves
    simp only at asked answer
    subst asked
    obtain ⟨other, same⟩ := effect.begin_reserved found hash
    by_cases hashes : sha256 request = sha256 original
    · have kept := (same hashes).symm.trans answer
      cases stored : entry.result <;> simp [stored, StoredResult.answer] at kept
    · cases (other hashes).symm.trans answer
  · intro key request original earlier inside reserves asked same unsettled
    obtain ⟨entry, found, hash⟩ := ledger.reserved earlier inside key original reserves
    simp only at asked
    subst asked
    have answer := (effect.begin_reserved found hash).2 same
    have pending : entry.result = .pending := by
      by_contra decided
      obtain ⟨settling, member, settles⟩ := ledger.resolved key entry found decided
      exact unsettled settling member _ settles
    rw [pending] at answer
    exact answer
  · intro key request original outcome earlier settling inside reserves member settles asked same
    obtain ⟨entry, found, hash⟩ := ledger.reserved earlier inside key original reserves
    obtain ⟨stored, present, result⟩ := ledger.settled settling member key outcome settles
    rw [found] at present
    cases present
    simp only at asked
    subst asked
    rw [← result]
    exact (effect.begin_reserved found hash).2 same
  · rintro key outcome ⟨named, accepted⟩ earlier inside other settles
    obtain ⟨stored, present, result⟩ := ledger.settled earlier inside key other settles
    simp only at named accepted
    subst accepted
    cases effect with
    | settled input owner decided entry asked found pending =>
        rw [named] at asked
        cases asked
        rw [found] at present
        cases present
        exact outcome_ne_pending settles.1 (result.symm.trans pending)
  · intro injective key request original earlier inside reserves asked different
    refine conflict key request original earlier inside reserves asked ?_
    intro hashes
    refine different (injective ?_ ?_ hashes)
    · exact ⟨_, List.mem_append_right _ (List.mem_singleton.mpr rfl), key, asked⟩
    · exact ⟨earlier, List.mem_append_left _ (mem_of_current inside), key, reserves.1⟩
  · exact fun own key named other => effect.isolated named other

/-- Every key is reserved once, settled once and answered alike ever after. -/
theorem idempotency_answers (sha256 : Sha256) (maximum : Nat) (inputs : List CacheInput) :
    Always (AnswerLaw sha256 maximum)
      ((cacheMachine sha256).history (.new maximum) inputs) := by
  refine (cacheMachine sha256).always_history ?_ inputs
  intro earlier input
  have after := (cacheLedger_reachable sha256 maximum (earlier ++ [input])).bounded
  rw [Machine.final_snoc] at after
  exact (cacheLedger_reachable sha256 maximum earlier).law after (cacheStep_effect sha256 _ input)

end VividProtocol.Idempotency

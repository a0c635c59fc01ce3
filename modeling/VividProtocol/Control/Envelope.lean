import Mathlib.Tactic
import VividProtocol.Control.Maps

/-!
# The control envelope

`Envelope::encode` and `decode_control` of `messages.rs`.  The encoder writes
any precondition, and writes none where there are none; the decoder refuses
unregistered preconditions and accepts a map of none.  Apart from these two
cases the codec is exact in both directions.
-/

set_option autoImplicit false

namespace VividProtocol

open VividProtocol.Cbor
open VividProtocol.Library.Result
open VividProtocol.Library.Association

structure Envelope where
  requestId : UInt64
  transactionId : Option UInt64
  expectedTargetGeneration : Option UInt64
  payload : PayloadMap
  preconditions : PayloadMap
  idempotencyKey : Option (Bytes 16)
  causationId : Option (Bytes 16)
  deriving Repr

namespace Envelope

def new (requestId : UInt64) (payload : PayloadMap) : Envelope :=
  { requestId := requestId
    transactionId := none
    expectedTargetGeneration := none
    payload := payload
    preconditions := []
    idempotencyKey := none
    causationId := none }

/-- The map of the present parts. -/
def fields (envelope : Envelope) : PayloadMap :=
  [(0, .unsigned envelope.requestId)] ++
  entry 1 (envelope.transactionId.map .unsigned) ++
  entry 2 (envelope.expectedTargetGeneration.map .unsigned) ++
  [(3, .map envelope.payload)] ++
  (if envelope.preconditions = [] then [] else [(4, .map envelope.preconditions)]) ++
  entry 5 (envelope.idempotencyKey.map fun key => .bytes key.toList) ++
  entry 6 (envelope.causationId.map fun id => .bytes id.toList)

def encode (envelope : Envelope) : Except MessageError (List UInt8) := do
  validateSortedMap "payload" envelope.payload
  validateSortedMap "preconditions" envelope.preconditions
  orEncodeError (Cbor.encode (.map envelope.fields))

def validateRequest (envelope : Envelope) : Except MessageError Unit :=
  if envelope.requestId = 0 then
    .error (invalidValue "envelope" 0 "must be nonzero for a request")
  else .ok ()

end Envelope

/-- The loop over the keys of the preconditions. -/
def checkPreconditions (preconditions : PayloadMap) : Except MessageError Unit :=
  match preconditions.find? fun entry => decide (9 < entry.1) with
  | some (key, _) => .error (.unknownKey "preconditions" key)
  | none => .ok ()

/-- The keys of a decoded map are distinct, so the maps that are moved out at the
end are the two that were checked. -/
def decodeControl (body : List UInt8) : Except MessageError Envelope := do
  let value ← orDecodeError (decode body)
  let map ← StrictMap.new "envelope" value [0, 1, 2, 3, 4, 5, 6]
  let payload ← map.requiredMap 3
  validateSortedMap "payload" payload
  let sent ← map.optionalMap 4
  let preconditions := sent.getD []
  validateSortedMap "preconditions" preconditions
  checkPreconditions preconditions
  let requestId ← map.requiredU64 0
  let transactionId ← map.optionalU64 1
  let expectedTargetGeneration ← map.optionalU64 2
  let idempotencyKey ← map.optionalFixedBytes 5 16
  let causationId ← map.optionalFixedBytes 6 16
  .ok
    { requestId := requestId
      transactionId := transactionId
      expectedTargetGeneration := expectedTargetGeneration
      payload := payload
      preconditions := preconditions
      idempotencyKey := idempotencyKey
      causationId := causationId }

/-! ## The parts of an envelope -/

namespace Envelope

variable {envelope : Envelope}

/-- The value under a key of the envelope. -/
def part (envelope : Envelope) : UInt64 → Option Value
  | 0 => some (.unsigned envelope.requestId)
  | 1 => envelope.transactionId.map .unsigned
  | 2 => envelope.expectedTargetGeneration.map .unsigned
  | 3 => some (.map envelope.payload)
  | 4 => if envelope.preconditions = [] then none else some (.map envelope.preconditions)
  | 5 => envelope.idempotencyKey.map fun key => .bytes key.toList
  | 6 => envelope.causationId.map fun id => .bytes id.toList
  | _ => none

def keys : List UInt64 := [0, 1, 2, 3, 4, 5, 6]

theorem keys_sorted : keys.Pairwise (· < ·) := by decide

theorem fields_eq (envelope : Envelope) : envelope.fields = assemble keys envelope.part := by
  have sent : (if envelope.preconditions = [] then []
      else [((4 : UInt64), Value.map envelope.preconditions)]) =
      entry 4 (envelope.part 4) := by
    unfold part
    by_cases none : envelope.preconditions = [] <;> simp [none]
  unfold fields
  rw [sent]
  simp [keys, part]

theorem fields_lookup {key : UInt64} (among : key ∈ keys) :
    envelope.fields.lookup key = envelope.part key := by
  rw [fields_eq, lookup_assemble among]

theorem fields_keys (envelope : Envelope) : (envelope.fields.map Prod.fst).Sublist keys := by
  rw [fields_eq]
  exact assemble_keys keys envelope.part

/-- The envelope with every value in normal form. -/
def norm (envelope : Envelope) : Envelope :=
  { envelope with
    payload := Value.normEntries envelope.payload
    preconditions := Value.normEntries envelope.preconditions }

theorem normEntries_keys (entries : PayloadMap) :
    (Value.normEntries entries).map Prod.fst = entries.map Prod.fst := by
  rw [Value.normEntries_eq, List.map_map]
  rfl

theorem normEntries_eq_nil {entries : PayloadMap} : Value.normEntries entries = [] ↔ entries = [] := by
  rw [Value.normEntries_eq, List.map_eq_nil_iff]

theorem part_norm (envelope : Envelope) {key : UInt64} (among : key ∈ keys) :
    envelope.norm.part key = (envelope.part key).map Value.norm := by
  simp only [keys, List.mem_cons, List.not_mem_nil, or_false] at among
  rcases among with same | same | same | same | same | same | same <;> rw [same]
  · rfl
  · simp only [part, norm, Option.map_map]
    rfl
  · simp only [part, norm, Option.map_map]
    rfl
  · rfl
  · simp only [part, norm, normEntries_eq_nil]
    by_cases none : envelope.preconditions = [] <;> simp [none, Value.norm]
  · simp only [part, norm, Option.map_map]
    rfl
  · simp only [part, norm, Option.map_map]
    rfl

theorem fields_norm (envelope : Envelope) :
    Value.normEntries envelope.fields = envelope.norm.fields := by
  rw [fields_eq, fields_eq, Value.normEntries_eq, map_assemble]
  exact assemble_congr fun key among => (envelope.part_norm among).symm

end Envelope

/-! ## Decoding an encoding -/

theorem checkPreconditions_eq_ok {preconditions : PayloadMap} {done : Unit} :
    checkPreconditions preconditions = .ok done ↔ ∀ entry ∈ preconditions, entry.1 ≤ 9 := by
  unfold checkPreconditions
  cases found : preconditions.find? fun entry => decide (9 < entry.1) with
  | none =>
      have each := List.find?_eq_none.mp found
      simpa using each
  | some entry =>
      have above := List.find?_some found
      have among := List.mem_of_find?_eq_some found
      simp only [decide_eq_true_eq] at above
      constructor
      · intro impossible
        cases impossible
      · intro each
        exact absurd (each entry among) (UInt64.not_le.mpr above)

/-- What the entries of a decoded body say of the envelope. -/
structure Reads (entries : PayloadMap) (envelope : Envelope) : Prop where
  known : ∀ entry ∈ entries, entry.1 ∈ Envelope.keys
  parts : ∀ key ∈ Envelope.keys, key ≠ 4 → entries.lookup key = envelope.part key
  preconditions : entries.lookup 4 = envelope.part 4 ∨
    entries.lookup 4 = some (.map []) ∧ envelope.preconditions = []
  registered : ∀ entry ∈ envelope.preconditions, entry.1 ≤ 9
  payloadSorted : (envelope.payload.map Prod.fst).Pairwise (· < ·)
  preconditionsSorted : (envelope.preconditions.map Prod.fst).Pairwise (· < ·)

/-- The preconditions that a map under key 4, or its absence, stands for. -/
theorem preconditions_iff {held : Option Value} {preconditions : PayloadMap} :
    (∃ sent : Option PayloadMap, held = sent.map .map ∧ sent.getD [] = preconditions) ↔
      held = (if preconditions = [] then none else some (.map preconditions)) ∨
        held = some (.map []) ∧ preconditions = [] := by
  constructor
  · intro sent
    obtain ⟨sent, same, entries⟩ := sent
    cases sent with
    | none =>
        cases entries
        exact Or.inl same
    | some map =>
        cases entries
        by_cases empty : map = []
        · rw [empty] at same
          exact Or.inr ⟨same, empty⟩
        · rw [Option.getD_some, if_neg empty]
          exact Or.inl same
  · intro either
    rcases either with same | ⟨same, empty⟩
    · by_cases empty : preconditions = []
      · rw [if_pos empty] at same
        exact ⟨none, same, empty.symm⟩
      · rw [if_neg empty] at same
        exact ⟨some preconditions, same, rfl⟩
    · exact ⟨some [], same, empty.symm⟩

theorem decodeControl_eq_ok {body : List UInt8} {envelope : Envelope} :
    decodeControl body = .ok envelope ↔
      ∃ entries, decode body = .ok (.map entries) ∧ Reads entries envelope := by
  unfold decodeControl
  simp only [bind_eq_ok_iff, orDecodeError_eq_ok, StrictMap.new_eq_ok,
    StrictMap.requiredMap_eq_ok, StrictMap.optionalMap_eq_ok, StrictMap.requiredU64_iff,
    StrictMap.optionalU64_eq_ok, StrictMap.optionalFixedBytes_eq_ok, validateSortedMap_eq_ok,
    checkPreconditions_eq_ok, Except.ok.injEq]
  constructor
  · intro read
    obtain ⟨_, decoded, map, ⟨_, same, known⟩, payload, three, _, payloadSorted, sent, four, _,
      sorted, _, registered, request, zero, transaction, one, generation, two, idempotency, five,
      causation, six, built⟩ := read
    rw [same] at decoded
    cases built
    refine ⟨map.entries, decoded,
      { known := known
        parts := ?_
        preconditions := preconditions_iff.mp ⟨sent, four, rfl⟩
        registered := registered
        payloadSorted := payloadSorted
        preconditionsSorted := sorted }⟩
    intro key among other
    simp only [Envelope.keys, List.mem_cons, List.not_mem_nil, or_false] at among
    rcases among with same | same | same | same | same | same | same <;> rw [same]
    · exact zero
    · exact one
    · exact two
    · exact three
    · exact absurd same other
    · exact five
    · exact six
  · intro read
    obtain ⟨entries, decoded, reads⟩ := read
    obtain ⟨sent, four, given⟩ := preconditions_iff.mpr reads.preconditions
    refine ⟨_, decoded, ⟨"envelope", entries⟩, ⟨rfl, rfl, reads.known⟩, envelope.payload,
      reads.parts 3 (by decide) (by decide), (), reads.payloadSorted, sent, four, (), ?_, (), ?_,
      envelope.requestId, reads.parts 0 (by decide) (by decide), envelope.transactionId,
      reads.parts 1 (by decide) (by decide), envelope.expectedTargetGeneration,
      reads.parts 2 (by decide) (by decide), envelope.idempotencyKey,
      reads.parts 5 (by decide) (by decide), envelope.causationId,
      reads.parts 6 (by decide) (by decide), ?_⟩
    · rw [given]
      exact reads.preconditionsSorted
    · rw [given]
      exact reads.registered
    · rw [given]

namespace Envelope

variable {envelope : Envelope}

theorem encode_eq_ok {body : List UInt8} :
    envelope.encode = .ok body ↔
      (envelope.payload.map Prod.fst).Pairwise (· < ·) ∧
        (envelope.preconditions.map Prod.fst).Pairwise (· < ·) ∧
        Cbor.encode (.map envelope.fields) = .ok body := by
  unfold encode
  simp only [bind_eq_ok_iff, validateSortedMap_eq_ok, orEncodeError_eq_ok, exists_and_left,
    exists_const]

/-- What is written is read in normal form, if its preconditions are registered. -/
theorem decode_of_encode {body : List UInt8} (written : envelope.encode = .ok body)
    (registered : ∀ entry ∈ envelope.preconditions, entry.1 ≤ 9) :
    decodeControl body = .ok envelope.norm := by
  obtain ⟨payloadSorted, sorted, encoded⟩ := encode_eq_ok.mp written
  have decoded := Cbor.decode_of_encode encoded
  rw [Value.norm, fields_norm] at decoded
  refine decodeControl_eq_ok.mpr ⟨_, decoded,
    { known := ?_
      parts := fun key among _ => fields_lookup among
      preconditions := Or.inl (fields_lookup (by decide))
      registered := ?_
      payloadSorted := ?_
      preconditionsSorted := ?_ }⟩
  · intro entry among
    exact (fields_keys envelope.norm).subset (List.mem_map_of_mem among)
  · intro entry among
    have key := List.mem_map_of_mem (f := Prod.fst) among
    rw [norm, normEntries_keys] at key
    obtain ⟨other, inside, same⟩ := List.mem_map.mp key
    rw [← same]
    exact registered other inside
  · rw [norm, normEntries_keys]
    exact payloadSorted
  · rw [norm, normEntries_keys]
    exact sorted

theorem norm_eq_self (payload : Value.normEntries envelope.payload = envelope.payload)
    (preconditions : Value.normEntries envelope.preconditions = envelope.preconditions) :
    envelope.norm = envelope := by
  rw [norm, payload, preconditions]

end Envelope

/-! ## A payload of its own -/

theorem mem_of_lookup {entries : PayloadMap} {key : UInt64} {value : Value}
    (held : entries.lookup key = some value) : (key, value) ∈ entries := by
  obtain ⟨before, after, split, _⟩ := List.lookup_eq_some_iff.mp held
  rw [split]
  exact List.mem_append_right before List.mem_cons_self

/-- The payload of an accepted body can stand in another envelope. -/
theorem payload_fits {body : List UInt8} {envelope : Envelope}
    (read : decodeControl body = .ok envelope) : (Value.map envelope.payload).Fits maxDepth := by
  obtain ⟨entries, decoded, reads⟩ := decodeControl_eq_ok.mp read
  have fits := Value.fits_of_decode decoded
  have held : entries.lookup 3 = some (.map envelope.payload) :=
    reads.parts 3 (by decide) (by decide)
  exact fits.2.2 _ (mem_of_lookup held)

namespace Envelope

variable {requestId : UInt64} {payload : PayloadMap}

theorem encode_new (requestId : UInt64) (fits : (Value.map payload).Fits maxDepth) :
    ∃ body, (new requestId payload).encode = .ok body := by
  have sorted : (payload.map Prod.fst).Pairwise (· < ·) := by
    rw [← unsorted_eq_false, ← unsortedKeys_eq]
    exact fits.2.1
  have whole : (Value.map [(0, .unsigned requestId), (3, .map payload)]).Fits (maxDepth + 1) := by
    refine ⟨by simp [maxContainerLength], by simp [unsortedKeys], ?_⟩
    intro entry among
    simp only [List.mem_cons, List.not_mem_nil, or_false] at among
    rcases among with same | same
    · rw [same]
      have number : (Value.unsigned requestId).Fits (15 + 1) := Value.fits_unsigned requestId
      exact number
    · rw [same]
      exact fits
  obtain ⟨body, encoded⟩ := whole.encode
  exact ⟨body, encode_eq_ok.mpr ⟨sorted, List.Pairwise.nil, encoded⟩⟩

theorem decode_new {body : List UInt8} (written : (new requestId payload).encode = .ok body)
    (normal : Value.normEntries payload = payload) :
    decodeControl body = .ok (new requestId payload) := by
  rw [decode_of_encode written fun _ among => nomatch among]
  exact congrArg _ (norm_eq_self normal rfl)

theorem validateRequest_eq_ok {envelope : Envelope} {done : Unit} :
    envelope.validateRequest = .ok done ↔ envelope.requestId ≠ 0 := by
  unfold validateRequest
  rw [ite_error_eq_ok_iff]
  simp

end Envelope

/-! ## Both directions -/

/-- The body carries preconditions, but none are in the map. -/
def SendsNoPreconditions (body : List UInt8) : Prop :=
  ∃ entries, decode body = .ok (.map entries) ∧ entries.lookup 4 = some (.map [])

/-- A map of none under key 4 is the only part that is not written again. -/
theorem Reads.fields_eq {entries : PayloadMap} {envelope : Envelope} (reads : Reads entries envelope)
    (sorted : (entries.map Prod.fst).Pairwise (· < ·))
    (sent : entries.lookup 4 ≠ some (.map [])) : envelope.fields = entries := by
  have kept : (entries.map Prod.fst).Sublist Envelope.keys := by
    refine sublist_of_sorted sorted Envelope.keys_sorted ?_
    intro key among
    obtain ⟨entry, inside, same⟩ := List.mem_map.mp among
    rw [← same]
    exact reads.known entry inside
  have parts : ∀ key ∈ Envelope.keys, envelope.part key = entries.lookup key := by
    intro key among
    by_cases four : key = 4
    · rw [four]
      rcases reads.preconditions with same | ⟨empty, _⟩
      · exact same.symm
      · exact absurd empty sent
    · exact (reads.parts key among four).symm
  rw [Envelope.fields_eq, assemble_congr parts, assemble_lookup kept (by decide)]

theorem encode_of_decodeControl {body : List UInt8} {envelope : Envelope}
    (read : decodeControl body = .ok envelope) (sent : ¬ SendsNoPreconditions body) :
    envelope.encode = .ok body := by
  obtain ⟨entries, decoded, reads⟩ := decodeControl_eq_ok.mp read
  have encoded := encode_of_decode decoded
  have sorted := unsorted_eq_false.mp (encode_map_eq_ok.mp encoded).2.1
  rw [Envelope.encode_eq_ok, reads.fields_eq sorted fun empty => sent ⟨entries, decoded, empty⟩]
  exact ⟨reads.payloadSorted, reads.preconditionsSorted, encoded⟩

/-- The codec is exact on envelopes whose preconditions are registered and on
bodies that do not send a map of no preconditions, and on no others. -/
theorem envelope_exact_iff (envelope : Envelope) (body : List UInt8) :
    ((∀ entry ∈ envelope.payload ++ envelope.preconditions, entry.2.norm = entry.2) →
      envelope.encode = .ok body →
      (decodeControl body = .ok envelope ↔ ∀ entry ∈ envelope.preconditions, entry.1 ≤ 9)) ∧
    (decodeControl body = .ok envelope →
      (envelope.encode = .ok body ↔ ¬ SendsNoPreconditions body)) := by
  refine ⟨?_, ?_⟩
  · intro normal written
    constructor
    · intro read
      obtain ⟨_, _, reads⟩ := decodeControl_eq_ok.mp read
      exact reads.registered
    · intro registered
      rw [Envelope.decode_of_encode written registered]
      refine congrArg _ (Envelope.norm_eq_self ?_ ?_)
      · exact Value.normEntries_eq_self fun entry among => normal entry (by simp [among])
      · exact Value.normEntries_eq_self fun entry among => normal entry (by simp [among])
  · intro read
    constructor
    · intro written sent
      obtain ⟨entries, decoded, empty⟩ := sent
      obtain ⟨_, _, encoded⟩ := Envelope.encode_eq_ok.mp written
      have again := decode_of_encode encoded
      rw [decoded, Value.norm, Envelope.fields_norm] at again
      cases again
      rw [Envelope.fields_lookup (by decide), Envelope.part] at empty
      by_cases none : envelope.norm.preconditions = []
      · simp [none] at empty
      · simp [none] at empty
    · intro sent
      exact encode_of_decodeControl read sent

/-- A precondition that the registry does not have. -/
def unregistered : Envelope := { Envelope.new 1 [] with preconditions := [(10, .null)] }

/-- A request in a transaction, with two preconditions and a key to repeat it under. -/
def guarded : Envelope :=
  { requestId := 7
    transactionId := some 4
    expectedTargetGeneration := some 2
    payload := [(0, .unsigned 5), (3, .text "x")]
    preconditions := [(1, .unsigned 8), (9, .array [.bool true])]
    idempotencyKey := some (Vector.replicate 16 1)
    causationId := none }

theorem envelope_exact_iff_guarded :
    ∃ body, guarded.encode = .ok body ∧ decodeControl body = .ok guarded ∧
      ¬ SendsNoPreconditions body := by
  obtain ⟨body, written⟩ : ∃ body, guarded.encode = .ok body := ⟨_, rfl⟩
  have exact := envelope_exact_iff guarded body
  have normal : ∀ entry ∈ guarded.payload ++ guarded.preconditions, entry.2.norm = entry.2 := by
    simp only [guarded, List.cons_append, List.nil_append, List.forall_mem_cons]
    exact ⟨rfl, rfl, rfl, rfl, nofun⟩
  have read := (exact.1 normal written).mpr (by decide)
  exact ⟨body, written, read, (exact.2 read).mp written⟩

/-- The encoder writes an unregistered precondition that the decoder refuses, and
the decoder accepts a map of no preconditions that the encoder leaves out. -/
theorem envelope_not_exact :
    (unregistered.encode = .ok [0xa3, 0x00, 0x01, 0x03, 0xa0, 0x04, 0xa1, 0x0a, 0xf6] ∧
      decodeControl [0xa3, 0x00, 0x01, 0x03, 0xa0, 0x04, 0xa1, 0x0a, 0xf6] =
        .error (.unknownKey "preconditions" 10)) ∧
    decodeControl [0xa3, 0x00, 0x01, 0x03, 0xa0, 0x04, 0xa0] = .ok (Envelope.new 1 []) ∧
      (Envelope.new 1 []).encode = .ok [0xa2, 0x00, 0x01, 0x03, 0xa0] :=
  ⟨⟨rfl, rfl⟩, rfl, rfl⟩

end VividProtocol

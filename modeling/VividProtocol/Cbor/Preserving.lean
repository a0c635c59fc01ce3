import Mathlib.Tactic
import VividProtocol.Cbor.Append

/-!
# Maps that keep unknown entries

`decode_preserving_map` and `encode_preserving_map` of `cbor.rs`.  A relay reads
the entries it knows and forwards the bytes of all others.  The decoder repeats
the map loop of the plain codec with slices of its input, and the encoder merges
two sorted lists.
-/

set_option autoImplicit false

namespace VividProtocol.Cbor

open VividProtocol.Library.Result

/-! ## Types -/

structure PreservedEntry where
  key : UInt64
  encodedValue : List UInt8
  deriving Repr, DecidableEq

/-- A preserved entry that outlives the input. -/
structure PreservedField where
  key : UInt64
  encodedValue : List UInt8
  deriving Repr, DecidableEq

def PreservedEntry.toOwned (entry : PreservedEntry) : PreservedField :=
  { key := entry.key, encodedValue := entry.encodedValue }

structure PreservingMap where
  known : List (UInt64 × Value × List UInt8)
  preserved : List PreservedEntry
  deriving Repr

namespace PreservingMap

def preservedOwned (map : PreservingMap) : List PreservedField :=
  map.preserved.map PreservedEntry.toOwned

/-- The known entries without their bytes, as `known_value` finds them. -/
def knownEntries (map : PreservingMap) : List (UInt64 × Value) :=
  map.known.map fun entry => (entry.1, entry.2.1)

end PreservingMap

/-! ## Decoder -/

/-- The loop over the entries.  The value's bytes are the input up to where
decoding stopped; on sorted keys `binary_search` finds exactly the members. -/
def preservingEntries (knownKeys : List UInt64) : Option UInt64 → Nat → List UInt8 →
    Except DecodeError (PreservingMap × List UInt8)
  | _, 0, unread => .ok ({ known := [], preserved := [] }, unread)
  | previous, count + 1, unread => do
      let (keyValue, start) ← Decoder.value 1 unread
      match keyValue with
      | .unsigned key =>
          if previous.any fun previous => decide (previous ≥ key) then
            .error ⟨"CBOR map keys are not strictly sorted"⟩
          else do
            let (value, unread) ← Decoder.value 1 start
            let encodedValue := start.take (start.length - unread.length)
            let (rest, unread) ← preservingEntries knownKeys (some key) count unread
            if key ∈ knownKeys then
              .ok ({ rest with known := (key, value, encodedValue) :: rest.known }, unread)
            else
              .ok ({ rest with preserved := ⟨key, encodedValue⟩ :: rest.preserved }, unread)
      | _ => .error ⟨"CBOR map key is not an unsigned integer"⟩

def decodePreservingMap (bytes : List UInt8) (knownKeys : List UInt64) :
    Except DecodeError PreservingMap :=
  if unsorted knownKeys then .error ⟨"known CBOR map keys are not strictly sorted"⟩
  else do
    let (initial, unread) ← Decoder.byte bytes
    if (initial >>> 5).toNat ≠ 5 then .error ⟨"CBOR value is not a map"⟩
    else do
      let (length, unread) ← Decoder.containerLength (initial &&& 0x1f) 2 unread
      let (map, unread) ← preservingEntries knownKeys none length unread
      if unread = [] then .ok map
      else .error ⟨"trailing bytes after CBOR value"⟩

/-! ## Encoder -/

def checkPreserved : List PreservedField → Except EncodeError Unit
  | [] => .ok ()
  | entry :: rest =>
      match decodeAtDepth entry.encodedValue 1 with
      | .error error => .error ⟨"invalid preserved CBOR value: " ++ error.message⟩
      | .ok _ => checkPreserved rest

/-- The loop over both lists, from their first entries that are not written. -/
def mergeLoop : Encoder → List (UInt64 × Value) → List PreservedField →
    Except EncodeError Encoder
  | encoder, [], [] => .ok encoder
  | encoder, (key, value) :: known, [] => do
      let encoder ← encodeValue (encoder.u64 key) value 1
      mergeLoop encoder known []
  | encoder, [], entry :: preserved =>
      mergeLoop ((encoder.u64 entry.key).extend entry.encodedValue) [] preserved
  | encoder, (key, value) :: known, entry :: preserved =>
      if key = entry.key then .error ⟨"known and preserved CBOR map keys collide"⟩
      else if key < entry.key then do
        let encoder ← encodeValue (encoder.u64 key) value 1
        mergeLoop encoder known (entry :: preserved)
      else
        mergeLoop ((encoder.u64 entry.key).extend entry.encodedValue) ((key, value) :: known)
          preserved
termination_by _ known preserved => known.length + preserved.length

/-- The sum of two lengths of vectors does not overflow. -/
def encodePreservingMap (known : List (UInt64 × Value)) (preserved : List PreservedField) :
    Except EncodeError (List UInt8) := do
  validateContainerLength (known.length + preserved.length)
  if unsorted (known.map Prod.fst) ∨ unsorted (preserved.map PreservedField.key) then
    .error ⟨"CBOR map keys are not strictly sorted"⟩
  else do
    checkPreserved preserved
    let encoder ← mergeLoop (Encoder.new.map (known.length + preserved.length)) known preserved
    .ok encoder.bytes

/-! ## The decoder splits the entries -/

/-- A known entry with its bytes. -/
def Found (found : UInt64 × Value × List UInt8) (entry : UInt64 × Value) : Prop :=
  found.1 = entry.1 ∧ found.2.1 = entry.2 ∧ WrittenAs entry.2 found.2.2

/-- A preserved entry holds the bytes of the value it stands for. -/
def Passed (passed : PreservedEntry) (entry : UInt64 × Value) : Prop :=
  passed.key = entry.1 ∧ WrittenAs entry.2 passed.encodedValue ∧
    decodeAtDepth passed.encodedValue 1 = .ok entry.2

/-- The entries of a map, known and unknown, each in order. -/
structure Splits (knownKeys : List UInt64) (entries : List (UInt64 × Value))
    (map : PreservingMap) : Prop where
  known : List.Forall₂ Found map.known (entries.filter fun entry => entry.1 ∈ knownKeys)
  preserved : List.Forall₂ Passed map.preserved
    (entries.filter fun entry => entry.1 ∉ knownKeys)

variable {knownKeys : List UInt64} {map : PreservingMap}

theorem Splits.cons_known {entries : List (UInt64 × Value)} {key : UInt64} {value : Value}
    {bytes : List UInt8} (splits : Splits knownKeys entries map) (isKnown : key ∈ knownKeys)
    (written : WrittenAs value bytes) :
    Splits knownKeys ((key, value) :: entries)
      { map with known := (key, value, bytes) :: map.known } := by
  constructor
  · rw [List.filter_cons_of_pos (by simpa using isKnown)]
    exact .cons ⟨rfl, rfl, written⟩ splits.known
  · rw [List.filter_cons_of_neg (by simpa using isKnown)]
    exact splits.preserved

theorem Splits.cons_preserved {entries : List (UInt64 × Value)} {key : UInt64} {value : Value}
    {bytes : List UInt8} (splits : Splits knownKeys entries map) (isUnknown : key ∉ knownKeys)
    (written : WrittenAs value bytes) (decoded : decodeAtDepth bytes 1 = .ok value) :
    Splits knownKeys ((key, value) :: entries)
      { map with preserved := ⟨key, bytes⟩ :: map.preserved } := by
  constructor
  · rw [List.filter_cons_of_neg (by simpa using isUnknown)]
    exact splits.known
  · rw [List.filter_cons_of_pos (by simpa using isUnknown)]
    exact .cons ⟨rfl, written, decoded⟩ splits.preserved

theorem preservingEntries_of_entries {previous : Option UInt64} {count : Nat}
    {unread rest : List UInt8} {entries : List (UInt64 × Value)}
    (read : Decoder.entries (Decoder.value 1) previous count unread = .ok (entries, rest)) :
    ∃ map : PreservingMap, preservingEntries knownKeys previous count unread = .ok (map, rest) ∧
      Splits knownKeys entries map := by
  induction count generalizing previous unread entries with
  | zero =>
      cases read
      exact ⟨_, rfl, .nil, .nil⟩
  | succ count ih =>
      obtain ⟨⟨keyValue, start⟩, readKey, read⟩ := bind_eq_ok_iff.mp read
      cases keyValue with
      | unsigned key =>
          obtain ⟨fresh, read⟩ := ite_error_eq_ok_iff.mp read
          obtain ⟨⟨value, middle⟩, readValue, read⟩ := bind_eq_ok_iff.mp read
          obtain ⟨⟨later, after⟩, tail, same⟩ := bind_eq_ok_iff.mp read
          cases same
          obtain ⟨map, kept, splits⟩ := ih tail
          obtain ⟨bytes, split, written⟩ := writtenAs_of_value readValue
          have slice : start.take (start.length - middle.length) = bytes := by
            rw [split, List.length_append, Nat.add_sub_cancel, List.take_left]
          rw [preservingEntries, readKey]
          simp only [ok_bind, if_neg fresh, readValue, slice, kept]
          by_cases isKnown : key ∈ knownKeys
          · exact ⟨_, by rw [if_pos isKnown], splits.cons_known isKnown written⟩
          · exact ⟨_, by rw [if_neg isKnown], splits.cons_preserved isKnown written
              (decodeAtDepth_of_value readValue split written)⟩
      | _ => cases read

theorem entries_of_preservingEntries {previous : Option UInt64} {count : Nat}
    {unread rest : List UInt8}
    (read : preservingEntries knownKeys previous count unread = .ok (map, rest)) :
    ∃ entries, Decoder.entries (Decoder.value 1) previous count unread = .ok (entries, rest) := by
  induction count generalizing previous unread map with
  | zero =>
      cases read
      exact ⟨[], rfl⟩
  | succ count ih =>
      obtain ⟨⟨keyValue, start⟩, readKey, read⟩ := bind_eq_ok_iff.mp read
      cases keyValue with
      | unsigned key =>
          obtain ⟨fresh, read⟩ := ite_error_eq_ok_iff.mp read
          obtain ⟨⟨value, middle⟩, readValue, read⟩ := bind_eq_ok_iff.mp read
          obtain ⟨⟨later, after⟩, tail, same⟩ := bind_eq_ok_iff.mp read
          have ends : after = rest := by
            dsimp only at same
            split_ifs at same <;> cases same <;> rfl
          rw [ends] at tail
          obtain ⟨entries, inside⟩ := ih tail
          refine ⟨(key, value) :: entries, ?_⟩
          rw [Decoder.entries, readKey]
          simp only [ok_bind, if_neg fresh, readValue, inside]
      | _ => cases read

theorem decodePreservingMap_of_decode {bytes : List UInt8} {entries : List (UInt64 × Value)}
    (sorted : unsorted knownKeys = false) (decoded : decode bytes = .ok (.map entries)) :
    ∃ map, decodePreservingMap bytes knownKeys = .ok map ∧ Splits knownKeys entries map := by
  obtain ⟨initial, unread, split, major, length, start, sized, read⟩ :=
    decode_map_eq_ok.mp decoded
  obtain ⟨map, kept, splits⟩ := @preservingEntries_of_entries knownKeys _ _ _ _ _ read
  refine ⟨map, ?_, splits⟩
  unfold decodePreservingMap
  rw [sorted, split]
  simp only [Bool.false_eq_true, if_false, Decoder.byte, ok_bind, major, ne_eq, not_true_eq_false,
    sized, kept, if_true]

theorem decode_of_decodePreservingMap {bytes : List UInt8}
    (kept : decodePreservingMap bytes knownKeys = .ok map) :
    ∃ entries, decode bytes = .ok (.map entries) := by
  unfold decodePreservingMap at kept
  obtain ⟨_, kept⟩ := ite_error_eq_ok_iff.mp kept
  obtain ⟨⟨initial, unread⟩, first, kept⟩ := bind_eq_ok_iff.mp kept
  obtain ⟨major, kept⟩ := ite_error_eq_ok_iff.mp kept
  obtain ⟨⟨length, start⟩, sized, kept⟩ := bind_eq_ok_iff.mp kept
  obtain ⟨⟨found, rest⟩, read, drained⟩ := bind_eq_ok_iff.mp kept
  have empty : rest = [] := by
    by_contra more
    simp [more] at drained
  obtain ⟨entries, inside⟩ := entries_of_preservingEntries read
  rw [empty] at inside
  refine ⟨entries, decode_map_eq_ok.mpr ⟨initial, unread, ?_, not_not.mp major, length, start,
    sized, inside⟩⟩
  cases bytes with
  | nil => cases first
  | cons byte others =>
      cases first
      rfl

end VividProtocol.Cbor

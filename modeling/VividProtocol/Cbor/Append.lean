import Mathlib.Tactic
import VividProtocol.Cbor.Canonical

/-!
# Values inside a map

An element encoder appends the same bytes to every buffer, and what fits some
levels fits more.  So the bytes of a value are its own wherever it stands, and
a map is its head and its entries, for the encoder and for the decoder.
-/

set_option autoImplicit false

namespace VividProtocol.Cbor

open VividProtocol.Library.Result

/-! ## Sorted keys -/

/-- `keys.windows(2).any(|pair| pair[0] >= pair[1])`. -/
def unsorted (keys : List UInt64) : Bool :=
  (keys.zip keys.tail).any fun pair => decide (pair.1 ≥ pair.2)

theorem unsorted_eq_false {keys : List UInt64} :
    unsorted keys = false ↔ keys.Pairwise (· < ·) := by
  induction keys with
  | nil => simp [unsorted]
  | cons first rest ih =>
      cases rest with
      | nil => simp [unsorted]
      | cons next rest =>
          have split : unsorted (first :: next :: rest) = false ↔
              first < next ∧ unsorted (next :: rest) = false := by
            simp [unsorted]
          rw [split, ih]
          constructor
          · intro ordered
            obtain ⟨below, sorted⟩ := ordered
            refine List.pairwise_cons.mpr ⟨?_, sorted⟩
            intro key among
            rcases List.mem_cons.mp among with same | later
            · rw [same]
              exact below
            · exact UInt64.lt_trans below ((List.pairwise_cons.mp sorted).1 key later)
          · intro sorted
            obtain ⟨below, rest⟩ := List.pairwise_cons.mp sorted
            exact ⟨below next List.mem_cons_self, rest⟩

theorem unsortedKeys_eq (entries : List (UInt64 × Value)) :
    unsortedKeys entries = unsorted (entries.map Prod.fst) := by
  unfold unsortedKeys unsorted
  rw [← List.map_tail, List.zip_map, List.any_map]
  rfl

/-! ## Encodings are appended -/

/-- What an element encoder writes does not depend on the buffer. -/
def Appends (item : Encoder → Value → Except EncodeError Encoder) : Prop :=
  ∀ encoder value result, item encoder value = .ok result →
    ∃ bytes, ∀ other : Encoder, item other value = .ok (other.extend bytes)

variable {item : Encoder → Value → Except EncodeError Encoder}

theorem Appends.items (appends : Appends item) {values : List Value} {encoder result : Encoder}
    (written : encodeItems item encoder values = .ok result) :
    ∃ bytes, ∀ other : Encoder, encodeItems item other values = .ok (other.extend bytes) := by
  induction values generalizing encoder with
  | nil => exact ⟨[], fun other => by simp [encodeItems, Encoder.extend]⟩
  | cons value rest ih =>
      obtain ⟨middle, first, later⟩ := bind_eq_ok_iff.mp written
      obtain ⟨head, writesHead⟩ := appends encoder value middle first
      obtain ⟨tail, writesTail⟩ := ih later
      refine ⟨head ++ tail, ?_⟩
      intro other
      rw [encodeItems, writesHead, ok_bind, writesTail, extend_extend]

theorem Appends.entries (appends : Appends item) {entries : List (UInt64 × Value)}
    {encoder result : Encoder} (written : encodeEntries item encoder entries = .ok result) :
    ∃ bytes, ∀ other : Encoder, encodeEntries item other entries = .ok (other.extend bytes) := by
  induction entries generalizing encoder with
  | nil => exact ⟨[], fun other => by simp [encodeEntries, Encoder.extend]⟩
  | cons entry rest ih =>
      obtain ⟨middle, first, later⟩ := bind_eq_ok_iff.mp written
      obtain ⟨head, writesHead⟩ := appends _ entry.2 middle first
      obtain ⟨tail, writesTail⟩ := ih later
      refine ⟨headBytes 0 entry.1 ++ head ++ tail, ?_⟩
      intro other
      rw [encodeEntries, writesHead, ok_bind, writesTail, Encoder.u64, majorLength_eq_extend]
      simp [extend_extend]

theorem appends_within (levels : Nat) : Appends (encodeWithin levels) := by
  induction levels with
  | zero =>
      intro encoder value result written
      cases written
  | succ levels ih =>
      intro encoder value result written
      cases value with
      | unsigned value => exact ⟨_, fun other => congrArg _ (majorLength_eq_extend other 0 value)⟩
      | negative value =>
          by_cases sign : 0 ≤ value
          · refine ⟨headBytes 0 value.toUInt64, ?_⟩
            intro other
            simp [encodeWithin, Encoder.i64, sign, Encoder.u64, majorLength_eq_extend]
          · refine ⟨headBytes 1 (UInt64.ofInt (-1 - value.toInt)), ?_⟩
            intro other
            simp [encodeWithin, Encoder.i64, sign, majorLength_eq_extend]
      | bytes value =>
          obtain ⟨_, valid, _⟩ := bind_eq_ok_iff.mp written
          refine ⟨headBytes 2 (UInt64.ofNat value.length) ++ value, ?_⟩
          intro other
          simp [encodeWithin, valid, Encoder.byteString, majorLength_eq_extend, extend_extend]
      | text value =>
          obtain ⟨_, valid, _⟩ := bind_eq_ok_iff.mp written
          refine ⟨headBytes 3 (UInt64.ofNat (textBytes value).length) ++ textBytes value, ?_⟩
          intro other
          simp [encodeWithin, valid, Encoder.text, majorLength_eq_extend, extend_extend]
      | array values =>
          obtain ⟨_, valid, written⟩ := bind_eq_ok_iff.mp written
          obtain ⟨bytes, writes⟩ := ih.items written
          refine ⟨headBytes 4 (UInt64.ofNat values.length) ++ bytes, ?_⟩
          intro other
          simp [encodeWithin, valid, writes, Encoder.array, majorLength_eq_extend, extend_extend]
      | map entries =>
          obtain ⟨_, valid, written⟩ := bind_eq_ok_iff.mp written
          obtain ⟨sorted, written⟩ := ite_error_eq_ok_iff.mp written
          obtain ⟨bytes, writes⟩ := ih.entries written
          refine ⟨headBytes 5 (UInt64.ofNat entries.length) ++ bytes, ?_⟩
          intro other
          simp [encodeWithin, valid, sorted, writes, Encoder.map, majorLength_eq_extend,
            extend_extend]
      | bool value => exact ⟨[if value then 0xf5 else 0xf4], fun other => rfl⟩
      | null => exact ⟨[0xf6], fun other => rfl⟩

theorem encodeItems_mono {more : Encoder → Value → Except EncodeError Encoder}
    (covers : ∀ encoder value result, item encoder value = .ok result →
      more encoder value = .ok result)
    {values : List Value} {encoder result : Encoder}
    (written : encodeItems item encoder values = .ok result) :
    encodeItems more encoder values = .ok result := by
  induction values generalizing encoder with
  | nil => exact written
  | cons value rest ih =>
      obtain ⟨middle, first, later⟩ := bind_eq_ok_iff.mp written
      rw [encodeItems, covers encoder value middle first, ok_bind]
      exact ih later

theorem encodeEntries_mono {more : Encoder → Value → Except EncodeError Encoder}
    (covers : ∀ encoder value result, item encoder value = .ok result →
      more encoder value = .ok result)
    {entries : List (UInt64 × Value)} {encoder result : Encoder}
    (written : encodeEntries item encoder entries = .ok result) :
    encodeEntries more encoder entries = .ok result := by
  induction entries generalizing encoder with
  | nil => exact written
  | cons entry rest ih =>
      obtain ⟨middle, first, later⟩ := bind_eq_ok_iff.mp written
      rw [encodeEntries, covers _ entry.2 middle first, ok_bind]
      exact ih later

/-- A value that is written fits one level deeper too. -/
theorem encodeWithin_succ (levels : Nat) : ∀ encoder value result,
    encodeWithin levels encoder value = .ok result →
      encodeWithin (levels + 1) encoder value = .ok result := by
  induction levels with
  | zero =>
      intro encoder value result written
      cases written
  | succ levels ih =>
      intro encoder value result written
      cases value with
      | array values =>
          obtain ⟨_, valid, written⟩ := bind_eq_ok_iff.mp written
          rw [encodeWithin]
          simp only [valid, ok_bind]
          exact encodeItems_mono ih written
      | map entries =>
          obtain ⟨_, valid, written⟩ := bind_eq_ok_iff.mp written
          obtain ⟨sorted, written⟩ := ite_error_eq_ok_iff.mp written
          rw [encodeWithin]
          simp only [valid, ok_bind, if_neg sorted]
          exact encodeEntries_mono ih written
      | _ => exact written

/-! ## Values on their own -/

/-- The bytes are those of the value one level inside a map. -/
def WrittenAs (value : Value) (bytes : List UInt8) : Prop :=
  ∀ encoder : Encoder, encodeWithin maxDepth encoder value = .ok (encoder.extend bytes)

theorem WrittenAs.encode {value : Value} {bytes : List UInt8} (written : WrittenAs value bytes) :
    Cbor.encode value = .ok bytes := by
  have deeper := encodeWithin_succ maxDepth _ _ _ (written Encoder.new)
  rw [Cbor.encode, encodeValue, Nat.sub_zero, deeper]
  rfl

/-- A value read inside a map is the one its bytes are written from. -/
theorem writtenAs_of_value {unread rest : List UInt8} {value : Value}
    (read : Decoder.value 1 unread = .ok (value, rest)) :
    ∃ bytes, unread = bytes ++ rest ∧ WrittenAs value bytes :=
  writes_within maxDepth unread value rest read

theorem decodeAtDepth_eq_ok {bytes : List UInt8} {value : Value} :
    decodeAtDepth bytes 1 = .ok value ↔ Decoder.value 1 bytes = .ok (value, []) := by
  unfold decodeAtDepth
  constructor
  · intro decoded
    obtain ⟨⟨other, rest⟩, read, drained⟩ := bind_eq_ok_iff.mp decoded
    by_cases empty : rest = []
    · simp only [empty, if_true, Except.ok.injEq] at drained
      rw [read, empty, drained]
    · simp [empty] at drained
  · intro read
    rw [read]
    rfl

theorem writtenAs_of_decode {bytes : List UInt8} {value : Value}
    (decoded : decodeAtDepth bytes 1 = .ok value) : WrittenAs value bytes := by
  obtain ⟨written, split, writes⟩ := writtenAs_of_value (decodeAtDepth_eq_ok.mp decoded)
  rw [List.append_nil] at split
  rw [split]
  exact writes

/-- A value that was read from longer input is read from its own bytes. -/
theorem decodeAtDepth_of_value {unread rest bytes : List UInt8} {value : Value}
    (read : Decoder.value 1 unread = .ok (value, rest)) (split : unread = bytes ++ rest)
    (written : WrittenAs value bytes) : decodeAtDepth bytes 1 = .ok value := by
  obtain ⟨own, same, _, reads⟩ := reads_within maxDepth _ _ _ (written Encoder.new)
  have ownSame : own = bytes := by simpa [Encoder.new] using same.symm
  rw [ownSame] at reads
  have again := reads rest
  rw [← split] at again
  have normal : value = value.norm := by
    have both := read.symm.trans again
    simp only [Except.ok.injEq, Prod.mk.injEq, and_true] at both
    exact both
  rw [decodeAtDepth_eq_ok, normal]
  have alone := reads []
  rw [List.append_nil] at alone
  exact alone

/-- Bytes that are the canonical encoding of some value one level inside a map. -/
def CanonicalInside (bytes : List UInt8) : Prop :=
  ∃ value encoder, encodeValue Encoder.new value 1 = .ok encoder ∧ encoder.bytes = bytes

theorem canonicalInside_iff {bytes : List UInt8} :
    CanonicalInside bytes ↔ ∃ value, decodeAtDepth bytes 1 = .ok value := by
  constructor
  · intro canonical
    obtain ⟨value, encoder, written, same⟩ := canonical
    obtain ⟨own, bytesEq, _, reads⟩ := reads_within maxDepth _ _ _ written
    have ownSame : own = bytes := by
      rw [← same, bytesEq]
      rfl
    refine ⟨value.norm, decodeAtDepth_eq_ok.mpr ?_⟩
    have alone := reads []
    rw [List.append_nil, ownSame] at alone
    exact alone
  · intro decoded
    obtain ⟨value, decoded⟩ := decoded
    exact ⟨value, _, writtenAs_of_decode decoded Encoder.new, rfl⟩

/-! ## Whole maps -/

theorem encode_map_eq_ok {entries : List (UInt64 × Value)} {bytes : List UInt8} :
    encode (.map entries) = .ok bytes ↔
      entries.length ≤ maxContainerLength ∧ unsorted (entries.map Prod.fst) = false ∧
        ∃ after, encodeEntries (encodeWithin maxDepth) (Encoder.new.map entries.length) entries =
          .ok after ∧ after.bytes = bytes := by
  have whole : encodeValue Encoder.new (.map entries) 0 = (do
      validateContainerLength entries.length
      if unsortedKeys entries then .error ⟨"CBOR map keys are not strictly sorted"⟩
      else encodeEntries (encodeWithin maxDepth) (Encoder.new.map entries.length) entries) := rfl
  unfold encode
  rw [whole, ← unsortedKeys_eq]
  simp only [bind_eq_ok_iff, ite_error_eq_ok_iff, Bool.not_eq_true, Except.ok.injEq]
  constructor
  · intro written
    obtain ⟨after, ⟨⟨⟩, few, sorted, entered⟩, same⟩ := written
    exact ⟨validateContainerLength_eq_ok.mp few, sorted, after, entered, same⟩
  · intro written
    obtain ⟨few, sorted, after, entered, same⟩ := written
    exact ⟨after, ⟨(), validateContainerLength_eq_ok.mpr few, sorted, entered⟩, same⟩

/-- Only the body of a map gives a map. -/
theorem body_eq_map {item : List UInt8 → Except DecodeError (Value × List UInt8)} {major : Nat}
    {additional : UInt8} {unread rest : List UInt8} {entries : List (UInt64 × Value)}
    (read : Decoder.body item major additional unread = .ok (.map entries, rest)) :
    major = 5 ∧ ∃ length start, Decoder.containerLength additional 2 unread = .ok (length, start) ∧
      Decoder.entries item none length start = .ok (entries, rest) := by
  unfold Decoder.body at read
  split at read
  · obtain ⟨_, _, same⟩ := bind_eq_ok_iff.mp read
    cases same
  · obtain ⟨_, _, read⟩ := bind_eq_ok_iff.mp read
    obtain ⟨value, negative, same⟩ := bind_eq_ok_iff.mp read
    obtain ⟨number, isNumber, _⟩ := encoded_of_negative negative
    cases isNumber
    cases same
  · obtain ⟨_, _, read⟩ := bind_eq_ok_iff.mp read
    obtain ⟨_, _, same⟩ := bind_eq_ok_iff.mp read
    cases same
  · obtain ⟨_, _, read⟩ := bind_eq_ok_iff.mp read
    obtain ⟨_, _, read⟩ := bind_eq_ok_iff.mp read
    obtain ⟨value, decoded, same⟩ := bind_eq_ok_iff.mp read
    obtain ⟨text, isText, _⟩ := text_of_utf8 decoded
    cases isText
    cases same
  · obtain ⟨_, _, read⟩ := bind_eq_ok_iff.mp read
    obtain ⟨_, _, same⟩ := bind_eq_ok_iff.mp read
    cases same
  · obtain ⟨⟨length, start⟩, sized, read⟩ := bind_eq_ok_iff.mp read
    obtain ⟨⟨found, after⟩, inside, same⟩ := bind_eq_ok_iff.mp read
    cases same
    exact ⟨rfl, length, start, sized, inside⟩
  · split_ifs at read <;> cases read
  · cases read

/-- A map is read from its first byte, its length and its entries. -/
theorem decode_map_eq_ok {bytes : List UInt8} {entries : List (UInt64 × Value)} :
    decode bytes = .ok (.map entries) ↔
      ∃ initial unread, bytes = initial :: unread ∧ (initial >>> 5).toNat = 5 ∧
        ∃ length start, Decoder.containerLength (initial &&& 0x1f) 2 unread =
            .ok (length, start) ∧
          Decoder.entries (Decoder.value 1) none length start = .ok (entries, []) := by
  cases bytes with
  | nil => simp [decode, decodeAtDepth, Decoder.value, Decoder.valueWithin, Decoder.byte, maxDepth]
  | cons initial unread =>
      have whole : decode (initial :: unread) =
          (Decoder.body (Decoder.value 1) (initial >>> 5).toNat (initial &&& 0x1f) unread >>=
            fun parsed => if parsed.2 = [] then .ok parsed.1
              else .error ⟨"trailing bytes after CBOR value"⟩) := rfl
      rw [whole]
      constructor
      · intro decoded
        obtain ⟨⟨value, rest⟩, read, drained⟩ := bind_eq_ok_iff.mp decoded
        by_cases empty : rest = []
        · simp only [empty, if_true, Except.ok.injEq] at drained
          rw [empty, drained] at read
          obtain ⟨major, length, start, sized, inside⟩ := body_eq_map read
          exact ⟨initial, unread, rfl, major, length, start, sized, inside⟩
        · simp [empty] at drained
      · intro parts
        obtain ⟨_, _, same, major, length, start, sized, inside⟩ := parts
        cases same
        rw [major]
        unfold Decoder.body
        simp only [sized, inside, ok_bind, if_true]

end VividProtocol.Cbor

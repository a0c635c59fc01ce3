import Mathlib.Tactic
import VividProtocol.Cbor.Head

/-!
# The canonical encoding is a bijection on its image

Decoding an encoding gives the value back, up to the one alias of the value
type: a nonnegative integer in `Value.negative`.  Encoding a decoded value
gives the bytes back.  Both directions are inductions on the levels left, with
one lemma for arrays and one for maps that hold for any element codec.
-/

set_option autoImplicit false

namespace VividProtocol.Cbor

open VividProtocol.Library

/-! ## The alias the encoder removes -/

mutual

def Value.norm : Value → Value
  | .negative value =>
      if 0 ≤ value then .unsigned value.toUInt64 else .negative value
  | .array values => .array (Value.normItems values)
  | .map entries => .map (Value.normEntries entries)
  | value => value

def Value.normItems : List Value → List Value
  | [] => []
  | value :: rest => value.norm :: Value.normItems rest

def Value.normEntries : List (UInt64 × Value) → List (UInt64 × Value)
  | [] => []
  | (key, value) :: rest => (key, value.norm) :: Value.normEntries rest

end

/-! ## Arguments as lengths -/

theorem toNat_ofNat_of_le {length bound : Nat} (within : length ≤ bound)
    (small : bound < 2 ^ 64) : (UInt64.ofNat length).toNat = length := by
  rw [UInt64.toNat_ofNat']
  exact Nat.mod_eq_of_lt (by omega)

theorem length_argumentForm (length : Nat) (rest : List UInt8)
    (within : length ≤ maxValueLength) :
    Decoder.length (argumentForm (UInt64.ofNat length)).1
      ((argumentForm (UInt64.ofNat length)).2 ++ rest) = .ok (length, rest) := by
  have same := toNat_ofNat_of_le within (by decide)
  have notLong : ¬ length > maxValueLength := by omega
  simp [Decoder.length, argument_argumentForm, same, notLong]

theorem containerLength_argumentForm (length minimum : Nat) (rest : List UInt8)
    (within : length ≤ maxContainerLength) (room : length * minimum ≤ rest.length) :
    Decoder.containerLength (argumentForm (UInt64.ofNat length)).1 minimum
      ((argumentForm (UInt64.ofNat length)).2 ++ rest) = .ok (length, rest) := by
  have short : length ≤ maxValueLength := by
    simp only [maxContainerLength] at within
    simp only [maxValueLength]
    omega
  have notMany : ¬ length > maxContainerLength := by omega
  have notBeyond : ¬ length * minimum > rest.length := by omega
  simp [Decoder.containerLength, length_argumentForm length rest short, notMany,
    notBeyond]

theorem length_eq_ok {additional : UInt8} {unread rest : List UInt8} {length : Nat}
    (success : Decoder.length additional unread = .ok (length, rest)) :
    Decoder.argument additional unread = .ok (UInt64.ofNat length, rest) ∧
      length ≤ maxValueLength := by
  unfold Decoder.length at success
  obtain ⟨⟨value, after⟩, read, success⟩ := Result.bind_eq_ok_iff.mp success
  obtain ⟨short, result⟩ := Result.ite_error_eq_ok_iff.mp success
  cases result
  refine ⟨?_, by omega⟩
  rw [UInt64.ofNat_toNat]
  exact read

theorem containerLength_eq_ok {additional : UInt8} {minimum length : Nat}
    {unread rest : List UInt8}
    (success : Decoder.containerLength additional minimum unread =
      .ok (length, rest)) :
    Decoder.argument additional unread = .ok (UInt64.ofNat length, rest) ∧
      length ≤ maxContainerLength := by
  unfold Decoder.containerLength at success
  obtain ⟨⟨value, after⟩, read, success⟩ := Result.bind_eq_ok_iff.mp success
  obtain ⟨short, success⟩ := Result.ite_error_eq_ok_iff.mp success
  obtain ⟨-, result⟩ := Result.ite_error_eq_ok_iff.mp success
  cases result
  exact ⟨(length_eq_ok read).1, by omega⟩

theorem validateValueLength_eq_ok {length : Nat} :
    validateValueLength length = .ok () ↔ length ≤ maxValueLength := by
  unfold validateValueLength
  split_ifs with long
  · simp
    omega
  · simp
    omega

theorem validateContainerLength_eq_ok {length : Nat} :
    validateContainerLength length = .ok () ↔ length ≤ maxContainerLength := by
  unfold validateContainerLength
  split_ifs with long
  · simp
    omega
  · simp
    omega

/-! ## Decoding an encoding -/

theorem valueWithin_headBytes (levels : Nat) (major : UInt8) (value : UInt64)
    (rest : List UInt8) (majorBound : major.toNat < 8) :
    Decoder.valueWithin (levels + 1) (headBytes major value ++ rest) =
      Decoder.body (Decoder.valueWithin levels) major.toNat (argumentForm value).1
        ((argumentForm value).2 ++ rest) := by
  have low := argumentForm_low value
  simp only [Decoder.valueWithin, headBytes_eq, List.cons_append, Decoder.byte,
    Result.ok_bind, lead_major major _ majorBound low,
    lead_additional major _ majorBound low]

/-- What the encoder of one element appends, the decoder of one element reads
back, normalised, and nothing more. -/
def Reads (encodeItem : Encoder → Value → Except EncodeError Encoder)
    (decodeItem : List UInt8 → Except DecodeError (Value × List UInt8)) : Prop :=
  ∀ encoder value result, encodeItem encoder value = .ok result →
    ∃ bytes, result.bytes = encoder.bytes ++ bytes ∧ 1 ≤ bytes.length ∧
      ∀ rest, decodeItem (bytes ++ rest) = .ok (value.norm, rest)

/-- Map keys are read by the element decoder as well. -/
def ReadsKeys (decodeItem : List UInt8 → Except DecodeError (Value × List UInt8)) :
    Prop :=
  ∀ key rest, decodeItem (headBytes 0 key ++ rest) = .ok (.unsigned key, rest)

theorem items_of_encodeItems
    {encodeItem : Encoder → Value → Except EncodeError Encoder}
    {decodeItem : List UInt8 → Except DecodeError (Value × List UInt8)}
    (reads : Reads encodeItem decodeItem) (values : List Value)
    (encoder result : Encoder)
    (success : encodeItems encodeItem encoder values = .ok result) :
    ∃ bytes, result.bytes = encoder.bytes ++ bytes ∧ values.length ≤ bytes.length ∧
      ∀ rest, Decoder.items decodeItem values.length (bytes ++ rest) =
        .ok (Value.normItems values, rest) := by
  induction values generalizing encoder with
  | nil =>
      cases success
      exact ⟨[], by simp, by simp, fun rest => rfl⟩
  | cons value values ih =>
      obtain ⟨middle, first, later⟩ := Result.bind_eq_ok_iff.mp success
      obtain ⟨head, headEq, headLength, headReads⟩ := reads encoder value middle first
      obtain ⟨tail, tailEq, tailLength, tailReads⟩ := ih middle later
      refine ⟨head ++ tail, ?_, ?_, ?_⟩
      · rw [tailEq, headEq, List.append_assoc]
      · simp only [List.length_cons, List.length_append]
        omega
      · intro rest
        simp [Decoder.items, headReads, tailReads, Value.normItems]

theorem unsortedKeys_cons (first : UInt64 × Value) (rest : List (UInt64 × Value)) :
    unsortedKeys (first :: rest) = false ↔
      (∀ next, rest.head? = some next → first.1 < next.1) ∧
        unsortedKeys rest = false := by
  cases rest with
  | nil => simp [unsortedKeys]
  | cons next rest => simp [unsortedKeys]

/-- A previous key that the next entry may follow. -/
def Precedes (previous : Option UInt64) (entries : List (UInt64 × Value)) : Prop :=
  ∀ key, previous = some key → ∀ next, entries.head? = some next → key < next.1

theorem any_previous_eq_false {previous : Option UInt64} {key : UInt64} :
    (previous.any fun previous => decide (previous ≥ key)) = false ↔
      ∀ earlier, previous = some earlier → earlier < key := by
  cases previous with
  | none => simp
  | some earlier => simp

theorem entries_of_encodeEntries
    {encodeItem : Encoder → Value → Except EncodeError Encoder}
    {decodeItem : List UInt8 → Except DecodeError (Value × List UInt8)}
    (reads : Reads encodeItem decodeItem) (entries : List (UInt64 × Value))
    (keys : entries ≠ [] → ReadsKeys decodeItem)
    (encoder result : Encoder) (previous : Option UInt64)
    (follows : Precedes previous entries) (sorted : unsortedKeys entries = false)
    (success : encodeEntries encodeItem encoder entries = .ok result) :
    ∃ bytes, result.bytes = encoder.bytes ++ bytes ∧
      entries.length * 2 ≤ bytes.length ∧
      ∀ rest, Decoder.entries decodeItem previous entries.length (bytes ++ rest) =
        .ok (Value.normEntries entries, rest) := by
  induction entries generalizing encoder previous with
  | nil =>
      cases success
      exact ⟨[], by simp, by simp, fun rest => rfl⟩
  | cons entry entries ih =>
      obtain ⟨key, value⟩ := entry
      obtain ⟨ahead, sorted⟩ := (unsortedKeys_cons _ _).mp sorted
      obtain ⟨middle, first, later⟩ := Result.bind_eq_ok_iff.mp success
      obtain ⟨head, headEq, headLength, headReads⟩ := reads _ value middle first
      have nextFollows : Precedes (some key) entries := by
        intro earlier same next isNext
        cases same
        exact ahead next isNext
      have readsKeys := keys (by simp)
      obtain ⟨tail, tailEq, tailLength, tailReads⟩ :=
        ih (fun _ => readsKeys) middle (some key) nextFollows sorted later
      have fresh : (previous.any fun previous => decide (previous ≥ key)) = false :=
        any_previous_eq_false.mpr fun earlier same =>
          follows earlier same (key, value) rfl
      refine ⟨headBytes 0 key ++ head ++ tail, ?_, ?_, ?_⟩
      · rw [tailEq, headEq, Encoder.u64, bytes_majorLength]
        simp
      · have keyLength := one_le_length_headBytes 0 key
        simp only [List.length_cons, List.length_append]
        omega
      · intro rest
        simp only [Decoder.entries, List.length_cons, List.append_assoc,
          readsKeys key, Result.ok_bind, fresh, Bool.false_eq_true, if_false,
          headReads, tailReads, Value.normEntries]

theorem readsKeys_valueWithin (levels : Nat) :
    ReadsKeys (Decoder.valueWithin (levels + 1)) := by
  intro key rest
  rw [valueWithin_headBytes levels 0 key rest (by decide)]
  simp [Decoder.body, argument_argumentForm]

theorem fromUTF8_textBytes (value : String) :
    String.fromUTF8? ⟨(textBytes value).toArray⟩ = some value := by
  have same : (⟨(textBytes value).toArray⟩ : ByteArray) = value.toByteArray := by
    simp [textBytes]
  rw [same]
  simp only [String.fromUTF8?, dif_pos value.isValidUTF8]
  rfl

/-- The decoder's `i128` arithmetic undoes the encoder's. -/
theorem negative_of_encoded (value : Int64) (below : ¬ 0 ≤ value) :
    Decoder.negative (UInt64.ofInt (-1 - value.toInt)) = .ok (.negative value) := by
  have upper : value.toInt < 0 := by
    rw [Int64.le_iff_toInt_le] at below
    simpa using below
  have lower : -2 ^ 63 ≤ value.toInt := value.le_toInt
  have cast : ((UInt64.ofInt (-1 - value.toInt)).toNat : Int) = -1 - value.toInt := by
    rw [UInt64.ofInt, UInt64.toNat_ofNat']
    omega
  have back : (-1 : Int) - (UInt64.ofInt (-1 - value.toInt)).toNat = value.toInt := by
    omega
  have fits : Int64.minValue.toInt ≤ value.toInt ∧
      value.toInt ≤ Int64.maxValue.toInt := by
    have low : Int64.minValue.toInt = -2 ^ 63 := by decide
    have high : Int64.maxValue.toInt = 2 ^ 63 - 1 := by decide
    omega
  simp only [Decoder.negative, back, fits, and_self, if_true, Int64.ofInt_toInt]

/-- Everything `encodeWithin` writes, `valueWithin` reads back at the same
depth, whatever follows it. -/
theorem reads_within (levels : Nat) :
    Reads (encodeWithin levels) (Decoder.valueWithin levels) := by
  induction levels with
  | zero =>
      intro encoder value result success
      simp [encodeWithin] at success
  | succ levels ih =>
      intro encoder value result success
      cases value with
      | unsigned value =>
          cases success
          refine ⟨headBytes 0 value, bytes_majorLength _ _ _,
            one_le_length_headBytes 0 value, ?_⟩
          intro rest
          exact readsKeys_valueWithin levels value rest
      | negative value =>
          cases success
          by_cases sign : 0 ≤ value
          · refine ⟨headBytes 0 value.toUInt64, ?_, one_le_length_headBytes _ _, ?_⟩
            · simp only [Encoder.i64, if_pos sign, Encoder.u64, bytes_majorLength]
            · intro rest
              simp only [Value.norm, if_pos sign]
              exact readsKeys_valueWithin levels value.toUInt64 rest
          · refine ⟨headBytes 1 (UInt64.ofInt (-1 - value.toInt)), ?_,
              one_le_length_headBytes _ _, ?_⟩
            · simp only [Encoder.i64, if_neg sign, bytes_majorLength]
            · intro rest
              rw [valueWithin_headBytes levels 1 _ rest (by decide)]
              simp only [Value.norm, if_neg sign]
              simp [Decoder.body, argument_argumentForm,
                negative_of_encoded value sign]
      | bytes value =>
          obtain ⟨_, valid, result⟩ := Result.bind_eq_ok_iff.mp success
          have within := validateValueLength_eq_ok.mp valid
          cases result
          refine ⟨headBytes 2 (UInt64.ofNat value.length) ++ value, ?_, ?_, ?_⟩
          · simp [Encoder.byteString, bytes_majorLength]
          · have := one_le_length_headBytes 2 (UInt64.ofNat value.length)
            simp only [List.length_append]
            omega
          · intro rest
            rw [List.append_assoc, valueWithin_headBytes levels 2 _ _ (by decide)]
            simp [Decoder.body, length_argumentForm _ _ within, take_append,
              Value.norm]
      | text value =>
          obtain ⟨_, valid, result⟩ := Result.bind_eq_ok_iff.mp success
          have within := validateValueLength_eq_ok.mp valid
          cases result
          refine ⟨headBytes 3 (UInt64.ofNat (textBytes value).length) ++
            textBytes value, ?_, ?_, ?_⟩
          · simp [Encoder.text, bytes_majorLength]
          · have := one_le_length_headBytes 3 (UInt64.ofNat (textBytes value).length)
            simp only [List.length_append]
            omega
          · intro rest
            rw [List.append_assoc, valueWithin_headBytes levels 3 _ _ (by decide)]
            simp [Decoder.body, length_argumentForm _ _ within, take_append,
              Decoder.utf8, fromUTF8_textBytes, Value.norm]
      | array values =>
          obtain ⟨_, valid, success⟩ := Result.bind_eq_ok_iff.mp success
          have within := validateContainerLength_eq_ok.mp valid
          obtain ⟨bytes, bytesEq, room, reads⟩ :=
            items_of_encodeItems ih values _ result success
          refine ⟨headBytes 4 (UInt64.ofNat values.length) ++ bytes, ?_, ?_, ?_⟩
          · rw [bytesEq, Encoder.array, bytes_majorLength, List.append_assoc]
          · have := one_le_length_headBytes 4 (UInt64.ofNat values.length)
            simp only [List.length_append]
            omega
          · intro rest
            have enough : values.length * 1 ≤ (bytes ++ rest).length := by
              simp only [List.length_append]
              omega
            rw [List.append_assoc, valueWithin_headBytes levels 4 _ _ (by decide)]
            simp [Decoder.body, containerLength_argumentForm _ _ _ within enough,
              reads, Value.norm]
      | map entries =>
          obtain ⟨_, valid, success⟩ := Result.bind_eq_ok_iff.mp success
          have within := validateContainerLength_eq_ok.mp valid
          obtain ⟨sorted, success⟩ := Result.ite_error_eq_ok_iff.mp success
          have keys : entries ≠ [] → ReadsKeys (Decoder.valueWithin levels) := by
            -- A nonempty map was encoded, so the elements still had a level.
            intro nonempty
            cases levels with
            | zero =>
                cases entries with
                | nil => exact absurd rfl nonempty
                | cons entry entries => simp [encodeEntries, encodeWithin] at success
            | succ levels => exact readsKeys_valueWithin levels
          obtain ⟨bytes, bytesEq, room, reads⟩ :=
            entries_of_encodeEntries ih entries keys _ result none
              (by simp [Precedes]) (by simpa using sorted) success
          refine ⟨headBytes 5 (UInt64.ofNat entries.length) ++ bytes, ?_, ?_, ?_⟩
          · rw [bytesEq, Encoder.map, bytes_majorLength, List.append_assoc]
          · have := one_le_length_headBytes 5 (UInt64.ofNat entries.length)
            simp only [List.length_append]
            omega
          · intro rest
            have enough : entries.length * 2 ≤ (bytes ++ rest).length := by
              simp only [List.length_append]
              omega
            rw [List.append_assoc, valueWithin_headBytes levels 5 _ _ (by decide)]
            simp [Decoder.body, containerLength_argumentForm _ _ _ within enough,
              reads, Value.norm]
      | bool value =>
          cases success
          refine ⟨[if value then 0xf5 else 0xf4], rfl, by simp, ?_⟩
          intro rest
          cases value <;> rfl
      | null =>
          cases success
          exact ⟨[0xf6], rfl, by simp, fun rest => rfl⟩

/-! ## Encoding a decoded value -/

/-- What the decoder of one element read, the encoder of one element writes
again, byte for byte. -/
def Writes (encodeItem : Encoder → Value → Except EncodeError Encoder)
    (decodeItem : List UInt8 → Except DecodeError (Value × List UInt8)) : Prop :=
  ∀ unread value rest, decodeItem unread = .ok (value, rest) →
    ∃ bytes, unread = bytes ++ rest ∧
      ∀ encoder, encodeItem encoder value = .ok (encoder.extend bytes)

/-- An element encoder that takes an unsigned integer writes it as a key. -/
def WritesKeys (encodeItem : Encoder → Value → Except EncodeError Encoder) : Prop :=
  ∀ encoder key result, encodeItem encoder (.unsigned key) = .ok result →
    result = encoder.u64 key

theorem extend_extend (encoder : Encoder) (first second : List UInt8) :
    (encoder.extend first).extend second = encoder.extend (first ++ second) := by
  simp [Encoder.extend]

theorem majorLength_eq_extend (encoder : Encoder) (major : UInt8) (value : UInt64) :
    encoder.majorLength major value = encoder.extend (headBytes major value) := by
  have same := bytes_majorLength encoder major value
  cases written : encoder.majorLength major value with
  | mk bytes =>
      rw [written] at same
      rw [Encoder.extend, ← same]

theorem encodeItems_of_items
    {encodeItem : Encoder → Value → Except EncodeError Encoder}
    {decodeItem : List UInt8 → Except DecodeError (Value × List UInt8)}
    (writes : Writes encodeItem decodeItem) (count : Nat)
    (unread : List UInt8) (values : List Value) (rest : List UInt8)
    (success : Decoder.items decodeItem count unread = .ok (values, rest)) :
    values.length = count ∧ ∃ bytes, unread = bytes ++ rest ∧
      ∀ encoder, encodeItems encodeItem encoder values = .ok (encoder.extend bytes) := by
  induction count generalizing unread values with
  | zero =>
      cases success
      refine ⟨rfl, [], rfl, ?_⟩
      intro encoder
      simp [encodeItems, Encoder.extend]
  | succ count ih =>
      obtain ⟨⟨value, middle⟩, first, success⟩ := Result.bind_eq_ok_iff.mp success
      obtain ⟨⟨later, after⟩, tail, result⟩ := Result.bind_eq_ok_iff.mp success
      cases result
      obtain ⟨head, headEq, headWrites⟩ := writes unread value middle first
      obtain ⟨countEq, bytes, bytesEq, tailWrites⟩ := ih middle later tail
      refine ⟨by simp [countEq], head ++ bytes, ?_, ?_⟩
      · rw [headEq, bytesEq, List.append_assoc]
      · intro encoder
        simp [encodeItems, headWrites, tailWrites, extend_extend]

theorem encodeEntries_of_entries
    {encodeItem : Encoder → Value → Except EncodeError Encoder}
    {decodeItem : List UInt8 → Except DecodeError (Value × List UInt8)}
    (writes : Writes encodeItem decodeItem) (keys : WritesKeys encodeItem)
    (count : Nat) (previous : Option UInt64) (unread : List UInt8)
    (entries : List (UInt64 × Value)) (rest : List UInt8)
    (success : Decoder.entries decodeItem previous count unread =
      .ok (entries, rest)) :
    entries.length = count ∧ Precedes previous entries ∧
      unsortedKeys entries = false ∧ ∃ bytes, unread = bytes ++ rest ∧
      ∀ encoder, encodeEntries encodeItem encoder entries =
        .ok (encoder.extend bytes) := by
  induction count generalizing previous unread entries with
  | zero =>
      cases success
      refine ⟨rfl, by simp [Precedes], rfl, [], rfl, ?_⟩
      intro encoder
      simp [encodeEntries, Encoder.extend]
  | succ count ih =>
      obtain ⟨⟨keyValue, afterKey⟩, readKey, success⟩ :=
        Result.bind_eq_ok_iff.mp success
      cases keyValue with
      | unsigned key =>
          obtain ⟨fresh, success⟩ := Result.ite_error_eq_ok_iff.mp success
          obtain ⟨⟨value, middle⟩, readValue, success⟩ :=
            Result.bind_eq_ok_iff.mp success
          obtain ⟨⟨later, after⟩, tail, result⟩ := Result.bind_eq_ok_iff.mp success
          cases result
          obtain ⟨keyBytes, keyEq, keyWrites⟩ := writes unread _ afterKey readKey
          obtain ⟨head, headEq, headWrites⟩ := writes afterKey value middle readValue
          obtain ⟨countEq, follows, sorted, bytes, bytesEq, tailWrites⟩ :=
            ih (some key) middle later tail
          have above : ∀ earlier, previous = some earlier → earlier < key :=
            any_previous_eq_false.mp (by simpa using fresh)
          refine ⟨by simp [countEq], ?_, ?_, keyBytes ++ head ++ bytes, ?_, ?_⟩
          · intro earlier same next isNext
            cases isNext
            exact above earlier same
          · exact (unsortedKeys_cons _ _).mpr ⟨follows key rfl, sorted⟩
          · rw [keyEq, headEq, bytesEq]
            simp
          · intro encoder
            have asKey := keys encoder key _ (keyWrites encoder)
            simp [encodeEntries, ← asKey, headWrites, tailWrites, extend_extend]
      | negative value => simp at success
      | bytes value => simp at success
      | text value => simp at success
      | array values => simp at success
      | map entries => simp at success
      | bool value => simp at success
      | null => simp at success

theorem writesKeys_encodeWithin (levels : Nat) : WritesKeys (encodeWithin levels) := by
  intro encoder key result success
  cases levels with
  | zero => simp [encodeWithin] at success
  | succ levels =>
      cases success
      rfl

/-- The encoder's `i128` arithmetic undoes the decoder's. -/
theorem encoded_of_negative {argument : UInt64} {value : Value}
    (success : Decoder.negative argument = .ok value) :
    ∃ number : Int64, value = .negative number ∧ ¬ 0 ≤ number ∧
      UInt64.ofInt (-1 - number.toInt) = argument := by
  unfold Decoder.negative at success
  simp only at success
  split_ifs at success with fits
  cases success
  have low : Int64.minValue.toInt = -2 ^ 63 := by decide
  have high : Int64.maxValue.toInt = 2 ^ 63 - 1 := by decide
  have exact : (Int64.ofInt (-1 - argument.toNat)).toInt = -1 - argument.toNat :=
    Int64.toInt_ofInt_of_le (by omega) (by omega)
  refine ⟨_, rfl, ?_, ?_⟩
  · rw [Int64.le_iff_toInt_le, exact]
    simp only [Int64.toInt_zero]
    omega
  · rw [exact]
    apply UInt64.toNat_inj.mp
    have bound := argument.toNat_lt
    rw [UInt64.ofInt, UInt64.toNat_ofNat']
    omega

theorem text_of_utf8 {bytes : List UInt8} {value : Value}
    (success : Decoder.utf8 bytes = .ok value) :
    ∃ text, value = .text text ∧ textBytes text = bytes := by
  unfold Decoder.utf8 String.fromUTF8? at success
  split_ifs at success with valid
  · cases success
    exact ⟨_, rfl, by simp [textBytes, String.fromUTF8]⟩

theorem major_eq {initial : UInt8} {major : Nat} (small : major < 8)
    (same : (initial >>> 5).toNat = major) : initial >>> 5 = UInt8.ofNat major := by
  apply UInt8.toNat_inj.mp
  rw [same, UInt8.toNat_ofNat']
  omega

/-- A byte of major type seven is determined by its low five bits. -/
theorem simple_byte {initial low : UInt8} (major : (initial >>> 5).toNat = 7)
    (additional : initial &&& 0x1f = low) : initial = (7 : UInt8) <<< 5 ||| low := by
  have seven : initial >>> 5 = 7 := major_eq (by decide) major
  rw [← additional, ← seven, lead_split]

/-- Everything `valueWithin` accepts, `encodeWithin` writes back at the same
depth. -/
theorem writes_within (levels : Nat) :
    Writes (encodeWithin levels) (Decoder.valueWithin levels) := by
  induction levels with
  | zero =>
      intro unread value rest success
      simp [Decoder.valueWithin] at success
  | succ levels ih =>
      intro unread value rest success
      cases unread with
      | nil => simp [Decoder.valueWithin, Decoder.byte] at success
      | cons initial unread =>
          simp only [Decoder.valueWithin, Decoder.byte, Result.ok_bind] at success
          generalize major : (initial >>> 5).toNat = code at success
          unfold Decoder.body at success
          split at success
          · obtain ⟨⟨argument, after⟩, read, result⟩ := Result.bind_eq_ok_iff.mp success
            cases result
            refine ⟨headBytes 0 argument, ?_, ?_⟩
            · rw [head_of_argument read, major_eq (by decide) major]
              rfl
            · intro encoder
              simp [encodeWithin, Encoder.u64, majorLength_eq_extend]
          · obtain ⟨⟨argument, after⟩, read, success⟩ :=
              Result.bind_eq_ok_iff.mp success
            obtain ⟨number, isNegative, result⟩ := Result.bind_eq_ok_iff.mp success
            cases result
            obtain ⟨number, rfl, below, same⟩ := encoded_of_negative isNegative
            refine ⟨headBytes 1 argument, ?_, ?_⟩
            · rw [head_of_argument read, major_eq (by decide) major]
              rfl
            · intro encoder
              simp [encodeWithin, Encoder.i64, if_neg below, same,
                majorLength_eq_extend]
          · obtain ⟨⟨length, after⟩, read, success⟩ := Result.bind_eq_ok_iff.mp success
            obtain ⟨⟨bytes, rest⟩, taken, result⟩ := Result.bind_eq_ok_iff.mp success
            cases result
            obtain ⟨readArgument, within⟩ := length_eq_ok read
            obtain ⟨split, exact⟩ := take_eq_ok taken
            subst exact
            refine ⟨headBytes 2 (UInt64.ofNat bytes.length) ++ bytes, ?_, ?_⟩
            · rw [head_of_argument readArgument, major_eq (by decide) major, split,
                List.append_assoc]
              rfl
            · intro encoder
              simp [encodeWithin, validateValueLength_eq_ok.mpr within,
                Encoder.byteString, majorLength_eq_extend, extend_extend]
          · obtain ⟨⟨length, after⟩, read, success⟩ := Result.bind_eq_ok_iff.mp success
            obtain ⟨⟨bytes, rest⟩, taken, success⟩ := Result.bind_eq_ok_iff.mp success
            obtain ⟨text, isText, result⟩ := Result.bind_eq_ok_iff.mp success
            cases result
            obtain ⟨readArgument, within⟩ := length_eq_ok read
            obtain ⟨split, exact⟩ := take_eq_ok taken
            obtain ⟨text, rfl, rfl⟩ := text_of_utf8 isText
            subst exact
            refine ⟨headBytes 3 (UInt64.ofNat (textBytes text).length) ++
              textBytes text, ?_, ?_⟩
            · rw [head_of_argument readArgument, major_eq (by decide) major, split,
                List.append_assoc]
              rfl
            · intro encoder
              simp [encodeWithin, validateValueLength_eq_ok.mpr within,
                Encoder.text, majorLength_eq_extend, extend_extend]
          · obtain ⟨⟨length, after⟩, read, success⟩ := Result.bind_eq_ok_iff.mp success
            obtain ⟨⟨values, rest⟩, tail, result⟩ := Result.bind_eq_ok_iff.mp success
            cases result
            obtain ⟨readArgument, within⟩ := containerLength_eq_ok read
            obtain ⟨rfl, bytes, split, writes⟩ :=
              encodeItems_of_items ih length after values rest tail
            refine ⟨headBytes 4 (UInt64.ofNat values.length) ++ bytes, ?_, ?_⟩
            · rw [head_of_argument readArgument, major_eq (by decide) major, split,
                List.append_assoc]
              rfl
            · intro encoder
              simp [encodeWithin, validateContainerLength_eq_ok.mpr within, writes,
                Encoder.array, majorLength_eq_extend, extend_extend]
          · obtain ⟨⟨length, after⟩, read, success⟩ := Result.bind_eq_ok_iff.mp success
            obtain ⟨⟨entries, rest⟩, tail, result⟩ := Result.bind_eq_ok_iff.mp success
            cases result
            obtain ⟨readArgument, within⟩ := containerLength_eq_ok read
            obtain ⟨rfl, -, sorted, bytes, split, writes⟩ :=
              encodeEntries_of_entries ih (writesKeys_encodeWithin levels) length none
                after entries rest tail
            refine ⟨headBytes 5 (UInt64.ofNat entries.length) ++ bytes, ?_, ?_⟩
            · rw [head_of_argument readArgument, major_eq (by decide) major, split,
                List.append_assoc]
              rfl
            · intro encoder
              simp [encodeWithin, validateContainerLength_eq_ok.mpr within, sorted,
                writes, Encoder.map, majorLength_eq_extend, extend_extend]
          · split_ifs at success with isFalse isTrue isNull
            · cases success
              have byte : initial = 0xf4 := simple_byte major isFalse
              subst byte
              exact ⟨[0xf4], rfl, fun encoder => rfl⟩
            · cases success
              have byte : initial = 0xf5 := simple_byte major isTrue
              subst byte
              exact ⟨[0xf5], rfl, fun encoder => rfl⟩
            · cases success
              have byte : initial = 0xf6 := simple_byte major isNull
              subst byte
              exact ⟨[0xf6], rfl, fun encoder => rfl⟩
          · cases success

/-! ## The codec as a whole -/

theorem decode_of_encode {value : Value} {bytes : List UInt8}
    (success : encode value = .ok bytes) : decode bytes = .ok value.norm := by
  obtain ⟨encoder, written, result⟩ := Result.bind_eq_ok_iff.mp success
  cases result
  obtain ⟨bytes, bytesEq, -, reads⟩ := reads_within _ _ _ _ written
  have whole : encoder.bytes = bytes ++ [] := by
    rw [bytesEq]
    simp [Encoder.new]
  rw [whole]
  simp only [decode, decodeAtDepth, Decoder.value, reads [], Result.ok_bind, if_true]

theorem encode_of_decode {bytes : List UInt8} {value : Value}
    (success : decode bytes = .ok value) : encode value = .ok bytes := by
  obtain ⟨⟨decoded, rest⟩, read, success⟩ := Result.bind_eq_ok_iff.mp success
  by_cases drained : rest = []
  · simp only [if_pos drained] at success
    cases success
    obtain ⟨written, split, writes⟩ := writes_within _ _ _ _ read
    rw [split, drained]
    simp only [encode, encodeValue, writes, Result.ok_bind, Encoder.extend, Encoder.new,
      List.nil_append, List.append_nil]
  · simp only [if_neg drained] at success
    cases success

/-- Encoding and decoding are inverse up to the alias `norm` removes, so an
accepted byte string is the only one for its value and the decoder accepts
exactly what the encoder can write. -/
theorem canonical_bijection :
    (∀ value bytes, encode value = .ok bytes → decode bytes = .ok value.norm) ∧
    (∀ bytes value, decode bytes = .ok value → encode value = .ok bytes) ∧
    (∀ first second value, decode first = .ok value → decode second = .ok value →
      first = second) ∧
    (∀ bytes, (∃ value, decode bytes = .ok value) ↔
      ∃ value, encode value = .ok bytes) := by
  refine ⟨?_, ?_, ?_, ?_⟩
  · intro value bytes success
    exact decode_of_encode success
  · intro bytes value success
    exact encode_of_decode success
  · intro first second value readFirst readSecond
    have same := (encode_of_decode readFirst).symm.trans (encode_of_decode readSecond)
    exact Except.ok.inj same
  · intro bytes
    constructor
    · rintro ⟨value, success⟩
      exact ⟨value, encode_of_decode success⟩
    · rintro ⟨value, success⟩
      exact ⟨value.norm, decode_of_encode success⟩

/-- A two-entry map in the canonical form, in both directions. -/
example :
    encode (.map [(0, .unsigned 42), (1, .array [.bool true, .null])]) =
      .ok [0xa2, 0x00, 0x18, 0x2a, 0x01, 0x82, 0xf5, 0xf6] ∧
    decode [0xa2, 0x00, 0x18, 0x2a, 0x01, 0x82, 0xf5, 0xf6] =
      .ok (.map [(0, .unsigned 42), (1, .array [.bool true, .null])]) :=
  ⟨rfl, rfl⟩

end VividProtocol.Cbor

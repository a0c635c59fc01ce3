import Mathlib.Tactic
import VividProtocol.Library.Result
import VividProtocol.Cbor.Codec

/-!
# Initial bytes and arguments

`majorLength` writes an initial byte and the shortest argument; `argument`
reads it back and refuses every longer form.  The two are inverse for each of
the five widths, for every major type.
-/

set_option autoImplicit false

namespace VividProtocol.Cbor

open VividProtocol.Library

/-! ## The initial byte -/

theorem initial_major_toNat (initial : UInt8) :
    (initial >>> 5).toNat = initial.toNat / 32 := by
  simp [UInt8.toNat_shiftRight, Nat.shiftRight_eq_div_pow]

theorem initial_additional_toNat (initial : UInt8) :
    (initial &&& 0x1f).toNat = initial.toNat % 32 := by
  have mask := Nat.and_two_pow_sub_one_eq_mod initial.toNat 5
  simpa [UInt8.toNat_and] using mask

theorem lead_toNat (major low : UInt8) (majorBound : major.toNat < 8)
    (lowBound : low.toNat < 32) :
    (major <<< 5 ||| low).toNat = major.toNat * 32 + low.toNat := by
  have shifted : major.toNat <<< 5 < 256 := by
    rw [Nat.shiftLeft_eq]
    omega
  have joined := Nat.shiftLeft_add_eq_or_of_lt (i := 5) lowBound major.toNat
  simp only [UInt8.toNat_or, UInt8.toNat_shiftLeft]
  rw [show (5 : UInt8).toNat % 8 = 5 from rfl, Nat.mod_eq_of_lt shifted, ← joined,
    Nat.shiftLeft_eq]

theorem lead_major (major low : UInt8) (majorBound : major.toNat < 8)
    (lowBound : low.toNat < 32) : (major <<< 5 ||| low) >>> 5 = major := by
  apply UInt8.toNat_inj.mp
  rw [initial_major_toNat, lead_toNat major low majorBound lowBound]
  omega

theorem lead_additional (major low : UInt8) (majorBound : major.toNat < 8)
    (lowBound : low.toNat < 32) : (major <<< 5 ||| low) &&& 0x1f = low := by
  apply UInt8.toNat_inj.mp
  rw [initial_additional_toNat, lead_toNat major low majorBound lowBound]
  omega

theorem lead_split (initial : UInt8) :
    (initial >>> 5) <<< 5 ||| (initial &&& 0x1f) = initial := by
  have majorBound : (initial >>> 5).toNat < 8 := by
    rw [initial_major_toNat]
    have := initial.toNat_lt
    omega
  have lowBound : (initial &&& 0x1f).toNat < 32 := by
    rw [initial_additional_toNat]
    omega
  apply UInt8.toNat_inj.mp
  rw [lead_toNat _ _ majorBound lowBound, initial_major_toNat,
    initial_additional_toNat]
  omega

/-! ## The shortest argument -/

/-- The bytes `majorLength` appends. -/
def headBytes (major : UInt8) (value : UInt64) : List UInt8 :=
  (Encoder.new.majorLength major value).bytes

@[simp] theorem bytes_push (encoder : Encoder) (byte : UInt8) :
    (encoder.push byte).bytes = encoder.bytes ++ [byte] := rfl

@[simp] theorem bytes_extend (encoder : Encoder) (bytes : List UInt8) :
    (encoder.extend bytes).bytes = encoder.bytes ++ bytes := rfl

theorem bytes_majorLength (encoder : Encoder) (major : UInt8) (value : UInt64) :
    (encoder.majorLength major value).bytes =
      encoder.bytes ++ headBytes major value := by
  unfold headBytes Encoder.majorLength
  split_ifs <;> simp [Encoder.new]

/-- The low five bits and the argument bytes that follow the initial byte. -/
def argumentForm (value : UInt64) : UInt8 × List UInt8 :=
  if value ≤ 23 then (value.toUInt8, [])
  else if value ≤ 0xff then (24, [value.toUInt8])
  else if value ≤ 0xffff then (25, BigEndian.toBytes 2 value.toNat)
  else if value ≤ 0xffffffff then (26, BigEndian.toBytes 4 value.toNat)
  else (27, BigEndian.toBytes 8 value.toNat)

theorem headBytes_eq (major : UInt8) (value : UInt64) :
    headBytes major value =
      (major <<< 5 ||| (argumentForm value).1) :: (argumentForm value).2 := by
  unfold headBytes Encoder.majorLength argumentForm
  split_ifs <;> simp [Encoder.new]

theorem argumentForm_low (value : UInt64) : (argumentForm value).1.toNat < 32 := by
  unfold argumentForm
  split_ifs with tiny
  · have bound := UInt64.le_iff_toNat_le.mp tiny
    simp only [UInt64.toNat_toUInt8]
    have : value.toNat ≤ 23 := bound
    omega
  all_goals simp

theorem one_le_length_headBytes (major : UInt8) (value : UInt64) :
    1 ≤ (headBytes major value).length := by
  rw [headBytes_eq]
  simp

theorem wideArgument_toBytes (width : Nat) (shorter value : UInt64)
    (rest : List UInt8) (fits : value.toNat < 256 ^ width) (longer : shorter < value) :
    Decoder.wideArgument width shorter (BigEndian.toBytes width value.toNat ++ rest) =
      .ok (value, rest) := by
  have taken : Decoder.take width (BigEndian.toBytes width value.toNat ++ rest) =
      .ok (BigEndian.toBytes width value.toNat, rest) := by
    simp [Decoder.take]
  have notShort : ¬ value ≤ shorter := UInt64.not_le.mpr longer
  simp [Decoder.wideArgument, taken, BigEndian.ofBytes_toBytes _ _ fits, notShort]

/-- The decoder reads back the argument the encoder wrote. -/
theorem argument_argumentForm (value : UInt64) (rest : List UInt8) :
    Decoder.argument (argumentForm value).1 ((argumentForm value).2 ++ rest) =
      .ok (value, rest) := by
  unfold argumentForm
  split_ifs with tiny byte word double
  · have bound : value.toNat ≤ 23 := UInt64.le_iff_toNat_le.mp tiny
    have small : value.toUInt8 ≤ 23 := by
      rw [UInt8.le_iff_toNat_le, UInt64.toNat_toUInt8]
      change value.toNat % 256 ≤ 23
      omega
    have same : value.toUInt8.toUInt64 = value := by
      apply UInt64.toNat_inj.mp
      rw [UInt8.toNat_toUInt64, UInt64.toNat_toUInt8]
      omega
    simp [Decoder.argument, small, same]
  · have low : ¬ value.toNat ≤ 23 := fun bound => tiny (UInt64.le_iff_toNat_le.mpr bound)
    have high : value.toNat ≤ 255 := UInt64.le_iff_toNat_le.mp byte
    have same : value.toUInt8.toUInt64 = value := by
      apply UInt64.toNat_inj.mp
      rw [UInt8.toNat_toUInt64, UInt64.toNat_toUInt8]
      omega
    have longer : ¬ value < 24 := by
      rw [UInt64.lt_iff_toNat_lt]
      change ¬ value.toNat < 24
      omega
    simp [Decoder.argument, Decoder.byte, same, longer]
  · have fits : value.toNat < 256 ^ 2 := by
      have : value.toNat ≤ 65535 := UInt64.le_iff_toNat_le.mp word
      omega
    simpa [Decoder.argument] using
      wideArgument_toBytes 2 0xff value rest fits (UInt64.not_le.mp byte)
  · have fits : value.toNat < 256 ^ 4 := by
      have : value.toNat ≤ 4294967295 := UInt64.le_iff_toNat_le.mp double
      omega
    simpa [Decoder.argument] using
      wideArgument_toBytes 4 0xffff value rest fits (UInt64.not_le.mp word)
  · have fits : value.toNat < 256 ^ 8 := value.toNat_lt
    simpa [Decoder.argument] using
      wideArgument_toBytes 8 0xffffffff value rest fits (UInt64.not_le.mp double)

theorem take_eq_ok {length : Nat} {unread bytes rest : List UInt8}
    (success : Decoder.take length unread = .ok (bytes, rest)) :
    unread = bytes ++ rest ∧ bytes.length = length := by
  unfold Decoder.take at success
  split_ifs at success with enough
  cases success
  exact ⟨(List.take_append_drop length unread).symm, List.length_take_of_le enough⟩

theorem take_append (bytes rest : List UInt8) :
    Decoder.take bytes.length (bytes ++ rest) = .ok (bytes, rest) := by
  simp [Decoder.take]

theorem wideArgument_eq_ok {width : Nat} {shorter value : UInt64}
    {unread rest : List UInt8} (fits : 256 ^ width ≤ 2 ^ 64)
    (success : Decoder.wideArgument width shorter unread = .ok (value, rest)) :
    unread = BigEndian.toBytes width value.toNat ++ rest ∧ shorter < value ∧
      value.toNat < 256 ^ width := by
  unfold Decoder.wideArgument at success
  obtain ⟨⟨bytes, after⟩, taken, success⟩ := Result.bind_eq_ok_iff.mp success
  obtain ⟨split, exact⟩ := take_eq_ok taken
  obtain ⟨longer, result⟩ := Result.ite_error_eq_ok_iff.mp success
  cases result
  have bound : BigEndian.ofBytes bytes < 256 ^ width := by
    rw [← exact]
    exact BigEndian.ofBytes_lt bytes
  have same : (UInt64.ofNat (BigEndian.ofBytes bytes)).toNat =
      BigEndian.ofBytes bytes := by
    rw [UInt64.toNat_ofNat']
    exact Nat.mod_eq_of_lt (by omega)
  refine ⟨?_, UInt64.not_le.mp longer, ?_⟩
  · rw [same, BigEndian.toBytes_of_length exact, split]
  · rw [same]
    exact bound

/-- Every argument the decoder accepts is in the form the encoder writes. -/
theorem argument_eq_ok {additional : UInt8} {unread rest : List UInt8}
    {value : UInt64}
    (success : Decoder.argument additional unread = .ok (value, rest)) :
    additional = (argumentForm value).1 ∧
      unread = (argumentForm value).2 ++ rest := by
  unfold Decoder.argument at success
  split_ifs at success with small one two four eight
  · cases success
    have bound : additional.toNat ≤ 23 := UInt8.le_iff_toNat_le.mp small
    have tiny : additional.toUInt64 ≤ 23 := by
      rw [UInt64.le_iff_toNat_le, UInt8.toNat_toUInt64]
      exact bound
    simp [argumentForm, tiny]
  · obtain ⟨⟨byte, after⟩, read, success⟩ := Result.bind_eq_ok_iff.mp success
    obtain ⟨longer, result⟩ := Result.ite_error_eq_ok_iff.mp success
    cases result
    cases unread with
    | nil => simp [Decoder.byte] at read
    | cons head tail =>
        cases read
        have low : ¬ byte.toUInt64 ≤ 23 := by
          rw [UInt64.lt_iff_toNat_lt] at longer
          rw [UInt64.le_iff_toNat_le]
          change ¬ byte.toUInt64.toNat < 24 at longer
          change ¬ byte.toUInt64.toNat ≤ 23
          omega
        have high : byte.toUInt64 ≤ 0xff := by
          rw [UInt64.le_iff_toNat_le, UInt8.toNat_toUInt64]
          exact Nat.le_of_lt_succ byte.toNat_lt
        simp [argumentForm, low, high, one]
  · obtain ⟨split, longer, bound⟩ := wideArgument_eq_ok (by decide) success
    have notByte : ¬ value ≤ 0xff := UInt64.not_le.mpr longer
    have notTiny : ¬ value ≤ 23 := fun le => notByte (UInt64.le_trans le (by decide))
    have word : value ≤ 0xffff := by
      rw [UInt64.le_iff_toNat_le]
      exact Nat.le_of_lt_succ bound
    simp [argumentForm, notTiny, notByte, word, two, split]
  · obtain ⟨split, longer, bound⟩ := wideArgument_eq_ok (by decide) success
    have notWord : ¬ value ≤ 0xffff := UInt64.not_le.mpr longer
    have notByte : ¬ value ≤ 0xff := fun le => notWord (UInt64.le_trans le (by decide))
    have notTiny : ¬ value ≤ 23 := fun le => notWord (UInt64.le_trans le (by decide))
    have double : value ≤ 0xffffffff := by
      rw [UInt64.le_iff_toNat_le]
      exact Nat.le_of_lt_succ bound
    simp [argumentForm, notTiny, notByte, notWord, double, four, split]
  · obtain ⟨split, longer, -⟩ := wideArgument_eq_ok (by decide) success
    have notDouble : ¬ value ≤ 0xffffffff := UInt64.not_le.mpr longer
    have notWord : ¬ value ≤ 0xffff := fun le => notDouble (UInt64.le_trans le (by decide))
    have notByte : ¬ value ≤ 0xff := fun le => notDouble (UInt64.le_trans le (by decide))
    have notTiny : ¬ value ≤ 23 := fun le => notDouble (UInt64.le_trans le (by decide))
    simp [argumentForm, notTiny, notByte, notWord, notDouble, eight, split]

/-- An accepted head is, byte for byte, the head the encoder writes. -/
theorem head_of_argument {initial : UInt8} {unread rest : List UInt8} {value : UInt64}
    (success : Decoder.argument (initial &&& 0x1f) unread = .ok (value, rest)) :
    initial :: unread = headBytes (initial >>> 5) value ++ rest := by
  obtain ⟨low, split⟩ := argument_eq_ok success
  rw [headBytes_eq, ← low, lead_split, split]
  rfl

end VividProtocol.Cbor

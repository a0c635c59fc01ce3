import Mathlib.Tactic
import VividProtocol.Cbor.Canonical

/-!
# The size of an encoding

The number of bytes of a value, by recursion on it.
-/

set_option autoImplicit false

namespace VividProtocol.Cbor

open VividProtocol.Library

def headSize (argument : UInt64) : Nat := (argumentForm argument).2.length + 1

theorem length_headBytes (major : UInt8) (argument : UInt64) :
    (headBytes major argument).length = headSize argument := by
  rw [headBytes_eq, List.length_cons, headSize]

mutual

def Value.size : Value → Nat
  | .unsigned value => headSize value
  | .negative value =>
      if 0 ≤ value then headSize value.toUInt64
      else headSize (UInt64.ofInt (-1 - value.toInt))
  | .bytes value => headSize (UInt64.ofNat value.length) + value.length
  | .text value => headSize (UInt64.ofNat (textBytes value).length) + (textBytes value).length
  | .array values => headSize (UInt64.ofNat values.length) + Value.sizeItems values
  | .map entries => headSize (UInt64.ofNat entries.length) + Value.sizeEntries entries
  | .bool _ => 1
  | .null => 1

def Value.sizeItems : List Value → Nat
  | [] => 0
  | value :: rest => value.size + Value.sizeItems rest

def Value.sizeEntries : List (UInt64 × Value) → Nat
  | [] => 0
  | (key, value) :: rest => headSize key + value.size + Value.sizeEntries rest

end

@[simp] theorem Value.size_unsigned (value : UInt64) :
    (Value.unsigned value).size = headSize value := by
  rw [Value.size]

@[simp] theorem Value.size_bool (value : Bool) : (Value.bool value).size = 1 := by
  rw [Value.size]

@[simp] theorem Value.size_null : Value.null.size = 1 := by
  rw [Value.size]

@[simp] theorem Value.sizeItems_nil : Value.sizeItems [] = 0 := by
  rw [Value.sizeItems]

@[simp] theorem Value.sizeItems_cons (value : Value) (rest : List Value) :
    Value.sizeItems (value :: rest) = value.size + Value.sizeItems rest := by
  rw [Value.sizeItems]

@[simp] theorem Value.size_array (values : List Value) :
    (Value.array values).size = headSize (UInt64.ofNat values.length) + Value.sizeItems values := by
  rw [Value.size]

theorem length_majorLength (encoder : Encoder) (major : UInt8) (argument : UInt64) :
    (encoder.majorLength major argument).bytes.length =
      encoder.bytes.length + headSize argument := by
  rw [bytes_majorLength, List.length_append, length_headBytes]

/-- An element encoder adds the size of each element. -/
def Sized (item : Encoder → Value → Except EncodeError Encoder) : Prop :=
  ∀ encoder value result, item encoder value = .ok result →
    result.bytes.length = encoder.bytes.length + value.size

section Sizes

variable {item : Encoder → Value → Except EncodeError Encoder}

theorem Sized.items (sized : Sized item) {values : List Value} {encoder result : Encoder}
    (written : encodeItems item encoder values = .ok result) :
    result.bytes.length = encoder.bytes.length + Value.sizeItems values := by
  induction values generalizing encoder with
  | nil =>
      cases written
      rw [Value.sizeItems_nil, Nat.add_zero]
  | cons value rest ih =>
      obtain ⟨middle, first, later⟩ := Result.bind_eq_ok_iff.mp written
      rw [ih later, sized encoder value middle first, Value.sizeItems_cons, Nat.add_assoc]

theorem Sized.entries (sized : Sized item) {entries : List (UInt64 × Value)}
    {encoder result : Encoder} (written : encodeEntries item encoder entries = .ok result) :
    result.bytes.length = encoder.bytes.length + Value.sizeEntries entries := by
  induction entries generalizing encoder with
  | nil =>
      cases written
      rw [Value.sizeEntries, Nat.add_zero]
  | cons entry rest ih =>
      obtain ⟨middle, first, later⟩ := Result.bind_eq_ok_iff.mp written
      rw [ih later, sized _ entry.2 middle first, Encoder.u64, length_majorLength,
        Value.sizeEntries]
      omega

theorem sized_within (levels : Nat) : Sized (encodeWithin levels) := by
  induction levels with
  | zero =>
      intro encoder value result written
      cases written
  | succ levels ih =>
      intro encoder value result written
      cases value with
      | unsigned value =>
          cases written
          rw [Value.size_unsigned]
          exact length_majorLength encoder 0 value
      | negative value =>
          cases written
          rw [Value.size]
          unfold Encoder.i64
          by_cases sign : 0 ≤ value
          · rw [if_pos sign, if_pos sign]
            exact length_majorLength encoder 0 value.toUInt64
          · rw [if_neg sign, if_neg sign]
            exact length_majorLength encoder 1 _
      | bytes value =>
          obtain ⟨_, valid, written⟩ := Result.bind_eq_ok_iff.mp written
          cases written
          rw [Value.size, Encoder.byteString, bytes_extend, List.length_append,
            length_majorLength, Nat.add_assoc]
      | text value =>
          obtain ⟨_, valid, written⟩ := Result.bind_eq_ok_iff.mp written
          cases written
          rw [Value.size, Encoder.text, bytes_extend, List.length_append, length_majorLength,
            Nat.add_assoc]
      | array values =>
          obtain ⟨_, valid, written⟩ := Result.bind_eq_ok_iff.mp written
          rw [ih.items written, Encoder.array, length_majorLength, Value.size_array, Nat.add_assoc]
      | map entries =>
          obtain ⟨_, valid, written⟩ := Result.bind_eq_ok_iff.mp written
          obtain ⟨_, written⟩ := Result.ite_error_eq_ok_iff.mp written
          rw [ih.entries written, Encoder.map, length_majorLength, Value.size, Nat.add_assoc]
      | bool value =>
          cases written
          rw [Value.size_bool, Encoder.bool, bytes_push, List.length_append]
          rfl
      | null =>
          cases written
          rw [Value.size_null, Encoder.null, bytes_push, List.length_append]
          rfl

end Sizes

/-- An encoding has the size of its value. -/
theorem length_of_encode {value : Value} {bytes : List UInt8}
    (written : encode value = .ok bytes) : bytes.length = value.size := by
  obtain ⟨encoder, whole, same⟩ := Result.bind_eq_ok_iff.mp written
  cases same
  have sized := sized_within _ _ _ _ whole
  rw [sized, Encoder.new, List.length_nil, Nat.zero_add]

end VividProtocol.Cbor

import Mathlib.Tactic
import VividProtocol.Library.BigEndian

/-!
# Canonical CBOR

The value tree, the encoder and the decoder of `cbor.rs`.  The encoder threads
its output buffer.  The decoder's state is the part of the input it has not
read yet, `bytes[offset..]`; `usize` has 64 bits.  Both recursions of the
source carry a `depth` that starts at zero and stop when it passes
`MAX_DEPTH`; here they carry the number of levels that are left.
-/

set_option autoImplicit false

namespace VividProtocol.Cbor

open VividProtocol.Library

def maxDepth : Nat := 16
def maxValueLength : Nat := 16 * 1024 * 1024
def maxContainerLength : Nat := 4096

inductive Value where
  | unsigned (value : UInt64)
  | negative (value : Int64)
  | bytes (value : List UInt8)
  | text (value : String)
  | array (values : List Value)
  | map (entries : List (UInt64 × Value))
  | bool (value : Bool)
  | null
  deriving Repr, Inhabited

namespace Value

def asU64 : Value → Option UInt64
  | .unsigned value => some value
  | _ => none

def asI64 : Value → Option Int64
  | .unsigned value => if value.toNat < 2 ^ 63 then some value.toInt64 else none
  | .negative value => some value
  | _ => none

def asBool : Value → Option Bool
  | .bool value => some value
  | _ => none

end Value

/-- The bytes of a string, as `str::as_bytes` gives them. -/
def textBytes (value : String) : List UInt8 := value.toUTF8.data.toList

/-! ## Encoder -/

structure Encoder where
  bytes : List UInt8
  deriving Repr, DecidableEq

structure EncodeError where
  message : String
  deriving Repr, DecidableEq

namespace Encoder

def new : Encoder := { bytes := [] }

def push (encoder : Encoder) (byte : UInt8) : Encoder :=
  { bytes := encoder.bytes ++ [byte] }

def extend (encoder : Encoder) (bytes : List UInt8) : Encoder :=
  { bytes := encoder.bytes ++ bytes }

def majorLength (encoder : Encoder) (major : UInt8) (value : UInt64) : Encoder :=
  let lead := major <<< 5
  if value ≤ 23 then
    encoder.push (lead ||| value.toUInt8)
  else if value ≤ 0xff then
    (encoder.push (lead ||| 24)).push value.toUInt8
  else if value ≤ 0xffff then
    (encoder.push (lead ||| 25)).extend (BigEndian.toBytes 2 value.toNat)
  else if value ≤ 0xffffffff then
    (encoder.push (lead ||| 26)).extend (BigEndian.toBytes 4 value.toNat)
  else
    (encoder.push (lead ||| 27)).extend (BigEndian.toBytes 8 value.toNat)

def map (encoder : Encoder) (length : Nat) : Encoder :=
  encoder.majorLength 5 (UInt64.ofNat length)

def array (encoder : Encoder) (length : Nat) : Encoder :=
  encoder.majorLength 4 (UInt64.ofNat length)

def u64 (encoder : Encoder) (value : UInt64) : Encoder :=
  encoder.majorLength 0 value

def i64 (encoder : Encoder) (value : Int64) : Encoder :=
  if 0 ≤ value then
    encoder.u64 value.toUInt64
  else
    encoder.majorLength 1 (UInt64.ofInt (-1 - value.toInt))

def byteString (encoder : Encoder) (value : List UInt8) : Encoder :=
  (encoder.majorLength 2 (UInt64.ofNat value.length)).extend value

def text (encoder : Encoder) (value : String) : Encoder :=
  (encoder.majorLength 3 (UInt64.ofNat (textBytes value).length)).extend
    (textBytes value)

def bool (encoder : Encoder) (value : Bool) : Encoder :=
  encoder.push (if value then 0xf5 else 0xf4)

def null (encoder : Encoder) : Encoder := encoder.push 0xf6

end Encoder

def validateValueLength (length : Nat) : Except EncodeError Unit :=
  if length > maxValueLength then
    .error ⟨"CBOR value exceeds configured length limit"⟩
  else .ok ()

def validateContainerLength (length : Nat) : Except EncodeError Unit :=
  if length > maxContainerLength then
    .error ⟨"CBOR container exceeds 4096 items"⟩
  else .ok ()

/-- `entries.windows(2).any(|pair| pair[0].0 >= pair[1].0)`. -/
def unsortedKeys (entries : List (UInt64 × Value)) : Bool :=
  (entries.zip entries.tail).any fun pair => decide (pair.1.1 ≥ pair.2.1)

def encodeItems (item : Encoder → Value → Except EncodeError Encoder) :
    Encoder → List Value → Except EncodeError Encoder
  | encoder, [] => .ok encoder
  | encoder, value :: rest => do
      let encoder ← item encoder value
      encodeItems item encoder rest

def encodeEntries (item : Encoder → Value → Except EncodeError Encoder) :
    Encoder → List (UInt64 × Value) → Except EncodeError Encoder
  | encoder, [] => .ok encoder
  | encoder, (key, value) :: rest => do
      let encoder ← item (encoder.u64 key) value
      encodeEntries item encoder rest

/-- `encode_value` with `levels` left before the depth passes `maxDepth`. -/
def encodeWithin : Nat → Encoder → Value → Except EncodeError Encoder
  | 0, _, _ => .error ⟨"CBOR nesting exceeds 16 levels"⟩
  | levels + 1, encoder, value =>
    match value with
    | .unsigned value => .ok (encoder.u64 value)
    | .negative value => .ok (encoder.i64 value)
    | .bytes value => do
        validateValueLength value.length
        .ok (encoder.byteString value)
    | .text value => do
        validateValueLength (textBytes value).length
        .ok (encoder.text value)
    | .array values => do
        validateContainerLength values.length
        encodeItems (encodeWithin levels) (encoder.array values.length) values
    | .map entries => do
        validateContainerLength entries.length
        if unsortedKeys entries then
          .error ⟨"CBOR map keys are not strictly sorted"⟩
        else
          encodeEntries (encodeWithin levels) (encoder.map entries.length) entries
    | .bool value => .ok (encoder.bool value)
    | .null => .ok encoder.null

def encodeValue (encoder : Encoder) (value : Value) (depth : Nat) :
    Except EncodeError Encoder :=
  encodeWithin (maxDepth + 1 - depth) encoder value

/-- `encode`: the buffer starts empty and a failed encoding leaves nothing. -/
def encode (value : Value) : Except EncodeError (List UInt8) := do
  let encoder ← encodeValue Encoder.new value 0
  .ok encoder.bytes

/-! ## Decoder -/

structure DecodeError where
  message : String
  deriving Repr, DecidableEq

namespace Decoder

def byte : List UInt8 → Except DecodeError (UInt8 × List UInt8)
  | [] => .error ⟨"unexpected end of CBOR input"⟩
  | byte :: unread => .ok (byte, unread)

def take (length : Nat) (unread : List UInt8) :
    Except DecodeError (List UInt8 × List UInt8) :=
  if length ≤ unread.length then
    .ok (unread.take length, unread.drop length)
  else
    .error ⟨"unexpected end of CBOR input"⟩

/-- An argument of `width` bytes, refused when it does not exceed `shorter`,
the greatest value a shorter form can carry. -/
def wideArgument (width : Nat) (shorter : UInt64) (unread : List UInt8) :
    Except DecodeError (UInt64 × List UInt8) := do
  let (bytes, unread) ← take width unread
  let value := UInt64.ofNat (BigEndian.ofBytes bytes)
  if value ≤ shorter then
    .error ⟨"non-shortest CBOR integer encoding"⟩
  else .ok (value, unread)

def argument (additional : UInt8) (unread : List UInt8) :
    Except DecodeError (UInt64 × List UInt8) :=
  if additional ≤ 23 then .ok (additional.toUInt64, unread)
  else if additional = 24 then do
    let (byte, unread) ← byte unread
    let value := byte.toUInt64
    if value < 24 then
      .error ⟨"non-shortest CBOR integer encoding"⟩
    else .ok (value, unread)
  else if additional = 25 then wideArgument 2 0xff unread
  else if additional = 26 then wideArgument 4 0xffff unread
  else if additional = 27 then wideArgument 8 0xffffffff unread
  else .error ⟨"indefinite-length CBOR is not supported"⟩

def length (additional : UInt8) (unread : List UInt8) :
    Except DecodeError (Nat × List UInt8) := do
  let (value, unread) ← argument additional unread
  if value.toNat > maxValueLength then
    .error ⟨"CBOR value exceeds configured length limit"⟩
  else .ok (value.toNat, unread)

def containerLength (additional : UInt8) (minimumBytesPerItem : Nat)
    (unread : List UInt8) : Except DecodeError (Nat × List UInt8) := do
  let (length, unread) ← length additional unread
  if length > maxContainerLength then
    .error ⟨"CBOR container exceeds 4096 items"⟩
  else if length * minimumBytesPerItem > unread.length then
    .error ⟨"CBOR container length exceeds its input"⟩
  else .ok (length, unread)

def items (item : List UInt8 → Except DecodeError (Value × List UInt8)) :
    Nat → List UInt8 → Except DecodeError (List Value × List UInt8)
  | 0, unread => .ok ([], unread)
  | count + 1, unread => do
      let (value, unread) ← item unread
      let (values, unread) ← items item count unread
      .ok (value :: values, unread)

def entries (item : List UInt8 → Except DecodeError (Value × List UInt8)) :
    Option UInt64 → Nat → List UInt8 →
      Except DecodeError (List (UInt64 × Value) × List UInt8)
  | _, 0, unread => .ok ([], unread)
  | previous, count + 1, unread => do
      let (keyValue, unread) ← item unread
      match keyValue with
      | .unsigned key =>
          if previous.any fun previous => decide (previous ≥ key) then
            .error ⟨"CBOR map keys are not strictly sorted"⟩
          else do
            let (value, unread) ← item unread
            let (rest, unread) ← entries item (some key) count unread
            .ok ((key, value) :: rest, unread)
      | _ => .error ⟨"CBOR map key is not an unsigned integer"⟩

/-- The negative integer of an argument, computed as the source's `i128`. -/
def negative (argument : UInt64) : Except DecodeError Value :=
  let value : Int := -1 - argument.toNat
  if Int64.minValue.toInt ≤ value ∧ value ≤ Int64.maxValue.toInt then
    .ok (.negative (Int64.ofInt value))
  else .error ⟨"negative CBOR integer exceeds i64"⟩

def utf8 (bytes : List UInt8) : Except DecodeError Value :=
  match String.fromUTF8? ⟨bytes.toArray⟩ with
  | some text => .ok (.text text)
  | none => .error ⟨"CBOR text is not UTF-8"⟩

/-- The part of `value` after its initial byte; `item` is `value` one level
deeper. -/
def body (item : List UInt8 → Except DecodeError (Value × List UInt8))
    (major : Nat) (additional : UInt8) (unread : List UInt8) :
    Except DecodeError (Value × List UInt8) :=
  match major with
  | 0 => do
      let (argument, unread) ← argument additional unread
      .ok (.unsigned argument, unread)
  | 1 => do
      let (argument, unread) ← argument additional unread
      let value ← negative argument
      .ok (value, unread)
  | 2 => do
      let (length, unread) ← length additional unread
      let (bytes, unread) ← take length unread
      .ok (.bytes bytes, unread)
  | 3 => do
      let (length, unread) ← length additional unread
      let (bytes, unread) ← take length unread
      let value ← utf8 bytes
      .ok (value, unread)
  | 4 => do
      let (length, unread) ← containerLength additional 1 unread
      let (values, unread) ← items item length unread
      .ok (.array values, unread)
  | 5 => do
      let (length, unread) ← containerLength additional 2 unread
      let (entries, unread) ← entries item none length unread
      .ok (.map entries, unread)
  | 7 =>
      if additional = 20 then .ok (.bool false, unread)
      else if additional = 21 then .ok (.bool true, unread)
      else if additional = 22 then .ok (.null, unread)
      else .error ⟨"unsupported CBOR simple or floating-point value"⟩
  | _ => .error ⟨"CBOR tags and indefinite values are not supported"⟩

/-- `value` with `levels` left before the depth passes `maxDepth`. -/
def valueWithin : Nat → List UInt8 → Except DecodeError (Value × List UInt8)
  | 0, _ => .error ⟨"CBOR nesting exceeds 16 levels"⟩
  | levels + 1, unread => do
      let (initial, unread) ← byte unread
      body (valueWithin levels) (initial >>> 5).toNat (initial &&& 0x1f) unread

def value (depth : Nat) (unread : List UInt8) :
    Except DecodeError (Value × List UInt8) :=
  valueWithin (maxDepth + 1 - depth) unread

end Decoder

def decodeAtDepth (bytes : List UInt8) (depth : Nat) :
    Except DecodeError Value := do
  let (value, unread) ← Decoder.value depth bytes
  if unread = [] then .ok value
  else .error ⟨"trailing bytes after CBOR value"⟩

def decode (bytes : List UInt8) : Except DecodeError Value :=
  decodeAtDepth bytes 0

end VividProtocol.Cbor

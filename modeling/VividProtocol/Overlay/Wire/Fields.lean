import Mathlib.Tactic
import VividProtocol.Cbor.Canonical
import VividProtocol.Library.Codec
import VividProtocol.Overlay.Operations

/-!
# Fields of the overlay records

The readers and writers that every codec of `overlay/wire.rs` is made of.  A
reader returns what its writer wrote.  The rectangle reader takes the check of
a rectangle as a parameter.
-/

set_option autoImplicit false

namespace VividProtocol.Overlay.Wire

open VividProtocol.Cbor
open VividProtocol.Library.Result
open VividProtocol.Library.Codec

/-! ## Maps -/

def strict (value : Value) (keys : List UInt64) : Except MessageError StrictMap := do
  let map ← StrictMap.new "overlay" value keys
  match value with
  | .map entries =>
      if unsortedKeys entries then .error (badOverlay 0 "keys must be unique and ordered")
      else .ok map
  | _ => .ok map

/-- `StrictMap::optional`. -/
def optional (map : StrictMap) (key : UInt64) : Option Value := map.entries.lookup key

/-- The entry of a key that may be absent. -/
def optionalEntry (key : UInt64) (part : Option Value) : PayloadMap :=
  (part.map fun value => (key, value)).toList

/-! ## Integers and booleans -/

def unsigned (value : Value) (key : UInt64) : Except MessageError UInt64 :=
  match value.asU64 with
  | some value => .ok value
  | none => .error (badOverlay key "expected unsigned integer")

def toU32 (value : UInt64) (key : UInt64) (reason : String) : Except MessageError UInt32 :=
  if value.toNat < 2 ^ 32 then .ok value.toUInt32 else .error (badOverlay key reason)

def toU16 (value : UInt64) (key : UInt64) (reason : String) : Except MessageError UInt16 :=
  if value.toNat < 2 ^ 16 then .ok value.toUInt16 else .error (badOverlay key reason)

def toU8 (value : UInt64) (key : UInt64) (reason : String) : Except MessageError UInt8 :=
  if value.toNat < 2 ^ 8 then .ok value.toUInt8 else .error (badOverlay key reason)

def small (value : Value) (key : UInt64) : Except MessageError UInt32 := do
  let value ← unsigned value key
  toU32 value key "integer exceeds u32"

def boolean (value : Value) (key : UInt64) : Except MessageError Bool :=
  match value.asBool with
  | some value => .ok value
  | none => .error (badOverlay key "expected boolean")

/-! ## Arrays -/

/-- `value.as_array()` with the error of the caller. -/
def arrayOr (value : Value) (key : UInt64) (reason : String) :
    Except MessageError (List Value) :=
  match value.asArray with
  | some values => .ok values
  | none => .error (badOverlay key reason)

def arrayAsSlice (value : Value) (key : UInt64) : Except MessageError (List Value) :=
  arrayOr value key "invalid array type"

/-- `array::<N>`. -/
def array (size : Nat) (value : Value) (key : UInt64) :
    Except MessageError (Vector Value size) :=
  match value.asArray with
  | some values =>
      if sized : values.length = size then .ok ⟨values.toArray, by simpa using sized⟩
      else .error (badOverlay key "invalid array length or type")
  | none => .error (badOverlay key "invalid array length or type")

/-! ## Coordinates -/

def scalar (value : Scalar) : Value :=
  if value.raw < 0 then .negative (Int64.ofInt value.raw)
  else .unsigned (UInt64.ofNat value.raw.toNat)

/-- `Scalar::from_raw`. -/
def fromRaw (raw : Int64) : Except InvalidScene Scalar :=
  if bounded : raw.toInt.natAbs ≤ scalarLimit then .ok ⟨raw.toInt, bounded⟩
  else .error ⟨"coordinate exceeds limit"⟩

/-- `map_err(|e| bad(key, e.0))`. -/
def orBad {α : Type} (key : UInt64) : Except InvalidScene α → Except MessageError α
  | .ok value => .ok value
  | .error error => .error (badOverlay key error.message)

def decodeScalar (value : Value) (key : UInt64) : Except MessageError Scalar :=
  match value.asI64 with
  | some raw => orBad key (fromRaw raw)
  | none => .error (badOverlay key "expected signed Q32.32 integer")

def point (value : Point) : Value := .array [scalar value.x, scalar value.y]

def decodePoint (value : Value) (key : UInt64) : Except MessageError Point := do
  let fields ← array 2 value key
  let x ← decodeScalar fields[0] key
  let y ← decodeScalar fields[1] key
  .ok { x := x, y := y }

def rectangle (value : Rect) : Value :=
  .array [scalar value.origin.x, scalar value.origin.y, scalar value.width, scalar value.height]

def decodeRectangle (validRect : Rect → Except InvalidScene Unit) (value : Value)
    (key : UInt64) : Except MessageError Rect := do
  let fields ← array 4 value key
  let x ← decodeScalar fields[0] key
  let y ← decodeScalar fields[1] key
  let width ← decodeScalar fields[2] key
  let height ← decodeScalar fields[3] key
  let rect : Rect := { origin := { x := x, y := y }, width := width, height := height }
  orBad key (validRect rect)
  .ok rect

/-! ## Parts that may be null -/

/-- `part.map_or(Value::Null, write)`. -/
def orNull {α : Type} (write : α → Value) (part : Option α) : Value := part.elim .null write

/-- Null is absence, anything else is read. -/
def nullable {α : Type} (read : Value → Except MessageError α) :
    Value → Except MessageError (Option α)
  | .null => .ok none
  | value => do
      let part ← read value
      .ok (some part)

/-! ## Text -/

/-- `text`. -/
def eventText (value : Value) : Except MessageError String :=
  match value.asText with
  | none => .error (badOverlay 5 "expected text")
  | some text =>
      if MAX_EVENT_TEXT_BYTES < text.utf8ByteSize then
        .error (badOverlay 5 "input text exceeds limit")
      else .ok text

end VividProtocol.Overlay.Wire

namespace VividProtocol.Overlay

open VividProtocol.Cbor
open VividProtocol.Library.Result

/-- `WindowAddress::decode`. -/
def WindowAddress.decode (object : UInt64) (map : StrictMap) :
    Except MessageError WindowAddress := do
  let contextId ← map.requiredU64 0
  let surfaceId ← map.requiredU64 1
  let generation ← map.requiredU64 2
  let address : WindowAddress :=
    { contextId := contextId, surfaceId := surfaceId, generation := generation }
  address.validate object
  .ok address

end VividProtocol.Overlay

namespace VividProtocol.Overlay.Wire

open VividProtocol.Cbor
open VividProtocol.Library.Result
open VividProtocol.Library.Codec

variable {key : UInt64} {levels : Nat}

/-! ## Reading maps -/

theorem new_ok {entries : PayloadMap} {keys : List UInt64}
    (kept : (entries.map Prod.fst).Sublist keys) :
    StrictMap.new "overlay" (.map entries) keys =
      .ok { schema := "overlay", entries := entries } := by
  have known : (entries.find? fun entry => ! keys.contains entry.1) = none := by
    rw [List.find?_eq_none]
    intro entry among
    simpa using kept.subset (List.mem_map_of_mem among)
  unfold StrictMap.new
  dsimp only
  rw [known]

theorem strict_ok {entries : PayloadMap} {keys : List UInt64}
    (kept : (entries.map Prod.fst).Sublist keys) (ordered : keys.Pairwise (· < ·)) :
    strict (.map entries) keys = .ok { schema := "overlay", entries := entries } := by
  unfold strict
  rw [new_ok kept, ok_bind]
  dsimp only
  rw [unsortedKeys_of_sublist kept ordered, if_neg Bool.false_ne_true]

theorem required_eq_ok {map : StrictMap} {value : Value} :
    map.required key = .ok value ↔ map.entries.lookup key = some value := by
  unfold StrictMap.required
  cases held : map.entries.lookup key <;> simp

theorem requiredU64_eq_ok {map : StrictMap} {value : UInt64} :
    map.requiredU64 key = .ok value ↔ map.entries.lookup key = some (.unsigned value) := by
  unfold StrictMap.requiredU64 StrictMap.required
  cases map.entries.lookup key with
  | none => simp
  | some held => cases held <;> simp [Value.asU64]

/-- An accepted map is read as it is. -/
theorem strict_entries {value : Value} {keys : List UInt64} {map : StrictMap}
    (accepted : strict value keys = .ok map) : value = .map map.entries := by
  obtain ⟨opened, new, accepted⟩ := bind_eq_ok_iff.mp accepted
  cases value with
  | map entries =>
      unfold StrictMap.new at new
      dsimp only at new accepted
      cases known : entries.find? fun entry => ! keys.contains entry.1 with
      | some entry =>
          rw [known] at new
          cases new
      | none =>
          rw [known] at new
          obtain ⟨_, same⟩ := ite_error_eq_ok_iff.mp accepted
          cases new
          cases same
          rfl
  | _ => cases new

theorem optionalEntry_keys (key : UInt64) (part : Option Value) :
    ((optionalEntry key part).map Prod.fst).Sublist [key] := by
  cases part <;> simp [optionalEntry]

@[simp] theorem lookup_optionalEntry (entry : UInt64) (part : Option Value) :
    (optionalEntry entry part).lookup key = if key = entry then part else none := by
  cases part with
  | none => simp [optionalEntry]
  | some value =>
      by_cases same : key = entry
      · simp [optionalEntry, same]
      · have different : (key == entry) = false := beq_false_of_ne same
        simp [optionalEntry, List.lookup_cons, different, same]

/-- The entries before those that hold a key do not matter. -/
theorem lookup_append_of_notMem {front more : PayloadMap} (absent : key ∉ front.map Prod.fst) :
    (front ++ more).lookup key = more.lookup key := by
  have missing : front.lookup key = none := by
    rw [List.lookup_eq_none_iff]
    intro entry among
    have different : key ≠ entry.1 := fun same =>
      absent (by rw [same]; exact List.mem_map_of_mem among)
    simpa using different
  rw [List.lookup_append, missing, Option.none_or]

theorem validateHeaderObject_eq_ok {header object : UInt64} {done : Unit} :
    validateHeaderObject header object = .ok done ↔ header = object := by
  unfold validateHeaderObject
  simp only [ite_error_eq_ok_iff, not_not, and_true]

/-! ## Reading what was written -/

@[simp] theorem unsigned_written (value : UInt64) : unsigned (.unsigned value) key = .ok value :=
  rfl

@[simp] theorem boolean_written (value : Bool) : boolean (.bool value) key = .ok value := rfl

@[simp] theorem toU32_written (value : UInt32) (reason : String) :
    toU32 value.toUInt64 key reason = .ok value := by
  unfold toU32
  rw [if_pos (by rw [UInt32.toNat_toUInt64]; exact value.toNat_lt), UInt32.toUInt32_toUInt64]

@[simp] theorem toU16_written (value : UInt16) (reason : String) :
    toU16 value.toUInt64 key reason = .ok value := by
  unfold toU16
  rw [if_pos (by rw [UInt16.toNat_toUInt64]; exact value.toNat_lt), UInt16.toUInt16_toUInt64]

@[simp] theorem toU8_written (value : UInt8) (reason : String) :
    toU8 value.toUInt64 key reason = .ok value := by
  unfold toU8
  rw [if_pos (by rw [UInt8.toNat_toUInt64]; exact value.toNat_lt), UInt8.toUInt8_toUInt64]

@[simp] theorem small_written (value : UInt32) :
    small (.unsigned value.toUInt64) key = .ok value := by
  unfold small
  rw [unsigned_written, ok_bind, toU32_written]

@[simp] theorem array_written {size : Nat} {values : List Value} (sized : values.length = size) :
    array size (.array values) key = .ok ⟨values.toArray, by simpa using sized⟩ := by
  unfold array
  simp only [Value.asArray, dif_pos sized]

@[simp] theorem arrayOr_written (values : List Value) (reason : String) :
    arrayOr (.array values) key reason = .ok values := rfl

@[simp] theorem arrayAsSlice_written (values : List Value) :
    arrayAsSlice (.array values) key = .ok values := rfl

theorem raw_bounds (value : Scalar) : -2 ^ 62 < value.raw ∧ value.raw < 2 ^ 62 := by
  have bounded := value.bounded
  unfold scalarLimit at bounded
  omega

theorem asI64_scalar (value : Scalar) :
    (scalar value).asI64 = some (Int64.ofInt value.raw) := by
  have bounds := raw_bounds value
  unfold scalar
  by_cases below : value.raw < 0
  · rw [if_pos below]
    rfl
  · rw [if_neg below]
    have small : (UInt64.ofNat value.raw.toNat).toNat = value.raw.toNat := by
      rw [UInt64.toNat_ofNat']
      omega
    unfold Value.asI64
    dsimp only
    rw [if_pos (by omega), Option.some.injEq, ← Int64.toInt_inj]
    rw [UInt64.toInt64_ofNat', Int64.toInt_ofNat', Int64.toInt_ofInt]
    congr 1
    omega

theorem fromRaw_raw (value : Scalar) : fromRaw (Int64.ofInt value.raw) = .ok value := by
  have bounds := raw_bounds value
  have same : (Int64.ofInt value.raw).toInt = value.raw := by
    have size : ((Int64.size : Nat) : Int) = 2 ^ 64 := rfl
    rw [Int64.toInt_ofInt, Int.bmod_eq_of_le (by omega) (by omega)]
  unfold fromRaw
  simp only [same, dif_pos value.bounded]

@[simp] theorem decodeScalar_written (value : Scalar) :
    decodeScalar (scalar value) key = .ok value := by
  unfold decodeScalar
  rw [asI64_scalar]
  dsimp only
  rw [fromRaw_raw]
  rfl

@[simp] theorem decodePoint_written (value : Point) :
    decodePoint (point value) key = .ok value := by
  unfold decodePoint point
  simp

theorem orBad_eq_ok {α : Type} {result : Except InvalidScene α} {value : α} :
    orBad key result = .ok value ↔ result = .ok value := by
  cases result <;> simp [orBad]

theorem decodeRectangle_written {validRect : Rect → Except InvalidScene Unit} {value : Rect}
    (valid : validRect value = .ok ()) :
    decodeRectangle validRect (rectangle value) key = .ok value := by
  unfold decodeRectangle rectangle
  simp [valid, orBad]

theorem decodeRectangle_valid {validRect : Rect → Except InvalidScene Unit} {value : Value}
    {rect : Rect} (accepted : decodeRectangle validRect value key = .ok rect) :
    validRect rect = .ok () := by
  unfold decodeRectangle at accepted
  simp only [bind_eq_ok_iff, orBad_eq_ok] at accepted
  obtain ⟨_, _, _, _, _, _, _, _, _, _, _, valid, same⟩ := accepted
  cases same
  exact valid

theorem nullable_written {α : Type} {read : Value → Except MessageError α} {write : α → Value}
    {part : Option α} (present : ∀ value, write value ≠ .null)
    (readsBack : ∀ value, part = some value → read (write value) = .ok value) :
    nullable read (orNull write part) = .ok part := by
  cases part with
  | none => rfl
  | some value =>
      have held := readsBack value rfl
      have proper := present value
      show nullable read (write value) = .ok (some value)
      cases written : write value with
      | null => exact absurd written proper
      | _ =>
          rw [written] at held
          simp only [nullable, held, ok_bind]

theorem nullable_eq_ok {α : Type} {read : Value → Except MessageError α} {value : Value}
    {part : α} (accepted : nullable read value = .ok (some part)) : read value = .ok part := by
  cases value with
  | null => cases accepted
  | _ =>
      obtain ⟨_, done, same⟩ := bind_eq_ok_iff.mp accepted
      cases same
      exact done

theorem scalar_present (value : Scalar) : scalar value ≠ .null := by
  unfold scalar
  by_cases below : value.raw < 0 <;> simp [below]

theorem eventText_written {text : String} (short : text.utf8ByteSize ≤ MAX_EVENT_TEXT_BYTES) :
    eventText (.text text) = .ok text := by
  unfold eventText
  simp only [Value.asText, if_neg (Nat.not_lt.mpr short)]

end VividProtocol.Overlay.Wire

/-! ## Addresses -/

namespace VividProtocol.Overlay.WindowAddress

open VividProtocol.Library.Result
open VividProtocol.Overlay.Wire

/-- No part of the address is zero. -/
structure Named (address : WindowAddress) : Prop where
  context : address.contextId ≠ 0
  surface : address.surfaceId ≠ 0
  generation : address.generation ≠ 0

variable {address : WindowAddress} {object : UInt64}

theorem validate_eq_ok {done : Unit} :
    address.validate object = .ok done ↔ object = address.surfaceId ∧ address.Named := by
  unfold validate validateHeaderObject
  simp only [bind_eq_ok_iff, ite_error_eq_ok_iff, not_or, not_not]
  constructor
  · intro accepted
    obtain ⟨_, ⟨same, _⟩, ⟨context, surface, generation⟩, _⟩ := accepted
    exact ⟨same, context, surface, generation⟩
  · intro accepted
    obtain ⟨same, context, surface, generation⟩ := accepted
    exact ⟨(), ⟨same, trivial⟩, ⟨context, surface, generation⟩, trivial⟩

theorem Named.validate (named : address.Named) : address.validate address.surfaceId = .ok () :=
  validate_eq_ok.mpr ⟨rfl, named⟩

/-- An address is read back whatever follows it. -/
theorem Named.decode_payload (named : address.Named) (schema : String) (rest : PayloadMap) :
    WindowAddress.decode address.surfaceId
      { schema := schema, entries := address.payload ++ rest } = .ok address := by
  unfold WindowAddress.decode
  rw [@StrictMap.requiredU64_of_lookup _ 0 address.contextId rfl,
    @StrictMap.requiredU64_of_lookup _ 1 address.surfaceId rfl,
    @StrictMap.requiredU64_of_lookup _ 2 address.generation rfl]
  simp only [ok_bind, named.validate]

theorem decode_named {map : StrictMap}
    (accepted : WindowAddress.decode object map = .ok address) :
    object = address.surfaceId ∧ address.Named := by
  unfold WindowAddress.decode at accepted
  simp only [bind_eq_ok_iff] at accepted
  obtain ⟨_, _, _, _, _, _, _, valid, same⟩ := accepted
  cases same
  exact validate_eq_ok.mp valid

theorem Named.identity (named : address.Named) (owner : SessionIdentity) :
    address.toIdentity owner =
      .ok
        { context := { session := owner, contextId := address.contextId }
          surfaceId := address.surfaceId } := by
  unfold toIdentity SessionIdentity.toContext ContextIdentity.toSurface nonzero
  rw [if_neg named.context, if_neg named.surface]
  rfl

end VividProtocol.Overlay.WindowAddress

import Mathlib.Tactic
import VividProtocol.Input.Gate
import VividProtocol.Library.Result

/-!
# Input events on the wire

The payload of an input event and its four decoders, from `input.rs`, and
`event_payload` of `grant.rs`, which puts an event behind the tag of a grant.
-/

set_option autoImplicit false

namespace VividProtocol.Input

open VividProtocol.Library.Result

def KEY_INPUT : UInt16 := 0x0710
def POINTER_MOTION : UInt16 := 0x0711
def POINTER_BUTTON : UInt16 := 0x0712
def POINTER_AXIS : UInt16 := 0x0713

def validateCoordinates (x y width height : UInt64) : Except MessageError Unit :=
  match checkedMul width 4294967296 with
  | none => .error (invalidValue "pointer input" 5 "width overflows 32.32")
  | some maximumX =>
      match checkedMul height 4294967296 with
      | none => .error (invalidValue "pointer input" 6 "height overflows 32.32")
      | some maximumY =>
          if maximumX ≤ x ∨ maximumY ≤ y then
            .error (invalidValue "pointer input" 5 "is outside the canonical surface")
          else .ok ()

def requiredI64 (map : StrictMap) (key : UInt64) : Except MessageError Int64 := do
  match (← map.required key).asI64 with
  | some value => .ok value
  | none => .error (invalidValue "input event" key "is not an integer")

def signed (value : Int64) : Cbor.Value :=
  if 0 ≤ value then .unsigned value.toUInt64 else .negative value

namespace InputTuple

def payloadPrefix (tuple : InputTuple) : PayloadMap :=
  [(0, .unsigned tuple.producerEpoch.value),
    (1, .unsigned tuple.grantGeneration.value),
    (2, .unsigned tuple.contextId),
    (3, .unsigned tuple.surfaceId),
    (4, .unsigned tuple.surfaceGeneration.value)]

def decode (map : StrictMap) : Except MessageError InputTuple := do
  let producerEpoch ← map.requiredU64 0
  let grantGeneration ← map.requiredU64 1
  let contextId ← requireNonzero "input event" 2 (← map.requiredU64 2)
  let surfaceId ← requireNonzero "input event" 3 (← map.requiredU64 3)
  let surfaceGeneration ← requireNonzero "input event" 4 (← map.requiredU64 4)
  .ok
    { producerEpoch := { value := producerEpoch }
      grantGeneration := { value := grantGeneration }
      contextId := contextId
      surfaceId := surfaceId
      surfaceGeneration := { value := surfaceGeneration } }

end InputTuple

namespace InputEvent

def recordType : InputEvent → UInt16
  | .key _ _ _ => KEY_INPUT
  | .pointerMotion _ _ _ => POINTER_MOTION
  | .pointerButton _ _ _ _ _ => POINTER_BUTTON
  | .pointerAxis _ _ _ _ _ => POINTER_AXIS

/-- The entries a payload adds to its tuple's. -/
def fields : InputEvent → PayloadMap
  | .key _ usage pressed => [(5, .unsigned usage.toUInt64), (6, .bool pressed)]
  | .pointerMotion _ x y => [(5, .unsigned x), (6, .unsigned y)]
  | .pointerButton _ button pressed x y =>
      [(5, .unsigned button.toUInt64), (6, .bool pressed), (7, .unsigned x), (8, .unsigned y)]
  | .pointerAxis _ horizontal vertical x y =>
      [(5, signed horizontal), (6, signed vertical), (7, .unsigned x), (8, .unsigned y)]

def payload (event : InputEvent) : PayloadMap := event.binding.payloadPrefix ++ event.fields

def decodeKey (headerObjectId : UInt64) (payload : Cbor.Value) :
    Except MessageError InputEvent := do
  let map ← StrictMap.new "KEY_INPUT" payload [0, 1, 2, 3, 4, 5, 6]
  let binding ← InputTuple.decode map
  validateHeaderObject headerObjectId binding.surfaceId
  let usage ← map.requiredU64 5
  if ¬ usage.toNat < 2 ^ 16 then
    .error (invalidValue "KEY_INPUT" 5 "does not fit in u16")
  else if ¬ (0x04 ≤ usage.toUInt16 ∧ usage.toUInt16 ≤ 0xe7) then
    .error (invalidValue "KEY_INPUT" 5 "is outside the keyboard usage range")
  else do
    let pressed ← map.requiredBool 6
    .ok (.key binding usage.toUInt16 pressed)

def decodeMotion (headerObjectId : UInt64) (payload : Cbor.Value) (width height : UInt64) :
    Except MessageError InputEvent := do
  let map ← StrictMap.new "POINTER_MOTION" payload [0, 1, 2, 3, 4, 5, 6]
  let binding ← InputTuple.decode map
  validateHeaderObject headerObjectId binding.surfaceId
  let x ← map.requiredU64 5
  let y ← map.requiredU64 6
  validateCoordinates x y width height
  .ok (.pointerMotion binding x y)

def decodeButton (headerObjectId : UInt64) (payload : Cbor.Value) (width height : UInt64) :
    Except MessageError InputEvent := do
  let map ← StrictMap.new "POINTER_BUTTON" payload [0, 1, 2, 3, 4, 5, 6, 7, 8]
  let binding ← InputTuple.decode map
  validateHeaderObject headerObjectId binding.surfaceId
  let button ← map.requiredU64 5
  if ¬ button.toNat < 2 ^ 8 then
    .error (invalidValue "POINTER_BUTTON" 5 "does not fit in u8")
  else if 4 < button.toUInt8 then
    .error (invalidValue "POINTER_BUTTON" 5 "has an unknown button")
  else do
    let x ← map.requiredU64 7
    let y ← map.requiredU64 8
    validateCoordinates x y width height
    let pressed ← map.requiredBool 6
    .ok (.pointerButton binding button.toUInt8 pressed x y)

/-- `(-12_000..=12_000).contains(&value)`. -/
def axisRange (value : Int64) : Bool := decide (-12000 ≤ value) && decide (value ≤ 12000)

def decodeAxis (headerObjectId : UInt64) (payload : Cbor.Value) (width height : UInt64) :
    Except MessageError InputEvent := do
  let map ← StrictMap.new "POINTER_AXIS" payload [0, 1, 2, 3, 4, 5, 6, 7, 8]
  let binding ← InputTuple.decode map
  validateHeaderObject headerObjectId binding.surfaceId
  let horizontal ← requiredI64 map 5
  let vertical ← requiredI64 map 6
  if ! axisRange horizontal || ! axisRange vertical then
    .error (invalidValue "POINTER_AXIS" 5 "is outside -12000..=12000")
  else do
    let x ← map.requiredU64 7
    let y ← map.requiredU64 8
    validateCoordinates x y width height
    .ok (.pointerAxis binding horizontal vertical x y)

/-- The decoder of a record type, where it has one. -/
def decode (recordType : UInt16) (headerObjectId : UInt64) (payload : Cbor.Value)
    (width height : UInt64) : Option (Except MessageError InputEvent) :=
  if recordType = KEY_INPUT then some (decodeKey headerObjectId payload)
  else if recordType = POINTER_MOTION then
    some (decodeMotion headerObjectId payload width height)
  else if recordType = POINTER_BUTTON then
    some (decodeButton headerObjectId payload width height)
  else if recordType = POINTER_AXIS then
    some (decodeAxis headerObjectId payload width height)
  else none

/-- The same event under another tuple. -/
def withBinding (tuple : InputTuple) : InputEvent → InputEvent
  | .key _ usage pressed => .key tuple usage pressed
  | .pointerMotion _ x y => .pointerMotion tuple x y
  | .pointerButton _ button pressed x y => .pointerButton tuple button pressed x y
  | .pointerAxis _ horizontal vertical x y => .pointerAxis tuple horizontal vertical x y

end InputEvent

/-- `event_payload` of `grant.rs`. -/
def eventPayload (tag : PayloadMap) (event : InputEvent) : PayloadMap :=
  tag ++ event.payload.filter fun entry => decide (5 ≤ entry.1)

/-! ## Legal fields -/

/-- A point of a surface, in 32.32. -/
structure OnSurface (x y width height : UInt64) : Prop where
  wide : width.toNat * 2 ^ 32 < 2 ^ 64
  high : height.toNat * 2 ^ 32 < 2 ^ 64
  left : x.toNat < width.toNat * 2 ^ 32
  above : y.toNat < height.toNat * 2 ^ 32

def InputEvent.Legal (width height : UInt64) : InputEvent → Prop
  | .key _ usage _ => 0x04 ≤ usage ∧ usage ≤ 0xe7
  | .pointerMotion _ x y => OnSurface x y width height
  | .pointerButton _ button _ x y => button ≤ 4 ∧ OnSurface x y width height
  | .pointerAxis _ horizontal vertical x y =>
      axisRange horizontal = true ∧ axisRange vertical = true ∧ OnSurface x y width height

structure InputTuple.Named (tuple : InputTuple) : Prop where
  context : tuple.contextId ≠ 0
  surface : tuple.surfaceId ≠ 0
  surfaceGeneration : tuple.surfaceGeneration.value ≠ 0

theorem unit_toNat : (4294967296 : UInt64).toNat = 2 ^ 32 := by
  rw [UInt64.toNat_ofNat]
  norm_num

theorem OnSurface.valid {x y width height : UInt64} (inside : OnSurface x y width height) :
    validateCoordinates x y width height = .ok () := by
  have wide := @checkedMul_fits width 4294967296 (by rw [unit_toNat]; exact inside.wide)
  have high := @checkedMul_fits height 4294967296 (by rw [unit_toNat]; exact inside.high)
  have maximumX := checkedMul_eq_some.mp wide
  have maximumY := checkedMul_eq_some.mp high
  rw [unit_toNat] at maximumX maximumY
  unfold validateCoordinates
  rw [wide, high]
  dsimp only
  rw [if_neg]
  rw [UInt64.le_iff_toNat_le, UInt64.le_iff_toNat_le, maximumX, maximumY, not_or,
    Nat.not_le, Nat.not_le]
  exact ⟨inside.left, inside.above⟩

/-! ## Round trips -/

theorem signed_asI64 (value : Int64) : (signed value).asI64 = some value := by
  unfold signed
  by_cases above : 0 ≤ value
  · have small : value.toUInt64.toNat < 2 ^ 63 := by
      have bound := value.toInt_lt
      rw [Int64.toNat_toUInt64_of_le above, Int64.toNatClampNeg]
      omega
    rw [if_pos above]
    simp only [Cbor.Value.asI64, if_pos small, Int64.toInt64_toUInt64]
  · rw [if_neg above]
    rfl

theorem requiredI64_signed {map : StrictMap} {key : UInt64} {value : Int64}
    (held : map.entries.lookup key = some (signed value)) :
    requiredI64 map key = .ok value := by
  unfold requiredI64 StrictMap.required
  rw [held]
  simp only [ok_bind, signed_asI64]

variable {tuple : InputTuple}

/-- The tuple is read back whatever follows it. -/
theorem InputTuple.decode_payloadPrefix (named : tuple.Named) (schema : String)
    (rest : PayloadMap) :
    InputTuple.decode { schema := schema, entries := tuple.payloadPrefix ++ rest } =
      .ok tuple := by
  unfold InputTuple.decode
  rw [@StrictMap.requiredU64_of_lookup _ 0 tuple.producerEpoch.value rfl,
    @StrictMap.requiredU64_of_lookup _ 1 tuple.grantGeneration.value rfl,
    @StrictMap.requiredU64_of_lookup _ 2 tuple.contextId rfl,
    @StrictMap.requiredU64_of_lookup _ 3 tuple.surfaceId rfl,
    @StrictMap.requiredU64_of_lookup _ 4 tuple.surfaceGeneration.value rfl]
  simp only [ok_bind, requireNonzero_eq_ok.mpr ⟨named.context, rfl⟩,
    requireNonzero_eq_ok.mpr ⟨named.surface, rfl⟩,
    requireNonzero_eq_ok.mpr ⟨named.surfaceGeneration, rfl⟩]

/-- An event's own tuple is dropped for the tag. -/
theorem eventPayload_payloadPrefix (event : InputEvent) :
    eventPayload tuple.payloadPrefix event = tuple.payloadPrefix ++ event.fields := by
  cases event <;> rfl

variable {width height : UInt64}

theorem decodeKey_eventPayload (named : tuple.Named) {usage : UInt16}
    (legal : 0x04 ≤ usage ∧ usage ≤ 0xe7) (pressed : Bool) :
    InputEvent.decodeKey tuple.surfaceId
        (.map (tuple.payloadPrefix ++ InputEvent.fields (.key tuple usage pressed))) =
      .ok (.key tuple usage pressed) := by
  have small : usage.toUInt64.toNat < 2 ^ 16 := by
    rw [UInt16.toNat_toUInt64]
    exact usage.toNat_lt
  unfold InputEvent.decodeKey
  rw [show StrictMap.new "KEY_INPUT" _ _ = .ok _ from rfl, ok_bind,
    InputTuple.decode_payloadPrefix named, ok_bind, validateHeaderObject_self, ok_bind,
    @StrictMap.requiredU64_of_lookup _ 5 usage.toUInt64 rfl, ok_bind,
    @StrictMap.requiredBool_of_lookup _ 6 pressed rfl, if_neg (not_not_intro small),
    UInt16.toUInt16_toUInt64, if_neg (not_not_intro legal), ok_bind]

theorem decodeMotion_eventPayload (named : tuple.Named) {x y : UInt64}
    (legal : OnSurface x y width height) :
    InputEvent.decodeMotion tuple.surfaceId
        (.map (tuple.payloadPrefix ++ InputEvent.fields (.pointerMotion tuple x y)))
        width height =
      .ok (.pointerMotion tuple x y) := by
  unfold InputEvent.decodeMotion
  rw [show StrictMap.new "POINTER_MOTION" _ _ = .ok _ from rfl, ok_bind,
    InputTuple.decode_payloadPrefix named, ok_bind, validateHeaderObject_self, ok_bind,
    @StrictMap.requiredU64_of_lookup _ 5 x rfl, ok_bind,
    @StrictMap.requiredU64_of_lookup _ 6 y rfl, ok_bind, legal.valid, ok_bind]

theorem decodeButton_eventPayload (named : tuple.Named) {button : UInt8} {x y : UInt64}
    (known : button ≤ 4) (legal : OnSurface x y width height) (pressed : Bool) :
    InputEvent.decodeButton tuple.surfaceId
        (.map (tuple.payloadPrefix ++
          InputEvent.fields (.pointerButton tuple button pressed x y)))
        width height =
      .ok (.pointerButton tuple button pressed x y) := by
  have small : button.toUInt64.toNat < 2 ^ 8 := by
    rw [UInt8.toNat_toUInt64]
    exact button.toNat_lt
  unfold InputEvent.decodeButton
  rw [show StrictMap.new "POINTER_BUTTON" _ _ = .ok _ from rfl, ok_bind,
    InputTuple.decode_payloadPrefix named, ok_bind, validateHeaderObject_self, ok_bind,
    @StrictMap.requiredU64_of_lookup _ 5 button.toUInt64 rfl, ok_bind,
    if_neg (not_not_intro small), UInt8.toUInt8_toUInt64,
    if_neg (by rw [UInt8.not_lt]; exact known),
    @StrictMap.requiredU64_of_lookup _ 7 x rfl, ok_bind,
    @StrictMap.requiredU64_of_lookup _ 8 y rfl, ok_bind, legal.valid, ok_bind,
    @StrictMap.requiredBool_of_lookup _ 6 pressed rfl, ok_bind]

theorem decodeAxis_eventPayload (named : tuple.Named) {horizontal vertical : Int64}
    {x y : UInt64} (across : InputEvent.axisRange horizontal = true)
    (along : InputEvent.axisRange vertical = true)
    (legal : OnSurface x y width height) :
    InputEvent.decodeAxis tuple.surfaceId
        (.map (tuple.payloadPrefix ++
          InputEvent.fields (.pointerAxis tuple horizontal vertical x y)))
        width height =
      .ok (.pointerAxis tuple horizontal vertical x y) := by
  unfold InputEvent.decodeAxis
  rw [show StrictMap.new "POINTER_AXIS" _ _ = .ok _ from rfl, ok_bind,
    InputTuple.decode_payloadPrefix named, ok_bind, validateHeaderObject_self, ok_bind,
    @requiredI64_signed _ 5 horizontal rfl, ok_bind,
    @requiredI64_signed _ 6 vertical rfl, ok_bind, across, along, if_neg (by simp),
    @StrictMap.requiredU64_of_lookup _ 7 x rfl, ok_bind,
    @StrictMap.requiredU64_of_lookup _ 8 y rfl, ok_bind, legal.valid, ok_bind]

/-- An event sent behind a tag is read back under the tag's tuple. -/
theorem decode_eventPayload (named : tuple.Named) {event : InputEvent}
    (legal : event.Legal width height) :
    InputEvent.decode event.recordType tuple.surfaceId
        (.map (eventPayload tuple.payloadPrefix event)) width height =
      some (.ok (event.withBinding tuple)) := by
  rw [eventPayload_payloadPrefix]
  -- The record type is a constant of each case, so the dispatch computes.
  cases event with
  | key _ usage pressed => exact congrArg some (decodeKey_eventPayload named legal pressed)
  | pointerMotion _ x y => exact congrArg some (decodeMotion_eventPayload named legal)
  | pointerButton _ button pressed x y =>
      exact congrArg some (decodeButton_eventPayload named legal.1 legal.2 pressed)
  | pointerAxis _ horizontal vertical x y =>
      exact congrArg some (decodeAxis_eventPayload named legal.1 legal.2.1 legal.2.2)

end VividProtocol.Input

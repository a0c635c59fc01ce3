import Mathlib.Tactic
import VividProtocol.Overlay.Wire.Semantics

/-!
# Input events of a window

`InputEvent` of `overlay/wire.rs`: the payload of every kind of event and its
decoder.  Both sides check the event with the test that admits it to the queue.
-/

set_option autoImplicit false

namespace VividProtocol.Overlay.Wire

open VividProtocol.Cbor
open VividProtocol.Library.Result
open VividProtocol.Library.Codec

/-! ## The kinds of events -/

def phaseIndex : ScrollPhase → UInt64
  | .none => 0
  | .began => 1
  | .changed => 2
  | .ended => 3
  | .cancelled => 4

def decodePhase (index : UInt64) : Except MessageError ScrollPhase :=
  match index with
  | 0 => .ok .none
  | 1 => .ok .began
  | 2 => .ok .changed
  | 3 => .ok .ended
  | 4 => .ok .cancelled
  | _ => .error (badOverlay 5 "unknown scroll phase")

theorem decodePhase_phaseIndex (phase : ScrollPhase) :
    decodePhase (phaseIndex phase) = .ok phase := by
  cases phase <;> rfl

def reasonIndex : DismissReason → UInt64
  | .escape => 0
  | .outsidePress => 1
  | .closed => 2
  | .ownerLost => 3
  | .parentClosed => 4

def decodeReason (index : UInt64) : Except MessageError DismissReason :=
  match index with
  | 0 => .ok .escape
  | 1 => .ok .outsidePress
  | 2 => .ok .closed
  | 3 => .ok .ownerLost
  | 4 => .ok .parentClosed
  | _ => .error (badOverlay 5 "unknown dismissal reason")

def buttonValue (button : UInt16 × Bool) : Value :=
  .array [.unsigned button.1.toUInt64, .bool button.2]

def selectionValue (selection : UInt32 × UInt32) : Value :=
  .array [.unsigned selection.1.toUInt64, .unsigned selection.2.toUInt64]

/-- The elements that only a click or a pressure adds. -/
def pointerExtras (clicks : UInt8) (pressure : Option Scalar) : List Value :=
  if clicks ≠ 0 ∨ pressure.isSome then
    [.unsigned clicks.toUInt64, orNull scalar pressure]
  else []

/-- The number of an event's kind. -/
def eventKind : Event → UInt64
  | .focus _ => 0
  | .pointer _ _ _ _ _ _ => 1
  | .wheel _ _ _ _ _ _ => 2
  | .key _ _ _ _ => 3
  | .text _ => 4
  | .ime _ _ => 5
  | .geometry _ _ => 6
  | .dismissed _ => 7
  | .cancel => 8
  | .hover _ _ => 9
  | .accessibility _ _ => 10

def eventValue : Event → Value
  | .focus gained => .bool gained
  | .pointer position region button modifiers clicks pressure =>
      .array
        ([point position, .unsigned region, orNull buttonValue button,
          .unsigned modifiers.toUInt64] ++ pointerExtras clicks pressure)
  | .wheel position dx dy modifiers precise phase =>
      .array
        [point position, scalar dx, scalar dy, .unsigned modifiers.toUInt64, .bool precise,
          .unsigned (phaseIndex phase)]
  | .key physical down repeated modifiers =>
      .array
        [.unsigned physical.toUInt64, .bool down, .bool repeated, .unsigned modifiers.toUInt64]
  | .text text => .text text
  | .ime preedit selection => .array [.text preedit, orNull selectionValue selection]
  | .geometry bounds settled => .array [rectangle bounds, .bool settled]
  | .dismissed reason => .unsigned (reasonIndex reason)
  | .cancel => .null
  | .accessibility node action => .array [.unsigned node, .unsigned (actionIndex action)]
  | .hover region entered => .array [.unsigned region, .bool entered]

/-! ## Decoding an event -/

/-- The elements of a key payload, and of the payloads that are pairs. -/
abbrev KEY_PARTS : Nat := 4
abbrev EVENT_PAIR : Nat := 2

def decodeButton (value : Value) : Except MessageError (UInt16 × Bool) := do
  let fields ← array EVENT_PAIR value 5
  let button ← toU16 (← unsigned fields[0] 5) 5 "button exceeds u16"
  let down ← boolean fields[1] 5
  .ok (button, down)

/-- The click count and the pressure, where they are sent. -/
def decodeExtras : List Value → Except MessageError (UInt8 × Option Scalar)
  | [clicks, pressure] => do
      let clicks ← toU8 (← unsigned clicks 5) 5 "click count exceeds u8"
      let pressure ← nullable (decodeScalar · 5) pressure
      .ok (clicks, pressure)
  | _ => .ok (0, none)

/-- Four elements, or six. -/
def decodePointer (payload : Value) : Except MessageError Event :=
  match payload with
  | .array (position :: region :: button :: modifiers :: extras) =>
      if extras.length ≠ 0 ∧ extras.length ≠ 2 then
        .error (badOverlay 5 "pointer payload has an unexpected arity")
      else do
        let button ← nullable decodeButton button
        let (clicks, pressure) ← decodeExtras extras
        let position ← decodePoint position 5
        let region ← unsigned region 5
        let modifiers ← small modifiers 5
        .ok (.pointer position region button modifiers clicks pressure)
  | _ => .error (badOverlay 5 "pointer payload has an unexpected arity")

def decodeWheel (payload : Value) : Except MessageError Event := do
  let fields ← array 6 payload 5
  let position ← decodePoint fields[0] 5
  let dx ← decodeScalar fields[1] 5
  let dy ← decodeScalar fields[2] 5
  let modifiers ← small fields[3] 5
  let precise ← boolean fields[4] 5
  let phase ← decodePhase (← unsigned fields[5] 5)
  .ok (.wheel position dx dy modifiers precise phase)

def decodeKey (payload : Value) : Except MessageError Event := do
  let fields ← array KEY_PARTS payload 5
  let physical ← small fields[0] 5
  let down ← boolean fields[1] 5
  let repeated ← boolean fields[2] 5
  let modifiers ← small fields[3] 5
  .ok (.key physical down repeated modifiers)

def decodeSelection (value : Value) : Except MessageError (UInt32 × UInt32) := do
  let fields ← array EVENT_PAIR value 5
  let first ← small fields[0] 5
  let last ← small fields[1] 5
  .ok (first, last)

def decodeIme (payload : Value) : Except MessageError Event := do
  let fields ← array EVENT_PAIR payload 5
  let preedit ← eventText fields[0]
  let selection ← nullable decodeSelection fields[1]
  if selection.any fun pair =>
      decide (pair.2 < pair.1) || ! isCharBoundary preedit pair.1.toNat ||
        ! isCharBoundary preedit pair.2.toNat then
    .error (badOverlay 5 "IME selection is not a UTF-8 range")
  else .ok (.ime preedit selection)

def decodeGeometry (payload : Value) : Except MessageError Event := do
  let fields ← array EVENT_PAIR payload 5
  let bounds ← decodeRectangle Rect.validate fields[0] 5
  let settled ← boolean fields[1] 5
  .ok (.geometry bounds settled)

def decodeHover (payload : Value) : Except MessageError Event := do
  let fields ← array EVENT_PAIR payload 5
  let region ← unsigned fields[0] 5
  let entered ← boolean fields[1] 5
  .ok (.hover region entered)

def decodeAccessibility (payload : Value) : Except MessageError Event := do
  let fields ← array EVENT_PAIR payload 5
  let node ← unsigned fields[0] 5
  if node = 0 then
    .error (badOverlay 5 "an accessibility action requires a nonzero node")
  else do
    let action ← actionOf 5 (← unsigned fields[1] 5)
    .ok (.accessibility node action)

/-- `8 if *payload == Value::Null`, and the arm that is left. -/
def decodeCancel : Value → Except MessageError Event
  | .null => .ok .cancel
  | _ => .error (badOverlay 4 "unknown input event or invalid payload")

def decodeEvent (kind : UInt64) (payload : Value) : Except MessageError Event :=
  match kind with
  | 0 => do
      let gained ← boolean payload 5
      .ok (.focus gained)
  | 1 => decodePointer payload
  | 2 => decodeWheel payload
  | 3 => decodeKey payload
  | 4 => do
      let text ← eventText payload
      .ok (.text text)
  | 5 => decodeIme payload
  | 6 => decodeGeometry payload
  | 7 => do
      let reason ← decodeReason (← unsigned payload 5)
      .ok (.dismissed reason)
  | 8 => decodeCancel payload
  | 9 => decodeHover payload
  | 10 => decodeAccessibility payload
  | _ => .error (badOverlay 4 "unknown input event or invalid payload")

/-! ## The record -/

structure InputEvent where
  address : WindowAddress
  sceneRevision : UInt64
  event : Event
  deriving Repr, DecidableEq

namespace InputEvent

/-- `From<WindowEvent>`. -/
def ofWindowEvent (event : WindowEvent) : InputEvent :=
  { address :=
      { contextId := event.window.context.contextId
        surfaceId := event.window.surfaceId
        generation := event.generation }
    sceneRevision := event.sceneRevision
    event := event.event }

def fields (input : InputEvent) : PayloadMap :=
  input.address.payload ++
    [(3, .unsigned input.sceneRevision), (4, .unsigned (eventKind input.event)),
      (5, eventValue input.event)]

def payload (input : InputEvent) : Except MessageError PayloadMap := do
  input.address.validate input.address.surfaceId
  if ! validEvent input.event then
    .error (badOverlay 5 "invalid or oversized input payload")
  else .ok input.fields

def decode (object : UInt64) (value : Value) : Except MessageError InputEvent := do
  let map ← strict value [0, 1, 2, 3, 4, 5]
  let address ← WindowAddress.decode object map
  let payload ← map.required 5
  let event ← decodeEvent (← map.requiredU64 4) payload
  if ! validEvent event then
    .error (badOverlay 5 "invalid or oversized input payload")
  else do
    let sceneRevision ← map.requiredU64 3
    .ok { address := address, sceneRevision := sceneRevision, event := event }

/-- What both sides demand of an event. -/
structure Valid (input : InputEvent) : Prop where
  address : input.address.Named
  event : validEvent input.event = true

end InputEvent

/-! ## Events read back -/

theorem decodeButton_written (button : UInt16 × Bool) :
    decodeButton (buttonValue button) = .ok button := by
  simp [decodeButton, buttonValue]

theorem decodeExtras_written (clicks : UInt8) (pressure : Option Scalar) :
    decodeExtras (pointerExtras clicks pressure) = .ok (clicks, pressure) := by
  have read : nullable (decodeScalar · 5) (orNull scalar pressure) = .ok pressure :=
    nullable_written scalar_present fun _ _ => decodeScalar_written _
  unfold pointerExtras
  by_cases extra : clicks ≠ 0 ∨ pressure.isSome = true
  · rw [if_pos extra]
    simp [decodeExtras, read]
  · rw [if_neg extra]
    rw [not_or, not_not, Bool.not_eq_true, Option.isSome_eq_false_iff, Option.isNone_iff_eq_none]
      at extra
    rw [extra.1, extra.2]
    rfl

theorem decodePointer_written (position : Point) (region : UInt64)
    (button : Option (UInt16 × Bool)) (modifiers : UInt32) (clicks : UInt8)
    (pressure : Option Scalar) :
    decodePointer (eventValue (.pointer position region button modifiers clicks pressure)) =
      .ok (.pointer position region button modifiers clicks pressure) := by
  have arity : ¬ ((pointerExtras clicks pressure).length ≠ 0 ∧
      (pointerExtras clicks pressure).length ≠ 2) := by
    unfold pointerExtras
    split_ifs <;> simp
  have pressed : nullable decodeButton (orNull buttonValue button) = .ok button :=
    nullable_written nofun fun button _ => decodeButton_written button
  unfold eventValue
  simp only [List.cons_append, List.nil_append, decodePointer, if_neg arity, pressed,
    decodeExtras_written, decodePoint_written, unsigned_written, small_written, ok_bind]

theorem decodeSelection_written (selection : UInt32 × UInt32) :
    decodeSelection (selectionValue selection) = .ok selection := by
  simp [decodeSelection, selectionValue]

theorem decodeIme_written {preedit : String} {selection : Option (UInt32 × UInt32)}
    (valid : validEvent (.ime preedit selection) = true) :
    decodeIme (eventValue (.ime preedit selection)) = .ok (.ime preedit selection) := by
  unfold validEvent at valid
  rw [Bool.and_eq_true, decide_eq_true_eq] at valid
  have chosen : nullable decodeSelection (orNull selectionValue selection) = .ok selection :=
    nullable_written nofun fun selection _ => decodeSelection_written selection
  have proper : ¬ (selection.any fun pair =>
      decide (pair.2 < pair.1) || ! isCharBoundary preedit pair.1.toNat ||
        ! isCharBoundary preedit pair.2.toNat) = true := by
    cases selection with
    | none => simp
    | some pair =>
        obtain ⟨first, last⟩ := pair
        have inside := valid.2
        simp only [validSelection, Bool.and_eq_true, decide_eq_true_eq] at inside
        simp [inside.1.1.1, inside.1.2, inside.2]
  unfold eventValue decodeIme
  simp only [array_written, List.length_cons, List.length_nil, ok_bind]
  have text := eventText_written valid.1
  simp only [List.getElem_toArray, Vector.getElem_mk, List.getElem_cons_zero,
    List.getElem_cons_succ, text, chosen, ok_bind, if_neg proper]

theorem decodeEvent_written {event : Event} (valid : validEvent event = true) :
    decodeEvent (eventKind event) (eventValue event) = .ok event := by
  cases event with
  | focus gained => rfl
  | pointer position region button modifiers clicks pressure =>
      exact decodePointer_written position region button modifiers clicks pressure
  | accessibility node action =>
      have nonzero : node ≠ 0 := of_decide_eq_true valid
      show decodeAccessibility _ = _
      simp [decodeAccessibility, eventValue, nonzero, actionOf_written]
  | hover region entered => rfl
  | wheel position dx dy modifiers precise phase =>
      show decodeWheel _ = _
      simp [decodeWheel, eventValue, decodePhase_phaseIndex]
  | key physical down repeated modifiers =>
      show decodeKey _ = _
      simp [decodeKey, eventValue]
  | text text =>
      have short : text.utf8ByteSize ≤ MAX_EVENT_TEXT_BYTES := of_decide_eq_true valid
      simp only [eventKind, eventValue, decodeEvent, eventText_written short, ok_bind]
  | ime preedit selection => exact decodeIme_written valid
  | geometry bounds settled =>
      have positive : bounds.validate = .ok () := by
        change bounds.validate.isOk = true at valid
        cases checked : bounds.validate with
        | ok done => rfl
        | error error =>
            rw [checked] at valid
            cases valid
      show decodeGeometry _ = _
      simp [decodeGeometry, eventValue, decodeRectangle_written positive]
  | dismissed reason => cases reason <;> rfl
  | cancel => rfl

namespace InputEvent

variable {input : InputEvent}

theorem payload_eq_ok {entries : PayloadMap} :
    input.payload = .ok entries ↔ input.Valid ∧ input.fields = entries := by
  unfold payload
  simp only [bind_eq_ok_iff, WindowAddress.validate_eq_ok, ite_error_eq_ok_iff, Except.ok.injEq,
    Bool.not_eq_true', Bool.not_eq_false]
  constructor
  · intro accepted
    obtain ⟨_, ⟨_, named⟩, event, same⟩ := accepted
    exact ⟨⟨named, event⟩, same⟩
  · intro accepted
    obtain ⟨valid, same⟩ := accepted
    exact ⟨(), ⟨trivial, valid.address⟩, valid.event, same⟩

theorem Valid.decode (valid : input.Valid) :
    InputEvent.decode input.address.surfaceId (.map input.fields) = .ok input := by
  have opened : strict (.map input.fields) [0, 1, 2, 3, 4, 5] = .ok _ :=
    strict_ok (List.Sublist.refl _) (by decide)
  unfold InputEvent.decode
  rw [opened, ok_bind, fields, valid.address.decode_payload, ok_bind,
    @required_eq_ok 5 _ _ |>.mpr rfl, ok_bind,
    @StrictMap.requiredU64_of_lookup _ 4 (eventKind input.event) rfl, ok_bind,
    decodeEvent_written valid.event, ok_bind, valid.event, Bool.not_true,
    if_neg Bool.false_ne_true, @StrictMap.requiredU64_of_lookup _ 3 input.sceneRevision rfl,
    ok_bind]

theorem decode_valid {object : UInt64} {value : Value}
    (accepted : InputEvent.decode object value = .ok input) :
    object = input.address.surfaceId ∧ input.Valid := by
  unfold InputEvent.decode at accepted
  simp only [bind_eq_ok_iff, ite_error_eq_ok_iff, Bool.not_eq_true', Bool.not_eq_false]
    at accepted
  obtain ⟨_, _, _, addressed, _, _, _, _, _, _, event, _, _, same⟩ := accepted
  obtain ⟨same', named⟩ := WindowAddress.decode_named addressed
  cases same
  exact ⟨same', named, event⟩

theorem agrees : Agrees (fun input => input.address.surfaceId) Value.map payload decode :=
  .of_valid payload_eq_ok Valid.decode decode_valid

end InputEvent

/-! ## Through bytes -/

theorem fits_scalar (levels : Nat) (value : Scalar) : (scalar value).Fits (levels + 1) := by
  unfold scalar
  by_cases below : value.raw < 0
  · have bounds := raw_bounds value
    have size : ((Int64.size : Nat) : Int) = 2 ^ 64 := rfl
    rw [if_pos below, Value.fits_negative, Int64.lt_iff_toInt_lt, Int64.toInt_ofInt,
      Int.bmod_eq_of_le (by omega) (by omega)]
    exact below
  · rw [if_neg below]
    exact Value.fits_unsigned _

theorem fits_orNull {α : Type} {levels : Nat} {write : α → Value} {part : Option α}
    (each : ∀ value, (write value).Fits (levels + 1)) :
    (orNull write part).Fits (levels + 1) := by
  cases part with
  | none => exact Value.fits_null
  | some value => exact each value

theorem fits_point (levels : Nat) (value : Point) : (point value).Fits (levels + 2) := by
  simp [point, fits_scalar, maxContainerLength]

theorem fits_rectangle (levels : Nat) (value : Rect) : (rectangle value).Fits (levels + 2) := by
  simp [rectangle, fits_scalar, maxContainerLength]

/-- The value of a valid event is small and shallow. -/
theorem eventValue_fits (levels : Nat) {event : Event} (valid : validEvent event = true) :
    (eventValue event).Fits (levels + 3) := by
  cases event with
  | pointer position region button modifiers clicks pressure =>
      have pressed : (orNull buttonValue button).Fits (levels + 2) :=
        fits_orNull fun button => by simp [buttonValue, maxContainerLength]
      have pressure : (orNull scalar pressure).Fits (levels + 2) := fits_orNull (fits_scalar _)
      simp only [eventValue, pointerExtras]
      split_ifs <;> simp [fits_point, pressed, pressure, maxContainerLength]
  | ime preedit selection =>
      have chosen : (orNull selectionValue selection).Fits (levels + 2) :=
        fits_orNull fun selection => by simp [selectionValue, maxContainerLength]
      unfold validEvent MAX_EVENT_TEXT_BYTES at valid
      rw [Bool.and_eq_true, decide_eq_true_eq] at valid
      have short : preedit.utf8ByteSize ≤ maxValueLength := by
        unfold maxValueLength
        omega
      simp [eventValue, chosen, Value.fits_text, short, maxContainerLength]
  | text text =>
      have short : text.utf8ByteSize ≤ maxValueLength := by
        have small : text.utf8ByteSize ≤ MAX_EVENT_TEXT_BYTES := of_decide_eq_true valid
        unfold MAX_EVENT_TEXT_BYTES at small
        unfold maxValueLength
        omega
      exact Value.fits_text.mpr short
  | focus gained => exact Value.fits_bool gained
  | accessibility node action => simp [eventValue, maxContainerLength]
  | hover region entered => simp [eventValue, maxContainerLength]
  | wheel position dx dy modifiers precise phase =>
      simp [eventValue, fits_point, fits_scalar, maxContainerLength]
  | key physical down repeated modifiers => simp [eventValue, maxContainerLength]
  | geometry bounds settled => simp [eventValue, fits_rectangle, maxContainerLength]
  | dismissed reason => exact Value.fits_unsigned _
  | cancel => exact Value.fits_null

/-- A payload whose keys are taken from an ordered list of keys. -/
theorem fits_payload {levels : Nat} {address : WindowAddress} {rest : PayloadMap}
    {keys : List UInt64} (kept : ((address.payload ++ rest).map Prod.fst).Sublist keys)
    (ordered : keys.Pairwise (· < ·)) (few : keys.length ≤ maxContainerLength)
    (each : ∀ entry ∈ rest, entry.2.Fits (levels + 1)) :
    (Value.map (address.payload ++ rest)).Fits (levels + 2) := by
  have length : (address.payload ++ rest).length ≤ keys.length := by
    have shorter := kept.length_le
    rwa [List.length_map] at shorter
  refine Value.fits_map.mpr ⟨le_trans length few, unsortedKeys_of_sublist kept ordered, ?_⟩
  intro entry among
  rcases List.mem_append.mp among with addressed | after
  · simp only [WindowAddress.payload, List.mem_cons, List.not_mem_nil, or_false] at addressed
    rcases addressed with same | same | same
    all_goals
      rw [same]
      exact Value.fits_unsigned _
  · exact each entry after

theorem InputEvent.Valid.fits {input : InputEvent} (valid : input.Valid) :
    (Value.map input.fields).Fits (maxDepth + 1) := by
  refine @fits_payload 15 _ _ [0, 1, 2, 3, 4, 5] (List.Sublist.refl _) (by decide) (by decide) ?_
  simp [eventValue_fits 13 valid.event]

end VividProtocol.Overlay.Wire

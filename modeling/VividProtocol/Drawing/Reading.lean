import Mathlib.Tactic
import VividProtocol.Drawing.Legal

/-!
# Reading written commands

Each parser reads back what its writer wrote, and so a legal command is read
from its own value.
-/

set_option autoImplicit false

namespace VividProtocol.Drawing

open VividProtocol.Cbor
open VividProtocol.Overlay
open VividProtocol.Library.Result
open VividProtocol.Library.Codec

/-! ## Geometry -/

@[simp] theorem parseRect_written (rect : Rect) : parseRect (rectValue rect) = .ok rect := by
  simp [parseRect, rectValue]

@[simp] theorem parseSegment_written (segment : Segment) :
    parseSegment (segmentValue segment) = .ok segment := by
  cases segment <;> simp [parseSegment, segmentValue]

theorem parsePath_written {path : Path} (legal : path.Legal) :
    parsePath (pathValue path) = .ok path := by
  have few : path.segments.length ≤ MAX_PATH_SEGMENTS := legal
  have read : collect parseSegment (path.segments.map segmentValue) = .ok path.segments :=
    collect_map fun segment _ => parseSegment_written segment
  simp [parsePath, pathValue, few, read]

theorem exactly_toList {α : Type} {size : Nat} (values : Vector α size) (message : String) :
    exactly size message values.toList = .ok values := by
  unfold exactly
  rw [dif_pos values.length_toList]
  exact congrArg Except.ok (Vector.toList_inj.mp rfl)

theorem collect_scalars (values : List Scalar) :
    collect parseScalar (values.map integer) = .ok values :=
  collect_map fun value _ => parseScalar_written value

@[simp] theorem parseTransform_written (transform : Transform) :
    parseTransform (transformValue transform) = .ok transform := by
  have six : (transform.terms.toList.map integer).length = 6 := by simp
  simp [parseTransform, transformValue, collect_scalars, exactly_toList]

@[simp] theorem parseCorners_written (corners : Corners) :
    parseCorners (.array (corners.radii.toList.map integer)) = .ok corners := by
  simp [parseCorners, collect_scalars, exactly_toList]

/-! ## Brushes -/

@[simp] theorem parseStop_written (stop : GradientStop) :
    parseStop (stopValue stop) = .ok stop := by
  simp [parseStop, stopValue]

theorem parseStops_written {stops : List GradientStop}
    (few : stops.length ≤ MAX_GRADIENT_STOPS) : parseStops (stopsValue stops) = .ok stops := by
  have read : collect parseStop (stops.map stopValue) = .ok stops :=
    collect_map fun stop _ => parseStop_written stop
  simp [parseStops, stopsValue, few, read]

@[simp] theorem parseBrushTransform_written (transform : Option Transform) :
    parseBrushTransform (Overlay.Wire.orNull transformValue transform) = .ok transform := by
  cases transform with
  | none => rfl
  | some transform =>
      simp [Overlay.Wire.orNull, transformValue, parseBrushTransform, collect_scalars,
        exactly_toList]

@[simp] theorem parseExtend_written (extend : Extend) :
    parseExtend (extendValue extend) = .ok extend := by
  cases extend <;> rfl

theorem parseBrush_written {brush : Brush} (legal : brush.Legal) :
    parseBrush (brushValue brush) = .ok brush := by
  cases brush with
  | solid color => simp [parseBrush, brushValue]
  | linear start finish stops colorSpace =>
      have read := parseStops_written legal
      cases colorSpace
      · simp [parseBrush, brushValue, colorSpaceExtra, parseLinear, read, parseSpaceExtra]
      · simp [parseBrush, brushValue, colorSpaceExtra, parseLinear, read, parseSpaceExtra,
          colorSpaceValue, parseColorSpace]
  | radial center radius stops colorSpace =>
      have read := parseStops_written legal
      cases colorSpace
      · simp [parseBrush, brushValue, colorSpaceExtra, parseRadial, read, parseSpaceExtra]
      · simp [parseBrush, brushValue, colorSpaceExtra, parseRadial, read, parseSpaceExtra,
          colorSpaceValue, parseColorSpace]
  | image asset transform extend => simp [parseBrush, brushValue]

/-! ## Roles, cursors and styles -/

theorem parseRole_written {role : HitRole} (legal : LegalRole role) :
    parseRole (roleValue role) = .ok role := by
  cases role with
  | resize edges =>
      obtain ⟨nonzero, few⟩ := legal
      have positive : edges.toNat ≠ 0 := fun zero => nonzero (UInt8.toNat_inj.mp zero)
      have below : edges.toNat ≤ 15 := UInt8.le_iff_toNat_le.mp few
      have base : (16 : UInt64).toNat = 16 := rfl
      have word : (16 + edges.toUInt64).toNat = 16 + edges.toNat := by
        rw [UInt64.toNat_add, UInt8.toNat_toUInt64, base]
        omega
      have other : ∀ code : UInt64, code.toNat ≤ 16 → 16 + edges.toUInt64 ≠ code := by
        intro code small same
        rw [← same, word] at small
        omega
      have above : (17 : UInt64) ≤ 16 + edges.toUInt64 := by
        rw [UInt64.le_iff_toNat_le, word]
        have least : (17 : UInt64).toNat = 17 := rfl
        omega
      have within : 16 + edges.toUInt64 ≤ (31 : UInt64) := by
        rw [UInt64.le_iff_toNat_le, word]
        have most : (31 : UInt64).toNat = 31 := rfl
        omega
      have back : (16 + edges.toUInt64 - 16).toUInt8 = edges := by
        rw [← UInt8.toNat_inj, UInt64.toNat_toUInt8, UInt64.toNat_sub_of_le _ _
          (UInt64.le_iff_toNat_le.mpr (by omega)), word, base]
        omega
      unfold parseRole roleValue
      rw [parseUint_written, ok_bind, if_neg (other 0 (by decide)), if_neg (other 1 (by decide)),
        if_neg (other 2 (by decide)), if_pos ⟨above, within⟩, back]
  | _ => rfl

@[simp] theorem parseCursor_written (shape : CursorShape) :
    parseCursor (.unsigned (cursorIndex shape)) = .ok shape := by
  cases shape <;> rfl

@[simp] theorem parseCap_written (cap : Cap) : parseCap (capValue cap) = .ok cap := by
  cases cap <;> rfl

@[simp] theorem parseJoin_written (join : Join) : parseJoin (joinValue join) = .ok join := by
  cases join <;> rfl

@[simp] theorem parseDashes_written (dashes : List Scalar) :
    parseDashes (if dashes = [] then .null else .array (dashes.map integer)) = .ok dashes := by
  by_cases none : dashes = []
  · rw [if_pos none, none]
    rfl
  · rw [if_neg none]
    exact collect_scalars dashes

/-! ## Commands -/

theorem parseStyle_written (style : StrokeStyle) :
    parseStyle (integer style.width) (capValue style.cap) (joinValue style.join)
      (integer style.miterLimit)
      (if style.dashes = [] then .null else .array (style.dashes.map integer))
      (integer style.dashOffset) = .ok style := by
  simp [parseStyle]

theorem parseShadow_written (shadow : Shadow) :
    parseShadow (rectValue shadow.rect) (.array (shadow.radii.radii.toList.map integer))
      (.unsigned shadow.color.rgba.toUInt64) (pointValue shadow.offset) (integer shadow.blur)
      (integer shadow.spread) (.bool shadow.inset) = .ok shadow := by
  simp [parseShadow]

theorem parseCommand_written {command : Command} (legal : command.Legal) :
    parseCommand (commandValue command) = .ok command := by
  -- The opcode and the number of elements select the arm of each writer.
  cases command with
  | fill path brush =>
      show (parsePath (pathValue path) >>= fun path => parseBrush (brushValue brush) >>=
        fun brush => .ok (Command.fill path brush)) = _
      rw [parsePath_written legal.1, ok_bind, parseBrush_written legal.2, ok_bind]
  | stroke path brush width =>
      show (parsePath (pathValue path) >>= fun path => parseBrush (brushValue brush) >>=
        fun brush => parseScalar (integer width) >>= fun width =>
        .ok (Command.stroke path brush width)) = _
      rw [parsePath_written legal.1, ok_bind, parseBrush_written legal.2, ok_bind,
        parseScalar_written, ok_bind]
  | save => rfl
  | restore => rfl
  | transform transform =>
      show (parseTransform (transformValue transform) >>=
        fun transform => .ok (Command.transform transform)) = _
      rw [parseTransform_written, ok_bind]
  | clip path =>
      show (parsePath (pathValue path) >>= fun path => .ok (Command.clip path)) = _
      rw [parsePath_written legal, ok_bind]
  | opacity opacity =>
      show (parseSmall (.unsigned opacity.toUInt64) >>=
        fun opacity => .ok (Command.opacity opacity)) = _
      rw [parseSmall_written, ok_bind]
  | text text => exact parseCommand_text text
  | textLayout layout origin =>
      show (parseUint (.unsigned layout) >>= fun layout => parsePoint (pointValue origin) >>=
        fun origin => .ok (Command.textLayout layout origin)) = _
      rw [parseUint_written, ok_bind, parsePoint_written, ok_bind]
  | image asset rect opacity =>
      show (parseUint (.unsigned asset) >>= fun asset => parseRect (rectValue rect) >>=
        fun rect => parseSmall (.unsigned opacity.toUInt64) >>= fun opacity =>
        .ok (Command.image asset rect opacity)) = _
      rw [parseUint_written, ok_bind, parseRect_written, ok_bind, parseSmall_written, ok_bind]
  | hit id path role cursor =>
      cases cursor with
      | none =>
          show (parseUint (.unsigned id) >>= fun id => parsePath (pathValue path) >>=
            fun path => parseRole (roleValue role) >>= fun role =>
            .ok (Command.hit id path role none)) = _
          rw [parseUint_written, ok_bind, parsePath_written legal.1, ok_bind,
            parseRole_written legal.2, ok_bind]
      | some shape =>
          show (parseUint (.unsigned id) >>= fun id => parsePath (pathValue path) >>=
            fun path => parseRole (roleValue role) >>= fun role =>
            parseCursor (.unsigned (cursorIndex shape)) >>= fun shape =>
            .ok (Command.hit id path role (some shape))) = _
          rw [parseUint_written, ok_bind, parsePath_written legal.1, ok_bind,
            parseRole_written legal.2, ok_bind, parseCursor_written, ok_bind]
  | shadow shadow =>
      show (parseShadow _ _ _ _ _ _ _ >>= fun shadow => .ok (Command.shadow shadow)) = _
      rw [parseShadow_written, ok_bind]
  | styledStroke path brush style =>
      show (parsePath (pathValue path) >>= fun path => parseBrush (brushValue brush) >>=
        fun brush => parseStyle _ _ _ _ _ _ >>= fun style =>
        .ok (Command.styledStroke path brush style)) = _
      rw [parsePath_written legal.1, ok_bind, parseBrush_written legal.2.1, ok_bind,
        parseStyle_written, ok_bind]

theorem collect_written {commands : List Command} (legal : ∀ command ∈ commands, command.Legal) :
    collect parseCommand (commands.map commandValue) = .ok commands :=
  collect_map fun command among => parseCommand_written (legal command among)

end VividProtocol.Drawing

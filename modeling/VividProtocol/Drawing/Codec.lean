import Mathlib.Tactic
import VividProtocol.Drawing.Commands
import VividProtocol.Overlay.Wire.Fields

/-!
# Display lists on the wire

The values of drawing commands and their parser, from `vector.rs`, and the
codec of a whole list.
-/

set_option autoImplicit false

namespace VividProtocol.Drawing

open VividProtocol.Cbor
open VividProtocol.Overlay
open VividProtocol.Overlay.Wire
open VividProtocol.Library.Result
open VividProtocol.Library.Codec

/-! ## Values -/

/-- `integer(value.raw())`. -/
def integer (value : Scalar) : Value := scalar value

def pointValue (point : Point) : Value := .array [integer point.x, integer point.y]

def rectValue (rect : Rect) : Value :=
  .array [pointValue rect.origin, integer rect.width, integer rect.height]

def segmentValue : Segment → Value
  | .move place => .array [.unsigned 0, pointValue place]
  | .line place => .array [.unsigned 1, pointValue place]
  | .quad control place => .array [.unsigned 2, pointValue control, pointValue place]
  | .cubic first second place =>
      .array [.unsigned 3, pointValue first, pointValue second, pointValue place]
  | .close => .array [.unsigned 4]

def pathValue (path : Path) : Value :=
  .array [.bool path.evenOdd, .array (path.segments.map segmentValue)]

def stopValue (stop : GradientStop) : Value :=
  .array [.unsigned stop.offset.toUInt64, .unsigned stop.color.rgba.toUInt64]

def stopsValue (stops : List GradientStop) : Value := .array (stops.map stopValue)

def colorSpaceValue : ColorSpace → Value
  | .srgb => .unsigned 0
  | .oklab => .unsigned 1

/-- The element that a color space adds, unless it is the default one. -/
def colorSpaceExtra (colorSpace : ColorSpace) : List Value :=
  if colorSpace = .srgb then [] else [colorSpaceValue colorSpace]

def transformValue (transform : Transform) : Value :=
  .array (transform.terms.toList.map integer)

def extendValue : Extend → Value
  | .pad => .unsigned 0
  | .repeated => .unsigned 1
  | .reflect => .unsigned 2

def brushValue : Brush → Value
  | .solid color => .array [.unsigned 0, .unsigned color.rgba.toUInt64]
  | .linear start finish stops colorSpace =>
      .array
        ([.unsigned 1, pointValue start, pointValue finish, stopsValue stops] ++
          colorSpaceExtra colorSpace)
  | .radial center radius stops colorSpace =>
      .array
        ([.unsigned 2, pointValue center, integer radius, stopsValue stops] ++
          colorSpaceExtra colorSpace)
  | .image asset transform extend =>
      .array [.unsigned 3, .unsigned asset, orNull transformValue transform, extendValue extend]

def roleValue : HitRole → Value
  | .input => .unsigned 0
  | .drag => .unsigned 1
  | .transparent => .unsigned 2
  | .resize edges => .unsigned (16 + edges.toUInt64)

/-- `CursorShape::index`, the declaration order. -/
def cursorIndex (shape : CursorShape) : UInt64 := UInt64.ofNat shape.ctorIdx

def capValue : Cap → Value
  | .butt => .unsigned 0
  | .round => .unsigned 1
  | .square => .unsigned 2

def joinValue : Join → Value
  | .miter => .unsigned 0
  | .bevel => .unsigned 1
  | .round => .unsigned 2

def commandValue : Command → Value
  | .textLayout layout origin => .array [.unsigned 10, .unsigned layout, pointValue origin]
  | .fill path brush => .array [.unsigned 0, pathValue path, brushValue brush]
  | .stroke path brush width =>
      .array [.unsigned 1, pathValue path, brushValue brush, integer width]
  | .save => .array [.unsigned 2]
  | .restore => .array [.unsigned 3]
  | .transform transform => .array [.unsigned 4, transformValue transform]
  | .clip path => .array [.unsigned 5, pathValue path]
  | .opacity opacity => .array [.unsigned 6, .unsigned opacity.toUInt64]
  | .text text =>
      .array
        [.unsigned 7, .text text.text, pointValue text.origin, integer text.size,
          .text text.family, .unsigned text.weight.toUInt64, .bool text.italic,
          .unsigned text.color.rgba.toUInt64, orNull integer text.maxWidth]
  | .image asset rect opacity =>
      .array [.unsigned 8, .unsigned asset, rectValue rect, .unsigned opacity.toUInt64]
  | .hit id path role cursor =>
      .array
        ([.unsigned 9, .unsigned id, pathValue path, roleValue role] ++
          (cursor.map fun shape => .unsigned (cursorIndex shape)).toList)
  | .shadow shadow =>
      .array
        [.unsigned 11, rectValue shadow.rect, .array (shadow.radii.radii.toList.map integer),
          .unsigned shadow.color.rgba.toUInt64, pointValue shadow.offset, integer shadow.blur,
          integer shadow.spread, .bool shadow.inset]
  | .styledStroke path brush style =>
      .array
        [.unsigned 12, pathValue path, brushValue brush, integer style.width, capValue style.cap,
          joinValue style.join, integer style.miterLimit,
          if style.dashes = [] then .null else .array (style.dashes.map integer),
          integer style.dashOffset]

/-! ## Parsing parts -/

def parseArray : Value → Except InvalidScene (List Value)
  | .array values => .ok values
  | _ => .error ⟨"expected array"⟩

def parseUint (value : Value) : Except InvalidScene UInt64 :=
  match value.asU64 with
  | some value => .ok value
  | none => .error ⟨"expected unsigned integer"⟩

def parseScalar (value : Value) : Except InvalidScene Scalar :=
  match value.asI64 with
  | some raw => fromRaw raw
  | none => .error ⟨"expected fixed coordinate"⟩

def parseBoolean : Value → Except InvalidScene Bool
  | .bool value => .ok value
  | _ => .error ⟨"expected boolean"⟩

def parseText : Value → Except InvalidScene String
  | .text text => .ok text
  | _ => .error ⟨"expected text"⟩

/-- `small`. -/
def parseSmall (value : Value) : Except InvalidScene UInt16 := do
  let value ← parseUint value
  if value.toNat < 2 ^ 16 then .ok value.toUInt16 else .error ⟨"integer exceeds u16"⟩

def parseColor (value : Value) : Except InvalidScene Color := do
  let value ← parseUint value
  if value.toNat < 2 ^ 32 then .ok ⟨value.toUInt32⟩ else .error ⟨"color exceeds RGBA8"⟩

def parsePoint (value : Value) : Except InvalidScene Point := do
  match ← parseArray value with
  | [x, y] => do
      let x ← parseScalar x
      let y ← parseScalar y
      .ok { x := x, y := y }
  | _ => .error ⟨"invalid point"⟩

def parseRect (value : Value) : Except InvalidScene Rect := do
  match ← parseArray value with
  | [origin, width, height] => do
      let origin ← parsePoint origin
      let width ← parseScalar width
      let height ← parseScalar height
      .ok { origin := origin, width := width, height := height }
  | _ => .error ⟨"invalid rectangle"⟩

def parseSegment (value : Value) : Except InvalidScene Segment := do
  match ← parseArray value with
  | [.unsigned 0, place] => do
      let place ← parsePoint place
      .ok (.move place)
  | [.unsigned 1, place] => do
      let place ← parsePoint place
      .ok (.line place)
  | [.unsigned 2, control, place] => do
      let control ← parsePoint control
      let place ← parsePoint place
      .ok (.quad control place)
  | [.unsigned 3, first, second, place] => do
      let first ← parsePoint first
      let second ← parsePoint second
      let place ← parsePoint place
      .ok (.cubic first second place)
  | [.unsigned 4] => .ok .close
  | _ => .error ⟨"unknown or malformed path segment"⟩

def parsePath (value : Value) : Except InvalidScene Path := do
  match ← parseArray value with
  | [rule, list] => do
      let list ← parseArray list
      if MAX_PATH_SEGMENTS < list.length then .error ⟨"path segment limit exceeded"⟩
      else do
        let segments ← collect parseSegment list
        let evenOdd ← parseBoolean rule
        .ok { segments := segments, evenOdd := evenOdd }
  | _ => .error ⟨"invalid path"⟩

def parseRole (value : Value) : Except InvalidScene HitRole := do
  let role ← parseUint value
  if role = 0 then .ok .input
  else if role = 1 then .ok .drag
  else if role = 2 then .ok .transparent
  else if 17 ≤ role ∧ role ≤ 31 then .ok (.resize (role - 16).toUInt8)
  else .error ⟨"invalid hit role"⟩

def parseStop (value : Value) : Except InvalidScene GradientStop := do
  match ← parseArray value with
  | [offset, color] => do
      let offset ← parseSmall offset
      let color ← parseColor color
      .ok { offset := offset, color := color }
  | _ => .error ⟨"invalid gradient stop"⟩

def parseStops (value : Value) : Except InvalidScene (List GradientStop) := do
  let stops ← parseArray value
  if MAX_GRADIENT_STOPS < stops.length then .error ⟨"gradient stop limit exceeded"⟩
  else collect parseStop stops

/-- `space`. -/
def parseColorSpace (value : Value) : Except InvalidScene ColorSpace := do
  match ← parseUint value with
  | 0 => .ok .srgb
  | 1 => .ok .oklab
  | _ => .error ⟨"unknown gradient color space"⟩

/-- The color space where it is sent. -/
def parseSpaceExtra : List Value → Except InvalidScene ColorSpace
  | colorSpace :: _ => parseColorSpace colorSpace
  | [] => .ok .srgb

/-- `values.try_into()` to an array. -/
def exactly {α : Type} (size : Nat) (message : String) (values : List α) :
    Except InvalidScene (Vector α size) :=
  if sized : values.length = size then .ok ⟨values.toArray, by simpa using sized⟩
  else .error ⟨message⟩

def parseExtend (value : Value) : Except InvalidScene Extend := do
  match ← parseUint value with
  | 0 => .ok .pad
  | 1 => .ok .repeated
  | 2 => .ok .reflect
  | _ => .error ⟨"unknown image extend mode"⟩

def parseBrushTransform : Value → Except InvalidScene (Option Transform)
  | .null => .ok none
  | value => do
      let values ← collect parseScalar (← parseArray value)
      let terms ← exactly 6 "image brush transform requires six terms" values
      .ok (some { terms := terms })

/-- Both gradients, with or without a color space. -/
def parseLinear (start finish stops : Value) (extra : List Value) : Except InvalidScene Brush := do
  let start ← parsePoint start
  let finish ← parsePoint finish
  let stops ← parseStops stops
  let colorSpace ← parseSpaceExtra extra
  .ok (.linear start finish stops colorSpace)

def parseRadial (center radius stops : Value) (extra : List Value) :
    Except InvalidScene Brush := do
  let center ← parsePoint center
  let radius ← parseScalar radius
  let stops ← parseStops stops
  let colorSpace ← parseSpaceExtra extra
  .ok (.radial center radius stops colorSpace)

def parseBrush (value : Value) : Except InvalidScene Brush := do
  match ← parseArray value with
  | [.unsigned 0, color] => do
      let color ← parseColor color
      .ok (.solid color)
  | [.unsigned 1, start, finish, stops] => parseLinear start finish stops []
  | [.unsigned 1, start, finish, stops, colorSpace] =>
      parseLinear start finish stops [colorSpace]
  | [.unsigned 2, center, radius, stops] => parseRadial center radius stops []
  | [.unsigned 2, center, radius, stops, colorSpace] =>
      parseRadial center radius stops [colorSpace]
  | [.unsigned 3, asset, transform, extend] => do
      let asset ← parseUint asset
      let transform ← parseBrushTransform transform
      let extend ← parseExtend extend
      .ok (.image asset transform extend)
  | _ => .error ⟨"unknown or malformed brush"⟩

/-! ## Parsing commands -/

/-- `CursorShape::from_index`. -/
def cursorFromIndex (index : UInt64) : Option CursorShape :=
  [CursorShape.default, .pointer, .text, .move, .crosshair, .notAllowed, .grab, .grabbing, .wait,
    .progress, .resizeLeft, .resizeRight, .resizeUp, .resizeDown, .resizeUpLeft, .resizeUpRight,
    .resizeDownLeft, .resizeDownRight, .resizeLeftRight, .resizeUpDown][index.toNat]?

def parseCursor (value : Value) : Except InvalidScene CursorShape := do
  match cursorFromIndex (← parseUint value) with
  | some shape => .ok shape
  | none => .error ⟨"unknown cursor shape"⟩

def parseTransform (value : Value) : Except InvalidScene Transform := do
  let values ← parseArray value
  if values.length ≠ 6 then .error ⟨"invalid transform"⟩
  else do
    let terms ← collect parseScalar values
    let terms ← exactly 6 "invalid transform" terms
    .ok { terms := terms }

def parseMaxWidth : Value → Except InvalidScene (Option Scalar)
  | .null => .ok none
  | value => do
      let width ← parseScalar value
      .ok (some width)

def parseTextCommand (text origin size family weight italic color maxWidth : Value) :
    Except InvalidScene Text := do
  let text ← parseText text
  let origin ← parsePoint origin
  let size ← parseScalar size
  let family ← parseText family
  let weight ← parseSmall weight
  let italic ← parseBoolean italic
  let color ← parseColor color
  let maxWidth ← parseMaxWidth maxWidth
  .ok
    { text := text
      origin := origin
      size := size
      family := family
      weight := weight
      italic := italic
      color := color
      maxWidth := maxWidth }

def parseCorners (value : Value) : Except InvalidScene Corners := do
  let values ← collect parseScalar (← parseArray value)
  let radii ← exactly 4 "shadow radii require four terms" values
  .ok { radii := radii }

def parseShadow (rect radii color offset blur spread inset : Value) :
    Except InvalidScene Shadow := do
  let rect ← parseRect rect
  let radii ← parseCorners radii
  let color ← parseColor color
  let offset ← parsePoint offset
  let blur ← parseScalar blur
  let spread ← parseScalar spread
  let inset ← parseBoolean inset
  .ok
    { rect := rect
      radii := radii
      color := color
      offset := offset
      blur := blur
      spread := spread
      inset := inset }

def parseCap (value : Value) : Except InvalidScene Cap := do
  match ← parseUint value with
  | 0 => .ok .butt
  | 1 => .ok .round
  | 2 => .ok .square
  | _ => .error ⟨"unknown stroke cap"⟩

def parseJoin (value : Value) : Except InvalidScene Join := do
  match ← parseUint value with
  | 0 => .ok .miter
  | 1 => .ok .bevel
  | 2 => .ok .round
  | _ => .error ⟨"unknown stroke join"⟩

def parseDashes : Value → Except InvalidScene (List Scalar)
  | .null => .ok []
  | value => do collect parseScalar (← parseArray value)

def parseStyle (width cap join miter dashes dashOffset : Value) :
    Except InvalidScene StrokeStyle := do
  let width ← parseScalar width
  let cap ← parseCap cap
  let join ← parseJoin join
  let miterLimit ← parseScalar miter
  let dashes ← parseDashes dashes
  let dashOffset ← parseScalar dashOffset
  .ok
    { width := width
      cap := cap
      join := join
      miterLimit := miterLimit
      dashes := dashes
      dashOffset := dashOffset }

def parseCommand (value : Value) : Except InvalidScene Command := do
  match ← parseArray value with
  | [.unsigned 0, path, brush] => do
      let path ← parsePath path
      let brush ← parseBrush brush
      .ok (.fill path brush)
  | [.unsigned 1, path, brush, width] => do
      let path ← parsePath path
      let brush ← parseBrush brush
      let width ← parseScalar width
      .ok (.stroke path brush width)
  | [.unsigned 2] => .ok .save
  | [.unsigned 3] => .ok .restore
  | [.unsigned 4, transform] => do
      let transform ← parseTransform transform
      .ok (.transform transform)
  | [.unsigned 5, path] => do
      let path ← parsePath path
      .ok (.clip path)
  | [.unsigned 6, opacity] => do
      let opacity ← parseSmall opacity
      .ok (.opacity opacity)
  | [.unsigned 7, text, origin, size, family, weight, italic, color, maxWidth] => do
      let text ← parseTextCommand text origin size family weight italic color maxWidth
      .ok (.text text)
  | [.unsigned 10, layout, origin] => do
      let layout ← parseUint layout
      let origin ← parsePoint origin
      .ok (.textLayout layout origin)
  | [.unsigned 8, asset, rect, opacity] => do
      let asset ← parseUint asset
      let rect ← parseRect rect
      let opacity ← parseSmall opacity
      .ok (.image asset rect opacity)
  | [.unsigned 9, id, path, role] => do
      let id ← parseUint id
      let path ← parsePath path
      let role ← parseRole role
      .ok (.hit id path role none)
  | [.unsigned 9, id, path, role, cursor] => do
      let id ← parseUint id
      let path ← parsePath path
      let role ← parseRole role
      let cursor ← parseCursor cursor
      .ok (.hit id path role (some cursor))
  | [.unsigned 11, rect, radii, color, offset, blur, spread, inset] => do
      let shadow ← parseShadow rect radii color offset blur spread inset
      .ok (.shadow shadow)
  | [.unsigned 12, path, brush, width, cap, join, miter, dashes, dashOffset] => do
      let path ← parsePath path
      let brush ← parseBrush brush
      let style ← parseStyle width cap join miter dashes dashOffset
      .ok (.styledStroke path brush style)
  | _ => .error ⟨"unknown or malformed drawing command"⟩

/-! ## Reading back -/

@[simp] theorem parseArray_written (values : List Value) :
    parseArray (.array values) = .ok values := rfl

@[simp] theorem parseUint_written (value : UInt64) : parseUint (.unsigned value) = .ok value := rfl

@[simp] theorem parseBoolean_written (value : Bool) : parseBoolean (.bool value) = .ok value := rfl

@[simp] theorem parseText_written (text : String) : parseText (.text text) = .ok text := rfl

@[simp] theorem parseScalar_written (value : Scalar) : parseScalar (integer value) = .ok value := by
  unfold parseScalar integer
  rw [asI64_scalar]
  exact fromRaw_raw value

@[simp] theorem parseSmall_written (value : UInt16) :
    parseSmall (.unsigned value.toUInt64) = .ok value := by
  have bound := value.toNat_lt
  simp [parseSmall, bound]

@[simp] theorem parseColor_written (color : Color) :
    parseColor (.unsigned color.rgba.toUInt64) = .ok color := by
  have bound := color.rgba.toNat_lt
  simp [parseColor, bound]

@[simp] theorem parsePoint_written (point : Point) : parsePoint (pointValue point) = .ok point := by
  simp [parsePoint, pointValue]

@[simp] theorem parseMaxWidth_written (width : Option Scalar) :
    parseMaxWidth (orNull integer width) = .ok width := by
  cases width with
  | none => rfl
  | some width =>
      have held := parseScalar_written width
      have proper : integer width ≠ .null := scalar_present width
      show parseMaxWidth (integer width) = .ok (some width)
      cases written : integer width with
      | null => exact absurd written proper
      | _ =>
          rw [written] at held
          simp only [parseMaxWidth, held, ok_bind]

theorem parseTextCommand_written (text : Text) :
    parseTextCommand (.text text.text) (pointValue text.origin) (integer text.size)
      (.text text.family) (.unsigned text.weight.toUInt64) (.bool text.italic)
      (.unsigned text.color.rgba.toUInt64) (orNull integer text.maxWidth) = .ok text := by
  simp [parseTextCommand]

/-- A text is parsed from its own command. -/
theorem parseCommand_text (text : Text) :
    parseCommand (commandValue (.text text)) = .ok (.text text) := by
  show (parseTextCommand _ _ _ _ _ _ _ _ >>= fun text => .ok (Command.text text)) = _
  rw [parseTextCommand_written, ok_bind]

/-! ## Lists -/

namespace Canvas

variable (validRect : Rect → Except InvalidScene Unit)

def encode (canvas : Canvas) : Except InvalidScene (List UInt8) := do
  canvas.validate validRect
  match Cbor.encode (.array (canvas.commands.map commandValue)) with
  | .error _ => .error ⟨"cannot encode scene"⟩
  | .ok bytes =>
      if MAX_SCENE_BYTES < bytes.length then .error ⟨"scene byte limit exceeded"⟩
      else .ok bytes

/-- `from_value`. -/
def ofValue (value : Value) : Except InvalidScene Canvas := do
  let values ← parseArray value
  if MAX_COMMANDS < values.length then .error ⟨"command limit exceeded"⟩
  else do
    let commands ← collect parseCommand values
    let canvas : Canvas := { commands := commands }
    canvas.validate validRect
    .ok canvas

def decode (bytes : List UInt8) : Except InvalidScene Canvas :=
  if MAX_SCENE_BYTES < bytes.length then .error ⟨"scene byte limit exceeded"⟩
  else
    match Cbor.decode bytes with
    | .error _ => .error ⟨"invalid scene encoding"⟩
    | .ok value => ofValue validRect value

end Canvas

end VividProtocol.Drawing

import Mathlib.Tactic
import VividProtocol.Overlay.Geometry
import VividProtocol.Library.Result

/-!
# Display lists

The drawing commands of `vector.rs` and the checks of a whole list.  Scalars
are exact in `f64`, so comparisons with `MAX_PAINT_EXTENT` are comparisons of
their units.  The check of a rectangle is a parameter.
-/

set_option autoImplicit false

namespace VividProtocol.Drawing

open VividProtocol.Overlay

def MAX_SCENE_BYTES : Nat := 2 * 1024 * 1024
def MAX_COMMANDS : Nat := 4096
def MAX_PATH_SEGMENTS : Nat := 4096
def MAX_TOTAL_SEGMENTS : Nat := 65536
def MAX_STACK_DEPTH : Nat := 32
def MAX_TEXT_BYTES : Nat := 64 * 1024
def MAX_GRADIENT_STOPS : Nat := 64
def MAX_DASH_ENTRIES : Nat := 32

/-- 4096 logical pixels, in units of a scalar. -/
def MAX_PAINT_EXTENT : Int := 4096 * 4294967296

/-! ## Commands -/

structure Color where
  rgba : UInt32
  deriving Repr, DecidableEq

structure Transform where
  terms : Vector Scalar 6
  deriving Repr, DecidableEq

inductive Segment where
  | move (place : Point)
  | line (place : Point)
  | quad (control place : Point)
  | cubic (first second place : Point)
  | close
  deriving Repr, DecidableEq

structure Path where
  segments : List Segment
  evenOdd : Bool
  deriving Repr, DecidableEq

structure Corners where
  radii : Vector Scalar 4
  deriving Repr, DecidableEq

inductive ColorSpace where
  | srgb
  | oklab
  deriving Repr, DecidableEq

inductive Extend where
  | pad
  | repeated
  | reflect
  deriving Repr, DecidableEq

structure GradientStop where
  offset : UInt16
  color : Color
  deriving Repr, DecidableEq

inductive Brush where
  | solid (color : Color)
  | linear (start finish : Point) (stops : List GradientStop) (colorSpace : ColorSpace)
  | radial (center : Point) (radius : Scalar) (stops : List GradientStop)
      (colorSpace : ColorSpace)
  | image (asset : UInt64) (transform : Option Transform) (extend : Extend)
  deriving Repr, DecidableEq

structure Text where
  text : String
  origin : Point
  size : Scalar
  family : String
  weight : UInt16
  italic : Bool
  color : Color
  maxWidth : Option Scalar
  deriving Repr, DecidableEq

structure Shadow where
  rect : Rect
  radii : Corners
  color : Color
  offset : Point
  blur : Scalar
  spread : Scalar
  inset : Bool
  deriving Repr, DecidableEq

inductive Cap where
  | butt
  | round
  | square
  deriving Repr, DecidableEq

inductive Join where
  | miter
  | bevel
  | round
  deriving Repr, DecidableEq

structure StrokeStyle where
  width : Scalar
  cap : Cap
  join : Join
  miterLimit : Scalar
  dashes : List Scalar
  dashOffset : Scalar
  deriving Repr, DecidableEq

inductive Command where
  | fill (path : Path) (brush : Brush)
  | stroke (path : Path) (brush : Brush) (width : Scalar)
  | save
  | restore
  | transform (transform : Transform)
  | clip (path : Path)
  | opacity (opacity : UInt16)
  | text (text : Text)
  | textLayout (layout : UInt64) (origin : Point)
  | image (asset : UInt64) (rect : Rect) (opacity : UInt16)
  | hit (id : UInt64) (path : Path) (role : HitRole) (cursor : Option CursorShape)
  | shadow (shadow : Shadow)
  | styledStroke (path : Path) (brush : Brush) (style : StrokeStyle)
  deriving Repr, DecidableEq

structure Canvas where
  commands : List Command
  deriving Repr, DecidableEq

/-! ## Checks of the parts -/

/-- The segments continue a path that is open or not. -/
def validateSegments : Bool → List Segment → Except InvalidScene Unit
  | _, [] => .ok ()
  | _, .move _ :: rest => validateSegments true rest
  | true, .close :: rest => validateSegments false rest
  | false, .close :: _ => .error ⟨"close without a subpath"⟩
  | false, _ :: _ => .error ⟨"path must begin with move"⟩
  | true, _ :: rest => validateSegments true rest

def Path.validate (path : Path) : Except InvalidScene Unit :=
  if path.segments = [] ∨ MAX_PATH_SEGMENTS < path.segments.length then
    .error ⟨"path segment limit exceeded"⟩
  else validateSegments false path.segments

def Corners.validate (corners : Corners) : Except InvalidScene Unit :=
  if corners.radii.any fun radius =>
      decide (radius < Scalar.ZERO) || decide (MAX_PAINT_EXTENT < radius.raw) then
    .error ⟨"corner radius is negative or out of range"⟩
  else .ok ()

def validateStops (stops : List GradientStop) : Except InvalidScene Unit :=
  if ¬ (2 ≤ stops.length ∧ stops.length ≤ MAX_GRADIENT_STOPS) ∨
      (stops.zip stops.tail).any fun pair => decide (pair.2.offset < pair.1.offset) then
    .error ⟨"gradient stops must be bounded and sorted"⟩
  else .ok ()

def Brush.validate : Brush → Except InvalidScene Unit
  | .solid _ => .ok ()
  | .image asset _ _ =>
      if asset = 0 then .error ⟨"image brush asset ID must be nonzero"⟩ else .ok ()
  | .linear start finish stops _ =>
      if start = finish then .error ⟨"gradient endpoints coincide"⟩ else validateStops stops
  | .radial _ radius stops _ =>
      if radius ≤ Scalar.ZERO then .error ⟨"radial radius must be positive"⟩
      else validateStops stops

def Shadow.validate (validRect : Rect → Except InvalidScene Unit) (shadow : Shadow) :
    Except InvalidScene Unit := do
  validRect shadow.rect
  shadow.radii.validate
  if shadow.blur < Scalar.ZERO ∨ MAX_PAINT_EXTENT < shadow.blur.raw then
    .error ⟨"shadow blur is negative or out of range"⟩
  else if MAX_PAINT_EXTENT < shadow.spread.raw.natAbs then
    .error ⟨"shadow spread is out of range"⟩
  else .ok ()

def StrokeStyle.validate (style : StrokeStyle) : Except InvalidScene Unit :=
  if style.width ≤ Scalar.ZERO then .error ⟨"stroke width must be positive"⟩
  else if style.miterLimit < Scalar.ONE ∨ MAX_PAINT_EXTENT < style.miterLimit.raw then
    .error ⟨"miter limit must be at least one"⟩
  else if MAX_DASH_ENTRIES < style.dashes.length ∨
      (style.dashes.any fun dash =>
        decide (dash ≤ Scalar.ZERO) || decide (MAX_PAINT_EXTENT < dash.raw)) ∨
      style.dashOffset < Scalar.ZERO ∨
      MAX_PAINT_EXTENT * MAX_DASH_ENTRIES < style.dashOffset.raw then
    .error ⟨"dash pattern is invalid or out of range"⟩
  else .ok ()

/-! ## Checks of the list -/

/-- What the loop of `validate` keeps. -/
structure Pass where
  depth : Nat
  clips : Nat
  clipStack : List Nat
  segments : Nat
  textBytes : Nat
  hits : List UInt64
  deriving Repr, DecidableEq

def Pass.start : Pass :=
  { depth := 0, clips := 0, clipStack := [], segments := 0, textBytes := 0, hits := [] }

/-- `usize::checked_add`. -/
def checkedSize (left right : Nat) (message : String) : Except InvalidScene Nat :=
  if left + right < 2 ^ 64 then .ok (left + right) else .error ⟨message⟩

def validateText (pass : Pass) (text : Text) : Except InvalidScene Pass := do
  let textBytes ← checkedSize pass.textBytes text.text.utf8ByteSize "text size overflow"
  if MAX_TEXT_BYTES < textBytes ∨ 256 < text.family.utf8ByteSize ∨ text.size ≤ Scalar.ZERO ∨
      ¬ (1 ≤ text.weight ∧ text.weight ≤ 1000) ∨
      text.maxWidth.any fun width => decide (width ≤ Scalar.ZERO) then
    .error ⟨"invalid or oversized text"⟩
  else .ok { pass with textBytes := textBytes }

/-- The `match` of the loop: the command's own checks and the path it draws. -/
def visit (validRect : Rect → Except InvalidScene Unit) (pass : Pass) :
    Command → Except InvalidScene (Pass × Option Path)
  | .fill path brush => do
      brush.validate
      .ok (pass, some path)
  | .stroke path brush width => do
      brush.validate
      if width ≤ Scalar.ZERO then .error ⟨"stroke width must be positive"⟩
      else .ok (pass, some path)
  | .clip path =>
      if MAX_STACK_DEPTH < pass.clips + 1 then .error ⟨"clip nesting limit exceeded"⟩
      else .ok ({ pass with clips := pass.clips + 1 }, some path)
  | .hit id path role _ =>
      if id = 0 ∨ id ∈ pass.hits then
        .error ⟨"hit region IDs must be nonzero and unique"⟩
      else
        let entered := { pass with hits := id :: pass.hits }
        match role with
        | .resize edges =>
            if edges = 0 ∨ 15 < edges then .error ⟨"invalid resize edges"⟩
            else .ok (entered, some path)
        | _ => .ok (entered, some path)
  | .save =>
      if MAX_STACK_DEPTH < pass.depth + 1 then .error ⟨"save stack limit exceeded"⟩
      else
        .ok
          ({ pass with depth := pass.depth + 1, clipStack := pass.clips :: pass.clipStack }, none)
  | .restore =>
      if pass.depth = 0 then .error ⟨"unbalanced restore"⟩
      else
        match pass.clipStack with
        | [] => .error ⟨"unbalanced clip restore"⟩
        | clips :: clipStack =>
            .ok ({ pass with depth := pass.depth - 1, clips := clips, clipStack := clipStack },
              none)
  | .text text => do
      let pass ← validateText pass text
      .ok (pass, none)
  | .textLayout layout _ =>
      if layout = 0 then .error ⟨"text layout ID must be nonzero"⟩ else .ok (pass, none)
  | .image asset rect _ =>
      if asset = 0 then .error ⟨"image asset ID must be nonzero"⟩
      else do
        validRect rect
        .ok (pass, none)
  | .shadow shadow => do
      shadow.validate validRect
      .ok (pass, none)
  | .styledStroke path brush style => do
      brush.validate
      style.validate
      .ok (pass, some path)
  | .transform _ => .ok (pass, none)
  | .opacity _ => .ok (pass, none)

/-- The path of a command is checked and counted. -/
def countPath (pass : Pass) : Option Path → Except InvalidScene Pass
  | none => .ok pass
  | some path => do
      path.validate
      let segments ← checkedSize pass.segments path.segments.length "segment count overflow"
      .ok { pass with segments := segments }

def validateCommands (validRect : Rect → Except InvalidScene Unit) :
    Pass → List Command → Except InvalidScene Pass
  | pass, [] => .ok pass
  | pass, command :: rest => do
      let (pass, path) ← visit validRect pass command
      let pass ← countPath pass path
      if MAX_TOTAL_SEGMENTS < pass.segments then .error ⟨"scene path budget exceeded"⟩
      else validateCommands validRect pass rest

namespace Canvas

def new : Canvas := { commands := [] }

def push (canvas : Canvas) (command : Command) : Except InvalidScene Canvas :=
  if MAX_COMMANDS ≤ canvas.commands.length then .error ⟨"command limit exceeded"⟩
  else .ok { commands := canvas.commands ++ [command] }

def validate (validRect : Rect → Except InvalidScene Unit) (canvas : Canvas) :
    Except InvalidScene Unit :=
  if MAX_COMMANDS < canvas.commands.length then .error ⟨"command limit exceeded"⟩
  else do
    let pass ← validateCommands validRect .start canvas.commands
    if pass.depth ≠ 0 then .error ⟨"unbalanced save stack"⟩ else .ok ()

end Canvas

end VividProtocol.Drawing

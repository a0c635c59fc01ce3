import Mathlib.Tactic
import VividProtocol.Control.Maps
import VividProtocol.Input.Payload
import VividProtocol.Library.SignedWords

/-!
# Rectangles in fixed point

The shared rectangles of `geometry.rs` with their maps, the projection of a
node's geometry to a target's extent, and the intersection with a clip.
-/

set_option autoImplicit false

namespace VividProtocol.Geometry

open VividProtocol.Input (signed)
open VividProtocol.Library.Result
open VividProtocol.Library.SignedWords

/-- One unit of a signed 32.32 coordinate. -/
def FIXED_ONE : Int64 := 4294967296

inductive CoordinateSpace where
  | targetLogical
  | normalizedTarget
  deriving Repr, DecidableEq

namespace CoordinateSpace

def toWord : CoordinateSpace → UInt64
  | .targetLogical => 1
  | .normalizedTarget => 2

def tryFrom (value : UInt64) : Except MessageError CoordinateSpace :=
  if value = 1 then .ok .targetLogical
  else if value = 2 then .ok .normalizedTarget
  else .error (invalidValue "node geometry" 0 "has an unknown coordinate space")

end CoordinateSpace

/-- `ok_or_else` with an invalid value. -/
def orInvalid {α : Type} (schema : String) (key : UInt64) (reason : String) :
    Option α → Except MessageError α
  | some value => .ok value
  | none => .error (invalidValue schema key reason)

def requiredI64 (map : StrictMap) (key : UInt64) (schema : String) : Except MessageError Int64 := do
  let value ← map.required key
  orInvalid schema key "must be an integer" value.asI64

structure FixedRect where
  x : Int64
  y : Int64
  width : Int64
  height : Int64
  deriving Repr, DecidableEq

namespace FixedRect

def unit : FixedRect := ⟨0, 0, FIXED_ONE, FIXED_ONE⟩

/-- The extents are positive and the far edges are words, at the keys of the schema. -/
def checkedEdges (rect : FixedRect) (schema : String) (x y width height : UInt64) :
    Except MessageError Unit :=
  if rect.width ≤ 0 then .error (invalidValue schema width "width must be positive")
  else if rect.height ≤ 0 then .error (invalidValue schema height "height must be positive")
  else do
    let _ ← orInvalid schema x "origin plus width overflows" (signedAdd rect.x rect.width)
    let _ ← orInvalid schema y "origin plus height overflows" (signedAdd rect.y rect.height)
    .ok ()

def validate (rect : FixedRect) (schema : String) : Except MessageError Unit :=
  rect.checkedEdges schema 1 2 3 4

end FixedRect

/-! ## Clips -/

def decodeClip (map : PayloadMap) : Except MessageError FixedRect := do
  let strict ← StrictMap.new "node clip" (.map map) [0, 1, 2, 3]
  let x ← requiredI64 strict 0 "node clip"
  let y ← requiredI64 strict 1 "node clip"
  let width ← requiredI64 strict 2 "node clip"
  let height ← requiredI64 strict 3 "node clip"
  let rect : FixedRect := ⟨x, y, width, height⟩
  rect.checkedEdges "node clip" 0 1 2 3
  .ok rect

def encodeClip (rect : FixedRect) : PayloadMap :=
  [(0, signed rect.x), (1, signed rect.y), (2, signed rect.width), (3, signed rect.height)]

/-! ## Nodes -/

structure NodeGeometry where
  space : CoordinateSpace
  rect : FixedRect
  deriving Repr, DecidableEq

structure TargetExtent where
  width : UInt32
  height : UInt32
  deriving Repr, DecidableEq

def scaleNormalized (value extent : Int64) : Except MessageError Int64 :=
  orInvalid "node geometry" 0 "normalized projection overflows" (signedMul value extent)

def positive (value : Int64) (key : UInt64) : Except MessageError Int64 :=
  if value ≤ 0 then .error (invalidValue "node geometry" key "projects to an empty extent")
  else .ok value

namespace NodeGeometry

def fullTarget : NodeGeometry := ⟨.normalizedTarget, FixedRect.unit⟩

def encode (geometry : NodeGeometry) : PayloadMap :=
  [(0, .unsigned geometry.space.toWord), (1, signed geometry.rect.x),
    (2, signed geometry.rect.y), (3, signed geometry.rect.width), (4, signed geometry.rect.height)]

/-- `saturating_add`. -/
def saturatingAdd (left right : Int64) : Int64 := Int64.ofIntClamp (left.toInt + right.toInt)

def decode (map : PayloadMap) : Except MessageError NodeGeometry := do
  let strict ← StrictMap.new "node geometry" (.map map) [0, 1, 2, 3, 4]
  let number ← strict.requiredU64 0
  let space ← CoordinateSpace.tryFrom number
  let x ← requiredI64 strict 1 "node geometry"
  let y ← requiredI64 strict 2 "node geometry"
  let width ← requiredI64 strict 3 "node geometry"
  let height ← requiredI64 strict 4 "node geometry"
  let rect : FixedRect := ⟨x, y, width, height⟩
  rect.validate "node geometry"
  if space = .normalizedTarget ∧
      (rect.x < 0 ∨ rect.y < 0 ∨ FIXED_ONE < saturatingAdd rect.x rect.width ∨
        FIXED_ONE < saturatingAdd rect.y rect.height) then
    .error (invalidValue "node geometry" 0 "normalized geometry leaves the unit square")
  else .ok ⟨space, rect⟩

/-- The rectangle in pixels of a target. -/
def project (geometry : NodeGeometry) (target : TargetExtent) : Except MessageError FixedRect :=
  match geometry.space with
  | .targetLogical => .ok geometry.rect
  | .normalizedTarget => do
      let x ← scaleNormalized geometry.rect.x (wordOfUInt32 target.width)
      let y ← scaleNormalized geometry.rect.y (wordOfUInt32 target.height)
      let scaledWidth ← scaleNormalized geometry.rect.width (wordOfUInt32 target.width)
      let width ← positive scaledWidth 3
      let scaledHeight ← scaleNormalized geometry.rect.height (wordOfUInt32 target.height)
      let height ← positive scaledHeight 4
      .ok ⟨x, y, width, height⟩

end NodeGeometry

/-! ## Exact rectangles -/

structure Box where
  x : Int
  y : Int
  width : Int
  height : Int
  deriving Repr, DecidableEq

def IsWord (value : Int) : Prop := -2 ^ 63 ≤ value ∧ value < 2 ^ 63

namespace Box

def InWords (box : Box) : Prop :=
  IsWord box.x ∧ IsWord box.y ∧ IsWord box.width ∧ IsWord box.height

/-- A point is in the box, without its right and bottom edges. -/
def Has (box : Box) (x y : Int) : Prop :=
  box.x ≤ x ∧ x < box.x + box.width ∧ box.y ≤ y ∧ y < box.y + box.height

end Box

namespace FixedRect

def exact (rect : FixedRect) : Box :=
  ⟨rect.x.toInt, rect.y.toInt, rect.width.toInt, rect.height.toInt⟩

/-- Neither sum of an origin and an extent overflows. -/
def EdgesFit (rect : FixedRect) : Prop :=
  IsWord (rect.x.toInt + rect.width.toInt) ∧ IsWord (rect.y.toInt + rect.height.toInt)

end FixedRect

theorem exact_eq_iff {rect : FixedRect} {box : Box} :
    rect.exact = box ↔ rect.x.toInt = box.x ∧ rect.y.toInt = box.y ∧
      rect.width.toInt = box.width ∧ rect.height.toInt = box.height := by
  rw [FixedRect.exact]
  obtain ⟨x, y, width, height⟩ := box
  rw [Box.mk.injEq]

theorem exact_inj {first second : FixedRect} : first.exact = second.exact ↔ first = second := by
  rw [exact_eq_iff]
  obtain ⟨x, y, width, height⟩ := first
  obtain ⟨otherX, otherY, otherWidth, otherHeight⟩ := second
  rw [FixedRect.mk.injEq, ← Int64.toInt_inj, ← Int64.toInt_inj, ← Int64.toInt_inj,
    ← Int64.toInt_inj]
  rfl

/-! ## Intersection -/

def intersect (first second : FixedRect) : Option FixedRect := do
  let left := max first.x second.x
  let top := max first.y second.y
  let firstRight ← signedAdd first.x first.width
  let secondRight ← signedAdd second.x second.width
  let right := min firstRight secondRight
  let firstBottom ← signedAdd first.y first.height
  let secondBottom ← signedAdd second.y second.height
  let bottom := min firstBottom secondBottom
  if right ≤ left ∨ bottom ≤ top then none
  else some ⟨left, top, right - left, bottom - top⟩

end VividProtocol.Geometry

import Mathlib.Tactic

/-!
# Logical geometry

Scalars, points and rectangles of `vector.rs`, as far as the window state uses
them.  A scalar is an integer of 2⁻³² units within the logical extent; every
such integer, and every sum or difference of two that is not rejected, is exact
in the `f64` that `Scalar::get` returns, so coordinates are integers here.
-/

set_option autoImplicit false

namespace VividProtocol.Overlay

structure InvalidScene where
  message : String
  deriving Repr, DecidableEq

/-- One million units. -/
def scalarLimit : Nat := 1000000 * 4294967296

structure Scalar where
  raw : Int
  bounded : raw.natAbs ≤ scalarLimit
  deriving Repr, DecidableEq

namespace Scalar

def ZERO : Scalar := ⟨0, by decide⟩

def ONE : Scalar := ⟨4294967296, by decide⟩

def new (value : Int) : Except InvalidScene Scalar :=
  if bounded : value.natAbs ≤ scalarLimit then .ok ⟨value, bounded⟩
  else .error ⟨"coordinate is non-finite or exceeds the logical extent limit"⟩

instance : LT Scalar := ⟨fun left right => left.raw < right.raw⟩
instance : LE Scalar := ⟨fun left right => left.raw ≤ right.raw⟩

instance (left right : Scalar) : Decidable (left < right) :=
  inferInstanceAs (Decidable (left.raw < right.raw))

instance (left right : Scalar) : Decidable (left ≤ right) :=
  inferInstanceAs (Decidable (left.raw ≤ right.raw))

theorem new_eq_ok {value : Int} {scalar : Scalar} :
    new value = .ok scalar ↔ scalar.raw = value := by
  unfold new
  by_cases bounded : value.natAbs ≤ scalarLimit
  · rw [dif_pos bounded, Except.ok.injEq]
    constructor
    · rintro rfl
      rfl
    · rintro rfl
      rfl
  · rw [dif_neg bounded]
    constructor
    · intro impossible
      cases impossible
    · rintro rfl
      exact absurd scalar.bounded bounded

end Scalar

structure Point where
  x : Scalar
  y : Scalar
  deriving Repr, DecidableEq

def Point.new (x y : Int) : Except InvalidScene Point := do
  let x ← Scalar.new x
  let y ← Scalar.new y
  .ok { x := x, y := y }

structure Rect where
  origin : Point
  width : Scalar
  height : Scalar
  deriving Repr, DecidableEq

namespace Rect

def validate (rect : Rect) : Except InvalidScene Unit :=
  if rect.width ≤ Scalar.ZERO ∨ rect.height ≤ Scalar.ZERO then
    .error ⟨"rectangle extent must be positive"⟩
  else do
    let _ ← Scalar.new (rect.origin.x.raw + rect.width.raw)
    let _ ← Scalar.new (rect.origin.y.raw + rect.height.raw)
    .ok ()

def new (x y width height : Int) : Except InvalidScene Rect := do
  let origin ← Point.new x y
  let width ← Scalar.new width
  let height ← Scalar.new height
  let rect : Rect := { origin := origin, width := width, height := height }
  rect.validate
  .ok rect

def contains (rect : Rect) (point : Point) : Bool :=
  let x := point.x.raw - rect.origin.x.raw
  let y := point.y.raw - rect.origin.y.raw
  decide (0 ≤ x) && decide (0 ≤ y) && decide (x < rect.width.raw) &&
    decide (y < rect.height.raw)

end Rect

/-! ## Hit testing -/

inductive HitRole where
  | input
  | drag
  | resize (edges : UInt8)
  | transparent
  deriving Repr, DecidableEq

/-- `HitRole::Drag | HitRole::Resize(_)`. -/
def HitRole.gestures : HitRole → Bool
  | .drag => true
  | .resize _ => true
  | .input => false
  | .transparent => false

inductive CursorShape where
  | default
  | pointer
  | text
  | move
  | crosshair
  | notAllowed
  | grab
  | grabbing
  | wait
  | progress
  | resizeLeft
  | resizeRight
  | resizeUp
  | resizeDown
  | resizeUpLeft
  | resizeUpRight
  | resizeDownLeft
  | resizeDownRight
  | resizeLeftRight
  | resizeUpDown
  deriving Repr, DecidableEq

structure HitRegion where
  id : UInt64
  role : HitRole
  cursor : Option CursorShape
  deriving Repr, DecidableEq

end VividProtocol.Overlay

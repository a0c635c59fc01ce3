import Mathlib.Tactic
import VividProtocol.Desktop.Target
import VividProtocol.Geometry.Edges

/-!
# The mapping of a surface to the system's pixels

`SurfaceMapping` of `geometry.rs`.  The rotation is a bijection of whole pixels,
the mapping is that bijection behind the captured origin, and its check of a
point is the check that the decoders of pointer events make.
-/

set_option autoImplicit false

namespace VividProtocol.Geometry

open VividProtocol.Desktop (Rotation narrow)
open VividProtocol.Input
open VividProtocol.Library.Result
open VividProtocol.Library.SignedWords

structure SurfaceMapping where
  logicalWidth : UInt32
  logicalHeight : UInt32
  capturedOriginX : Int32
  capturedOriginY : Int32
  rotation : Rotation
  deriving Repr, DecidableEq

/-- `checked_shl` of a `u64`. -/
def checkedShl (value : UInt64) (bits : UInt32) : Option UInt64 :=
  if bits < 64 then some (value <<< bits.toUInt64) else none

namespace SurfaceMapping

def validatePoint (mapping : SurfaceMapping) (x y : UInt64) : Except MessageError Unit := do
  let width ← orInvalid "surface mapping" 0 "width overflows fixed point"
    (checkedShl mapping.logicalWidth.toUInt64 32)
  let height ← orInvalid "surface mapping" 1 "height overflows fixed point"
    (checkedShl mapping.logicalHeight.toUInt64 32)
  if width ≤ x then .error (invalidValue "pointer event" 5 "x is outside the canonical surface")
  else if height ≤ y then
    .error (invalidValue "pointer event" 6 "y is outside the canonical surface")
  else .ok ()

/-- The point in whole pixels, in the orientation of the captured target. -/
def rotate (mapping : SurfaceMapping) (x y : UInt64) : Except MessageError (Int64 × Int64) := do
  let pointX ← orInvalid "surface mapping" 0 "x overflows" (wordOf (x >>> 32).toNat)
  let pointY ← orInvalid "surface mapping" 1 "y overflows" (wordOf (y >>> 32).toNat)
  let width := wordOfUInt32 mapping.logicalWidth
  let height := wordOfUInt32 mapping.logicalHeight
  .ok (match mapping.rotation with
    | .none => (pointX, pointY)
    | .ninety => (height - 1 - pointY, pointX)
    | .oneEighty => (width - 1 - pointX, height - 1 - pointY)
    | .twoSeventy => (pointY, width - 1 - pointX))

def toOsLogical (mapping : SurfaceMapping) (x y : UInt64) :
    Except MessageError (Int32 × Int32) := do
  mapping.validatePoint x y
  let (rotatedX, rotatedY) ← mapping.rotate x y
  let osX ← orInvalid "surface mapping" 2 "x leaves the OS coordinate space"
    ((signedAdd mapping.capturedOriginX.toInt64 rotatedX).bind narrow)
  let osY ← orInvalid "surface mapping" 3 "y leaves the OS coordinate space"
    ((signedAdd mapping.capturedOriginY.toInt64 rotatedY).bind narrow)
  .ok (osX, osY)

def rotatedExtent (mapping : SurfaceMapping) : UInt32 × UInt32 :=
  match mapping.rotation with
  | .none | .oneEighty => (mapping.logicalWidth, mapping.logicalHeight)
  | .ninety | .twoSeventy => (mapping.logicalHeight, mapping.logicalWidth)

end SurfaceMapping

/-! ## Rotations of whole pixels -/

/-- A pixel of a surface, turned clockwise. -/
def turned (width height : Int) : Rotation → Int × Int → Int × Int
  | .none, (x, y) => (x, y)
  | .ninety, (x, y) => (height - 1 - y, x)
  | .oneEighty, (x, y) => (width - 1 - x, height - 1 - y)
  | .twoSeventy, (x, y) => (y, width - 1 - x)

def turnedExtent (width height : Int) : Rotation → Int × Int
  | .none | .oneEighty => (width, height)
  | .ninety | .twoSeventy => (height, width)

/-- The rotation that takes another one back. -/
def opposite : Rotation → Rotation
  | .none => .none
  | .ninety => .twoSeventy
  | .oneEighty => .oneEighty
  | .twoSeventy => .ninety

def Inside (extent pixel : Int × Int) : Prop :=
  0 ≤ pixel.1 ∧ pixel.1 < extent.1 ∧ 0 ≤ pixel.2 ∧ pixel.2 < extent.2

section Pixels

variable (width height : Int) (rotation : Rotation) (pixel : Int × Int)

theorem turned_inside :
    Inside (turnedExtent width height rotation) (turned width height rotation pixel) ↔
      Inside (width, height) pixel := by
  obtain ⟨x, y⟩ := pixel
  cases rotation <;> simp only [Inside, turned, turnedExtent] <;> omega

/-- Turning back on the turned surface. -/
theorem turned_opposite :
    turned (turnedExtent width height rotation).1 (turnedExtent width height rotation).2
      (opposite rotation) (turned width height rotation pixel) = pixel := by
  obtain ⟨x, y⟩ := pixel
  cases rotation <;> simp only [turned, turnedExtent, opposite, Prod.mk.injEq, true_and,
    and_true] <;> omega

theorem opposite_turned :
    turned width height rotation
      (turned (turnedExtent width height rotation).1 (turnedExtent width height rotation).2
        (opposite rotation) pixel) = pixel := by
  obtain ⟨x, y⟩ := pixel
  cases rotation <;> simp only [turned, turnedExtent, opposite, Prod.mk.injEq, true_and,
    and_true] <;> omega

end Pixels

/-! ## The steps over the integers -/

/-- The whole pixel of a point. -/
def pixelOf (x y : UInt64) : Int × Int :=
  (((x.toNat / 2 ^ 32 : Nat) : Int), ((y.toNat / 2 ^ 32 : Nat) : Int))

namespace SurfaceMapping

/-- The points of the canonical surface. -/
def OnCanvas (mapping : SurfaceMapping) (x y : UInt64) : Prop :=
  x.toNat < mapping.logicalWidth.toNat * 2 ^ 32 ∧ y.toNat < mapping.logicalHeight.toNat * 2 ^ 32

def extent (mapping : SurfaceMapping) : Int × Int :=
  (mapping.logicalWidth.toNat, mapping.logicalHeight.toNat)

end SurfaceMapping

theorem narrow_eq_some {value : Int64} {word : Int32} :
    narrow value = some word ↔ word.toInt = value.toInt := by
  have least := word.le_toInt
  have most := word.toInt_lt
  unfold narrow
  constructor
  · intro found
    split_ifs at found with fits
    rw [← Option.some.inj found, Int64.toInt_toInt32]
    exact Int.bmod_eq_of_le (by omega) (by omega)
  · intro same
    rw [if_pos ⟨by omega, by omega⟩, Option.some.injEq, ← Int32.toInt_inj, Int64.toInt_toInt32,
      same]
    exact Int.bmod_eq_of_le (by omega) (by omega)

theorem shifted (value : UInt32) :
    ∃ edge, checkedShl value.toUInt64 32 = some edge ∧ edge.toNat = value.toNat * 2 ^ 32 := by
  have small := value.toNat_lt
  refine ⟨value.toUInt64 <<< 32, rfl, ?_⟩
  rw [UInt64.toNat_shiftLeft, UInt32.toNat_toUInt64, Nat.shiftLeft_eq]
  exact Nat.mod_eq_of_lt (by
    have shift : (32 : UInt64).toNat % 64 = 32 := rfl
    rw [shift]
    omega)

theorem validatePoint_eq_ok {mapping : SurfaceMapping} {x y : UInt64} :
    mapping.validatePoint x y = .ok () ↔ mapping.OnCanvas x y := by
  obtain ⟨right, rightShift, rightEdge⟩ := shifted mapping.logicalWidth
  obtain ⟨bottom, bottomShift, bottomEdge⟩ := shifted mapping.logicalHeight
  rw [SurfaceMapping.validatePoint, rightShift, bottomShift]
  simp only [orInvalid, ok_bind, ite_error_eq_ok_iff, and_true, SurfaceMapping.OnCanvas,
    UInt64.le_iff_toNat_le, rightEdge, bottomEdge, Nat.not_le]

theorem onCanvas_iff {mapping : SurfaceMapping} {x y : UInt64} :
    mapping.OnCanvas x y ↔ Inside mapping.extent (pixelOf x y) := by
  unfold SurfaceMapping.OnCanvas Inside SurfaceMapping.extent pixelOf
  dsimp only
  omega

/-- The last row or column less a coordinate inside. -/
theorem toInt_mirror {size : UInt32} {point : Int64} (low : 0 ≤ point.toInt)
    (high : point.toInt < size.toNat) :
    (wordOfUInt32 size - 1 - point).toInt = size.toNat - 1 - point.toInt := by
  have bound := size.toNat_lt
  have one : (1 : Int64).toInt = 1 := rfl
  have word := toInt_wordOfUInt32 size
  have first : (wordOfUInt32 size - 1).toInt = size.toNat - 1 := by
    rw [toInt_sub ⟨by omega, by omega⟩, word, one]
  rw [toInt_sub ⟨by omega, by omega⟩, first]

theorem rotate_ok {mapping : SurfaceMapping} {x y : UInt64} (inside : mapping.OnCanvas x y) :
    ∃ rotatedX rotatedY, mapping.rotate x y = .ok (rotatedX, rotatedY) ∧
      (rotatedX.toInt, rotatedY.toInt) =
        turned mapping.extent.1 mapping.extent.2 mapping.rotation (pixelOf x y) := by
  obtain ⟨left, right, top, bottom⟩ := onCanvas_iff.mp inside
  have xShift : (x >>> 32).toNat = x.toNat / 2 ^ 32 := by
    rw [UInt64.toNat_shiftRight, Nat.shiftRight_eq_div_pow]
    rfl
  have yShift : (y >>> 32).toNat = y.toNat / 2 ^ 32 := by
    rw [UInt64.toNat_shiftRight, Nat.shiftRight_eq_div_pow]
    rfl
  have xBound := x.toNat_lt
  have yBound := y.toNat_lt
  obtain ⟨pointX, xWord⟩ := @exists_wordOf ((x >>> 32).toNat : Int) |>.mpr ⟨by omega, by omega⟩
  obtain ⟨pointY, yWord⟩ := @exists_wordOf ((y >>> 32).toNat : Int) |>.mpr ⟨by omega, by omega⟩
  have xSame : pointX.toInt = (pixelOf x y).1 := by rw [wordOf_eq_some.mp xWord, xShift]; rfl
  have ySame : pointY.toInt = (pixelOf x y).2 := by rw [wordOf_eq_some.mp yWord, yShift]; rfl
  rw [SurfaceMapping.rotate, xWord, yWord]
  simp only [orInvalid, ok_bind]
  refine ⟨_, _, rfl, ?_⟩
  rw [← xSame] at left right
  rw [← ySame] at top bottom
  have across := toInt_mirror left right
  have down := toInt_mirror top bottom
  have pixel : pixelOf x y = (pointX.toInt, pointY.toInt) := Prod.ext xSame.symm ySame.symm
  rw [pixel]
  cases mapping.rotation with
  | none => rfl
  | ninety => exact congrArg (·, pointX.toInt) down
  | oneEighty => exact Prod.ext across down
  | twoSeventy => exact congrArg (pointY.toInt, ·) across

/-- The captured target's pixels are coordinates of the system. -/
def SurfaceMapping.FitsOs (mapping : SurfaceMapping) : Prop :=
  mapping.capturedOriginX.toInt + mapping.rotatedExtent.1.toNat ≤ 2 ^ 31 ∧
    mapping.capturedOriginY.toInt + mapping.rotatedExtent.2.toNat ≤ 2 ^ 31

theorem rotatedExtent_eq (mapping : SurfaceMapping) :
    ((mapping.rotatedExtent.1.toNat : Int), (mapping.rotatedExtent.2.toNat : Int)) =
      turnedExtent mapping.extent.1 mapping.extent.2 mapping.rotation := by
  unfold SurfaceMapping.rotatedExtent SurfaceMapping.extent
  cases mapping.rotation <;> rfl

/-- The turned pixel behind the captured origin. -/
def SurfaceMapping.exactOs (mapping : SurfaceMapping) (pixel : Int × Int) : Int × Int :=
  let rotated := turned mapping.extent.1 mapping.extent.2 mapping.rotation pixel
  (mapping.capturedOriginX.toInt + rotated.1, mapping.capturedOriginY.toInt + rotated.2)

theorem toOsLogical_eq_ok {mapping : SurfaceMapping} {x y : UInt64} {os : Int32 × Int32} :
    mapping.toOsLogical x y = .ok os ↔
      mapping.OnCanvas x y ∧ (os.1.toInt, os.2.toInt) = mapping.exactOs (pixelOf x y) := by
  unfold SurfaceMapping.toOsLogical
  rw [check_bind_eq_ok_iff, validatePoint_eq_ok]
  constructor
  · intro found
    obtain ⟨inside, found⟩ := found
    obtain ⟨rotatedX, rotatedY, rotated, same⟩ := rotate_ok inside
    rw [rotated, ok_bind] at found
    dsimp only at found
    simp only [bind_eq_ok_iff, orInvalid_eq_ok, Option.bind_eq_some_iff, signedAdd_eq_some,
      narrow_eq_some, Int32.toInt_toInt64] at found
    obtain ⟨osX, ⟨wideX, xSum, xSame⟩, osY, ⟨wideY, ySum, ySame⟩, built⟩ := found
    refine ⟨inside, ?_⟩
    rw [← Except.ok.inj built, SurfaceMapping.exactOs, ← same, xSame, ySame, xSum, ySum]
  · intro held
    obtain ⟨inside, same⟩ := held
    obtain ⟨rotatedX, rotatedY, rotated, turnedSame⟩ := rotate_ok inside
    rw [SurfaceMapping.exactOs, ← turnedSame] at same
    obtain ⟨xSame, ySame⟩ := Prod.mk.inj same
    refine ⟨inside, ?_⟩
    rw [rotated, ok_bind]
    dsimp only
    simp only [bind_eq_ok_iff, orInvalid_eq_ok, Option.bind_eq_some_iff, signedAdd_eq_some,
      narrow_eq_some, Int32.toInt_toInt64]
    exact ⟨os.1, ⟨os.1.toInt64, by rw [Int32.toInt_toInt64, xSame], by rw [Int32.toInt_toInt64]⟩,
      os.2, ⟨os.2.toInt64, by rw [Int32.toInt_toInt64, ySame], by rw [Int32.toInt_toInt64]⟩, rfl⟩

/-- The captured rectangle, in the system's coordinates. -/
def SurfaceMapping.Captured (mapping : SurfaceMapping) (os : Int × Int) : Prop :=
  Inside (mapping.rotatedExtent.1.toNat, mapping.rotatedExtent.2.toNat)
    (os.1 - mapping.capturedOriginX.toInt, os.2 - mapping.capturedOriginY.toInt)

theorem exactOs_captured {mapping : SurfaceMapping} {pixel : Int × Int} :
    mapping.Captured (mapping.exactOs pixel) ↔ Inside mapping.extent pixel := by
  unfold SurfaceMapping.Captured SurfaceMapping.exactOs
  dsimp only
  rw [rotatedExtent_eq, add_sub_cancel_left, add_sub_cancel_left]
  exact turned_inside mapping.extent.1 mapping.extent.2 mapping.rotation pixel

theorem exactOs_inj {mapping : SurfaceMapping} {first second : Int × Int} :
    mapping.exactOs first = mapping.exactOs second ↔ first = second := by
  constructor
  · intro same
    obtain ⟨across, down⟩ := Prod.mk.inj same
    have turnedSame : turned mapping.extent.1 mapping.extent.2 mapping.rotation first =
        turned mapping.extent.1 mapping.extent.2 mapping.rotation second :=
      Prod.ext (by omega) (by omega)
    rw [← turned_opposite mapping.extent.1 mapping.extent.2 mapping.rotation first, turnedSame,
      turned_opposite]
  · intro same
    rw [same]

theorem exactOs_surjective (mapping : SurfaceMapping) (os : Int × Int) :
    ∃ pixel, mapping.exactOs pixel = os := by
  obtain ⟨pixel, same⟩ : ∃ pixel, turned mapping.extent.1 mapping.extent.2 mapping.rotation pixel =
      (os.1 - mapping.capturedOriginX.toInt, os.2 - mapping.capturedOriginY.toInt) :=
    ⟨_, opposite_turned mapping.extent.1 mapping.extent.2 mapping.rotation _⟩
  refine ⟨pixel, ?_⟩
  rw [SurfaceMapping.exactOs, same]
  exact Prod.ext (add_sub_cancel _ _) (add_sub_cancel _ _)

theorem pixelOf_surjective {mapping : SurfaceMapping} {pixel : Int × Int}
    (inside : Inside mapping.extent pixel) : ∃ x y, pixelOf x y = pixel := by
  obtain ⟨left, right, top, bottom⟩ := inside
  have wide := mapping.logicalWidth.toNat_lt
  have tall := mapping.logicalHeight.toNat_lt
  unfold SurfaceMapping.extent at right bottom
  dsimp only at right bottom
  refine ⟨UInt64.ofNat (pixel.1.toNat * 2 ^ 32), UInt64.ofNat (pixel.2.toNat * 2 ^ 32),
    Prod.ext ?_ ?_⟩
  · change (((UInt64.ofNat (pixel.1.toNat * 2 ^ 32)).toNat / 2 ^ 32 : Nat) : Int) = pixel.1
    rw [UInt64.toNat_ofNat', Nat.mod_eq_of_lt (by omega)]
    omega
  · change (((UInt64.ofNat (pixel.2.toNat * 2 ^ 32)).toNat / 2 ^ 32 : Nat) : Int) = pixel.2
    rw [UInt64.toNat_ofNat', Nat.mod_eq_of_lt (by omega)]
    omega

/-! ## There and back -/

/-- The turned surface under the rotation that takes it back. -/
def SurfaceMapping.turnedBack (mapping : SurfaceMapping) : SurfaceMapping :=
  { mapping with
    logicalWidth := mapping.rotatedExtent.1
    logicalHeight := mapping.rotatedExtent.2
    rotation := opposite mapping.rotation }

theorem rotate_turnedBack {mapping : SurfaceMapping} {x y turnedX turnedY : UInt64}
    {rotatedX rotatedY : Int64} (inside : mapping.OnCanvas x y)
    (rotated : mapping.rotate x y = .ok (rotatedX, rotatedY))
    (lies : pixelOf turnedX turnedY = (rotatedX.toInt, rotatedY.toInt)) :
    ∃ backX backY, mapping.turnedBack.rotate turnedX turnedY = .ok (backX, backY) ∧
      (backX.toInt, backY.toInt) = pixelOf x y := by
  obtain ⟨_, _, again, same⟩ := rotate_ok inside
  rw [rotated] at again
  cases again
  have extents : mapping.turnedBack.extent =
      turnedExtent mapping.extent.1 mapping.extent.2 mapping.rotation := rotatedExtent_eq mapping
  have onTurned : mapping.turnedBack.OnCanvas turnedX turnedY := by
    rw [onCanvas_iff, lies, same, extents, turned_inside]
    exact onCanvas_iff.mp inside
  obtain ⟨backX, backY, back, backSame⟩ := rotate_ok onTurned
  refine ⟨backX, backY, back, ?_⟩
  rw [backSame, lies, same, extents]
  exact turned_opposite mapping.extent.1 mapping.extent.2 mapping.rotation (pixelOf x y)

/-! ## The check of the decoders -/

theorem validateCoordinates_iff {mapping : SurfaceMapping} {x y : UInt64} :
    validateCoordinates x y mapping.logicalWidth.toUInt64 mapping.logicalHeight.toUInt64 =
        .ok () ↔ mapping.OnCanvas x y := by
  have wideBound := mapping.logicalWidth.toNat_lt
  have tallBound := mapping.logicalHeight.toNat_lt
  have wide := @checkedMul_fits mapping.logicalWidth.toUInt64 4294967296
    (by rw [unit_toNat, UInt32.toNat_toUInt64]; omega)
  have tall := @checkedMul_fits mapping.logicalHeight.toUInt64 4294967296
    (by rw [unit_toNat, UInt32.toNat_toUInt64]; omega)
  have maximumX := checkedMul_eq_some.mp wide
  have maximumY := checkedMul_eq_some.mp tall
  rw [unit_toNat, UInt32.toNat_toUInt64] at maximumX maximumY
  rw [validateCoordinates, wide, tall]
  dsimp only
  rw [ite_error_eq_ok_iff, not_or, UInt64.le_iff_toNat_le, UInt64.le_iff_toNat_le, maximumX,
    maximumY, Nat.not_le, Nat.not_le, and_iff_left rfl]
  rfl

/-- The point of a pointer event. -/
def pointOf : InputEvent → Option (UInt64 × UInt64)
  | .key _ _ _ => none
  | .pointerMotion _ x y => some (x, y)
  | .pointerButton _ _ _ x y => some (x, y)
  | .pointerAxis _ _ _ x y => some (x, y)

/-- A decoder whose only look at the extents is the check of the event's point. -/
def ChecksPoint (decoder : UInt64 → UInt64 → Except MessageError InputEvent) : Prop :=
  ∀ {width height : UInt64} {event : InputEvent}, decoder width height = .ok event →
    ∃ x y, pointOf event = some (x, y) ∧ ∀ width height,
      decoder width height = .ok event ↔ validateCoordinates x y width height = .ok ()

theorem decodeMotion_checksPoint (header : UInt64) (payload : Cbor.Value) :
    ChecksPoint (InputEvent.decodeMotion header payload) := by
  intro width height event decoded
  unfold InputEvent.decodeMotion at decoded
  obtain ⟨map, mapped, decoded⟩ := bind_eq_ok_iff.mp decoded
  obtain ⟨binding, bound, decoded⟩ := bind_eq_ok_iff.mp decoded
  obtain ⟨headed, decoded⟩ := check_bind_eq_ok_iff.mp decoded
  obtain ⟨x, xRead, decoded⟩ := bind_eq_ok_iff.mp decoded
  obtain ⟨y, yRead, decoded⟩ := bind_eq_ok_iff.mp decoded
  obtain ⟨-, built⟩ := check_bind_eq_ok_iff.mp decoded
  cases built
  refine ⟨x, y, rfl, fun width height => ?_⟩
  rw [InputEvent.decodeMotion, mapped, ok_bind, bound, ok_bind, headed, ok_bind, xRead, ok_bind,
    yRead, ok_bind, check_bind_eq_ok_iff, and_iff_left rfl]

theorem decodeButton_checksPoint (header : UInt64) (payload : Cbor.Value) :
    ChecksPoint (InputEvent.decodeButton header payload) := by
  intro width height event decoded
  unfold InputEvent.decodeButton at decoded
  obtain ⟨map, mapped, decoded⟩ := bind_eq_ok_iff.mp decoded
  obtain ⟨binding, bound, decoded⟩ := bind_eq_ok_iff.mp decoded
  obtain ⟨headed, decoded⟩ := check_bind_eq_ok_iff.mp decoded
  obtain ⟨button, buttonRead, decoded⟩ := bind_eq_ok_iff.mp decoded
  obtain ⟨narrowed, decoded⟩ := ite_error_eq_ok_iff.mp decoded
  obtain ⟨known, decoded⟩ := ite_error_eq_ok_iff.mp decoded
  obtain ⟨x, xRead, decoded⟩ := bind_eq_ok_iff.mp decoded
  obtain ⟨y, yRead, decoded⟩ := bind_eq_ok_iff.mp decoded
  obtain ⟨-, decoded⟩ := check_bind_eq_ok_iff.mp decoded
  obtain ⟨pressed, pressedRead, built⟩ := bind_eq_ok_iff.mp decoded
  cases built
  refine ⟨x, y, rfl, fun width height => ?_⟩
  rw [InputEvent.decodeButton, mapped, ok_bind, bound, ok_bind, headed, ok_bind, buttonRead,
    ok_bind, if_neg narrowed, if_neg known, xRead, ok_bind, yRead, ok_bind,
    check_bind_eq_ok_iff, pressedRead, ok_bind, and_iff_left rfl]

theorem decodeAxis_checksPoint (header : UInt64) (payload : Cbor.Value) :
    ChecksPoint (InputEvent.decodeAxis header payload) := by
  intro width height event decoded
  unfold InputEvent.decodeAxis at decoded
  obtain ⟨map, mapped, decoded⟩ := bind_eq_ok_iff.mp decoded
  obtain ⟨binding, bound, decoded⟩ := bind_eq_ok_iff.mp decoded
  obtain ⟨headed, decoded⟩ := check_bind_eq_ok_iff.mp decoded
  obtain ⟨horizontal, horizontalRead, decoded⟩ := bind_eq_ok_iff.mp decoded
  obtain ⟨vertical, verticalRead, decoded⟩ := bind_eq_ok_iff.mp decoded
  obtain ⟨ranged, decoded⟩ := ite_error_eq_ok_iff.mp decoded
  obtain ⟨x, xRead, decoded⟩ := bind_eq_ok_iff.mp decoded
  obtain ⟨y, yRead, decoded⟩ := bind_eq_ok_iff.mp decoded
  obtain ⟨-, built⟩ := check_bind_eq_ok_iff.mp decoded
  cases built
  refine ⟨x, y, rfl, fun width height => ?_⟩
  rw [InputEvent.decodeAxis, mapped, ok_bind, bound, ok_bind, headed, ok_bind, horizontalRead,
    ok_bind, verticalRead, ok_bind, if_neg ranged, xRead, ok_bind, yRead, ok_bind,
    check_bind_eq_ok_iff, and_iff_left rfl]

theorem decodeKey_pointless {header : UInt64} {payload : Cbor.Value} {event : InputEvent}
    (decoded : InputEvent.decodeKey header payload = .ok event) : pointOf event = none := by
  unfold InputEvent.decodeKey at decoded
  obtain ⟨map, -, decoded⟩ := bind_eq_ok_iff.mp decoded
  obtain ⟨binding, -, decoded⟩ := bind_eq_ok_iff.mp decoded
  obtain ⟨-, decoded⟩ := check_bind_eq_ok_iff.mp decoded
  obtain ⟨usage, -, decoded⟩ := bind_eq_ok_iff.mp decoded
  obtain ⟨-, decoded⟩ := ite_error_eq_ok_iff.mp decoded
  obtain ⟨-, decoded⟩ := ite_error_eq_ok_iff.mp decoded
  obtain ⟨pressed, -, built⟩ := bind_eq_ok_iff.mp decoded
  cases built
  rfl

/-- A pointer event that is decoded for some extents is decoded for those of a
mapping if its point is on the surface. -/
theorem decode_pointer_iff {mapping : SurfaceMapping} {recordType : UInt16} {header : UInt64}
    {payload : Cbor.Value} {width height x y : UInt64} {event : InputEvent}
    (decoded : InputEvent.decode recordType header payload width height = some (.ok event))
    (point : pointOf event = some (x, y)) :
    InputEvent.decode recordType header payload mapping.logicalWidth.toUInt64
        mapping.logicalHeight.toUInt64 = some (.ok event) ↔ mapping.OnCanvas x y := by
  have same : ∀ {decoder : UInt64 → UInt64 → Except MessageError InputEvent}, ChecksPoint decoder →
      decoder width height = .ok event →
      (decoder mapping.logicalWidth.toUInt64 mapping.logicalHeight.toUInt64 = .ok event ↔
        mapping.OnCanvas x y) := by
    intro decoder checks read
    obtain ⟨x', y', point', checked⟩ := checks read
    rw [point] at point'
    cases point'
    rw [checked, validateCoordinates_iff]
  unfold InputEvent.decode at decoded ⊢
  split_ifs at decoded ⊢ with key motion button axis
  · rw [decodeKey_pointless (Option.some.inj decoded)] at point
    cases point
  · rw [Option.some.injEq]
    exact same (decodeMotion_checksPoint header payload) (Option.some.inj decoded)
  · rw [Option.some.injEq]
    exact same (decodeButton_checksPoint header payload) (Option.some.inj decoded)
  · rw [Option.some.injEq]
    exact same (decodeAxis_checksPoint header payload) (Option.some.inj decoded)

/-! ## The result -/

theorem exists_os {mapping : SurfaceMapping} (fits : mapping.FitsOs) {pixel : Int × Int}
    (inside : Inside mapping.extent pixel) :
    ∃ os : Int32 × Int32, (os.1.toInt, os.2.toInt) = mapping.exactOs pixel := by
  obtain ⟨left, right, top, bottom⟩ := exactOs_captured.mpr inside
  have xLow := mapping.capturedOriginX.le_toInt
  have yLow := mapping.capturedOriginY.le_toInt
  obtain ⟨xFits, yFits⟩ := fits
  dsimp only at left right top bottom
  refine ⟨(Int32.ofInt (mapping.exactOs pixel).1, Int32.ofInt (mapping.exactOs pixel).2),
    Prod.ext ?_ ?_⟩
  · exact Int32.toInt_ofInt_of_le (by omega) (by omega)
  · exact Int32.toInt_ofInt_of_le (by omega) (by omega)

/-- The mapping is a bijection from the pixels of the canonical surface to those of
the captured rectangle, the opposite rotation takes it back, and its points are the
ones that the decoders accept. -/
theorem pointer_mapping {mapping : SurfaceMapping} (fits : mapping.FitsOs) :
    (∀ x y, (∃ os, mapping.toOsLogical x y = .ok os) ↔
        x.toNat < mapping.logicalWidth.toNat * 2 ^ 32 ∧
          y.toNat < mapping.logicalHeight.toNat * 2 ^ 32) ∧
      (∀ x y x' y' os os', mapping.toOsLogical x y = .ok os → mapping.toOsLogical x' y' = .ok os' →
        (os = os' ↔ pixelOf x y = pixelOf x' y')) ∧
      (∀ os : Int32 × Int32, (∃ x y, mapping.toOsLogical x y = .ok os) ↔
        mapping.Captured (os.1.toInt, os.2.toInt)) ∧
      (∀ x y rotatedX rotatedY, mapping.OnCanvas x y →
        mapping.rotate x y = .ok (rotatedX, rotatedY) →
        ∀ turnedX turnedY, pixelOf turnedX turnedY = (rotatedX.toInt, rotatedY.toInt) →
          ∃ backX backY, mapping.turnedBack.rotate turnedX turnedY = .ok (backX, backY) ∧
            (backX.toInt, backY.toInt) = pixelOf x y) ∧
      (∀ x y, mapping.validatePoint x y = .ok () ↔
        validateCoordinates x y mapping.logicalWidth.toUInt64 mapping.logicalHeight.toUInt64 =
          .ok ()) ∧
      (∀ recordType header payload width height event x y,
        InputEvent.decode recordType header payload width height = some (.ok event) →
        pointOf event = some (x, y) →
        (InputEvent.decode recordType header payload mapping.logicalWidth.toUInt64
            mapping.logicalHeight.toUInt64 = some (.ok event) ↔
          mapping.validatePoint x y = .ok ())) := by
  simp only [toOsLogical_eq_ok, validatePoint_eq_ok]
  refine ⟨fun x y => ?_, ?_, fun os => ?_, ?_, fun x y => validateCoordinates_iff.symm, ?_⟩
  · constructor
    · intro found
      obtain ⟨os, inside, -⟩ := found
      exact inside
    · intro inside
      obtain ⟨os, same⟩ := exists_os fits (onCanvas_iff.mp inside)
      exact ⟨os, inside, same⟩
  · intro x y x' y' os os' first second
    rw [← @exactOs_inj mapping, ← first.2, ← second.2]
    constructor
    · intro same
      rw [same]
    · intro same
      obtain ⟨across, down⟩ := Prod.ext_iff.mp same
      exact Prod.ext (Int32.toInt_inj.mp across) (Int32.toInt_inj.mp down)
  · constructor
    · intro found
      obtain ⟨x, y, inside, same⟩ := found
      rw [same]
      exact exactOs_captured.mpr (onCanvas_iff.mp inside)
    · intro captured
      obtain ⟨pixel, same⟩ := exactOs_surjective mapping (os.1.toInt, os.2.toInt)
      rw [← same, exactOs_captured] at captured
      obtain ⟨x, y, lies⟩ := pixelOf_surjective captured
      exact ⟨x, y, onCanvas_iff.mpr (lies ▸ captured), by rw [lies, same]⟩
  · intro x y rotatedX rotatedY inside rotated turnedX turnedY lies
    exact rotate_turnedBack inside rotated lies
  · intro recordType header payload width height event x y decoded point
    exact decode_pointer_iff decoded point

/-- A surface turned by a quarter, left of the origin. -/
def quarterTurned : SurfaceMapping := ⟨1920, 1080, -1080, 200, .ninety⟩

theorem pointer_mapping_quarter :
    quarterTurned.FitsOs ∧ (∃ os, quarterTurned.toOsLogical 0 0 = .ok os) ∧
      (quarterTurned.Captured (-1, 200) ↔
        ∃ x y, quarterTurned.toOsLogical x y = .ok (-1, 200)) := by
  have fits : quarterTurned.FitsOs := ⟨by decide, by decide⟩
  obtain ⟨points, -, image, -⟩ := pointer_mapping fits
  exact ⟨fits, (points 0 0).mpr ⟨by decide, by decide⟩, (image (-1, 200)).symm⟩

end VividProtocol.Geometry

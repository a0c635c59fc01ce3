import Mathlib.Tactic
import VividProtocol.Geometry.Rect
import VividProtocol.Retained.Scene

/-!
# Fitting a quad into a rectangle

`fit_quad` of `geometry.rs`.  Its words stand for exact integers, so it is the
same as the fit over the integers wherever it gives a quad.
-/

set_option autoImplicit false

namespace VividProtocol.Geometry

open VividProtocol.Library.SignedWords
open VividProtocol.Retained (Fit)

/-! ## Ratios -/

structure Ratio where
  numerator : Int64
  denominator : Int64
  nonneg : 0 ≤ numerator
  positive : 0 < denominator

/-- A result that an `i128` can hold. -/
def wideWord (value : Int) : Option Int :=
  if -2 ^ 127 ≤ value ∧ value < 2 ^ 127 then some value else none

namespace Ratio

def new (numerator denominator : Int64) : Option Ratio :=
  if valid : 0 < denominator ∧ 0 ≤ numerator then
    some ⟨numerator, denominator, valid.2, valid.1⟩
  else none

/-- The products of two words stay far inside an `i128`. -/
def isGreaterThan (ratio other : Ratio) : Bool :=
  let left := ratio.numerator.toInt * other.denominator.toInt
  let right := other.numerator.toInt * ratio.denominator.toInt
  decide (right < left)

def min (ratio other : Ratio) : Ratio := if ratio.isGreaterThan other then other else ratio

def max (ratio other : Ratio) : Ratio := if ratio.isGreaterThan other then ratio else other

def apply (ratio : Ratio) (value : Int64) : Option Int64 := do
  let product ← wideWord (value.toInt * ratio.numerator.toInt)
  let quotient ← wideWord (product.tdiv ratio.denominator.toInt)
  wordOf quotient

end Ratio

/-! ## The quad -/

/-- The width is widened by the sample aspect ratio. -/
def displaySize (sourceWidth sourceHeight aspectNumerator aspectDenominator : UInt32) :
    Option (Int64 × Int64) := do
  let product ← signedMul (wordOfUInt32 sourceWidth) (wordOfUInt32 aspectNumerator)
  let scaled ← signedMul product FIXED_ONE
  let width ← signedDiv scaled (wordOfUInt32 aspectDenominator)
  let height ← signedMul (wordOfUInt32 sourceHeight) FIXED_ONE
  some (width, height)

def quadSize (destination : FixedRect) (displayWidth displayHeight : Int64) :
    Fit → Option (Int64 × Int64)
  | .fill => some (destination.width, destination.height)
  | .none => some (displayWidth, displayHeight)
  | .contain => do
      let byWidth ← Ratio.new destination.width displayWidth
      let byHeight ← Ratio.new destination.height displayHeight
      let selected := byWidth.min byHeight
      let width ← selected.apply displayWidth
      let height ← selected.apply displayHeight
      some (width, height)
  | .cover => do
      let byWidth ← Ratio.new destination.width displayWidth
      let byHeight ← Ratio.new destination.height displayHeight
      let selected := byWidth.max byHeight
      let width ← selected.apply displayWidth
      let height ← selected.apply displayHeight
      some (width, height)

/-- The origin of an extent that is centred in another. -/
def centred (origin outer inner : Int64) : Option Int64 := do
  let margins ← signedSub outer inner
  signedAdd origin (margins / 2)

def fitQuad (destination : FixedRect)
    (sourceWidth sourceHeight aspectNumerator aspectDenominator : UInt32) (fit : Fit) :
    Option FixedRect :=
  if sourceWidth = 0 ∨ sourceHeight = 0 ∨ aspectNumerator = 0 ∨ aspectDenominator = 0 then none
  else do
    let (displayWidth, displayHeight) ←
      displaySize sourceWidth sourceHeight aspectNumerator aspectDenominator
    let (width, height) ← quadSize destination displayWidth displayHeight fit
    if width ≤ 0 ∨ height ≤ 0 then none
    else do
      let x ← centred destination.x destination.width width
      let y ← centred destination.y destination.height height
      some ⟨x, y, width, height⟩

/-! ## The fit over the integers -/

structure MediaSource where
  width : UInt32
  height : UInt32
  aspectNumerator : UInt32
  aspectDenominator : UInt32
  deriving Repr, DecidableEq

namespace MediaSource

def Nonzero (source : MediaSource) : Prop :=
  source.width ≠ 0 ∧ source.height ≠ 0 ∧ source.aspectNumerator ≠ 0 ∧ source.aspectDenominator ≠ 0

def displayWidth (source : MediaSource) : Int :=
  source.width.toNat * source.aspectNumerator.toNat * 2 ^ 32 / source.aspectDenominator.toNat

def displayHeight (source : MediaSource) : Int := source.height.toNat * 2 ^ 32

/-- No step of the display size leaves a word. -/
def DisplayFits (source : MediaSource) : Prop :=
  (source.width.toNat : Int) * source.aspectNumerator.toNat * 2 ^ 32 < 2 ^ 63 ∧
    source.displayHeight < 2 ^ 63

/-- The extents of the quad, by the side that decides the scale. -/
def extents (source : MediaSource) (width height : Int) : Fit → Int × Int
  | .fill => (width, height)
  | .none => (source.displayWidth, source.displayHeight)
  | .contain =>
      if width * source.displayHeight ≤ height * source.displayWidth then
        (width, source.displayHeight * width / source.displayWidth)
      else (source.displayWidth * height / source.displayHeight, height)
  | .cover =>
      if height * source.displayWidth < width * source.displayHeight then
        (width, source.displayHeight * width / source.displayWidth)
      else (source.displayWidth * height / source.displayHeight, height)

/-- The height that keeps the shape of a source at a width, rounded down. -/
def exactHeight (source : MediaSource) (width : Int) : Int :=
  source.height.toNat * source.aspectDenominator.toNat * width /
    (source.width.toNat * source.aspectNumerator.toNat)

/-- The width that keeps the shape of a source at a height, rounded down. -/
def exactWidth (source : MediaSource) (height : Int) : Int :=
  source.width.toNat * source.aspectNumerator.toNat * height /
    (source.height.toNat * source.aspectDenominator.toNat)

end MediaSource

/-- A quad of the given extents, centred with its margins rounded toward zero. -/
structure Placed (destination : FixedRect) (extents : Int × Int) (quad : FixedRect) : Prop where
  width : quad.width.toInt = extents.1
  height : quad.height.toInt = extents.2
  x : quad.x.toInt = destination.x.toInt + (destination.width.toInt - extents.1).tdiv 2
  y : quad.y.toInt = destination.y.toInt + (destination.height.toInt - extents.2).tdiv 2

/-! ## The words stand for the integers -/

theorem toInt_fixedOne : FIXED_ONE.toInt = 2 ^ 32 := rfl

theorem two_pow_127_bound {left right : Int} (leftLow : 0 ≤ left) (leftHigh : left < 2 ^ 63)
    (rightLow : 0 ≤ right) (rightHigh : right < 2 ^ 63) :
    0 ≤ left * right ∧ left * right < 2 ^ 126 := by
  refine ⟨Int.mul_nonneg leftLow rightLow, ?_⟩
  calc left * right ≤ left * 2 ^ 63 := Int.mul_le_mul_of_nonneg_left rightHigh.le leftLow
    _ < 2 ^ 63 * 2 ^ 63 := Int.mul_lt_mul_of_pos_right leftHigh (by norm_num)
    _ = 2 ^ 126 := by norm_num

theorem Ratio.apply_eq_some {ratio : Ratio} {value word : Int64} (low : 0 ≤ value.toInt) :
    ratio.apply value = some word ↔
      word.toInt = value.toInt * ratio.numerator.toInt / ratio.denominator.toInt := by
  have numeratorLow : 0 ≤ ratio.numerator.toInt := Int64.le_iff_toInt_le.mp ratio.nonneg
  have denominatorLow : 0 < ratio.denominator.toInt := Int64.lt_iff_toInt_lt.mp ratio.positive
  obtain ⟨productLow, productHigh⟩ :=
    two_pow_127_bound low value.toInt_lt numeratorLow ratio.numerator.toInt_lt
  have quotient : (value.toInt * ratio.numerator.toInt).tdiv ratio.denominator.toInt =
      value.toInt * ratio.numerator.toInt / ratio.denominator.toInt :=
    Int.tdiv_eq_ediv_of_nonneg productLow
  have quotientLow : 0 ≤ value.toInt * ratio.numerator.toInt / ratio.denominator.toInt :=
    Int.ediv_nonneg productLow denominatorLow.le
  have quotientHigh : value.toInt * ratio.numerator.toInt / ratio.denominator.toInt ≤
      value.toInt * ratio.numerator.toInt := Int.ediv_le_self _ productLow
  have first : wideWord (value.toInt * ratio.numerator.toInt) =
      some (value.toInt * ratio.numerator.toInt) := if_pos ⟨by omega, by omega⟩
  have second : wideWord (value.toInt * ratio.numerator.toInt / ratio.denominator.toInt) =
      some (value.toInt * ratio.numerator.toInt / ratio.denominator.toInt) :=
    if_pos ⟨by omega, by omega⟩
  rw [Ratio.apply, first, Option.bind_eq_bind, Option.bind_some, quotient, second,
    Option.bind_some, wordOf_eq_some]

theorem toNat_pos {value : UInt32} (nonzero : value ≠ 0) : (0 : Int) < value.toNat := by
  have positive : value.toNat ≠ 0 := fun zero => nonzero (UInt32.toNat_inj.mp zero)
  omega

theorem displaySize_eq_some {source : MediaSource} (nonzero : source.Nonzero)
    {width height : Int64} :
    displaySize source.width source.height source.aspectNumerator source.aspectDenominator =
        some (width, height) ↔
      source.DisplayFits ∧ width.toInt = source.displayWidth ∧
        height.toInt = source.displayHeight := by
  obtain ⟨wide, tall, numerator, denominator⟩ := nonzero
  have product : (0 : Int) < source.width.toNat * source.aspectNumerator.toNat :=
    Int.mul_pos (toNat_pos wide) (toNat_pos numerator)
  have divisor := toNat_pos denominator
  simp only [displaySize, Option.bind_eq_bind, Option.bind_eq_some_iff, signedMul_eq_some,
    signedDiv_eq_some, toInt_wordOfUInt32, toInt_fixedOne, Option.some.injEq, Prod.mk.injEq]
  constructor
  · intro found
    obtain ⟨area, areaSame, scaled, scaledSame, displayed, ⟨-, displayedSame⟩, tallness,
      tallnessSame, rfl, rfl⟩ := found
    rw [areaSame] at scaledSame
    have scaledFits := scaled.toInt_lt
    have tallFits := tallness.toInt_lt
    refine ⟨⟨by omega, by rw [← show _ = source.displayHeight from tallnessSame]; exact tallFits⟩,
      ?_, tallnessSame⟩
    rw [displayedSame, scaledSame, Int.tdiv_eq_ediv_of_nonneg (by omega)]
    rfl
  · intro held
    obtain ⟨⟨scaledFits, tallFits⟩, widthSame, heightSame⟩ := held
    obtain ⟨area, areaWord⟩ := @exists_wordOf
      (source.width.toNat * source.aspectNumerator.toNat) |>.mpr ⟨by omega, by omega⟩
    obtain ⟨scaled, scaledWord⟩ := @exists_wordOf
      (source.width.toNat * source.aspectNumerator.toNat * 2 ^ 32) |>.mpr ⟨by omega, by omega⟩
    have areaSame := wordOf_eq_some.mp areaWord
    have scaledSame := wordOf_eq_some.mp scaledWord
    refine ⟨area, areaSame, scaled, by rw [scaledSame, areaSame], width,
      ⟨divisor.ne', ?_⟩, height, heightSame, rfl, rfl⟩
    rw [widthSame, scaledSame, Int.tdiv_eq_ediv_of_nonneg (by omega)]
    rfl

theorem displayWidth_pos {source : MediaSource} (nonzero : source.Nonzero) :
    0 < source.displayWidth := by
  obtain ⟨wide, -, numerator, denominator⟩ := nonzero
  have one : (1 : Int) ≤ source.width.toNat * source.aspectNumerator.toNat :=
    Int.mul_pos (toNat_pos wide) (toNat_pos numerator)
  have divisor := toNat_pos denominator
  have small := source.aspectDenominator.toNat_lt
  have enough : 1 * (source.aspectDenominator.toNat : Int) ≤
      source.width.toNat * source.aspectNumerator.toNat * 2 ^ 32 := by omega
  exact (Int.le_ediv_iff_mul_le divisor).mpr enough

theorem displayHeight_pos {source : MediaSource} (nonzero : source.Nonzero) :
    0 < source.displayHeight := Int.mul_pos (toNat_pos nonzero.2.1) (by norm_num)

/-- What the ratio of an extent to a display extent makes of both display extents. -/
theorem apply_both {ratio : Ratio} {displayWidth displayHeight width height : Int64}
    (wide : 0 < displayWidth.toInt) (tall : 0 < displayHeight.toInt) :
    (do
      let width ← ratio.apply displayWidth
      let height ← ratio.apply displayHeight
      some (width, height)) = some (width, height) ↔
      width.toInt = displayWidth.toInt * ratio.numerator.toInt / ratio.denominator.toInt ∧
        height.toInt = displayHeight.toInt * ratio.numerator.toInt / ratio.denominator.toInt := by
  simp only [Option.bind_eq_bind, Option.bind_eq_some_iff, Ratio.apply_eq_some wide.le,
    Ratio.apply_eq_some tall.le, Option.some.injEq, Prod.mk.injEq]
  constructor
  · intro found
    obtain ⟨_, widthSame, _, heightSame, rfl, rfl⟩ := found
    exact ⟨widthSame, heightSame⟩
  · intro held
    exact ⟨width, held.1, height, held.2, rfl, rfl⟩

theorem quadSize_eq_some {source : MediaSource} (nonzero : source.Nonzero)
    {destination : FixedRect} (wide : 0 < destination.width.toInt)
    (tall : 0 < destination.height.toInt) {displayWidth displayHeight width height : Int64}
    (widthSame : displayWidth.toInt = source.displayWidth)
    (heightSame : displayHeight.toInt = source.displayHeight) (fit : Fit) :
    quadSize destination displayWidth displayHeight fit = some (width, height) ↔
      (width.toInt, height.toInt) =
        source.extents destination.width.toInt destination.height.toInt fit := by
  have displayWide : 0 < displayWidth.toInt := widthSame ▸ displayWidth_pos nonzero
  have displayTall : 0 < displayHeight.toInt := heightSame ▸ displayHeight_pos nonzero
  have zero : (0 : Int64).toInt = 0 := rfl
  have widthValid : 0 < displayWidth ∧ 0 ≤ destination.width :=
    ⟨Int64.lt_iff_toInt_lt.mpr displayWide, Int64.le_iff_toInt_le.mpr wide.le⟩
  have heightValid : 0 < displayHeight ∧ 0 ≤ destination.height :=
    ⟨Int64.lt_iff_toInt_lt.mpr displayTall, Int64.le_iff_toInt_le.mpr tall.le⟩
  have byWidth : Ratio.new destination.width displayWidth =
      some ⟨destination.width, displayWidth, widthValid.2, widthValid.1⟩ := dif_pos widthValid
  have byHeight : Ratio.new destination.height displayHeight =
      some ⟨destination.height, displayHeight, heightValid.2, heightValid.1⟩ :=
    dif_pos heightValid
  have pairs : ∀ {first second : Int}, (width.toInt, height.toInt) = (first, second) ↔
      width.toInt = first ∧ height.toInt = second := Prod.mk.injEq _ _ _ _ ▸ Iff.rfl
  cases fit with
  | fill =>
      rw [quadSize, MediaSource.extents, pairs, Option.some.injEq, Prod.mk.injEq]
      rw [Int64.toInt_inj, Int64.toInt_inj, eq_comm, eq_comm (a := height)]
  | none =>
      rw [quadSize, MediaSource.extents, pairs, Option.some.injEq, Prod.mk.injEq, ← widthSame,
        ← heightSame, Int64.toInt_inj, Int64.toInt_inj, eq_comm, eq_comm (a := height)]
  | contain =>
      rw [quadSize, byWidth, Option.bind_eq_bind, Option.bind_some, byHeight, Option.bind_some,
        MediaSource.extents, ← widthSame, ← heightSame]
      dsimp only
      rw [apply_both displayWide displayTall, Ratio.min, Ratio.isGreaterThan]
      dsimp only
      by_cases wider : destination.height.toInt * displayWidth.toInt <
          destination.width.toInt * displayHeight.toInt
      · rw [decide_eq_true wider, if_pos rfl, if_neg (Int.not_le.mpr wider), pairs,
          Int.mul_ediv_cancel_left _ displayTall.ne']
      · rw [decide_eq_false wider, if_neg Bool.false_ne_true, if_pos (Int.not_lt.mp wider), pairs,
          Int.mul_ediv_cancel_left _ displayWide.ne']
  | cover =>
      rw [quadSize, byWidth, Option.bind_eq_bind, Option.bind_some, byHeight, Option.bind_some,
        MediaSource.extents, ← widthSame, ← heightSame]
      dsimp only
      rw [apply_both displayWide displayTall, Ratio.max, Ratio.isGreaterThan]
      dsimp only
      by_cases wider : destination.height.toInt * displayWidth.toInt <
          destination.width.toInt * displayHeight.toInt
      · rw [decide_eq_true wider, if_pos rfl, if_pos wider, pairs,
          Int.mul_ediv_cancel_left _ displayWide.ne']
      · rw [decide_eq_false wider, if_neg Bool.false_ne_true, if_neg wider, pairs,
          Int.mul_ediv_cancel_left _ displayTall.ne']

/-- The margins are exact, since both extents are positive. -/
theorem centred_eq_some {origin outer inner word : Int64} (outerLow : 0 < outer.toInt)
    (innerLow : 0 < inner.toInt) :
    centred origin outer inner = some word ↔
      word.toInt = origin.toInt + (outer.toInt - inner.toInt).tdiv 2 := by
  have outerHigh := outer.toInt_lt
  have innerHigh := inner.toInt_lt
  obtain ⟨margins, found⟩ := @exists_wordOf (outer.toInt - inner.toInt) |>.mpr
    ⟨by omega, by omega⟩
  have same := wordOf_eq_some.mp found
  have half : (margins / 2).toInt = (outer.toInt - inner.toInt).tdiv 2 := by
    rw [Int64.toInt_div_of_ne_right _ _ (by decide), same]
    rfl
  have subtracted : signedSub outer inner = some margins := found
  rw [centred, subtracted, Option.bind_eq_bind, Option.bind_some, signedAdd_eq_some, half]

/-- The quad is the fit over the integers, wherever its words can hold it. -/
theorem fitQuad_eq_some {source : MediaSource} {destination quad : FixedRect}
    (wide : 0 < destination.width.toInt) (tall : 0 < destination.height.toInt) {fit : Fit} :
    let extents := source.extents destination.width.toInt destination.height.toInt fit
    fitQuad destination source.width source.height source.aspectNumerator
        source.aspectDenominator fit = some quad ↔
      source.Nonzero ∧ source.DisplayFits ∧ 0 < extents.1 ∧ 0 < extents.2 ∧
        Placed destination extents quad := by
  intro extents
  unfold fitQuad
  by_cases nonzero : source.Nonzero
  · have given : ¬ (source.width = 0 ∨ source.height = 0 ∨ source.aspectNumerator = 0 ∨
        source.aspectDenominator = 0) := by
      unfold MediaSource.Nonzero at nonzero
      tauto
    have zero : (0 : Int64).toInt = 0 := rfl
    simp only [if_neg given, Option.bind_eq_bind, Option.bind_eq_some_iff, Prod.exists]
    constructor
    · intro found
      obtain ⟨displayWidth, displayHeight, displayed, width, height, sized, found⟩ := found
      obtain ⟨fits, widthSame, heightSame⟩ := (displaySize_eq_some nonzero).mp displayed
      have extentsSame := (quadSize_eq_some nonzero wide tall widthSame heightSame fit).mp sized
      have first : width.toInt = extents.1 := congrArg Prod.fst extentsSame
      have second : height.toInt = extents.2 := congrArg Prod.snd extentsSame
      split_ifs at found with empty
      rw [not_or, Int64.le_iff_toInt_le, Int64.le_iff_toInt_le, zero] at empty
      obtain ⟨some_wide, some_tall⟩ := empty
      have widthLow : 0 < width.toInt := Int.not_le.mp some_wide
      have heightLow : 0 < height.toInt := Int.not_le.mp some_tall
      simp only [Option.bind_eq_some_iff, centred_eq_some wide widthLow,
        centred_eq_some tall heightLow, Option.some.injEq] at found
      obtain ⟨x, xSame, y, ySame, rfl⟩ := found
      refine ⟨nonzero, fits, first ▸ widthLow, second ▸ heightLow, first, second, ?_, ?_⟩
      · rw [xSame, first]
      · rw [ySame, second]
    · intro held
      obtain ⟨-, fits, some_wide, some_tall, placed⟩ := held
      have scaledFits := fits.1
      have quotient : source.displayWidth ≤
          source.width.toNat * source.aspectNumerator.toNat * 2 ^ 32 :=
        Int.ediv_le_self _ (by positivity)
      have displayWide := displayWidth_pos nonzero
      have displayTall := displayHeight_pos nonzero
      obtain ⟨displayWidth, widthWord⟩ := @exists_wordOf source.displayWidth |>.mpr
        ⟨by omega, by omega⟩
      obtain ⟨displayHeight, heightWord⟩ := @exists_wordOf source.displayHeight |>.mpr
        ⟨by omega, fits.2⟩
      have widthSame := wordOf_eq_some.mp widthWord
      have heightSame := wordOf_eq_some.mp heightWord
      have widthLow : 0 < quad.width.toInt := placed.width ▸ some_wide
      have heightLow : 0 < quad.height.toInt := placed.height ▸ some_tall
      refine ⟨displayWidth, displayHeight,
        (displaySize_eq_some nonzero).mpr ⟨fits, widthSame, heightSame⟩, quad.width, quad.height,
        (quadSize_eq_some nonzero wide tall widthSame heightSame fit).mpr ?_, ?_⟩
      · rw [placed.width, placed.height]
      · have inhabited : ¬ (quad.width ≤ 0 ∨ quad.height ≤ 0) := by
          rw [not_or, Int64.le_iff_toInt_le, Int64.le_iff_toInt_le, zero]
          exact ⟨Int.not_le.mpr widthLow, Int.not_le.mpr heightLow⟩
        rw [if_neg inhabited]
        simp only [Option.bind_eq_some_iff, centred_eq_some wide widthLow,
          centred_eq_some tall heightLow, Option.some.injEq]
        exact ⟨quad.x, by rw [placed.x, placed.width], quad.y,
          by rw [placed.y, placed.height], rfl⟩
  · have zero : source.width = 0 ∨ source.height = 0 ∨ source.aspectNumerator = 0 ∨
        source.aspectDenominator = 0 := by
      unfold MediaSource.Nonzero at nonzero
      tauto
    rw [if_pos zero]
    simp [nonzero]

/-! ## Where the quad stands -/

/-- Every point of the first rectangle is one of the second. -/
def Within (inner outer : FixedRect) : Prop :=
  outer.x.toInt ≤ inner.x.toInt ∧
    inner.x.toInt + inner.width.toInt ≤ outer.x.toInt + outer.width.toInt ∧
    outer.y.toInt ≤ inner.y.toInt ∧
    inner.y.toInt + inner.height.toInt ≤ outer.y.toInt + outer.height.toInt

/-- The margins on opposite sides differ by at most one unit. -/
def EvenMargins (quad destination : FixedRect) : Prop :=
  let left := quad.x.toInt - destination.x.toInt
  let right := destination.x.toInt + destination.width.toInt - (quad.x.toInt + quad.width.toInt)
  let top := quad.y.toInt - destination.y.toInt
  let bottom := destination.y.toInt + destination.height.toInt - (quad.y.toInt + quad.height.toInt)
  |left - right| ≤ 1 ∧ |top - bottom| ≤ 1

/-- Half of a margin, rounded toward zero. -/
theorem half_eq (margin : Int) :
    margin.tdiv 2 = if 0 ≤ margin then margin / 2 else -(-margin / 2) := by
  split_ifs with low
  · exact Int.tdiv_eq_ediv_of_nonneg low
  · rw [← Int.tdiv_eq_ediv_of_nonneg (by omega : 0 ≤ -margin), Int.neg_tdiv, neg_neg]

theorem half_bounds (margin : Int) :
    (0 ≤ margin → 0 ≤ margin.tdiv 2 ∧ margin.tdiv 2 ≤ margin) ∧
      (margin ≤ 0 → margin ≤ margin.tdiv 2 ∧ margin.tdiv 2 ≤ 0) ∧
      -1 ≤ margin.tdiv 2 - (margin - margin.tdiv 2) ∧
      margin.tdiv 2 - (margin - margin.tdiv 2) ≤ 1 := by
  rw [half_eq]
  split_ifs with low
  · omega
  · omega

theorem Placed.evenMargins {destination quad : FixedRect} {extents : Int × Int}
    (placed : Placed destination extents quad) : EvenMargins quad destination := by
  have across := (half_bounds (destination.width.toInt - extents.1)).2.2
  have down := (half_bounds (destination.height.toInt - extents.2)).2.2
  unfold EvenMargins
  dsimp only
  rw [placed.x, placed.y, placed.width, placed.height, abs_le, abs_le]
  omega

theorem Placed.within {destination quad : FixedRect} {extents : Int × Int}
    (placed : Placed destination extents quad) (narrower : extents.1 ≤ destination.width.toInt)
    (lower : extents.2 ≤ destination.height.toInt) : Within quad destination := by
  have across := half_bounds (destination.width.toInt - extents.1)
  have down := half_bounds (destination.height.toInt - extents.2)
  unfold Within
  rw [placed.x, placed.y, placed.width, placed.height]
  omega

theorem Placed.covers {destination quad : FixedRect} {extents : Int × Int}
    (placed : Placed destination extents quad) (wider : destination.width.toInt ≤ extents.1)
    (taller : destination.height.toInt ≤ extents.2) : Within destination quad := by
  have across := half_bounds (destination.width.toInt - extents.1)
  have down := half_bounds (destination.height.toInt - extents.2)
  unfold Within
  rw [placed.x, placed.y, placed.width, placed.height]
  omega

section Extents

variable {source : MediaSource} {width height : Int}

theorem contain_extents (nonzero : source.Nonzero) :
    let extents := source.extents width height .contain
    extents.1 ≤ width ∧ extents.2 ≤ height ∧
      (extents.1 = width ∧ extents.2 = source.displayHeight * width / source.displayWidth ∨
        extents.2 = height ∧
          extents.1 = source.displayWidth * height / source.displayHeight) := by
  intro extents
  have displayWide := displayWidth_pos nonzero
  have displayTall := displayHeight_pos nonzero
  by_cases narrow : width * source.displayHeight ≤ height * source.displayWidth
  · have same : extents = (width, source.displayHeight * width / source.displayWidth) :=
      if_pos narrow
    have below : source.displayHeight * width / source.displayWidth ≤ height :=
      Int.ediv_le_of_le_mul displayWide (by rw [Int.mul_comm]; exact narrow)
    rw [same]
    exact ⟨Int.le_refl _, below, Or.inl ⟨rfl, rfl⟩⟩
  · have same : extents = (source.displayWidth * height / source.displayHeight, height) :=
      if_neg narrow
    have below : source.displayWidth * height / source.displayHeight ≤ width :=
      Int.ediv_le_of_le_mul displayTall (by rw [Int.mul_comm]; omega)
    rw [same]
    exact ⟨below, Int.le_refl _, Or.inr ⟨rfl, rfl⟩⟩

theorem cover_extents (nonzero : source.Nonzero) :
    let extents := source.extents width height .cover
    width ≤ extents.1 ∧ height ≤ extents.2 ∧ (extents.1 = width ∨ extents.2 = height) := by
  intro extents
  have displayWide := displayWidth_pos nonzero
  have displayTall := displayHeight_pos nonzero
  by_cases wider : height * source.displayWidth < width * source.displayHeight
  · have same : extents = (width, source.displayHeight * width / source.displayWidth) :=
      if_pos wider
    have above : height ≤ source.displayHeight * width / source.displayWidth :=
      (Int.le_ediv_iff_mul_le displayWide).mpr (by rw [Int.mul_comm _ width]; omega)
    rw [same]
    exact ⟨Int.le_refl _, above, Or.inl rfl⟩
  · have same : extents = (source.displayWidth * height / source.displayHeight, height) :=
      if_neg wider
    have above : width ≤ source.displayWidth * height / source.displayHeight :=
      (Int.le_ediv_iff_mul_le displayTall).mpr (by rw [Int.mul_comm _ height]; omega)
    rw [same]
    exact ⟨above, Int.le_refl _, Or.inr rfl⟩

/-- The display width is exact, and then so is the shape. -/
def WholeDisplayWidth (source : MediaSource) : Prop :=
  (source.aspectDenominator.toNat : Int) ∣
    source.width.toNat * source.aspectNumerator.toNat * 2 ^ 32

theorem displayWidth_mul (whole : WholeDisplayWidth source) :
    source.displayWidth * source.aspectDenominator.toNat =
      source.width.toNat * source.aspectNumerator.toNat * 2 ^ 32 := Int.ediv_mul_cancel whole

theorem exactHeight_of_whole (nonzero : source.Nonzero) (whole : WholeDisplayWidth source) :
    source.displayHeight * width / source.displayWidth = source.exactHeight width := by
  have divisor := toNat_pos nonzero.2.2.2
  calc source.displayHeight * width / source.displayWidth
      = source.displayHeight * width * source.aspectDenominator.toNat /
          (source.displayWidth * source.aspectDenominator.toNat) :=
        (Int.mul_ediv_mul_of_pos_left _ _ divisor).symm
    _ = source.height.toNat * source.aspectDenominator.toNat * width * 2 ^ 32 /
          (source.width.toNat * source.aspectNumerator.toNat * 2 ^ 32) := by
        rw [displayWidth_mul whole, MediaSource.displayHeight]
        congr 1
        ring
    _ = source.exactHeight width := Int.mul_ediv_mul_of_pos_left _ _ (by norm_num)

theorem exactWidth_of_whole (nonzero : source.Nonzero) (whole : WholeDisplayWidth source) :
    source.displayWidth * height / source.displayHeight = source.exactWidth height := by
  have divisor := toNat_pos nonzero.2.2.2
  calc source.displayWidth * height / source.displayHeight
      = source.displayWidth * height * source.aspectDenominator.toNat /
          (source.displayHeight * source.aspectDenominator.toNat) :=
        (Int.mul_ediv_mul_of_pos_left _ _ divisor).symm
    _ = source.displayWidth * source.aspectDenominator.toNat * height /
          (source.displayHeight * source.aspectDenominator.toNat) := by
        congr 1
        ring
    _ = source.width.toNat * source.aspectNumerator.toNat * height * 2 ^ 32 /
          (source.height.toNat * source.aspectDenominator.toNat * 2 ^ 32) := by
        rw [displayWidth_mul whole, MediaSource.displayHeight]
        congr 1 <;> ring
    _ = source.exactWidth height := Int.mul_ediv_mul_of_pos_left _ _ (by norm_num)

end Extents

/-! ## The result -/

/-- The quad of a fit. -/
def fitSource (destination : FixedRect) (source : MediaSource) (fit : Fit) : Option FixedRect :=
  fitQuad destination source.width source.height source.aspectNumerator source.aspectDenominator
    fit

/-- A contained quad lies inside with one full side, and its other side is rounded
down from the shape of the display size. -/
def Contained (quad destination : FixedRect) (source : MediaSource) : Prop :=
  Within quad destination ∧ EvenMargins quad destination ∧
    (quad.width = destination.width ∧ quad.height.toInt =
        source.displayHeight * destination.width.toInt / source.displayWidth ∨
      quad.height = destination.height ∧ quad.width.toInt =
        source.displayWidth * destination.height.toInt / source.displayHeight) ∧
    (WholeDisplayWidth source →
      quad.width = destination.width ∧
          quad.height.toInt = source.exactHeight destination.width.toInt ∨
        quad.height = destination.height ∧
          quad.width.toInt = source.exactWidth destination.height.toInt)

/-- A covering quad reaches every side and has one of the full extents. -/
def Covering (quad destination : FixedRect) : Prop :=
  Within destination quad ∧ EvenMargins quad destination ∧
    (quad.width = destination.width ∨ quad.height = destination.height)

/-- The contained quad has a unit on each side, and its origin is a word. -/
def Containable (destination : FixedRect) (source : MediaSource) : Prop :=
  let extents := source.extents destination.width.toInt destination.height.toInt .contain
  1 ≤ extents.1 ∧ 1 ≤ extents.2 ∧
    destination.x.toInt + (destination.width.toInt - extents.1) / 2 < 2 ^ 63 ∧
    destination.y.toInt + (destination.height.toInt - extents.2) / 2 < 2 ^ 63

theorem contained_of_fit {destination quad : FixedRect} (wide : 0 < destination.width.toInt)
    (tall : 0 < destination.height.toInt) {source : MediaSource}
    (fitted : fitSource destination source .contain = some quad) :
    Contained quad destination source := by
  obtain ⟨nonzero, -, -, -, placed⟩ := (fitQuad_eq_some wide tall).mp fitted
  obtain ⟨narrower, lower, sides⟩ := contain_extents nonzero
  have exact_sides : (quad.width = destination.width ∧ quad.height.toInt =
        source.displayHeight * destination.width.toInt / source.displayWidth) ∨
      (quad.height = destination.height ∧ quad.width.toInt =
        source.displayWidth * destination.height.toInt / source.displayHeight) := by
    rcases sides with ⟨full, rest⟩ | ⟨full, rest⟩
    · exact Or.inl ⟨Int64.toInt_inj.mp (placed.width.trans full), placed.height.trans rest⟩
    · exact Or.inr ⟨Int64.toInt_inj.mp (placed.height.trans full), placed.width.trans rest⟩
  refine ⟨placed.within narrower lower, placed.evenMargins, exact_sides, fun whole => ?_⟩
  rw [← exactHeight_of_whole nonzero whole, ← exactWidth_of_whole nonzero whole]
  exact exact_sides

theorem covering_of_fit {destination quad : FixedRect} (wide : 0 < destination.width.toInt)
    (tall : 0 < destination.height.toInt) {source : MediaSource}
    (fitted : fitSource destination source .cover = some quad) : Covering quad destination := by
  obtain ⟨nonzero, -, -, -, placed⟩ := (fitQuad_eq_some wide tall).mp fitted
  obtain ⟨wider, taller, sides⟩ := cover_extents nonzero
  refine ⟨placed.covers wider taller, placed.evenMargins, ?_⟩
  rcases sides with full | full
  · exact Or.inl (Int64.toInt_inj.mp (placed.width.trans full))
  · exact Or.inr (Int64.toInt_inj.mp (placed.height.trans full))

theorem filled_of_fit {destination quad : FixedRect} (wide : 0 < destination.width.toInt)
    (tall : 0 < destination.height.toInt) {source : MediaSource}
    (fitted : fitSource destination source .fill = some quad) : quad = destination := by
  obtain ⟨-, -, -, -, placed⟩ := (fitQuad_eq_some wide tall).mp fitted
  have across : quad.x.toInt = destination.x.toInt := by
    rw [placed.x, MediaSource.extents, Int.sub_self, Int.zero_tdiv, Int.add_zero]
  have down : quad.y.toInt = destination.y.toInt := by
    rw [placed.y, MediaSource.extents, Int.sub_self, Int.zero_tdiv, Int.add_zero]
  exact exact_inj.mp (exact_eq_iff.mpr ⟨across, down, placed.width, placed.height⟩)

/-- The word of an origin moved by a margin on its near side. -/
theorem moved_origin {origin : Int64} {margin : Int} (low : 0 ≤ margin) :
    (∃ word : Int64, word.toInt = origin.toInt + margin.tdiv 2) ↔
      origin.toInt + margin / 2 < 2 ^ 63 := by
  have least := origin.le_toInt
  rw [Int.tdiv_eq_ediv_of_nonneg low]
  constructor
  · intro found
    obtain ⟨word, same⟩ := found
    rw [← same]
    exact word.toInt_lt
  · intro fits
    obtain ⟨word, found⟩ := @exists_wordOf (origin.toInt + margin / 2) |>.mpr ⟨by omega, fits⟩
    exact ⟨word, wordOf_eq_some.mp found⟩

theorem containable_iff {destination : FixedRect} (wide : 0 < destination.width.toInt)
    (tall : 0 < destination.height.toInt) {source : MediaSource} (nonzero : source.Nonzero) :
    (∃ quad, fitSource destination source .contain = some quad) ↔
      source.DisplayFits ∧ Containable destination source := by
  obtain ⟨narrower, lower, -⟩ := @contain_extents source destination.width.toInt
    destination.height.toInt nonzero
  have across := @moved_origin destination.x _ (Int.sub_nonneg.mpr narrower)
  have down := @moved_origin destination.y _ (Int.sub_nonneg.mpr lower)
  unfold fitSource Containable
  simp only [fitQuad_eq_some wide tall]
  rw [← across, ← down]
  constructor
  · intro found
    obtain ⟨quad, -, fits, some_wide, some_tall, placed⟩ := found
    exact ⟨fits, some_wide, some_tall, ⟨quad.x, placed.x⟩, ⟨quad.y, placed.y⟩⟩
  · intro held
    obtain ⟨fits, some_wide, some_tall, ⟨x, xSame⟩, ⟨y, ySame⟩⟩ := held
    have widthHigh := destination.width.toInt_lt
    have heightHigh := destination.height.toInt_lt
    obtain ⟨width, widthWord⟩ := exists_wordOf.mpr ⟨by omega, lt_of_le_of_lt narrower widthHigh⟩
    obtain ⟨height, heightWord⟩ := exists_wordOf.mpr ⟨by omega, lt_of_le_of_lt lower heightHigh⟩
    exact ⟨⟨x, y, width, height⟩, nonzero, fits, some_wide, some_tall,
      ⟨wordOf_eq_some.mp widthWord, wordOf_eq_some.mp heightWord, xSame, ySame⟩⟩

/-- Where the far edges of the destination are words, so is the origin of every quad
inside it. -/
theorem containable_within_words {destination : FixedRect} (wide : 0 < destination.width.toInt)
    (tall : 0 < destination.height.toInt) {source : MediaSource} (nonzero : source.Nonzero)
    (right : destination.x.toInt + destination.width.toInt < 2 ^ 63)
    (bottom : destination.y.toInt + destination.height.toInt < 2 ^ 63) :
    let extents := source.extents destination.width.toInt destination.height.toInt .contain
    (∃ quad, fitSource destination source .contain = some quad) ↔
      source.DisplayFits ∧ 1 ≤ extents.1 ∧ 1 ≤ extents.2 := by
  intro extents
  rw [containable_iff wide tall nonzero]
  unfold Containable
  constructor
  · rintro ⟨fits, some_wide, some_tall, -⟩
    exact ⟨fits, some_wide, some_tall⟩
  · rintro ⟨fits, some_wide, some_tall⟩
    have across : destination.x.toInt + (destination.width.toInt - extents.1) / 2 < 2 ^ 63 := by
      omega
    have down : destination.y.toInt + (destination.height.toInt - extents.2) / 2 < 2 ^ 63 := by
      omega
    exact ⟨fits, some_wide, some_tall, across, down⟩

theorem fit_of_every_size {destination : FixedRect} (wide : 0 < destination.width.toInt)
    (tall : 0 < destination.height.toInt) {source : MediaSource} (nonzero : source.Nonzero) :
    (∀ quad, fitSource destination source .contain = some quad →
        Contained quad destination source) ∧
      (∀ quad, fitSource destination source .cover = some quad → Covering quad destination) ∧
      (∀ quad, fitSource destination source .fill = some quad → quad = destination) ∧
      ((∃ quad, fitSource destination source .contain = some quad) ↔
        source.DisplayFits ∧ Containable destination source) :=
  ⟨fun _ fitted => contained_of_fit wide tall fitted,
    fun _ fitted => covering_of_fit wide tall fitted,
    fun _ fitted => filled_of_fit wide tall fitted, containable_iff wide tall nonzero⟩

theorem fit_of_every_size_wide :
    fitSource ⟨0, 0, 400, 400⟩ ⟨200, 100, 1, 1⟩ .contain = some ⟨0, 100, 400, 200⟩ ∧
      Contained ⟨0, 100, 400, 200⟩ ⟨0, 0, 400, 400⟩ ⟨200, 100, 1, 1⟩ := by
  have nonzero : MediaSource.Nonzero ⟨200, 100, 1, 1⟩ :=
    ⟨by decide, by decide, by decide, by decide⟩
  have results := @fit_of_every_size ⟨0, 0, 400, 400⟩ (by decide) (by decide)
    ⟨200, 100, 1, 1⟩ nonzero
  have fitted : fitSource ⟨0, 0, 400, 400⟩ ⟨200, 100, 1, 1⟩ .contain =
      some ⟨0, 100, 400, 200⟩ := by decide +kernel
  exact ⟨fitted, results.1 _ fitted⟩

/-- A third of a pixel's width is no whole number of units, so the height of the quad
is not rounded from the exact shape.  Near the end of the words the margin alone
leaves them. -/
theorem fit_not_exact :
    (∃ quad, fitSource ⟨0, 0, 2 ^ 42, 2 ^ 44⟩ ⟨1, 1, 1, 3⟩ .contain = some quad ∧
        ¬ (quad.width.toInt = 2 ^ 42 ∧
              quad.height.toInt = MediaSource.exactHeight ⟨1, 1, 1, 3⟩ (2 ^ 42) ∨
            quad.height.toInt = 2 ^ 44 ∧
              quad.width.toInt = MediaSource.exactWidth ⟨1, 1, 1, 3⟩ (2 ^ 44))) ∧
      MediaSource.DisplayFits ⟨1, 1, 1, 1⟩ ∧
      MediaSource.extents ⟨1, 1, 1, 1⟩ 4 2 .contain = (2, 2) ∧
      fitSource ⟨2 ^ 63 - 1, 0, 4, 2⟩ ⟨1, 1, 1, 1⟩ .contain = none := by
  refine ⟨⟨⟨0, 2199023254016, 2 ^ 42, 13194139536384⟩, by decide +kernel, by decide +kernel⟩,
    ⟨by decide, by decide⟩, by decide, by decide +kernel⟩

end VividProtocol.Geometry

import Mathlib.Tactic
import VividProtocol.Geometry.Fit

/-!
# The far edges of projected and fitted rectangles

A map that is read has far edges that are words.  The projection scales origin
and extent apart, and a fit moves the origin, so the sum is a word again only
under a condition on the map, the target and the source.
-/

set_option autoImplicit false

namespace VividProtocol.Geometry

open VividProtocol.Library.Result
open VividProtocol.Library.SignedWords
open VividProtocol.Retained (Fit)

/-! ## Words -/

theorem isWord_toInt (word : Int64) : IsWord word.toInt := ⟨word.le_toInt, word.toInt_lt⟩

theorem exists_exact {box : Box} : (∃ rect : FixedRect, rect.exact = box) ↔ box.InWords := by
  constructor
  · intro found
    obtain ⟨rect, rfl⟩ := found
    exact ⟨isWord_toInt _, isWord_toInt _, isWord_toInt _, isWord_toInt _⟩
  · intro held
    obtain ⟨xWord, yWord, widthWord, heightWord⟩ := held
    obtain ⟨x, xSame⟩ := exists_wordOf.mpr xWord
    obtain ⟨y, ySame⟩ := exists_wordOf.mpr yWord
    obtain ⟨width, widthSame⟩ := exists_wordOf.mpr widthWord
    obtain ⟨height, heightSame⟩ := exists_wordOf.mpr heightWord
    refine ⟨⟨x, y, width, height⟩, ?_⟩
    simp only [FixedRect.exact, wordOf_eq_some.mp xSame, wordOf_eq_some.mp ySame,
      wordOf_eq_some.mp widthSame, wordOf_eq_some.mp heightSame]

/-! ## What is read -/

theorem orInvalid_eq_ok {α : Type} {schema reason : String} {key : UInt64} {part : Option α}
    {value : α} : orInvalid schema key reason part = .ok value ↔ part = some value := by
  cases part <;> simp [orInvalid]

theorem checkedEdges_eq_ok {rect : FixedRect} {schema : String} {x y width height : UInt64} :
    rect.checkedEdges schema x y width height = .ok () ↔
      0 < rect.width.toInt ∧ 0 < rect.height.toInt ∧ rect.EdgesFit := by
  have zero : (0 : Int64).toInt = 0 := rfl
  have right : (∃ word, signedAdd rect.x rect.width = some word) ↔
      IsWord (rect.x.toInt + rect.width.toInt) := exists_wordOf
  have bottom : (∃ word, signedAdd rect.y rect.height = some word) ↔
      IsWord (rect.y.toInt + rect.height.toInt) := exists_wordOf
  rw [FixedRect.checkedEdges, ite_error_eq_ok_iff, ite_error_eq_ok_iff, Int64.le_iff_toInt_le,
    Int64.le_iff_toInt_le, zero, Int.not_le, Int.not_le, FixedRect.EdgesFit, ← right, ← bottom]
  simp only [bind_eq_ok_iff, orInvalid_eq_ok, and_true, exists_and_right]

theorem decodeClip_edges {map : PayloadMap} {clip : FixedRect}
    (decoded : decodeClip map = .ok clip) :
    0 < clip.width.toInt ∧ 0 < clip.height.toInt ∧ clip.EdgesFit := by
  unfold decodeClip at decoded
  obtain ⟨strict, -, decoded⟩ := bind_eq_ok_iff.mp decoded
  obtain ⟨x, -, decoded⟩ := bind_eq_ok_iff.mp decoded
  obtain ⟨y, -, decoded⟩ := bind_eq_ok_iff.mp decoded
  obtain ⟨width, -, decoded⟩ := bind_eq_ok_iff.mp decoded
  obtain ⟨height, -, decoded⟩ := bind_eq_ok_iff.mp decoded
  dsimp only at decoded
  obtain ⟨done, checked, decoded⟩ := bind_eq_ok_iff.mp decoded
  rw [← Except.ok.inj decoded]
  exact checkedEdges_eq_ok.mp checked

theorem toInt_saturatingAdd {left right : Int64} (fits : IsWord (left.toInt + right.toInt)) :
    (NodeGeometry.saturatingAdd left right).toInt = left.toInt + right.toInt := by
  have least : Int64.minValue.toInt = -2 ^ 63 := rfl
  have most : Int64.maxValue.toInt = 2 ^ 63 - 1 := rfl
  obtain ⟨low, high⟩ := fits
  exact Int64.toInt_ofIntClamp (by omega) (by omega)

/-- The rectangle of a node has extents and far edges, and a normalized one is a
part of the unit square. -/
theorem decode_edges {map : PayloadMap} {geometry : NodeGeometry}
    (decoded : NodeGeometry.decode map = .ok geometry) :
    (0 < geometry.rect.width.toInt ∧ 0 < geometry.rect.height.toInt ∧ geometry.rect.EdgesFit) ∧
      (geometry.space = .normalizedTarget →
        0 ≤ geometry.rect.x.toInt ∧ 0 ≤ geometry.rect.y.toInt ∧
          geometry.rect.x.toInt + geometry.rect.width.toInt ≤ 2 ^ 32 ∧
          geometry.rect.y.toInt + geometry.rect.height.toInt ≤ 2 ^ 32) := by
  unfold NodeGeometry.decode at decoded
  obtain ⟨strict, -, decoded⟩ := bind_eq_ok_iff.mp decoded
  obtain ⟨number, -, decoded⟩ := bind_eq_ok_iff.mp decoded
  obtain ⟨space, -, decoded⟩ := bind_eq_ok_iff.mp decoded
  obtain ⟨x, -, decoded⟩ := bind_eq_ok_iff.mp decoded
  obtain ⟨y, -, decoded⟩ := bind_eq_ok_iff.mp decoded
  obtain ⟨width, -, decoded⟩ := bind_eq_ok_iff.mp decoded
  obtain ⟨height, -, decoded⟩ := bind_eq_ok_iff.mp decoded
  dsimp only at decoded
  obtain ⟨done, checked, decoded⟩ := bind_eq_ok_iff.mp decoded
  obtain ⟨inside, decoded⟩ := ite_error_eq_ok_iff.mp decoded
  have edges := checkedEdges_eq_ok.mp checked
  rw [← Except.ok.inj decoded]
  refine ⟨edges, fun normalized => ?_⟩
  have zero : (0 : Int64).toInt = 0 := rfl
  have unit : ¬ (x < 0 ∨ y < 0 ∨ FIXED_ONE < NodeGeometry.saturatingAdd x width ∨
      FIXED_ONE < NodeGeometry.saturatingAdd y height) := fun leaves => inside ⟨normalized, leaves⟩
  simp only [not_or, Int64.lt_iff_toInt_lt, toInt_saturatingAdd edges.2.2.1,
    toInt_saturatingAdd edges.2.2.2, zero, toInt_fixedOne, Int.not_lt] at unit
  exact unit

/-! ## Projection -/

/-- The projection over the integers. -/
def NodeGeometry.exactProjection (geometry : NodeGeometry) (target : TargetExtent) : Box :=
  match geometry.space with
  | .targetLogical => geometry.rect.exact
  | .normalizedTarget =>
      ⟨geometry.rect.x.toInt * target.width.toNat, geometry.rect.y.toInt * target.height.toNat,
        geometry.rect.width.toInt * target.width.toNat,
        geometry.rect.height.toInt * target.height.toNat⟩

/-- The rectangle lies on the target. -/
def OnTarget (rect : FixedRect) (target : TargetExtent) : Prop :=
  0 ≤ rect.x.toInt ∧ rect.x.toInt + rect.width.toInt ≤ target.width.toNat * 2 ^ 32 ∧
    0 ≤ rect.y.toInt ∧ rect.y.toInt + rect.height.toInt ≤ target.height.toNat * 2 ^ 32

theorem positive_eq_ok {value word : Int64} {key : UInt64} :
    positive value key = .ok word ↔ word = value ∧ 0 < value.toInt := by
  have zero : (0 : Int64).toInt = 0 := rfl
  rw [positive, ite_error_eq_ok_iff, Int64.le_iff_toInt_le, zero, Int.not_le, Except.ok.injEq]
  constructor
  · intro held
    exact ⟨held.2.symm, held.1⟩
  · intro held
    exact ⟨held.2, held.1.symm⟩

theorem scaleNormalized_eq_ok {value extent word : Int64} :
    scaleNormalized value extent = .ok word ↔ word.toInt = value.toInt * extent.toInt := by
  rw [scaleNormalized, orInvalid_eq_ok, signedMul_eq_some]

theorem project_eq_ok {geometry : NodeGeometry} {target : TargetExtent} {rect : FixedRect}
    (wide : 0 < geometry.rect.width.toInt) (tall : 0 < geometry.rect.height.toInt) :
    geometry.project target = .ok rect ↔
      rect.exact = geometry.exactProjection target ∧ 0 < rect.width.toInt ∧
        0 < rect.height.toInt := by
  unfold NodeGeometry.project NodeGeometry.exactProjection
  cases geometry.space with
  | targetLogical =>
      dsimp only
      rw [Except.ok.injEq]
      constructor
      · intro same
        rw [← same]
        exact ⟨rfl, wide, tall⟩
      · intro held
        exact (exact_inj.mp held.1).symm
  | normalizedTarget =>
      dsimp only
      simp only [bind_eq_ok_iff, scaleNormalized_eq_ok, positive_eq_ok, toInt_wordOfUInt32,
        exact_eq_iff, Except.ok.injEq]
      constructor
      · intro found
        obtain ⟨x, xSame, y, ySame, width, widthSame, _, ⟨rfl, someWide⟩, height, heightSame, _,
          ⟨rfl, someTall⟩, rfl⟩ := found
        exact ⟨⟨xSame, ySame, widthSame, heightSame⟩, someWide, someTall⟩
      · intro held
        obtain ⟨⟨xSame, ySame, widthSame, heightSame⟩, someWide, someTall⟩ := held
        exact ⟨rect.x, xSame, rect.y, ySame, rect.width, widthSame, rect.width, ⟨rfl, someWide⟩,
          rect.height, heightSame, rect.height, ⟨rfl, someTall⟩, rfl⟩

/-! ## Intersection -/

theorem intersect_eq_none {first second : FixedRect} (firstFits : first.EdgesFit)
    (secondFits : second.EdgesFit) :
    intersect first second = none ↔ ¬ ∃ x y, first.exact.Has x y ∧ second.exact.Has x y := by
  obtain ⟨firstRight, firstRightWord⟩ := exists_wordOf.mpr firstFits.1
  obtain ⟨firstBottom, firstBottomWord⟩ := exists_wordOf.mpr firstFits.2
  obtain ⟨secondRight, secondRightWord⟩ := exists_wordOf.mpr secondFits.1
  obtain ⟨secondBottom, secondBottomWord⟩ := exists_wordOf.mpr secondFits.2
  have firstRightSame := wordOf_eq_some.mp firstRightWord
  have firstBottomSame := wordOf_eq_some.mp firstBottomWord
  have secondRightSame := wordOf_eq_some.mp secondRightWord
  have secondBottomSame := wordOf_eq_some.mp secondBottomWord
  have shape : intersect first second = none ↔
      min firstRight secondRight ≤ max first.x second.x ∨
        min firstBottom secondBottom ≤ max first.y second.y := by
    rw [intersect, signedAdd, firstRightWord, Option.bind_eq_bind, Option.bind_some, signedAdd,
      secondRightWord, Option.bind_some, signedAdd, firstBottomWord, Option.bind_some, signedAdd,
      secondBottomWord, Option.bind_some]
    dsimp only
    split_ifs with empty
    · simp [empty]
    · simp [empty]
  rw [shape, Int64.le_iff_toInt_le, Int64.le_iff_toInt_le, toInt_min, toInt_max, toInt_min,
    toInt_max, firstRightSame, secondRightSame, firstBottomSame, secondBottomSame]
  unfold Box.Has FixedRect.exact
  dsimp only
  constructor
  · intro empty shared
    obtain ⟨x, y, inFirst, inSecond⟩ := shared
    omega
  · intro apart
    by_contra open_middle
    refine apart ⟨max first.x.toInt second.x.toInt, max first.y.toInt second.y.toInt, ?_, ?_⟩
    · omega
    · omega

/-! ## Fitting -/

/-- The fit over the integers, in an exact rectangle. -/
def MediaSource.exactFit (source : MediaSource) (box : Box) (fit : Fit) : Box :=
  let extents := source.extents box.width box.height fit
  ⟨box.x + (box.width - extents.1).tdiv 2, box.y + (box.height - extents.2).tdiv 2, extents.1,
    extents.2⟩

theorem fitSource_eq_some {destination quad : FixedRect} {source : MediaSource} {fit : Fit}
    (wide : 0 < destination.width.toInt) (tall : 0 < destination.height.toInt) :
    fitSource destination source fit = some quad ↔
      source.Nonzero ∧ source.DisplayFits ∧ 0 < (source.exactFit destination.exact fit).width ∧
        0 < (source.exactFit destination.exact fit).height ∧
        quad.exact = source.exactFit destination.exact fit := by
  have placed : Placed destination
      (source.extents destination.width.toInt destination.height.toInt fit) quad ↔
        quad.exact = source.exactFit destination.exact fit := by
    rw [exact_eq_iff]
    constructor
    · intro held
      exact ⟨held.x, held.y, held.width, held.height⟩
    · intro held
      exact ⟨held.2.2.1, held.2.2.2, held.1, held.2.1⟩
  rw [← placed]
  exact fitQuad_eq_some wide tall

/-- How far the inner extent is longer than the outer one. -/
def overhang (outer inner : Int) : Int := max 0 (inner - outer)

/-- A centred extent ends half its overhang, rounded up, past the edge of the other. -/
theorem far_edge_lt {origin outer inner : Int} (edge : origin + outer < 2 ^ 63) :
    origin + (outer - inner).tdiv 2 + inner < 2 ^ 63 ↔
      origin + outer + (overhang outer inner + 1) / 2 < 2 ^ 63 := by
  rw [half_eq, overhang]
  split_ifs with narrower
  · rw [max_eq_left (by omega)]
    omega
  · rw [max_eq_right (by omega)]
    omega

/-! ## The whole way -/

/-- The checked steps of the projection give this rectangle. -/
def Lands (box : Box) : Prop := box.InWords ∧ 0 < box.width ∧ 0 < box.height

/-- The checked steps of the fit give a quad in this rectangle. -/
def Drawn (source : MediaSource) (box : Box) (fit : Fit) : Prop :=
  source.Nonzero ∧ source.DisplayFits ∧ Lands (source.exactFit box fit)

/-- Where the steps give their rectangles, the far edges of the projection are words,
and so are these edges moved by half the overhang of the quad. -/
def StaysInWords (geometry : NodeGeometry) (target : TargetExtent) (source : MediaSource)
    (fit : Fit) : Prop :=
  let box := geometry.exactProjection target
  let extents := source.extents box.width box.height fit
  Lands box →
    box.x + box.width < 2 ^ 63 ∧ box.y + box.height < 2 ^ 63 ∧
      (Drawn source box fit →
        box.x + box.width + (overhang box.width extents.1 + 1) / 2 < 2 ^ 63 ∧
          box.y + box.height + (overhang box.height extents.2 + 1) / 2 < 2 ^ 63)

/-- What is handed downstream: the projection, the quad in it, and its part in a clip. -/
def CannotWrap (geometry : NodeGeometry) (target : TargetExtent) (source : MediaSource) (fit : Fit)
    (clip : FixedRect) : Prop :=
  ∀ rect, geometry.project target = .ok rect →
    rect.EdgesFit ∧ (geometry.space = .normalizedTarget → OnTarget rect target) ∧
      ∀ quad, fitSource rect source fit = some quad →
        quad.EdgesFit ∧
          (intersect quad clip = none → ¬ ∃ x y, quad.exact.Has x y ∧ clip.exact.Has x y)

theorem onTarget_of_unit {geometry : NodeGeometry} {target : TargetExtent} {rect : FixedRect}
    (normalized : geometry.space = .normalizedTarget)
    (unit : 0 ≤ geometry.rect.x.toInt ∧ 0 ≤ geometry.rect.y.toInt ∧
      geometry.rect.x.toInt + geometry.rect.width.toInt ≤ 2 ^ 32 ∧
      geometry.rect.y.toInt + geometry.rect.height.toInt ≤ 2 ^ 32)
    (same : rect.exact = geometry.exactProjection target) : OnTarget rect target := by
  rw [NodeGeometry.exactProjection, normalized, exact_eq_iff] at same
  obtain ⟨x, y, width, height⟩ := same
  obtain ⟨left, top, right, bottom⟩ := unit
  have wide : (0 : Int) ≤ target.width.toNat := Int.natCast_nonneg _
  have tall : (0 : Int) ≤ target.height.toNat := Int.natCast_nonneg _
  unfold OnTarget
  rw [x, y, width, height]
  dsimp only
  refine ⟨Int.mul_nonneg left wide, ?_, Int.mul_nonneg top tall, ?_⟩
  · rw [← Int.add_mul, Int.mul_comm]
    exact Int.mul_le_mul_of_nonneg_left right wide
  · rw [← Int.add_mul, Int.mul_comm]
    exact Int.mul_le_mul_of_nonneg_left bottom tall

theorem cannot_wrap_iff {map clipMap : PayloadMap} {geometry : NodeGeometry} {clip : FixedRect}
    (decoded : NodeGeometry.decode map = .ok geometry) (clipped : decodeClip clipMap = .ok clip)
    (target : TargetExtent) (source : MediaSource) (fit : Fit) :
    CannotWrap geometry target source fit clip ↔ StaysInWords geometry target source fit := by
  obtain ⟨⟨wide, tall, -⟩, unit⟩ := decode_edges decoded
  obtain ⟨-, -, clipFits⟩ := decodeClip_edges clipped
  constructor
  · intro safe lands
    obtain ⟨rect, same⟩ := exists_exact.mpr lands.1
    obtain ⟨-, someWide, someTall⟩ := lands
    rw [← same] at someWide someTall ⊢
    obtain ⟨edges, -, quads⟩ := safe rect ((project_eq_ok wide tall).mpr ⟨same, someWide, someTall⟩)
    refine ⟨edges.1.2, edges.2.2, fun drawn => ?_⟩
    obtain ⟨nonzero, fits, words, quadWide, quadTall⟩ := drawn
    obtain ⟨quad, quadSame⟩ := exists_exact.mpr words
    obtain ⟨quadEdges, -⟩ := quads quad ((fitSource_eq_some someWide someTall).mpr
      ⟨nonzero, fits, quadWide, quadTall, quadSame⟩)
    obtain ⟨x, y, width, height⟩ := exact_eq_iff.mp quadSame
    have right := quadEdges.1.2
    have bottom := quadEdges.2.2
    rw [x, width] at right
    rw [y, height] at bottom
    exact ⟨(far_edge_lt edges.1.2).mp right, (far_edge_lt edges.2.2).mp bottom⟩
  · intro stays rect projected
    obtain ⟨same, someWide, someTall⟩ := (project_eq_ok wide tall).mp projected
    have lands : Lands (geometry.exactProjection target) := by
      rw [← same]
      exact ⟨exists_exact.mp ⟨rect, rfl⟩, someWide, someTall⟩
    have moved := stays lands
    rw [← same] at moved
    obtain ⟨right, bottom, quads⟩ := moved
    have edges : rect.EdgesFit := by
      have xLow := rect.x.le_toInt
      have yLow := rect.y.le_toInt
      exact ⟨⟨by omega, right⟩, by omega, bottom⟩
    refine ⟨edges, fun normalized => onTarget_of_unit normalized (unit normalized) same, ?_⟩
    intro quad fitted
    obtain ⟨nonzero, fits, quadWide, quadTall, quadSame⟩ :=
      (fitSource_eq_some someWide someTall).mp fitted
    obtain ⟨quadRight, quadBottom⟩ :=
      quads ⟨nonzero, fits, exists_exact.mp ⟨quad, quadSame⟩, quadWide, quadTall⟩
    obtain ⟨x, y, width, height⟩ := exact_eq_iff.mp quadSame
    have quadEdges : quad.EdgesFit := by
      have xLow := quad.x.le_toInt
      have yLow := quad.y.le_toInt
      rw [← width] at quadWide
      rw [← height] at quadTall
      refine ⟨⟨by omega, ?_⟩, by omega, ?_⟩
      · rw [x, width]
        exact (far_edge_lt right).mpr quadRight
      · rw [y, height]
        exact (far_edge_lt bottom).mpr quadBottom
    exact ⟨quadEdges, (intersect_eq_none quadEdges clipFits).mp⟩

theorem cannot_wrap_iff_full :
    StaysInWords NodeGeometry.fullTarget ⟨1920, 1080⟩ ⟨16, 9, 1, 1⟩ .contain ∧
      CannotWrap NodeGeometry.fullTarget ⟨1920, 1080⟩ ⟨16, 9, 1, 1⟩ .contain FixedRect.unit := by
  have decoded : NodeGeometry.decode NodeGeometry.fullTarget.encode =
      .ok NodeGeometry.fullTarget := by rfl
  have clipped : decodeClip (encodeClip FixedRect.unit) = .ok FixedRect.unit := by rfl
  have stays : StaysInWords NodeGeometry.fullTarget ⟨1920, 1080⟩ ⟨16, 9, 1, 1⟩ .contain :=
    fun _ => ⟨by decide, by decide, fun _ => by decide⟩
  exact ⟨stays, (cannot_wrap_iff decoded clipped ⟨1920, 1080⟩ ⟨16, 9, 1, 1⟩ .contain).mpr stays⟩

/-- The right half of a target of the greatest width. -/
def rightHalf : NodeGeometry := ⟨.normalizedTarget, 2147483648, 0, 2147483648, FIXED_ONE⟩

/-- Ten units that end at the last word. -/
def lastUnits : FixedRect := ⟨9223372036854775797, 0, 10, 10⟩

/-- The scaled right half ends past the words.  So does a quad that covers the last
units, and no part of it is found in a clip that it covers. -/
theorem edges_wrap :
    (∃ rect, NodeGeometry.decode rightHalf.encode = .ok rightHalf ∧
        decodeClip (encodeClip FixedRect.unit) = .ok FixedRect.unit ∧
        rightHalf.project ⟨4294967295, 1⟩ = .ok rect ∧ ¬ rect.EdgesFit ∧
        ¬ CannotWrap rightHalf ⟨4294967295, 1⟩ ⟨1, 1, 1, 1⟩ .contain FixedRect.unit) ∧
      ∃ quad, NodeGeometry.decode (NodeGeometry.encode ⟨.targetLogical, lastUnits⟩) =
          .ok ⟨.targetLogical, lastUnits⟩ ∧
        decodeClip (encodeClip lastUnits) = .ok lastUnits ∧
        fitSource lastUnits ⟨2, 1, 1, 1⟩ .cover = some quad ∧ ¬ quad.EdgesFit ∧
        intersect quad lastUnits = none ∧
        (∃ x y, quad.exact.Has x y ∧ lastUnits.exact.Has x y) := by
  have wide : ¬ FixedRect.EdgesFit
      ⟨9223372034707292160, 0, 9223372034707292160, FIXED_ONE⟩ :=
    fun held => absurd held.1.2 (by decide)
  refine ⟨⟨⟨9223372034707292160, 0, 9223372034707292160, FIXED_ONE⟩, by rfl, by rfl, by rfl, wide,
    fun safe => wide (safe _ rfl).1⟩, ⟨9223372036854775792, 0, 20, 10⟩, by rfl, by rfl,
    by decide +kernel, fun held => absurd held.1.2 (by decide), by decide +kernel,
    9223372036854775797, 0, ⟨by decide, by decide, by decide, by decide⟩,
    ⟨by decide, by decide, by decide, by decide⟩⟩

end VividProtocol.Geometry

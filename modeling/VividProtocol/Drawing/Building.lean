import Mathlib.Tactic
import VividProtocol.Drawing.Reading

/-!
# Building paths

`PathBuilder` of `vector.rs`.  A coordinate is of any type, and how it is rounded to
a scalar is a parameter.  A chain of calls is a run of the builder, which keeps the
first thing that went wrong.
-/

set_option autoImplicit false

namespace VividProtocol.Drawing

open VividProtocol.Overlay
open VividProtocol.Library.Result
open VividProtocol.Library.Codec

structure PathBuilder where
  segments : List Segment
  evenOdd : Bool
  failed : Option InvalidScene
  deriving Repr, DecidableEq

namespace PathBuilder

/-- `PathBuilder::default`, which `Path::builder` returns. -/
def initial : PathBuilder := { segments := [], evenOdd := false, failed := none }

def fail (builder : PathBuilder) (error : InvalidScene) : PathBuilder :=
  if builder.failed = none then { builder with failed := some error } else builder

def push (builder : PathBuilder) (segment : Segment) : PathBuilder :=
  if MAX_PATH_SEGMENTS ≤ builder.segments.length then
    builder.fail ⟨"path segment limit exceeded"⟩
  else { builder with segments := builder.segments ++ [segment] }

def close (builder : PathBuilder) : PathBuilder := builder.push .close

/-- `even_odd`. -/
def fillEvenOdd (builder : PathBuilder) : PathBuilder := { builder with evenOdd := true }

def build (builder : PathBuilder) : Except InvalidScene Path :=
  match builder.failed with
  | some error => .error error
  | none => do
      let path : Path := { segments := builder.segments, evenOdd := builder.evenOdd }
      path.validate
      .ok path

section Coordinates

variable {F : Type} (scalarNew : F → Except InvalidScene Scalar)

/-- `Point::new`. -/
def pointNew (x y : F) : Except InvalidScene Point := do
  let x ← scalarNew x
  let y ← scalarNew y
  .ok { x := x, y := y }

def point (builder : PathBuilder) (x y : F) (segment : Point → Segment) : PathBuilder :=
  match pointNew scalarNew x y with
  | .ok place => builder.push (segment place)
  | .error error => builder.fail error

def moveTo (builder : PathBuilder) (x y : F) : PathBuilder := builder.point scalarNew x y .move

def lineTo (builder : PathBuilder) (x y : F) : PathBuilder := builder.point scalarNew x y .line

def quadTo (builder : PathBuilder) (cx cy x y : F) : PathBuilder :=
  match pointNew scalarNew cx cy, pointNew scalarNew x y with
  | .ok control, .ok finish => builder.push (.quad control finish)
  | .error error, _ => builder.fail error
  | .ok _, .error error => builder.fail error

def cubicTo (builder : PathBuilder) (ax ay bx by' x y : F) : PathBuilder :=
  match pointNew scalarNew ax ay, pointNew scalarNew bx by', pointNew scalarNew x y with
  | .ok first, .ok second, .ok finish => builder.push (.cubic first second finish)
  | .error error, _, _ => builder.fail error
  | .ok _, .error error, _ => builder.fail error
  | .ok _, .ok _, .error error => builder.fail error

end Coordinates

end PathBuilder

open PathBuilder

/-- A call in a chain. -/
inductive PathCall (F : Type) where
  | moveTo (x y : F)
  | lineTo (x y : F)
  | quadTo (cx cy x y : F)
  | cubicTo (ax ay bx by' x y : F)
  | close
  | evenOdd
  deriving Repr, DecidableEq

section Runs

variable {F : Type} (scalarNew : F → Except InvalidScene Scalar)

def PathBuilder.call (builder : PathBuilder) : PathCall F → PathBuilder
  | .moveTo x y => builder.moveTo scalarNew x y
  | .lineTo x y => builder.lineTo scalarNew x y
  | .quadTo cx cy x y => builder.quadTo scalarNew cx cy x y
  | .cubicTo ax ay bx by' x y => builder.cubicTo scalarNew ax ay bx by' x y
  | .close => builder.close
  | .evenOdd => builder.fillEvenOdd

def PathBuilder.chain (calls : List (PathCall F)) : PathBuilder :=
  calls.foldl (PathBuilder.call scalarNew) initial

/-- The segment that a call stands for, or none if it only sets the rule. -/
def PathCall.drawn : PathCall F → Except InvalidScene (Option Segment)
  | .moveTo x y => do
      let place ← pointNew scalarNew x y
      .ok (some (.move place))
  | .lineTo x y => do
      let place ← pointNew scalarNew x y
      .ok (some (.line place))
  | .quadTo cx cy x y => do
      let control ← pointNew scalarNew cx cy
      let finish ← pointNew scalarNew x y
      .ok (some (.quad control finish))
  | .cubicTo ax ay bx by' x y => do
      let first ← pointNew scalarNew ax ay
      let second ← pointNew scalarNew bx by'
      let finish ← pointNew scalarNew x y
      .ok (some (.cubic first second finish))
  | .close => .ok (some .close)
  | .evenOdd => .ok none

/-- What a builder does with a call. -/
def PathBuilder.take (builder : PathBuilder) : Except InvalidScene (Option Segment) → PathBuilder
  | .ok (some segment) => builder.push segment
  | .ok none => builder.fillEvenOdd
  | .error error => builder.fail error

theorem PathBuilder.call_eq (builder : PathBuilder) (call : PathCall F) :
    builder.call scalarNew call = builder.take (call.drawn scalarNew) := by
  cases call with
  | moveTo x y =>
      simp only [PathBuilder.call, moveTo, point, PathCall.drawn]
      cases pointNew scalarNew x y <;> rfl
  | lineTo x y =>
      simp only [PathBuilder.call, lineTo, point, PathCall.drawn]
      cases pointNew scalarNew x y <;> rfl
  | quadTo cx cy x y =>
      simp only [PathBuilder.call, quadTo, PathCall.drawn]
      cases pointNew scalarNew cx cy <;> cases pointNew scalarNew x y <;> rfl
  | cubicTo ax ay bx by' x y =>
      simp only [PathBuilder.call, cubicTo, PathCall.drawn]
      cases pointNew scalarNew ax ay <;> cases pointNew scalarNew bx by' <;>
        cases pointNew scalarNew x y <;> rfl
  | close => rfl
  | evenOdd => rfl

end Runs

/-! ## Segments that make a path -/

/-- A subpath is open after these segments. -/
def Open (before : List Segment) : Prop :=
  ∃ start place rest, before = start ++ .move place :: rest ∧ Segment.close ∉ rest

/-- What the wire requires: a bounded number of segments, and each of them either
begins a subpath or stands in an open one. -/
structure Path.Drawable (path : Path) : Prop where
  some : path.segments ≠ []
  few : path.segments.length ≤ MAX_PATH_SEGMENTS
  opened : ∀ before segment after, path.segments = before ++ segment :: after →
    (∃ place, segment = .move place) ∨ Open before

/-- A subpath is open after these segments, or was open and is not closed by them. -/
def OpenFrom (opened : Bool) (before : List Segment) : Prop :=
  Open before ∨ opened = true ∧ Segment.close ∉ before

/-- Whether a subpath is open after a segment. -/
def opensAfter (opened : Bool) : Segment → Bool
  | .move _ => true
  | .close => false
  | _ => opened

def IsMove (segment : Segment) : Prop := ∃ place, segment = .move place

theorem open_cons {head : Segment} {before : List Segment} :
    Open (head :: before) ↔ Open before ∨ IsMove head ∧ Segment.close ∉ before := by
  constructor
  · rintro ⟨start, place, rest, split, unclosed⟩
    cases start with
    | nil =>
        obtain ⟨rfl, rfl⟩ := List.cons.inj split
        exact .inr ⟨⟨place, rfl⟩, unclosed⟩
    | cons first start =>
        obtain ⟨rfl, rfl⟩ := List.cons.inj split
        exact .inl ⟨start, place, rest, rfl, unclosed⟩
  · rintro (⟨start, place, rest, rfl, unclosed⟩ | ⟨⟨place, rfl⟩, unclosed⟩)
    · exact ⟨head :: start, place, rest, rfl, unclosed⟩
    · exact ⟨[], place, before, rfl, unclosed⟩

theorem openFrom_nil {opened : Bool} : OpenFrom opened [] ↔ opened = true := by
  unfold OpenFrom Open
  simp

theorem openFrom_cons {opened : Bool} {head : Segment} {before : List Segment} :
    OpenFrom opened (head :: before) ↔ OpenFrom (opensAfter opened head) before := by
  unfold OpenFrom
  rw [open_cons]
  cases head <;> simp [opensAfter, IsMove]
  tauto

theorem validateSegments_cons {opened : Bool} {head : Segment} {rest : List Segment} :
    validateSegments opened (head :: rest) = .ok () ↔
      (IsMove head ∨ opened = true) ∧ validateSegments (opensAfter opened head) rest = .ok () := by
  cases head <;> cases opened <;> simp [validateSegments, IsMove, opensAfter]

/-- The loop accepts the segments that stand in an open subpath or begin one. -/
theorem validateSegments_eq_ok {opened : Bool} {segments : List Segment} :
    validateSegments opened segments = .ok () ↔
      ∀ before segment after, segments = before ++ segment :: after →
        IsMove segment ∨ OpenFrom opened before := by
  induction segments generalizing opened with
  | nil =>
      refine iff_of_true rfl ?_
      intro before segment after split
      cases before <;> cases split
  | cons head rest ih =>
      rw [validateSegments_cons, ih]
      constructor
      · rintro ⟨first, later⟩ before segment after split
        cases before with
        | nil =>
            obtain ⟨rfl, -⟩ := List.cons.inj split
            exact first.imp id openFrom_nil.mpr
        | cons other before =>
            obtain ⟨rfl, tail⟩ := List.cons.inj split
            exact (later before segment after tail).imp id openFrom_cons.mpr
      · intro each
        refine ⟨(each [] head rest rfl).imp id openFrom_nil.mp, ?_⟩
        intro before segment after split
        refine (each (head :: before) segment after ?_).imp id openFrom_cons.mp
        rw [split, List.cons_append]

theorem Path.validate_eq_ok {path : Path} : path.validate = .ok () ↔ path.Drawable := by
  have closed : ∀ before : List Segment, OpenFrom false before ↔ Open before := by
    intro before
    unfold OpenFrom
    simp
  unfold Path.validate
  simp only [ite_error_eq_ok_iff, not_or, not_lt, validateSegments_eq_ok, closed]
  constructor
  · rintro ⟨⟨some, few⟩, opened⟩
    exact ⟨some, few, opened⟩
  · intro drawable
    exact ⟨⟨drawable.some, drawable.few⟩, drawable.opened⟩

/-- A segment is the first one that neither begins a subpath nor stands in an open one. -/
structure FirstMisplaced (before : List Segment) (segment : Segment) : Prop where
  placed : ∀ sooner other later, before = sooner ++ other :: later →
    IsMove other ∨ Open sooner
  begins : ¬ IsMove segment
  opened : ¬ Open before

/-- What is reported of a misplaced segment. -/
def Segment.misplaced : Segment → InvalidScene
  | .close => ⟨"close without a subpath"⟩
  | _ => ⟨"path must begin with move"⟩

theorem validateSegments_error {opened : Bool} {before after : List Segment} {segment : Segment}
    (placed : validateSegments opened before = .ok ()) (begins : ¬ IsMove segment)
    (closed : ¬ OpenFrom opened before) :
    validateSegments opened (before ++ segment :: after) = .error segment.misplaced := by
  induction before generalizing opened with
  | nil =>
      rw [openFrom_nil, Bool.not_eq_true] at closed
      rw [closed]
      cases segment with
      | move place => exact absurd ⟨place, rfl⟩ begins
      | close => rfl
      | line place => rfl
      | quad control place => rfl
      | cubic first second place => rfl
  | cons head rest ih =>
      obtain ⟨fits, placed⟩ := validateSegments_cons.mp placed
      have later := ih placed (openFrom_cons.not.mp closed)
      rw [List.cons_append, ← later]
      rcases fits with ⟨place, rfl⟩ | rfl
      · rfl
      · cases head <;> rfl

theorem Path.validate_error {path : Path} (few : path.segments.length ≤ MAX_PATH_SEGMENTS)
    {before after : List Segment} {segment : Segment}
    (split : path.segments = before ++ segment :: after)
    (first : FirstMisplaced before segment) : path.validate = .error segment.misplaced := by
  have closed : ∀ before : List Segment, OpenFrom false before ↔ Open before := by
    intro before
    simp [OpenFrom]
  have some : path.segments ≠ [] := by
    rw [split]
    exact List.append_ne_nil_of_right_ne_nil _ (List.cons_ne_nil _ _)
  have placed : validateSegments false before = .ok () := by
    refine validateSegments_eq_ok.mpr fun sooner other later cut => ?_
    rw [closed]
    exact first.placed sooner other later cut
  rw [Path.validate, if_neg (not_or.mpr ⟨some, Nat.not_lt.mpr few⟩), split]
  exact validateSegments_error placed first.begins ((closed before).not.mpr first.opened)

/-! ## Chains -/

section Chains

variable {F : Type} {scalarNew : F → Except InvalidScene Scalar}
variable {builder : PathBuilder} {calls : List (PathCall F)} {error : InvalidScene}

namespace PathBuilder

/-- The first failure is kept. -/
theorem failed_call (failed : builder.failed = some error) (call : PathCall F) :
    (builder.call scalarNew call).failed = some error := by
  have kept : ∀ other, (builder.fail other).failed = some error := by
    intro other
    rw [fail, if_neg (by simp [failed]), failed]
  rw [call_eq]
  cases call.drawn scalarNew with
  | error other => exact kept other
  | ok part =>
      cases part with
      | none => exact failed
      | some segment =>
          unfold take push
          dsimp only
          split_ifs
          · exact kept _
          · exact failed

theorem failed_calls (failed : builder.failed = some error) (calls : List (PathCall F)) :
    (calls.foldl (call scalarNew) builder).failed = some error := by
  induction calls generalizing builder with
  | nil => exact failed
  | cons call rest ih => exact ih (failed_call failed call)

theorem build_failed (failed : builder.failed = some error) : builder.build = .error error := by
  unfold build
  rw [failed]

/-- A builder holds no more than can be sent. -/
theorem short_call (short : builder.segments.length ≤ MAX_PATH_SEGMENTS) (call : PathCall F) :
    (builder.call scalarNew call).segments.length ≤ MAX_PATH_SEGMENTS := by
  have kept : ∀ other, (builder.fail other).segments = builder.segments := by
    intro other
    unfold fail
    split_ifs <;> rfl
  rw [call_eq]
  cases call.drawn scalarNew with
  | error other =>
      rw [take, kept]
      exact short
  | ok part =>
      cases part with
      | none => exact short
      | some segment =>
          unfold take push
          dsimp only
          split_ifs with full
          · rw [kept]
            exact short
          · rw [List.length_append, List.length_singleton]
            omega

theorem short_calls (short : builder.segments.length ≤ MAX_PATH_SEGMENTS)
    (calls : List (PathCall F)) :
    (calls.foldl (call scalarNew) builder).segments.length ≤ MAX_PATH_SEGMENTS := by
  induction calls generalizing builder with
  | nil => exact short
  | cons call rest ih => exact ih (short_call short call)

/-- The builder after calls that draw these parts. -/
def extended (builder : PathBuilder) (parts : List (Option Segment)) : PathBuilder :=
  { segments := builder.segments ++ parts.filterMap id
    evenOdd := builder.evenOdd || parts.contains none
    failed := none }

theorem extended_cons (builder : PathBuilder) (part : Option Segment)
    (parts : List (Option Segment)) :
    (builder.extended [part]).extended parts = builder.extended (part :: parts) := by
  unfold extended
  cases part <;> simp

theorem extended_short (builder : PathBuilder) (part : Option Segment)
    (parts : List (Option Segment)) :
    (builder.extended [part]).segments.length ≤
      (builder.extended (part :: parts)).segments.length := by
  cases part <;> simp [extended]

theorem take_ok (sound : builder.failed = none) {part : Option Segment}
    (room : (builder.extended [part]).segments.length ≤ MAX_PATH_SEGMENTS) :
    builder.take (.ok part) = builder.extended [part] := by
  unfold extended at room ⊢
  cases part with
  | none =>
      unfold take fillEvenOdd
      rw [← sound]
      simp
  | some segment =>
      have below : ¬ MAX_PATH_SEGMENTS ≤ builder.segments.length := by
        simp only [List.filterMap_cons, List.filterMap_nil, id, List.length_append,
          List.length_singleton] at room
        omega
      unfold take push
      dsimp only
      rw [if_neg below, ← sound]
      simp

theorem failed_fail (sound : builder.failed = none) (error : InvalidScene) :
    (builder.fail error).failed = some error := by
  rw [fail, if_pos sound]

theorem push_full (sound : builder.failed = none)
    (full : MAX_PATH_SEGMENTS ≤ builder.segments.length) (segment : Segment) :
    (builder.push segment).failed = some ⟨"path segment limit exceeded"⟩ := by
  rw [push, if_pos full, failed_fail sound]

/-- A call after which nothing has gone wrong drew, and there was room. -/
theorem taken_of_sound (sound : builder.failed = none)
    (short : builder.segments.length ≤ MAX_PATH_SEGMENTS)
    {outcome : Except InvalidScene (Option Segment)} (still : (builder.take outcome).failed = none) :
    ∃ part, outcome = .ok part ∧ builder.take (.ok part) = builder.extended [part] := by
  cases outcome with
  | error error =>
      rw [take, failed_fail sound] at still
      cases still
  | ok part =>
      refine ⟨part, rfl, take_ok sound ?_⟩
      cases part with
      | none => simpa [extended] using short
      | some segment =>
          by_contra full
          simp only [extended, List.filterMap_cons, List.filterMap_nil, id, List.length_append,
            List.length_singleton] at full
          rw [take, push_full sound (by omega)] at still
          cases still

/-- Calls that all draw are carried out, as long as there is room. -/
theorem chain_ok (sound : builder.failed = none) {parts : List (Option Segment)}
    (drawn : collect (PathCall.drawn scalarNew) calls = .ok parts)
    (room : (builder.extended parts).segments.length ≤ MAX_PATH_SEGMENTS) :
    calls.foldl (call scalarNew) builder = builder.extended parts := by
  induction calls generalizing builder parts with
  | nil =>
      cases drawn
      cases builder
      cases sound
      simp [extended]
  | cons next rest ih =>
      simp only [collect, bind_eq_ok_iff, Except.ok.injEq] at drawn
      obtain ⟨part, first, others, later, rfl⟩ := drawn
      have taken := take_ok sound ((extended_short builder part others).trans room)
      rw [← extended_cons] at room
      rw [List.foldl_cons, call_eq, first, taken, ih rfl later room, extended_cons]

/-- If nothing went wrong, every call drew and there was room for all. -/
theorem drawn_of_sound (sound : builder.failed = none)
    (short : builder.segments.length ≤ MAX_PATH_SEGMENTS)
    (done : (calls.foldl (call scalarNew) builder).failed = none) :
    ∃ parts, collect (PathCall.drawn scalarNew) calls = .ok parts ∧
      (builder.extended parts).segments.length ≤ MAX_PATH_SEGMENTS := by
  induction calls generalizing builder with
  | nil => exact ⟨[], rfl, by simpa [extended] using short⟩
  | cons next rest ih =>
      rw [List.foldl_cons] at done
      have still : (builder.call scalarNew next).failed = none := by
        by_contra failed
        obtain ⟨error, failed⟩ := Option.ne_none_iff_exists'.mp failed
        rw [failed_calls failed] at done
        cases done
      obtain ⟨others, later, room⟩ := ih still (short_call short next) done
      obtain ⟨part, first, taken⟩ := taken_of_sound sound short
        (call_eq scalarNew builder next ▸ still)
      rw [call_eq, first, taken, extended_cons] at room
      exact ⟨part :: others, by rw [collect, first, ok_bind, later, ok_bind], room⟩

end PathBuilder

/-- The rule is set if some call set it. -/
theorem contains_none {parts : List (Option Segment)}
    (drawn : collect (PathCall.drawn scalarNew) calls = .ok parts) :
    parts.contains none = true ↔ PathCall.evenOdd ∈ calls := by
  have each : ∀ {call : PathCall F}, call.drawn scalarNew = .ok none ↔ call = .evenOdd := by
    intro call
    cases call <;> simp [PathCall.drawn, bind_eq_ok_iff]
  induction calls generalizing parts with
  | nil =>
      cases drawn
      simp
  | cons call rest ih =>
      simp only [collect, bind_eq_ok_iff, Except.ok.injEq] at drawn
      obtain ⟨part, first, others, later, rfl⟩ := drawn
      have head : (none == part) = true ↔ PathCall.evenOdd = call := by
        rw [@eq_comm _ PathCall.evenOdd, ← each, first, beq_iff_eq, Except.ok.injEq]
        exact eq_comm
      rw [List.contains_cons, Bool.or_eq_true, head, List.mem_cons]
      exact or_congr_right (ih later)

/-- What a chain builds: the segments that its calls stand for, in their order. -/
theorem build_eq_ok {path : Path} :
    (chain scalarNew calls).build = .ok path ↔
      ∃ parts, collect (PathCall.drawn scalarNew) calls = .ok parts ∧
        path.segments = parts.filterMap id ∧
        (path.evenOdd = true ↔ PathCall.evenOdd ∈ calls) ∧ path.Drawable := by
  constructor
  · intro built
    cases done : (chain scalarNew calls).failed with
    | some error =>
        rw [build_failed done] at built
        cases built
    | none =>
        obtain ⟨parts, drawn, room⟩ := @drawn_of_sound _ scalarNew initial calls rfl
          (Nat.zero_le _) done
        have whole : chain scalarNew calls = initial.extended parts := chain_ok rfl drawn room
        rw [whole, build] at built
        simp only [extended, bind_eq_ok_iff, Except.ok.injEq] at built
        obtain ⟨_, valid, rfl⟩ := built
        refine ⟨parts, drawn, rfl, ?_, Path.validate_eq_ok.mp valid⟩
        rw [← contains_none drawn]
        rfl
  · rintro ⟨parts, drawn, segments, rule, drawable⟩
    have room : (initial.extended parts).segments.length ≤ MAX_PATH_SEGMENTS := by
      have few := drawable.few
      rw [segments] at few
      exact few
    have whole : chain scalarNew calls = initial.extended parts := chain_ok rfl drawn room
    have same : (initial.extended parts).evenOdd = path.evenOdd := by
      rw [Bool.eq_iff_iff, rule, ← contains_none drawn]
      rfl
    have made : path = ⟨(initial.extended parts).segments, (initial.extended parts).evenOdd⟩ := by
      rw [same]
      exact congrArg (Path.mk · path.evenOdd) segments
    have valid := Path.validate_eq_ok.mpr drawable
    rw [whole, build]
    dsimp only [extended] at made ⊢
    rw [← made, valid]
    rfl

/-- A builder that failed at nothing reports what its path fails. -/
theorem build_invalid {parts : List (Option Segment)}
    (drawn : collect (PathCall.drawn scalarNew) calls = .ok parts)
    (room : (parts.filterMap id).length ≤ MAX_PATH_SEGMENTS)
    (invalid : ∀ evenOdd, (Path.mk (parts.filterMap id) evenOdd).validate = .error error) :
    (chain scalarNew calls).build = .error error := by
  have whole : chain scalarNew calls = initial.extended parts := chain_ok rfl drawn room
  rw [whole, build]
  dsimp only [extended]
  rw [show initial.segments ++ parts.filterMap id = parts.filterMap id from rfl, invalid]
  rfl

/-- After calls that drew, a call that goes wrong is what is reported. -/
theorem build_reports {before after : List (PathCall F)} {call : PathCall F}
    {parts : List (Option Segment)}
    (drawn : collect (PathCall.drawn scalarNew) before = .ok parts)
    (room : (parts.filterMap id).length ≤ MAX_PATH_SEGMENTS)
    (wrong : ((initial.extended parts).take (call.drawn scalarNew)).failed = some error) :
    (chain scalarNew (before ++ call :: after)).build = .error error := by
  have whole : before.foldl (PathBuilder.call scalarNew) initial = initial.extended parts :=
    chain_ok rfl drawn room
  refine build_failed ?_
  unfold chain
  rw [List.foldl_append, List.foldl_cons, whole, call_eq]
  exact failed_calls wrong after

end Chains

/-- A chain of calls builds the path of the segments they stand for if no coordinate is
refused and these segments are a path, and the path is read back from its own value.
Otherwise the first call that went wrong is reported, whatever follows it, or where none
did, the first segment that is out of place.  The builder never holds more segments than
can be sent. -/
theorem path_builder_exact {F : Type} (scalarNew : F → Except InvalidScene Scalar)
    (calls : List (PathCall F)) :
    (∀ path, (chain scalarNew calls).build = .ok path ↔
      ∃ parts, collect (PathCall.drawn scalarNew) calls = .ok parts ∧
        path.segments = parts.filterMap id ∧
        (path.evenOdd = true ↔ PathCall.evenOdd ∈ calls) ∧ path.Drawable) ∧
    (∀ path, (chain scalarNew calls).build = .ok path → parsePath (pathValue path) = .ok path) ∧
    (∀ before call after parts, calls = before ++ call :: after →
      collect (PathCall.drawn scalarNew) before = .ok parts →
      (∀ error, (parts.filterMap id).length ≤ MAX_PATH_SEGMENTS →
        call.drawn scalarNew = .error error → (chain scalarNew calls).build = .error error) ∧
      ∀ segment, (parts.filterMap id).length = MAX_PATH_SEGMENTS →
        call.drawn scalarNew = .ok (some segment) →
        (chain scalarNew calls).build = .error ⟨"path segment limit exceeded"⟩) ∧
    (∀ parts, collect (PathCall.drawn scalarNew) calls = .ok parts →
      (parts.filterMap id).length ≤ MAX_PATH_SEGMENTS →
      (parts.filterMap id = [] →
        (chain scalarNew calls).build = .error ⟨"path segment limit exceeded"⟩) ∧
      ∀ before segment after, parts.filterMap id = before ++ segment :: after →
        FirstMisplaced before segment →
        (chain scalarNew calls).build = .error segment.misplaced) ∧
    (chain scalarNew calls).segments.length ≤ MAX_PATH_SEGMENTS := by
  refine ⟨fun path => build_eq_ok, ?_, ?_, ?_, short_calls (Nat.zero_le _) calls⟩
  · intro path built
    obtain ⟨parts, -, -, -, drawable⟩ := build_eq_ok.mp built
    exact parsePath_written drawable.few
  · rintro before call after parts rfl drawn
    constructor
    · intro error room refused
      refine build_reports drawn room ?_
      rw [refused]
      exact failed_fail rfl error
    · intro segment full more
      refine build_reports drawn full.le ?_
      rw [more]
      exact push_full rfl full.ge segment
  · intro parts drawn room
    constructor
    · intro empty
      refine build_invalid drawn room fun evenOdd => ?_
      rw [empty]
      rfl
    · intro before segment after split first
      exact build_invalid drawn room fun evenOdd => Path.validate_error room split first

/-- A triangle, its coordinates in units. -/
def triangle : List (PathCall Int) :=
  [.moveTo 0 0, .lineTo 5 0, .lineTo 0 5, .close, .evenOdd]

theorem path_builder_exact_triangle :
    ∃ path, (chain Scalar.new triangle).build = .ok path ∧
      parsePath (pathValue path) = .ok path := by
  obtain ⟨path, built⟩ : ∃ path, (chain Scalar.new triangle).build = .ok path := ⟨_, rfl⟩
  exact ⟨path, built, (path_builder_exact Scalar.new triangle).2.1 path built⟩

end VividProtocol.Drawing

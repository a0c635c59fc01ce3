import Mathlib.Tactic
import VividProtocol.Library.Transition
import VividProtocol.Desktop.Target

/-!
# Target generations

`DesktopTargetState` of `target.rs` and the reason mask of a change.  The mask
compares the output IDs as lists and says nothing of primary outputs, so it is
truthful except where outputs are reordered or only their primary flags change.
-/

set_option autoImplicit false

namespace VividProtocol.Desktop

open VividProtocol.Library.Result
open VividProtocol.Library.Transition

def VIRTUAL_BOUNDS : UInt64 := 1
def OUTPUT_SET : UInt64 := 2
def OUTPUT_GEOMETRY : UInt64 := 4
def SCALE_OR_ROTATION : UInt64 := 8

/-! ## The mask -/

namespace OutputDescriptor

/-- The outputs differ in place or extent. -/
def Moved (before output : OutputDescriptor) : Prop :=
  before.originX ≠ output.originX ∨ before.originY ≠ output.originY ∨
    before.width ≠ output.width ∨ before.height ≠ output.height

def Scaled (before output : OutputDescriptor) : Prop :=
  before.scaleNumerator ≠ output.scaleNumerator ∨
    before.scaleDenominator ≠ output.scaleDenominator ∨ before.rotation ≠ output.rotation

instance (before output : OutputDescriptor) : Decidable (Moved before output) :=
  inferInstanceAs (Decidable (_ ∨ _ ∨ _ ∨ _))

instance (before output : OutputDescriptor) : Decidable (Scaled before output) :=
  inferInstanceAs (Decidable (_ ∨ _ ∨ _))

end OutputDescriptor

namespace DesktopTarget

def Resized (previous target : DesktopTarget) : Prop :=
  target.originX ≠ previous.originX ∨ target.originY ≠ previous.originY ∨
    target.width ≠ previous.width ∨ target.height ≠ previous.height

instance (previous target : DesktopTarget) : Decidable (Resized previous target) :=
  inferInstanceAs (Decidable (_ ∨ _ ∨ _ ∨ _))

def outputIds (target : DesktopTarget) : List UInt64 :=
  target.outputs.map OutputDescriptor.outputId

/-- The output that `previous` had under the same ID. -/
def find (previous : DesktopTarget) (output : OutputDescriptor) : Option OutputDescriptor :=
  previous.outputs.find? fun candidate => decide (candidate.outputId = output.outputId)

/-- One turn of the loop over the outputs. -/
def outputReason (previous : DesktopTarget) (mask : UInt64) (output : OutputDescriptor) : UInt64 :=
  match previous.find output with
  | none => mask
  | some before =>
      let mask := if before.Moved output then mask ||| OUTPUT_GEOMETRY else mask
      if before.Scaled output then mask ||| SCALE_OR_ROTATION else mask

def reasonAgainst (target previous : DesktopTarget) : UInt64 :=
  let mask := if Resized previous target then VIRTUAL_BOUNDS else 0
  let mask := if previous.outputIds ≠ target.outputIds then mask ||| OUTPUT_SET else mask
  target.outputs.foldl previous.outputReason mask

end DesktopTarget

/-! ## The state -/

inductive TargetTransition where
  | unchanged
  | settled (generation : TargetGeneration)
  | advanced (generation : TargetGeneration) (reason : UInt64)
  deriving Repr, DecidableEq

structure DesktopTargetState where
  current : DesktopTarget
  generation : TargetGeneration
  deriving Repr, DecidableEq

namespace DesktopTargetState

def new (target : DesktopTarget) : Except MessageError DesktopTargetState := do
  target.validate
  .ok { current := target, generation := .one }

/-- The part of `offer` for a descriptor that differs. -/
def offerChanged (state : DesktopTargetState) (next : DesktopTarget) :
    Except MessageError (TargetTransition × DesktopTargetState) :=
  let normalized := { next with settled := state.current.settled }
  if normalized = state.current ∧ state.current.settled = false ∧ next.settled = true then
    .ok (.settled state.generation, { state with current := next })
  else do
    let reason := next.reasonAgainst state.current
    let generation ← orInvalid "desktop target" 6 "target generation is exhausted"
      state.generation.advance
    .ok (.advanced generation reason, { current := next, generation := generation })

def offer (state : DesktopTargetState) (next : DesktopTarget) :
    Except MessageError (TargetTransition × DesktopTargetState) := do
  next.validate
  if next = state.current then .ok (.unchanged, state) else state.offerChanged next

end DesktopTargetState

def offerMachine : Machine DesktopTargetState DesktopTarget (Except MessageError TargetTransition) where
  step state next := commit state (state.offer next)

abbrev OfferEvent :=
  Event DesktopTargetState DesktopTarget (Except MessageError TargetTransition)

/-! ## The bits of the mask -/

instance (value mask : UInt64) : Decidable (Meets value mask) := inferInstanceAs (Decidable (_ ≠ _))

section Bits

variable {mask bits : UInt64} {previous target : DesktopTarget} {output : OutputDescriptor}

theorem meets_ite {held : Prop} [Decidable held] {value : UInt64} :
    Meets (if held then value else 0) bits ↔ held ∧ Meets value bits := by
  by_cases so : held
  · rw [if_pos so]
    exact (and_iff_right so).symm
  · rw [if_neg so]
    exact iff_of_false (not_meets_zero bits) fun both => so both.1

theorem meets_all : Meets mask (~~~ 0) ↔ mask ≠ 0 := by
  unfold Meets
  rw [UInt64.not_zero, UInt64.and_neg_one]

/-- The output had another place, or another scale, under its ID. -/
def Found (differs : OutputDescriptor → OutputDescriptor → Prop) (previous : DesktopTarget)
    (output : OutputDescriptor) : Prop :=
  ∃ before, previous.find output = some before ∧ differs before output

theorem meets_outputReason :
    Meets (previous.outputReason mask output) bits ↔ Meets mask bits ∨
      (Found OutputDescriptor.Moved previous output ∧ Meets OUTPUT_GEOMETRY bits ∨
        Found OutputDescriptor.Scaled previous output ∧ Meets SCALE_OR_ROTATION bits) := by
  unfold DesktopTarget.outputReason Found
  cases found : previous.find output with
  | none => simp
  | some before =>
      by_cases moved : before.Moved output <;> by_cases scaled : before.Scaled output <;>
        simp [moved, scaled, meets_or, or_assoc]

theorem meets_foldl (outputs : List OutputDescriptor) :
    Meets (outputs.foldl previous.outputReason mask) bits ↔ Meets mask bits ∨
      ∃ output ∈ outputs, Found OutputDescriptor.Moved previous output ∧ Meets OUTPUT_GEOMETRY bits ∨
        Found OutputDescriptor.Scaled previous output ∧ Meets SCALE_OR_ROTATION bits := by
  induction outputs generalizing mask with
  | nil => simp
  | cons output rest ih =>
      rw [List.foldl_cons, ih, meets_outputReason, or_assoc]
      simp only [List.mem_cons, exists_eq_or_imp]

/-- What sets a bit of the mask. -/
theorem meets_reason :
    Meets (target.reasonAgainst previous) bits ↔
      (DesktopTarget.Resized previous target ∧ Meets VIRTUAL_BOUNDS bits ∨
        previous.outputIds ≠ target.outputIds ∧ Meets OUTPUT_SET bits) ∨
      ∃ output ∈ target.outputs,
        Found OutputDescriptor.Moved previous output ∧ Meets OUTPUT_GEOMETRY bits ∨
          Found OutputDescriptor.Scaled previous output ∧ Meets SCALE_OR_ROTATION bits := by
  unfold DesktopTarget.reasonAgainst
  rw [meets_foldl]
  refine or_congr_left ?_
  by_cases listed : previous.outputIds = target.outputIds
  · rw [if_neg (not_not_intro listed), meets_ite]
    simp [listed]
  · rw [if_pos listed, meets_or, meets_ite]
    simp [listed]

end Bits

/-! ## Truthful masks -/

namespace DesktopTarget

/-- More differs than the settled flag and the topology revision. -/
def Changed (previous target : DesktopTarget) : Prop :=
  Resized previous target ∨ previous.outputs ≠ target.outputs

/-- Some output was added or removed. -/
def SetChanged (previous target : DesktopTarget) : Prop :=
  ∃ id, ¬ (id ∈ previous.outputIds ↔ id ∈ target.outputIds)

/-- Some output is there as before, but not alike. -/
def SomeOutput (differs : OutputDescriptor → OutputDescriptor → Prop)
    (previous target : DesktopTarget) : Prop :=
  ∃ before ∈ previous.outputs, ∃ output ∈ target.outputs,
    before.outputId = output.outputId ∧ differs before output

/-- Every bit names a group of fields that differs. -/
structure Truthful (previous target : DesktopTarget) (mask : UInt64) : Prop where
  bounds : Meets mask VIRTUAL_BOUNDS → Resized previous target
  outputSet : Meets mask OUTPUT_SET → SetChanged previous target
  geometry : Meets mask OUTPUT_GEOMETRY → SomeOutput OutputDescriptor.Moved previous target
  scale : Meets mask SCALE_OR_ROTATION → SomeOutput OutputDescriptor.Scaled previous target
  known : ¬ Meets mask
    (~~~ (VIRTUAL_BOUNDS ||| OUTPUT_SET ||| OUTPUT_GEOMETRY ||| SCALE_OR_ROTATION))

/-- The same outputs in another order. -/
def Reordered (previous target : DesktopTarget) : Prop :=
  ¬ SetChanged previous target ∧ previous.outputIds ≠ target.outputIds

def unmarked (output : OutputDescriptor) : OutputDescriptor := { output with primary := false }

/-- Only primary flags differ, beside the settled flag and the topology revision. -/
def OnlyPrimary (previous target : DesktopTarget) : Prop :=
  ¬ Resized previous target ∧ previous.outputs ≠ target.outputs ∧
    previous.outputs.map unmarked = target.outputs.map unmarked

end DesktopTarget

section Truth

variable {previous target : DesktopTarget}

theorem found_some {differs : OutputDescriptor → OutputDescriptor → Prop} {output : OutputDescriptor}
    (found : Found differs previous output) (among : output ∈ target.outputs) :
    DesktopTarget.SomeOutput differs previous target := by
  obtain ⟨before, held, apart⟩ := found
  have same := List.find?_some held
  exact ⟨before, List.mem_of_find?_eq_some held, output, among, by simpa using same, apart⟩

theorem find_eq_some (distinct : previous.outputIds.Nodup) {before output : OutputDescriptor}
    (among : before ∈ previous.outputs) (same : before.outputId = output.outputId) :
    previous.find output = some before := by
  unfold DesktopTarget.outputIds at distinct
  unfold DesktopTarget.find
  cases found : previous.outputs.find? fun candidate =>
      decide (candidate.outputId = output.outputId) with
  | none =>
      have apart := List.find?_eq_none.mp found before among
      simp [same] at apart
  | some other =>
      have matched := List.find?_some found
      have inside := List.mem_of_find?_eq_some found
      have alike : other.outputId = before.outputId := by
        rw [same]
        simpa using matched
      rw [List.inj_on_of_nodup_map distinct inside among alike]

theorem unmarked_eq {before output : OutputDescriptor} :
    DesktopTarget.unmarked before = DesktopTarget.unmarked output ↔
      before.outputId = output.outputId ∧ ¬ before.Moved output ∧ ¬ before.Scaled output := by
  unfold DesktopTarget.unmarked OutputDescriptor.Moved OutputDescriptor.Scaled
  rw [OutputDescriptor.mk.injEq]
  simp only [not_or, not_not]
  tauto

/-- No bit is set exactly if the bounds are the same and the outputs are alike up to
their primary flags. -/
theorem reason_eq_zero (distinct : previous.outputIds.Nodup) :
    target.reasonAgainst previous = 0 ↔ ¬ DesktopTarget.Resized previous target ∧
      previous.outputs.map DesktopTarget.unmarked = target.outputs.map DesktopTarget.unmarked := by
  have some : ∀ mask : UInt64, mask ≠ 0 → Meets mask (~~~ 0) := fun _ => meets_all.mpr
  have bits : target.reasonAgainst previous ≠ 0 ↔
      (DesktopTarget.Resized previous target ∨ previous.outputIds ≠ target.outputIds) ∨
        ∃ output ∈ target.outputs, Found OutputDescriptor.Moved previous output ∨
          Found OutputDescriptor.Scaled previous output := by
    rw [← meets_all, meets_reason]
    simp only [some VIRTUAL_BOUNDS (by decide), some OUTPUT_SET (by decide),
      some OUTPUT_GEOMETRY (by decide), some SCALE_OR_ROTATION (by decide), and_true]
  rw [← not_iff_not]
  refine bits.trans ?_
  rw [← not_iff_not, not_not]
  simp only [not_or, not_exists, not_and, not_not]
  rw [and_assoc]
  refine and_congr_right fun _ => ?_
  constructor
  · intro alike
    obtain ⟨listed, same⟩ := alike
    have sized : previous.outputs.length = target.outputs.length := by
      have lengths := congrArg List.length listed
      simpa [DesktopTarget.outputIds] using lengths
    refine List.ext_getElem (by simpa using sized) ?_
    intro index first second
    rw [List.getElem_map, List.getElem_map]
    rw [List.length_map] at first second
    have named : previous.outputs[index].outputId = target.outputs[index].outputId := by
      have each := congrArg (fun ids => ids[index]?) listed
      simpa [DesktopTarget.outputIds, first, second] using each
    have held := find_eq_some distinct (List.getElem_mem first) named
    obtain ⟨moved, scaled⟩ := same _ (List.getElem_mem second)
    exact unmarked_eq.mpr ⟨named, fun apart => moved ⟨_, held, apart⟩,
      fun apart => scaled ⟨_, held, apart⟩⟩
  · intro alike
    have listed : previous.outputIds = target.outputIds := by
      have ids := congrArg (List.map OutputDescriptor.outputId) alike
      rw [List.map_map, List.map_map] at ids
      exact ids
    refine ⟨listed, ?_⟩
    intro output among
    have marked := List.mem_map_of_mem (f := DesktopTarget.unmarked) among
    rw [← alike] at marked
    obtain ⟨before, inside, same⟩ := List.mem_map.mp marked
    obtain ⟨named, moved, scaled⟩ := unmarked_eq.mp same
    have held := find_eq_some distinct inside named
    refine ⟨?_, ?_⟩
    · intro found
      obtain ⟨other, found, apart⟩ := found
      rw [held] at found
      cases found
      exact moved apart
    · intro found
      obtain ⟨other, found, apart⟩ := found
      rw [held] at found
      cases found
      exact scaled apart

/-- The mask of a change is truthful exactly if the change neither reorders outputs
nor touches primary flags alone. -/
theorem truthful_iff (distinct : previous.outputIds.Nodup) :
    (DesktopTarget.Changed previous target → target.reasonAgainst previous ≠ 0 ∧
        DesktopTarget.Truthful previous target (target.reasonAgainst previous)) ↔
      ¬ DesktopTarget.Reordered previous target ∧ ¬ DesktopTarget.OnlyPrimary previous target := by
  constructor
  · intro truthful
    refine ⟨?_, ?_⟩
    · intro reordered
      obtain ⟨same, listed⟩ := reordered
      have differ : previous.outputs ≠ target.outputs := by
        intro equal
        exact listed (congrArg (List.map OutputDescriptor.outputId) equal)
      have bit : Meets (target.reasonAgainst previous) OUTPUT_SET :=
        meets_reason.mpr (Or.inl (Or.inr ⟨listed, by decide⟩))
      exact same ((truthful (Or.inr differ)).2.outputSet bit)
    · intro only
      obtain ⟨bounds, differ, alike⟩ := only
      exact (truthful (Or.inr differ)).1 ((reason_eq_zero distinct).mpr ⟨bounds, alike⟩)
  · intro steady changed
    obtain ⟨ordered, marked⟩ := steady
    refine ⟨?_, ?_⟩
    · intro zero
      obtain ⟨bounds, alike⟩ := (reason_eq_zero distinct).mp zero
      exact marked ⟨bounds, changed.resolve_left bounds, alike⟩
    · constructor
      · intro bit
        rcases meets_reason.mp bit with (⟨resized, _⟩ | ⟨_, other⟩) | ⟨_, _, ⟨_, other⟩ | ⟨_, other⟩⟩
        · exact resized
        all_goals exact absurd other (by decide)
      · intro bit
        by_contra same
        rcases meets_reason.mp bit with (⟨_, other⟩ | ⟨listed, _⟩) | ⟨_, _, ⟨_, other⟩ | ⟨_, other⟩⟩
        · exact absurd other (by decide)
        · exact ordered ⟨same, listed⟩
        all_goals exact absurd other (by decide)
      · intro bit
        rcases meets_reason.mp bit with (⟨_, other⟩ | ⟨_, other⟩) |
          ⟨output, among, ⟨moved, _⟩ | ⟨_, other⟩⟩
        · exact absurd other (by decide)
        · exact absurd other (by decide)
        · exact found_some moved among
        · exact absurd other (by decide)
      · intro bit
        rcases meets_reason.mp bit with (⟨_, other⟩ | ⟨_, other⟩) |
          ⟨output, among, ⟨_, other⟩ | ⟨scaled, _⟩⟩
        · exact absurd other (by decide)
        · exact absurd other (by decide)
        · exact absurd other (by decide)
        · exact found_some scaled among
      · intro bit
        rcases meets_reason.mp bit with (⟨_, other⟩ | ⟨_, other⟩) |
          ⟨_, _, ⟨_, other⟩ | ⟨_, other⟩⟩
        all_goals exact absurd other (by decide)

end Truth

/-! ## Checked targets -/

section Checked

variable {target : DesktopTarget} {right bottom : Int}

theorem checkOutputs_nodup {earlier rest : List OutputDescriptor}
    (distinct : (earlier.map OutputDescriptor.outputId).Nodup)
    (checked : target.checkOutputs right bottom earlier rest = .ok ()) :
    ((earlier ++ rest).map OutputDescriptor.outputId).Nodup := by
  induction rest generalizing earlier with
  | nil => simpa using distinct
  | cons output rest ih =>
      rw [DesktopTarget.checkOutputs, ite_error_eq_ok_iff, bind_eq_ok_iff] at checked
      obtain ⟨fresh, edges, _, checked⟩ := checked
      obtain ⟨_, checked⟩ := ite_error_eq_ok_iff.mp checked
      have apart : ∀ other ∈ earlier, other.outputId ≠ output.outputId := by
        simpa using fresh
      have extended : ((earlier ++ [output]).map OutputDescriptor.outputId).Nodup := by
        rw [List.map_append, List.nodup_append]
        refine ⟨distinct, by simp, ?_⟩
        simpa using apart
      simpa using ih extended checked

/-- The outputs of a checked target have distinct IDs. -/
theorem validate_nodup (valid : target.validate = .ok ()) : target.outputIds.Nodup := by
  rw [DesktopTarget.validate, ite_error_eq_ok_iff] at valid
  obtain ⟨_, valid⟩ := valid
  by_cases empty : target.outputs = []
  · rw [DesktopTarget.outputIds, empty]
    exact List.nodup_nil
  · rw [if_neg empty, ite_error_eq_ok_iff] at valid
    obtain ⟨_, valid⟩ := valid
    cases width : checkedAddI64 target.originX.toInt target.width.toNat with
    | none =>
        rw [width] at valid
        cases valid
    | some right =>
        cases height : checkedAddI64 target.originY.toInt target.height.toNat with
        | none =>
            rw [width, height] at valid
            cases valid
        | some bottom =>
            rw [width, height] at valid
            exact @checkOutputs_nodup target right bottom [] _ List.nodup_nil valid

end Checked

/-! ## Offers -/

namespace DesktopTarget

/-- The target differs only by having settled. -/
def JustSettled (previous target : DesktopTarget) : Prop :=
  previous.settled = false ∧ target = { previous with settled := true }

theorem justSettled_iff {previous target : DesktopTarget} :
    JustSettled previous target ↔ { target with settled := previous.settled } = previous ∧
      previous.settled = false ∧ target.settled = true := by
  cases previous
  cases target
  unfold JustSettled
  simp only [DesktopTarget.mk.injEq]
  tauto

end DesktopTarget

section Offers

variable {state after : DesktopTargetState} {next : DesktopTarget} {transition : TargetTransition}

/-- What an accepted offer can do. -/
inductive Offered (state : DesktopTargetState) (next : DesktopTarget) :
    TargetTransition → DesktopTargetState → Prop where
  | unchanged (same : next = state.current) : Offered state next .unchanged state
  | settled (only : DesktopTarget.JustSettled state.current next) :
      Offered state next (.settled state.generation) { state with current := next }
  | advanced (generation : TargetGeneration) (differs : next ≠ state.current)
      (more : ¬ DesktopTarget.JustSettled state.current next)
      (counted : generation.toNat = state.generation.toNat + 1) :
      Offered state next (.advanced generation (next.reasonAgainst state.current))
        { current := next, generation := generation }

theorem offer_cases (offered : state.offer next = .ok (transition, after)) :
    next.validate = .ok () ∧ Offered state next transition after := by
  rw [DesktopTargetState.offer, check_bind_eq_ok_iff] at offered
  obtain ⟨valid, offered⟩ := offered
  refine ⟨valid, ?_⟩
  by_cases same : next = state.current
  · rw [if_pos same] at offered
    cases offered
    exact .unchanged same
  · rw [if_neg same, DesktopTargetState.offerChanged] at offered
    by_cases only : DesktopTarget.JustSettled state.current next
    · rw [if_pos (DesktopTarget.justSettled_iff.mp only)] at offered
      cases offered
      exact .settled only
    · rw [if_neg (mt DesktopTarget.justSettled_iff.mpr only), bind_eq_ok_iff] at offered
      obtain ⟨generation, advanced, offered⟩ := offered
      cases offered
      exact .advanced generation same only (Counter.advance_eq_ok.mp (orInvalid_eq_ok.mp advanced))

theorem offer_unchanged (valid : state.current.validate = .ok ()) :
    state.offer state.current = .ok (.unchanged, state) := by
  rw [DesktopTargetState.offer, valid, ok_bind, if_pos rfl]

theorem Offered.current (offered : Offered state next transition after) : after.current = next := by
  cases offered with
  | unchanged same => exact same.symm
  | settled => rfl
  | advanced => rfl

/-- Each step refuses and changes nothing, or makes one of the accepted moves. -/
theorem step_cases (state : DesktopTargetState) (next : DesktopTarget) :
    (∃ error, offerMachine.step state next = (.error error, state) ∧
      state.offer next = .error error) ∨
      ∃ transition after, offerMachine.step state next = (.ok transition, after) ∧
        next.validate = .ok () ∧ Offered state next transition after := by
  rcases commit_cases state (state.offer next) with
    ⟨error, refused, stepped⟩ | ⟨transition, after, offered, stepped⟩
  · exact .inl ⟨error, stepped, refused⟩
  · exact .inr ⟨transition, after, stepped, offer_cases offered⟩

theorem step_valid (valid : state.current.validate = .ok ()) :
    (offerMachine.step state next).2.current.validate = .ok () := by
  rcases step_cases state next with ⟨_, stepped, _⟩ | ⟨_, _, stepped, checked, offered⟩
  · rw [stepped]
    exact valid
  · rw [stepped, offered.current]
    exact checked

end Offers

/-! ## Every run of offers -/

/-- What an offer owes, whatever its mask says. -/
structure OfferLaw (event : OfferEvent) : Prop where
  refused : ∀ error, event.output = .error error → event.after = event.before
  unchanged : event.output = .ok .unchanged ↔ event.input = event.before.current
  kept : ∀ transition, event.output = .ok transition →
    event.after.current = event.input ∧
      (event.after.generation = event.before.generation ↔
        event.input = event.before.current ∨
          DesktopTarget.JustSettled event.before.current event.input)
  advanced : ∀ generation reason, event.output = .ok (.advanced generation reason) →
    event.after.generation = generation ∧
      generation.toNat = event.before.generation.toNat + 1

/-- An advance whose target differs in more than the settled flag and the topology
revision names a difference, and none that is not there. -/
def OfferTruth (event : OfferEvent) : Prop :=
  ∀ generation reason, event.output = .ok (.advanced generation reason) →
    DesktopTarget.Changed event.before.current event.input →
      reason ≠ 0 ∧ DesktopTarget.Truthful event.before.current event.input reason

theorem Offered.generation_kept {state after : DesktopTargetState} {next : DesktopTarget}
    {transition : TargetTransition} (offered : Offered state next transition after) :
    after.generation = state.generation ↔
      next = state.current ∨ DesktopTarget.JustSettled state.current next := by
  cases offered with
  | unchanged same => exact iff_of_true rfl (.inl same)
  | settled only => exact iff_of_true rfl (.inr only)
  | advanced generation differs more counted =>
      refine iff_of_false ?_ (not_or_intro differs more)
      intro same
      have unmoved : generation = state.generation := same
      rw [unmoved] at counted
      omega

theorem offerLaw_event {state : DesktopTargetState} (valid : state.current.validate = .ok ())
    (next : DesktopTarget) : OfferLaw (offerMachine.event state next) := by
  rcases step_cases state next with ⟨error, stepped, refused⟩ | ⟨_, _, stepped, _, offered⟩
  · refine ⟨?_, ?_, ?_, ?_⟩ <;>
      simp only [Machine.event_output, Machine.event_after, Machine.event_before,
        Machine.event_input, stepped]
    · intro _ _
      trivial
    · refine iff_of_false (by simp) ?_
      intro same
      rw [same, offer_unchanged valid] at refused
      cases refused
    · intro _ impossible
      cases impossible
    · intro _ _ impossible
      cases impossible
  · refine ⟨?_, ?_, ?_, ?_⟩ <;>
      simp only [Machine.event_output, Machine.event_after, Machine.event_before,
        Machine.event_input, stepped]
    · intro _ impossible
      cases impossible
    · cases offered with
      | unchanged same => exact iff_of_true rfl same
      | settled only =>
          refine iff_of_false (by simp) ?_
          intro same
          rw [same] at only
          have unsettled := only.1
          rw [only.2] at unsettled
          cases unsettled
      | advanced _ differs => exact iff_of_false (by simp) differs
    · intro _ _
      exact ⟨offered.current, offered.generation_kept⟩
    · intro generation reason told
      cases offered with
      | unchanged => cases told
      | settled => cases told
      | advanced _ _ _ counted =>
          cases told
          exact ⟨rfl, counted⟩

theorem offerTruth_event {state : DesktopTargetState} (valid : state.current.validate = .ok ())
    (next : DesktopTarget) {generation : TargetGeneration} {reason : UInt64}
    (told : (offerMachine.step state next).1 = .ok (.advanced generation reason)) :
    OfferTruth (offerMachine.event state next) ↔
      ¬ DesktopTarget.Reordered state.current next ∧
        ¬ DesktopTarget.OnlyPrimary state.current next := by
  have named : reason = next.reasonAgainst state.current := by
    rcases step_cases state next with ⟨_, stepped, _⟩ | ⟨_, _, stepped, _, offered⟩
    · rw [stepped] at told
      cases told
    · rw [stepped] at told
      cases told
      cases offered
      rfl
  rw [← truthful_iff (validate_nodup valid)]
  constructor
  · intro truth changed
    rw [← named]
    exact truth generation reason told changed
  · intro truth other mask told' changed
    rw [Machine.event_output, told] at told'
    cases told'
    rw [named]
    exact truth changed

/-- In every run of offers each one keeps the law, and an advance tells the truth
exactly if it neither reorders the outputs nor touches their primary flags alone. -/
theorem target_generations_truthful_iff {target : DesktopTarget} {state : DesktopTargetState}
    (created : DesktopTargetState.new target = .ok state) (offers : List DesktopTarget) :
    Always (fun _ (event : OfferEvent) => OfferLaw event ∧
      ∀ generation reason, event.output = .ok (.advanced generation reason) →
        (OfferTruth event ↔
          ¬ DesktopTarget.Reordered event.before.current event.input ∧
            ¬ DesktopTarget.OnlyPrimary event.before.current event.input))
      (offerMachine.history state offers) := by
  have initial : state.current.validate = .ok () := by
    rw [DesktopTargetState.new, check_bind_eq_ok_iff] at created
    obtain ⟨checked, created⟩ := created
    cases created
    exact checked
  refine offerMachine.always_history ?_ offers
  intro inputs input
  have valid := @Machine.invariant_final _ _ _ offerMachine
    (fun state => state.current.validate = .ok ()) state initial (fun _ _ => step_valid) inputs
  refine ⟨offerLaw_event valid input, ?_⟩
  intro generation reason told
  exact offerTruth_event valid input told

/-! ## A moved primary output -/

def besideOutput (id : UInt64) (originX : Int32) (primary : Bool) : OutputDescriptor :=
  { outputId := id
    originX := originX
    originY := 0
    width := 1920
    height := 1080
    scaleNumerator := 1
    scaleDenominator := 1
    rotation := .none
    primary := primary }

/-- Two outputs side by side, the first of them primary or the second. -/
def dualTarget (first : Bool) : DesktopTarget :=
  { originX := 0
    originY := 0
    width := 3840
    height := 1080
    outputs := [besideOutput 1 0 first, besideOutput 2 1920 !first]
    settled := true
    topologyRevision := 1 }

/-- The second output is gone. -/
def soleTarget : DesktopTarget :=
  { dualTarget true with
    width := 1920
    outputs := [besideOutput 1 0 true]
    topologyRevision := 2 }

/-- Of two offers the first advances the generation and says what moved. -/
theorem target_generations_truthful_iff_dual :
    let state : DesktopTargetState := { current := dualTarget true, generation := .one }
    DesktopTargetState.new (dualTarget true) = .ok state ∧
      (Always (fun _ (event : OfferEvent) => OfferLaw event ∧
        ∀ generation reason, event.output = .ok (.advanced generation reason) →
          (OfferTruth event ↔
            ¬ DesktopTarget.Reordered event.before.current event.input ∧
              ¬ DesktopTarget.OnlyPrimary event.before.current event.input))
        (offerMachine.history state [soleTarget, dualTarget false])) ∧
      (∃ reason, (offerMachine.step state soleTarget).1 = .ok (.advanced ⟨2⟩ reason) ∧
        reason ≠ 0) ∧
      OfferTruth (offerMachine.event state soleTarget) := by
  have always := @target_generations_truthful_iff (dualTarget true)
    { current := dualTarget true, generation := .one } (by decide +kernel)
    [soleTarget, dualTarget false]
  have told : (offerMachine.event { current := dualTarget true, generation := .one }
      soleTarget).output = .ok (.advanced ⟨2⟩ (soleTarget.reasonAgainst (dualTarget true))) := by
    decide +kernel
  refine ⟨by decide +kernel, always, ⟨_, told, by decide +kernel⟩, ?_⟩
  refine ((always [] _ _ rfl).2 _ _ told).mpr ⟨fun reordered => ?_, fun only => ?_⟩
  · exact reordered.1 ⟨2, by decide⟩
  · exact absurd only.2.2 (by decide)

/-- The primary output moves, the generation advances, and no bit of the mask is set. -/
theorem target_generations_not_truthful :
    let state : DesktopTargetState := { current := dualTarget true, generation := .one }
    DesktopTargetState.new (dualTarget true) = .ok state ∧
      (offerMachine.step state (dualTarget false)).1 = .ok (.advanced ⟨2⟩ 0) ∧
      ¬ OfferTruth (offerMachine.event state (dualTarget false)) := by
  refine ⟨by decide +kernel, by decide +kernel, ?_⟩
  intro truth
  have told : (offerMachine.event { current := dualTarget true, generation := .one }
      (dualTarget false)).output = .ok (.advanced ⟨2⟩ 0) := by
    decide +kernel
  exact (truth _ _ told (.inr (by decide))).1 rfl

end VividProtocol.Desktop

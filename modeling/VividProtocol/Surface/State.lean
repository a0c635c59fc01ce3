import Mathlib.Tactic
import VividProtocol.Cbor.Equality
import VividProtocol.Control.Registry
import VividProtocol.Library.Transition

/-!
# Surfaces

`SurfaceDefinition` and `SurfaceState` of `surface.rs`.  An update names the
revision and generation it was prepared from.  Policy bits are only added, and
the generation moves when the mapping from surface to content does.
-/

set_option autoImplicit false

namespace VividProtocol.Surface

open VividProtocol.Registry
open VividProtocol.Library.Result VividProtocol.Library.Transition

def POLICY_KNOWN_MASK : UInt64 := ((1 : UInt64) <<< 5) - 1

inductive SurfaceRole where
  | unspecified
  | document
  | desktop
  | timedMedia
  | figure
  | terminalText
  | applicationCanvas
  deriving Repr, DecidableEq

inductive CoordinateModel where
  | desktopLogicalPixels
  | normalized
  | canvasLogicalUnits
  | terminalContentCells
  deriving Repr, DecidableEq

structure SurfaceDescriptor where
  role : SurfaceRole
  title : String
  semanticContentRevision : UInt64
  semanticAvailability : UInt64
  locatorHint : String
  deriving Repr, DecidableEq

def SurfaceDescriptor.validate (descriptor : SurfaceDescriptor) : Except MessageError Unit :=
  if 256 < descriptor.title.utf8ByteSize then
    .error (invalidValue "surface descriptor" 1 "exceeds 256 UTF-8 bytes")
  else if descriptor.semanticAvailability &&& ~~~0x1f ≠ 0 then
    .error (invalidValue "surface descriptor" 3 "has unknown availability bits")
  else if 512 < descriptor.locatorHint.utf8ByteSize then
    .error (invalidValue "surface descriptor" 4 "exceeds 512 UTF-8 bytes")
  else .ok ()

structure SurfaceDefinition where
  contextId : UInt64
  surfaceId : UInt64
  semanticProfile : String
  coordinateModel : CoordinateModel
  logicalWidth : UInt64
  logicalHeight : UInt64
  scaleNumerator : UInt64
  scaleDenominator : UInt64
  rotation : UInt16
  descriptor : SurfaceDescriptor
  policy : UInt64
  profileParameters : PayloadMap
  deriving Repr, DecidableEq

namespace SurfaceDefinition

/-- The coordinate models that a semantic profile allows. -/
def legalModels : List (String × CoordinateModel) :=
  [(GENERIC_CONTENT, .desktopLogicalPixels),
    (GENERIC_CONTENT, .normalized),
    (GENERIC_CONTENT, .canvasLogicalUnits),
    (TERMINAL_CONTENT, .terminalContentCells),
    (DESKTOP_CONTENT, .desktopLogicalPixels),
    (CANVAS_CONTENT, .canvasLogicalUnits),
    (CANVAS_CONTENT, .normalized)]

def validate (definition : SurfaceDefinition) : Except MessageError Unit := do
  let _ ← requireNonzero "surface" 0 definition.contextId
  let _ ← requireNonzero "surface" 1 definition.surfaceId
  let _ ← requireNonzero "surface" 4 definition.logicalWidth
  let _ ← requireNonzero "surface" 5 definition.logicalHeight
  let _ ← requireNonzero "surface" 6 definition.scaleNumerator
  let _ ← requireNonzero "surface" 7 definition.scaleDenominator
  if ¬ (definition.rotation = 0 ∨ definition.rotation = 90 ∨ definition.rotation = 180 ∨
      definition.rotation = 270) then
    .error (invalidValue "surface" 8 "rotation is not 0, 90, 180, or 270")
  else if definition.policy &&& ~~~POLICY_KNOWN_MASK ≠ 0 then
    .error (invalidValue "surface" 10 "has unknown policy bits")
  else if (definition.semanticProfile, definition.coordinateModel) ∉ legalModels then
    .error (invalidValue "surface" 3 "is illegal for the semantic profile")
  else definition.descriptor.validate

def mappingEq (definition other : SurfaceDefinition) : Bool :=
  decide (definition.logicalWidth = other.logicalWidth) &&
    decide (definition.logicalHeight = other.logicalHeight) &&
    decide (definition.scaleNumerator = other.scaleNumerator) &&
    decide (definition.scaleDenominator = other.scaleDenominator) &&
    decide (definition.rotation = other.rotation) &&
    decide (definition.profileParameters = other.profileParameters)

end SurfaceDefinition

structure SurfaceState where
  definition : SurfaceDefinition
  revision : SurfaceRevision
  generation : SurfaceGeneration
  deriving Repr, DecidableEq

structure SurfaceMutation where
  revision : SurfaceRevision
  generation : SurfaceGeneration
  inputMustBeRevoked : Bool
  deriving Repr, DecidableEq

namespace SurfaceState

def new (definition : SurfaceDefinition) : Except MessageError SurfaceState := do
  definition.validate
  .ok { definition := definition, revision := .one, generation := .one }

def nextGeneration (surface : SurfaceState) (changed : Bool) :
    Except MessageError SurfaceGeneration :=
  if changed then orInvalid "UPDATE_SURFACE" 3 "exhausted" surface.generation.advance
  else .ok surface.generation

def replaceMutable (surface : SurfaceState) (expectedRevision : SurfaceRevision)
    (expectedGeneration : SurfaceGeneration) (replacement : SurfaceDefinition) :
    Except MessageError SurfaceMutation × SurfaceState :=
  commit surface
    (if expectedRevision ≠ surface.revision then
      .error (invalidValue "UPDATE_SURFACE" 2 "does not match the current surface revision")
    else if expectedGeneration ≠ surface.generation then
      .error (invalidValue "UPDATE_SURFACE" 3 "does not match the current surface generation")
    else if replacement.contextId ≠ surface.definition.contextId ∨
        replacement.surfaceId ≠ surface.definition.surfaceId ∨
        replacement.semanticProfile ≠ surface.definition.semanticProfile ∨
        replacement.coordinateModel ≠ surface.definition.coordinateModel then
      .error (invalidValue "UPDATE_SURFACE" 0
        "attempts to change immutable identity or profile state")
    else do
      replacement.validate
      let generationChanged := ! surface.definition.mappingEq replacement
      let revision ← orInvalid "UPDATE_SURFACE" 2 "exhausted" surface.revision.advance
      let generation ← surface.nextGeneration generationChanged
      .ok
        ({ revision := revision
           generation := generation
           inputMustBeRevoked := generationChanged },
          { definition :=
              { replacement with policy := replacement.policy ||| surface.definition.policy }
            revision := revision
            generation := generation }))

end SurfaceState

/-! ## What an update does -/

/-- The mapping from surface to content differs. -/
def Remapped (before after : SurfaceDefinition) : Prop :=
  before.logicalWidth ≠ after.logicalWidth ∨ before.logicalHeight ≠ after.logicalHeight ∨
    before.scaleNumerator ≠ after.scaleNumerator ∨
    before.scaleDenominator ≠ after.scaleDenominator ∨ before.rotation ≠ after.rotation ∨
    before.profileParameters ≠ after.profileParameters

/-- What no update may change. -/
structure SameIdentity (before after : SurfaceDefinition) : Prop where
  contextId : after.contextId = before.contextId
  surfaceId : after.surfaceId = before.surfaceId
  semanticProfile : after.semanticProfile = before.semanticProfile
  coordinateModel : after.coordinateModel = before.coordinateModel

/-- Every policy bit that was set still is. -/
def KeepsPolicy (before after : SurfaceDefinition) : Prop :=
  before.policy &&& after.policy = before.policy

theorem mappingEq_iff {before after : SurfaceDefinition} :
    before.mappingEq after = true ↔ ¬ Remapped before after := by
  unfold SurfaceDefinition.mappingEq Remapped
  simp only [Bool.and_eq_true, decide_eq_true_iff, not_or, not_not, and_assoc]

/-- What `validate` asks of a policy is kept by adding known bits. -/
theorem validate_policy {definition : SurfaceDefinition} {policy : UInt64}
    (valid : definition.validate = .ok ()) (known : policy &&& ~~~POLICY_KNOWN_MASK = 0) :
    { definition with policy := definition.policy ||| policy }.validate = .ok () := by
  unfold SurfaceDefinition.validate at valid ⊢
  simp only [bind_eq_ok_iff, ite_error_eq_ok_iff, not_not] at valid ⊢
  have both : (definition.policy ||| policy) &&& ~~~POLICY_KNOWN_MASK =
      (definition.policy &&& ~~~POLICY_KNOWN_MASK) ||| (policy &&& ~~~POLICY_KNOWN_MASK) := by
    apply UInt64.toBitVec_inj.mp
    simp only [UInt64.toBitVec_and, UInt64.toBitVec_or]
    exact BitVec.and_or_distrib_right
  obtain ⟨context, contextRead, surface, surfaceRead, width, widthRead, height, heightRead,
    numerator, numeratorRead, denominator, denominatorRead, rotation, mask, legal,
    described⟩ := valid
  refine ⟨context, contextRead, surface, surfaceRead, width, widthRead, height, heightRead,
    numerator, numeratorRead, denominator, denominatorRead, rotation, ?_, legal, described⟩
  rw [both, mask, known, UInt64.zero_or]

theorem policy_known {definition : SurfaceDefinition} (valid : definition.validate = .ok ()) :
    definition.policy &&& ~~~POLICY_KNOWN_MASK = 0 := by
  unfold SurfaceDefinition.validate at valid
  simp only [bind_eq_ok_iff, ite_error_eq_ok_iff, not_not] at valid
  obtain ⟨_, _, _, _, _, _, _, _, _, _, _, _, _, mask, _⟩ := valid
  exact mask

structure SurfaceUpdate where
  expectedRevision : SurfaceRevision
  expectedGeneration : SurfaceGeneration
  replacement : SurfaceDefinition
  deriving Repr, DecidableEq

def updateStep (surface : SurfaceState) (update : SurfaceUpdate) :
    Except MessageError SurfaceMutation × SurfaceState :=
  surface.replaceMutable update.expectedRevision update.expectedGeneration update.replacement

/-- An update that was taken over. -/
structure Replaced (before : SurfaceState) (update : SurfaceUpdate)
    (mutation : SurfaceMutation) (after : SurfaceState) : Prop where
  revision : update.expectedRevision = before.revision
  generation : update.expectedGeneration = before.generation
  identity : SameIdentity before.definition after.definition
  valid : update.replacement.validate = .ok ()
  definition : after.definition =
    { update.replacement with policy := update.replacement.policy ||| before.definition.policy }
  nextRevision : after.revision.toNat = before.revision.toNat + 1
  revoked : mutation.inputMustBeRevoked = true ↔
    Remapped before.definition after.definition
  moved : Remapped before.definition after.definition →
    after.generation.toNat = before.generation.toNat + 1
  kept : ¬ Remapped before.definition after.definition → after.generation = before.generation
  told : mutation.revision = after.revision ∧ mutation.generation = after.generation

/-- An update is refused without effect or taken over. -/
theorem updateStep_cases (surface : SurfaceState) (update : SurfaceUpdate) :
    (∃ error, updateStep surface update = (.error error, surface)) ∨
      ∃ mutation after, updateStep surface update = (.ok mutation, after) ∧
        Replaced surface update mutation after := by
  unfold updateStep SurfaceState.replaceMutable
  rcases commit_cases surface _ with ⟨error, -, ends⟩ | ⟨mutation, after, accepted, ends⟩
  · exact Or.inl ⟨error, ends⟩
  refine Or.inr ⟨mutation, after, ends, ?_⟩
  simp only [ite_error_eq_ok_iff, bind_eq_ok_iff, not_or, not_not, orInvalid_eq_ok] at accepted
  obtain ⟨revisionSame, generationSame, ⟨context, surfaceId, profile, model⟩, _, valid, revision,
    advanced, generation, next, built⟩ := accepted
  cases built
  have counted := Counter.advance_eq_ok.mp advanced
  -- The policy is no part of the mapping.
  have mapping : Remapped surface.definition
      { update.replacement with
        policy := update.replacement.policy ||| surface.definition.policy } ↔
      Remapped surface.definition update.replacement := Iff.rfl
  cases same : surface.definition.mappingEq update.replacement with
  | true =>
      have unmoved := mappingEq_iff.mp same
      rw [same] at next
      have unchanged : generation = surface.generation := (Except.ok.inj next).symm
      exact ⟨revisionSame, generationSame, ⟨context, surfaceId, profile, model⟩, valid, rfl,
        counted, iff_of_false (by simp) (mapping.not.mpr unmoved),
        fun moved => absurd (mapping.mp moved) unmoved, fun _ => unchanged, rfl, rfl⟩
  | false =>
      have moved : Remapped surface.definition update.replacement := by
        by_contra unmoved
        rw [mappingEq_iff.mpr unmoved] at same
        cases same
      rw [same] at next
      have stepped := Counter.advance_eq_ok.mp (orInvalid_eq_ok.mp next)
      exact ⟨revisionSame, generationSame, ⟨context, surfaceId, profile, model⟩, valid, rfl,
        counted, iff_of_true (by simp) (mapping.mpr moved), fun _ => stepped,
        fun unmoved => absurd (mapping.mpr moved) unmoved, rfl, rfl⟩

/-! ## Runs -/

def surfaceMachine :
    Machine SurfaceState SurfaceUpdate (Except MessageError SurfaceMutation) := ⟨updateStep⟩

abbrev SurfaceEvent := Event SurfaceState SurfaceUpdate (Except MessageError SurfaceMutation)

theorem keepsPolicy_or (policy added : UInt64) : policy &&& (added ||| policy) = policy := by
  rw [UInt64.or_comm]
  exact and_or_of_covered (UInt64.and_self)

/-- What the surface was created as, and what every update has kept of it. -/
structure Descends (created : SurfaceDefinition) (surface : SurfaceState) : Prop where
  identity : SameIdentity created surface.definition
  policy : KeepsPolicy created surface.definition
  valid : surface.definition.validate = .ok ()

theorem Replaced.keepsPolicy {before after : SurfaceState} {update : SurfaceUpdate}
    {mutation : SurfaceMutation} (replaced : Replaced before update mutation after) :
    KeepsPolicy before.definition after.definition := by
  unfold KeepsPolicy
  rw [replaced.definition]
  exact keepsPolicy_or _ _

theorem KeepsPolicy.trans {first second third : SurfaceDefinition}
    (before : KeepsPolicy first second) (after : KeepsPolicy second third) :
    KeepsPolicy first third := by
  unfold KeepsPolicy at before after ⊢
  calc first.policy &&& third.policy
      = first.policy &&& second.policy &&& third.policy := by rw [before]
    _ = first.policy &&& (second.policy &&& third.policy) := UInt64.and_assoc ..
    _ = first.policy := by rw [after, before]

theorem SameIdentity.trans {first second third : SurfaceDefinition}
    (before : SameIdentity first second) (after : SameIdentity second third) :
    SameIdentity first third :=
  ⟨after.contextId.trans before.contextId, after.surfaceId.trans before.surfaceId,
    after.semanticProfile.trans before.semanticProfile,
    after.coordinateModel.trans before.coordinateModel⟩

theorem Descends.step {created : SurfaceDefinition} {surface : SurfaceState}
    (descends : Descends created surface) (update : SurfaceUpdate) :
    Descends created (updateStep surface update).2 := by
  rcases updateStep_cases surface update with ⟨error, ends⟩ | ⟨mutation, after, ends, replaced⟩
  · rw [ends]
    exact descends
  · rw [ends]
    refine ⟨descends.identity.trans replaced.identity,
      descends.policy.trans replaced.keepsPolicy, ?_⟩
    rw [replaced.definition]
    exact validate_policy replaced.valid (policy_known descends.valid)

theorem descends_new {created : SurfaceDefinition} {surface : SurfaceState}
    (fresh : SurfaceState.new created = .ok surface) : Descends created surface := by
  obtain ⟨_, valid, built⟩ := bind_eq_ok_iff.mp fresh
  cases built
  exact ⟨⟨rfl, rfl, rfl, rfl⟩, UInt64.and_self, valid⟩

theorem descends_run {created : SurfaceDefinition} {surface : SurfaceState}
    (fresh : SurfaceState.new created = .ok surface) (updates : List SurfaceUpdate) :
    Descends created (surfaceMachine.final surface updates) :=
  surfaceMachine.invariant_final (descends_new fresh)
    (fun _ update descends => descends.step update) updates

/-- The law of one update. -/
structure UpdateLaw (event : SurfaceEvent) : Prop where
  refused : ∀ error, event.output = .error error → event.after = event.before
  stale : event.input.expectedRevision ≠ event.before.revision ∨
      event.input.expectedGeneration ≠ event.before.generation →
    ∃ error, event.output = .error error
  replaced : ∀ mutation, event.output = .ok mutation →
    event.after.revision.toNat = event.before.revision.toNat + 1 ∧
      SameIdentity event.before.definition event.after.definition ∧
      KeepsPolicy event.before.definition event.after.definition ∧
      (mutation.inputMustBeRevoked = true ↔
        Remapped event.before.definition event.after.definition) ∧
      (Remapped event.before.definition event.after.definition →
        event.after.generation.toNat = event.before.generation.toNat + 1) ∧
      (¬ Remapped event.before.definition event.after.definition →
        event.after.generation = event.before.generation)

theorem updateLaw_event (surface : SurfaceState) (update : SurfaceUpdate) :
    UpdateLaw (surfaceMachine.event surface update) := by
  have answer : surfaceMachine.event surface update =
      ⟨surface, update, (updateStep surface update).1, (updateStep surface update).2⟩ := rfl
  rw [answer]
  rcases updateStep_cases surface update with ⟨error, ends⟩ | ⟨mutation, after, ends, replaced⟩
  · rw [ends]
    exact ⟨fun _ _ => rfl, fun _ => ⟨error, rfl⟩, by simp⟩
  · rw [ends]
    refine ⟨by simp, ?_, ?_⟩
    · rintro (revision | generation)
      · exact absurd replaced.revision revision
      · exact absurd replaced.generation generation
    · intro other same
      cases same
      exact ⟨replaced.nextRevision, replaced.identity, replaced.keepsPolicy, replaced.revoked,
        replaced.moved, replaced.kept⟩

theorem revision_step (surface : SurfaceState) (update : SurfaceUpdate) :
    surface.revision.toNat ≤ (updateStep surface update).2.revision.toNat := by
  rcases updateStep_cases surface update with ⟨error, ends⟩ | ⟨mutation, after, ends, replaced⟩
  · rw [ends]
  · rw [ends, replaced.nextRevision]
    exact Nat.le_succ _

theorem revision_run (surface : SurfaceState) (updates : List SurfaceUpdate) :
    surface.revision.toNat ≤ (surfaceMachine.final surface updates).revision.toNat := by
  induction updates generalizing surface with
  | nil => exact le_rfl
  | cons update rest ih => exact le_trans (revision_step surface update) (ih _)

/-- Of two updates prepared from one revision at most one is taken over. -/
theorem one_of_two {surface : SurfaceState} {updates : List SurfaceUpdate}
    {past between future : List SurfaceEvent} {first second : SurfaceEvent}
    (cut : surfaceMachine.history surface updates =
      past ++ first :: (between ++ second :: future))
    (same : first.input.expectedRevision = second.input.expectedRevision)
    {one : SurfaceMutation} (done : first.output = .ok one) :
    ∃ error, second.output = .error error := by
  obtain ⟨before, update, rest, -, -, rfl, laterCut⟩ := surfaceMachine.history_event cut
  obtain ⟨middle, other, last, -, -, rfl, -⟩ := surfaceMachine.history_event laterCut.symm
  have law := updateLaw_event (surfaceMachine.final surface before) update
  have advanced := (law.replaced one done).1
  have current := revision_run (surfaceMachine.event
    (surfaceMachine.final surface before) update).after middle
  rcases updateStep_cases (surfaceMachine.final surface before) update with
    ⟨error, ends⟩ | ⟨mutation, after, ends, replaced⟩
  · have refused : (surfaceMachine.event (surfaceMachine.final surface before) update).output =
        .error error := congrArg Prod.fst ends
    rw [refused] at done
    cases done
  · -- The revision has passed the one that both name.
    apply (updateLaw_event _ other).stale
    left
    intro stale
    have named : update.expectedRevision = other.expectedRevision := same
    have stood := congrArg Counter.toNat (replaced.revision.symm.trans (named.trans stale))
    rw [Machine.event_before] at advanced stood
    omega

/-- Updates keep identity and policy, move the generation exactly with the mapping
and the revision with every success, and are refused without effect. -/
theorem surface_updates_safe (created : SurfaceDefinition) (surface : SurfaceState)
    (fresh : SurfaceState.new created = .ok surface) (updates : List SurfaceUpdate) :
    Descends created (surfaceMachine.final surface updates) ∧
      (∀ event ∈ surfaceMachine.history surface updates, UpdateLaw event ∧
        event.after.definition.validate = .ok ()) ∧
      (∀ past between future first second,
        surfaceMachine.history surface updates =
            past ++ first :: (between ++ second :: future) →
          first.input.expectedRevision = second.input.expectedRevision →
          (∃ mutation, first.output = .ok mutation) → ∃ error, second.output = .error error) := by
  refine ⟨descends_run fresh updates, ?_, ?_⟩
  · intro event inside
    obtain ⟨past, future, cut⟩ := List.append_of_mem inside
    obtain ⟨before, update, rest, -, -, rfl, -⟩ := surfaceMachine.history_event cut
    exact ⟨updateLaw_event _ update, ((descends_run fresh before).step update).valid⟩
  · rintro past between future first second cut same ⟨mutation, done⟩
    exact one_of_two cut same done

def canvas : SurfaceDefinition :=
  { contextId := 1
    surfaceId := 1
    semanticProfile := CANVAS_CONTENT
    coordinateModel := .normalized
    logicalWidth := 640
    logicalHeight := 480
    scaleNumerator := 1
    scaleDenominator := 1
    rotation := 0
    descriptor := ⟨.unspecified, "", 0, 0, ""⟩
    policy := 1
    profileParameters := [] }

/-- Two viewers resize one surface from its first revision, and the policy bit of
neither update is lost. -/
theorem surface_updates_safe_race :
    let start : SurfaceState := ⟨canvas, .one, .one⟩
    let resize : SurfaceUpdate := ⟨.one, .one, { canvas with logicalWidth := 800, policy := 2 }⟩
    Descends canvas (surfaceMachine.final start [resize, resize]) ∧
      (updateStep (updateStep start resize).2 resize).1 =
        .error (invalidValue "UPDATE_SURFACE" 2
          "does not match the current surface revision") := by
  intro start resize
  exact ⟨(surface_updates_safe canvas start (by decide +kernel) [resize, resize]).1,
    by decide +kernel⟩

end VividProtocol.Surface

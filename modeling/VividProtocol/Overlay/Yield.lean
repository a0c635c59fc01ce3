import Mathlib.Tactic
import VividProtocol.Overlay.Moves

/-!
# What the acts of others leave to a session

A session keeps its windows, their order and its focus history, or has lost its
queue.  The focus moves only to a window that was eligible on the way.
-/

set_option autoImplicit false

namespace VividProtocol.Overlay

open VividProtocol.Library
open VividProtocol.Library.OrderedForest

open Windows

/-! ## Spared sessions -/

/-- The windows of a session are as they were. -/
structure Kept (owner : SessionIdentity) (before after : Windows) : Prop where
  windows : ∀ id : SurfaceIdentity, id.context.session = owner → after.windows[id]? = before.windows[id]?
  stack : after.stack.filter (ownedBy owner) = before.stack.filter (ownedBy owner)
  served : after.events[owner]?.isSome = before.events[owner]?.isSome

/-- A session keeps its windows, or it has no queue any more. -/
def Spares (owner : SessionIdentity) (before after : Windows) : Prop :=
  after.events[owner]? = none ∨ Kept owner before after

namespace Spares

variable {owner : SessionIdentity} {before middle after : Windows}

theorem refl (state : Windows) : Spares owner state state := .inr ⟨fun _ _ => rfl, rfl, rfl⟩

theorem trans (first : Spares owner before middle) (second : Spares owner middle after) :
    Spares owner before after := by
  rcases second with gone | later
  · exact .inl gone
  rcases first with gone | sooner
  · left
    have same := later.served
    rw [gone, Option.isSome_none, Option.isSome_eq_false_iff, Option.isNone_iff_eq_none] at same
    exact same
  · right
    exact
      { windows := fun id owned => (later.windows id owned).trans (sooner.windows id owned)
        stack := later.stack.trans sooner.stack
        served := later.served.trans sooner.served }

end Spares

theorem filter_ownedBy_filter {owner other : SessionIdentity} (apart : other ≠ owner)
    (ids : List SurfaceIdentity) :
    (ids.filter fun id => ! ownedBy other id).filter (ownedBy owner) =
      ids.filter (ownedBy owner) := by
  rw [List.filter_filter]
  refine List.filter_congr fun id _ => ?_
  cases owned : ownedBy owner id with
  | false => rfl
  | true =>
      have same : id.context.session = owner := of_decide_eq_true owned
      have foreign : ownedBy other id = false :=
        decide_eq_false fun belongs => apart (belongs.symm.trans same)
      rw [foreign]
      rfl

theorem Sheds.spares {allowed : SurfaceIdentity → Event → Prop} {before after : Windows}
    (sheds : Sheds allowed before after) (owner : SessionIdentity) :
    Spares owner before after := by
  induction sheds with
  | refl => exact .refl before
  | @queued state id _ queue _ _ _ _ served _ _ _ ih =>
      refine ih.trans (.inr ⟨fun _ _ => rfl, rfl, ?_⟩)
      rw [push_events]
      by_cases same : id.context.session = owner
      · simp [← same, served]
      · rw [if_neg same]
  | @dropped state _ other ih =>
      by_cases same : other = owner
      · left
        rw [dropOwner_events, if_pos same]
      refine ih.trans (.inr ⟨?_, ?_, ?_⟩)
      · intro id owned
        rw [dropOwner_lookup]
        have foreign : ownedBy other id ≠ true := by
          intro belongs
          exact same ((of_decide_eq_true belongs).symm.trans owned)
        rw [if_neg fun both => foreign both.2]
      · rw [dropOwner_eq]
        exact filter_ownedBy_filter same state.stack
      · rw [dropOwner_events, if_neg same]
  | marked _ _ _ ih => exact ih.trans (.inr ⟨fun _ _ => rfl, rfl, rfl⟩)
  | pointed _ _ _ _ ih => exact ih.trans (.inr ⟨fun _ _ => rfl, rfl, rfl⟩)

/-! ## Yielding -/

/-- What a step of another session can do: a session is spared, and no modal
comes into effect. -/
structure Yields (owner : SessionIdentity) (before after : Windows) : Prop where
  forest : Forest after
  spares : Spares owner before after
  modals : ∀ id, after.Effective id → after.Modal id → before.Effective id ∧ before.Modal id

namespace Yields

variable {owner : SessionIdentity} {before middle after : Windows}

theorem refl (forest : Forest before) : Yields owner before before :=
  ⟨forest, .refl before, fun _ effective modal => ⟨effective, modal⟩⟩

theorem trans (first : Yields owner before middle) (second : Yields owner middle after) :
    Yields owner before after where
  forest := second.forest
  spares := first.spares.trans second.spares
  modals := fun id effective modal =>
    have both := second.modals id effective modal
    first.modals id both.1 both.2

theorem of {allowed : SurfaceIdentity → Event → Prop} (forest : Forest before)
    (sheds : Sheds allowed before after) : Yields owner before after where
  forest := sheds.forest forest
  spares := sheds.spares owner
  modals := fun _ effective modal =>
    ⟨sheds.within.effective effective, sheds.within.modal modal⟩

end Yields

/-- A session yields, and a window that got the focus was eligible on the way. -/
structure Refocuses (owner : SessionIdentity) (before after : Windows) : Prop where
  yields : Yields owner before after
  aim : ∀ id, after.focus = some id → before.focus = some id ∨
    ∃ middle, Yields owner before middle ∧ middle.eligible id = true ∧
      Yields owner middle after

theorem focusCandidate_eligible {state : Windows} {id : SurfaceIdentity}
    (candidate : state.focusCandidate = some id) :
    state.eligible id = true ∧ id ∈ state.focusHistory := by
  unfold Windows.focusCandidate at candidate
  exact ⟨List.find?_some candidate, List.mem_reverse.mp (List.mem_of_find?_eq_some candidate)⟩

namespace Refocuses

variable {owner : SessionIdentity} {before middle after : Windows}

theorem still (yields : Yields owner before after) (same : after.focus = before.focus) :
    Refocuses owner before after :=
  ⟨yields, fun _ focused => .inl (same ▸ focused)⟩

theorem cleared (yields : Yields owner before after) (none : after.focus = none) :
    Refocuses owner before after := by
  refine ⟨yields, fun id focused => ?_⟩
  rw [none] at focused
  cases focused

theorem trans (first : Refocuses owner before middle) (second : Refocuses owner middle after) :
    Refocuses owner before after := by
  refine ⟨first.yields.trans second.yields, fun id focused => ?_⟩
  rcases second.aim id focused with earlier | ⟨later, path, eligible, rest⟩
  · rcases first.aim id earlier with start | ⟨sooner, path, eligible, rest⟩
    · exact .inl start
    · exact .inr ⟨sooner, path, eligible, rest.trans second.yields⟩
  · exact .inr ⟨later, first.yields.trans path, eligible, rest⟩

theorem mark (first : Refocuses owner before middle) (other : SessionIdentity)
    (forest : Forest (middle.markOverflow other)) :
    Refocuses owner before (middle.markOverflow other) := by
  exact first.trans (.still ⟨forest, .inr ⟨fun _ _ => rfl, rfl, rfl⟩,
    fun _ effective modal => ⟨effective, modal⟩⟩ rfl)

theorem deliver {state after : Windows} {id : SurfaceIdentity} {event : Event}
    (forest : Forest state) (told : state.deliver id event = some after) :
    Refocuses owner state after := by
  have sheds : Sheds (fun _ _ => True) state after := deliver_sheds told trivial
  refine .still (.of forest sheds) ?_
  rcases deliver_eq_some told with ⟨rfl, -⟩ | ⟨window, queue, full, -, -, -, rfl⟩
  · rfl
  · rfl

theorem clearFocus {state : Windows} (forest : Forest state) :
    Refocuses owner state state.clearFocus := by
  have sheds : Sheds (fun _ _ => True) state state.clearFocus := Sheds.refl.clearFocus
  exact .cleared (.of forest sheds) rfl

theorem dropOwner {state : Windows} (forest : Forest state) (other : SessionIdentity) :
    Refocuses owner state (state.dropOwner other) := by
  have sheds : Sheds (fun _ _ => True) state (state.dropOwner other) := Sheds.refl.dropped other
  refine .still (.of forest sheds) ?_
  rw [dropOwner_eq]

theorem refl {state : Windows} (forest : Forest state) : Refocuses owner state state :=
  .still (.refl forest) rfl

/-- The slots move, and the focus to something that was eligible at the start. -/
theorem point (forest : Forest before) (first : Refocuses owner before middle)
    {next : Option SurfaceIdentity}
    (aim : ∀ id, next = some id → middle.focus = some id ∨ before.eligible id = true)
    (hover : Option Hover) (capture : Option Capture) :
    Refocuses owner before { middle with focus := next, hover := hover, capture := capture } := by
  have pointed : Yields owner middle
      { middle with focus := next, hover := hover, capture := capture } :=
    { forest := first.yields.forest.frame rfl rfl rfl rfl rfl
      spares := .inr ⟨fun _ _ => rfl, rfl, rfl⟩
      modals := fun _ effective modal => ⟨effective, modal⟩ }
  refine ⟨first.yields.trans pointed, fun id focused => ?_⟩
  rcases aim id focused with same | eligible
  · rcases first.aim id same with start | ⟨sooner, path, eligible, rest⟩
    · exact .inl start
    · exact .inr ⟨sooner, path, eligible, rest.trans pointed⟩
  · exact .inr ⟨before, .refl forest, eligible, first.yields.trans pointed⟩

theorem pointCandidate {state : Windows} (forest : Forest state) {next : SurfaceIdentity}
    (candidate : state.focusCandidate = some next) :
    Refocuses owner state { state with focus := some next } :=
  (Refocuses.refl forest).point forest
    (fun _ same => .inr (Option.some.inj same ▸ (focusCandidate_eligible candidate).1))
    state.hover state.capture

theorem handsOn {state after : Windows} (handsOn : HandsOn state after) (forest : Forest state) :
    Refocuses owner state after := by
  induction handsOn with
  | ended => exact .refl forest
  | @told state after next candidate told =>
      have focused : Refocuses owner state _ := pointCandidate forest candidate
      exact focused.trans (deliver focused.yields.forest told)
  | @dropped state after next candidate refused rest ih =>
      have sheds := ((HandsOn.dropped candidate refused rest).stirs (noticed Forest.notices)).sheds
      have focused : Refocuses owner state _ := pointCandidate forest candidate
      have dropped := focused.trans (dropOwner focused.yields.forest next.context.session)
      have cleared := dropped.trans (clearFocus dropped.yields.forest)
      exact (cleared.trans (ih cleared.yields.forest)).mark _ (sheds.forest forest)

theorem revokeOwner {state : Windows} (forest : Forest state) (other : SessionIdentity) :
    Refocuses owner state (state.revokeOwner other) := by
  have dropped : Refocuses owner state (state.dropOwner other) := dropOwner forest other
  unfold Windows.revokeOwner refocus
  dsimp only
  cases (state.dropOwner other).focusOwnedBy other with
  | false => exact dropped
  | true =>
      have cleared := dropped.trans (clearFocus dropped.yields.forest)
      exact cleared.trans (handsOn (refocusWithin_handsOn _ _) cleared.yields.forest)

theorem emit {state : Windows} (forest : Forest state) {id : SurfaceIdentity} {event : Event}
    (known : validEvent event = true ∨ id.context.session ∈ state.owners) :
    Refocuses owner state (state.emit id event) := by
  have whole : Forest (state.emit id event) := forest.emit known
  unfold Windows.emit at whole ⊢
  cases told : state.deliver id event with
  | some after => exact deliver forest told
  | none =>
      rw [told] at whole
      exact (revokeOwner forest _).mark _ whole

theorem notice {state : Windows} (forest : Forest state) (id : SurfaceIdentity) {event : Event}
    (valid : validEvent event = true) : Refocuses owner state (state.emit id event) :=
  emit forest (.inl valid)

theorem leaveFocus {state : Windows} (forest : Forest state) :
    Refocuses owner state state.leaveFocus := by
  unfold Windows.leaveFocus
  cases state.focus with
  | none => exact .refl forest
  | some old =>
      have cleared : Refocuses owner state state.clearFocus := clearFocus forest
      have cancelled : Refocuses owner state (state.clearFocus.emit old .cancel) :=
        cleared.trans (notice cleared.yields.forest old rfl)
      exact cancelled.trans (notice cancelled.yields.forest old rfl)

/-- The focus is taken away, or moves to a window that is eligible. -/
theorem changeFocus {state : Windows} (forest : Forest state) {next : Option SurfaceIdentity}
    (aim : ∀ id, next = some id → state.eligible id = true) :
    Refocuses owner state (state.changeFocus next) := by
  unfold Windows.changeFocus
  by_cases same : state.focus = next
  · rw [if_pos same]
    exact .refl forest
  · rw [if_neg same]
    have left : Refocuses owner state state.leaveFocus := leaveFocus forest
    have moved := left.point forest (fun id focused => .inr (aim id focused))
      state.leaveFocus.hover state.leaveFocus.capture
    cases next with
    | none => exact moved
    | some id => exact moved.trans (notice moved.yields.forest id rfl)

theorem restoreFocus {state : Windows} (forest : Forest state) :
    Refocuses owner state state.restoreFocus :=
  changeFocus forest fun _ candidate => (focusCandidate_eligible candidate).1

theorem loseFocus {state : Windows} (forest : Forest state) :
    Refocuses owner state (state.changeFocus none) :=
  changeFocus forest fun _ impossible => nomatch impossible

theorem setHover {state : Windows} (forest : Forest state) (next : Option Hover) :
    Refocuses owner state (state.setHover next) := by
  unfold Windows.setHover
  cases sameHover state.hover next with
  | true => exact (refl forest).point forest (fun _ same => .inl same) next state.capture
  | false =>
      have left : Refocuses owner state state.leaveHover := by
        unfold Windows.leaveHover
        cases state.hover with
        | none => exact .refl forest
        | some previous => exact notice forest previous.window rfl
      have moved := left.point forest (fun _ same => .inl same) next state.leaveHover.capture
      cases next with
      | none => exact moved
      | some current => exact moved.trans (notice moved.yields.forest current.window rfl)

theorem cancelCapture {state : Windows} (forest : Forest state) (id : SurfaceIdentity) :
    Refocuses owner state (state.cancelCapture id) := by
  unfold Windows.cancelCapture
  cases state.capturedBy id with
  | false => exact .refl forest
  | true =>
      have start : Refocuses owner state state := refl forest
      have released := start.point forest (fun _ same => .inl same) state.hover none
      exact released.trans (notice released.yields.forest id rfl)

theorem dismiss {state : Windows} (forest : Forest state) (id : SurfaceIdentity)
    (reason : DismissReason) : Refocuses owner state (state.dismiss id reason) := by
  have released : Refocuses owner state (state.cancelCapture id) := cancelCapture forest id
  unfold Windows.dismiss
  generalize state.cancelCapture id = middle at released
  have left : Refocuses owner state
      (if middle.hovers id then middle.setHover none else middle) := by
    cases middle.hovers id with
    | false => exact released
    | true => exact released.trans (setHover released.yields.forest none)
  dsimp only
  generalize (if middle.hovers id then middle.setHover none else middle) = next at left
  have unfocused : Refocuses owner state
      (if next.focus = some id then next.changeFocus none else next) := by
    by_cases focused : next.focus = some id
    · rw [if_pos focused]
      exact left.trans (loseFocus left.yields.forest)
    · rw [if_neg focused]
      exact left
  exact unfocused.trans (notice unfocused.yields.forest id rfl)

theorem removeOne {state : Windows} (forest : Forest state) {id : SurfaceIdentity}
    (reason : DismissReason) (childless : ∀ child, state.parent? child ≠ some id)
    (foreign : id.context.session ≠ owner) :
    Refocuses owner state (state.removeOne id reason) := by
  have dismissed : Refocuses owner state (state.dismiss id reason) := dismiss forest id reason
  have whole := forest.removeOne reason childless
  have within : Within (state.dismiss id reason) (state.removeOne id reason) := by
    intro probe window found
    unfold Windows.removeOne at found
    rw [Forest.forget_lookup] at found
    by_cases same : id = probe
    · rw [if_pos same] at found
      cases found
    · rw [if_neg same] at found
      exact found
  refine dismissed.trans (.still ⟨whole, .inr ⟨?_, ?_, rfl⟩, ?_⟩ rfl)
  · intro probe owned
    unfold Windows.removeOne
    rw [Forest.forget_lookup, if_neg]
    rintro rfl
    exact foreign owned
  · show ((state.dismiss id reason).stack.filter fun key => decide (key ≠ id)).filter
      (ownedBy owner) = _
    rw [List.filter_filter]
    refine List.filter_congr fun key _ => ?_
    cases owned : ownedBy owner key with
    | false => rfl
    | true =>
        have other : key ≠ id := by
          rintro rfl
          exact foreign (of_decide_eq_true owned)
        simp [other]
  · exact fun _ effective modal => ⟨within.effective effective, within.modal modal⟩

/-- Closing a window of another session. -/
theorem close {state : Windows} (forest : Forest state) (id : SurfaceIdentity)
    (reason : DismissReason) (foreign : id.context.session ≠ owner) :
    Refocuses owner state (state.close id reason) := by
  obtain ⟨kept, removed, -⟩ := @Forest.removeGroup_rel state forest
    (fun before after => Forest before → Refocuses owner before after)
    (fun _ forest => .refl forest)
    (fun _ _ _ first second forest =>
      (first forest).trans (second (first forest).yields.forest)) id reason
    (fun before child cause forestBefore childless below _ => by
      have same := forest.ancestor_session ((forest.descendant_iff child id).mp below)
      exact removeOne forestBefore cause childless (same ▸ foreign))
  exact (removed forest).trans (restoreFocus kept)

theorem cancelCaptures (ids : List SurfaceIdentity) {state : Windows} (forest : Forest state) :
    Refocuses owner state (ids.foldl Windows.cancelCapture state) := by
  induction ids generalizing state with
  | nil => exact .refl forest
  | cons id rest ih =>
      have first : Refocuses owner state (state.cancelCapture id) := cancelCapture forest id
      exact first.trans (ih first.yields.forest)

theorem hideGroup {state : Windows} (forest : Forest state) (id : SurfaceIdentity) :
    Refocuses owner state (state.hideGroup id) := by
  unfold Windows.hideGroup
  have released : Refocuses owner state ((state.group id).foldl Windows.cancelCapture state) :=
    cancelCaptures _ forest
  generalize (state.group id).foldl Windows.cancelCapture state = middle at released
  dsimp only
  cases middle.focus.any fun focused => middle.descendant focused id with
  | false => exact released
  | true =>
      have lost := released.trans (loseFocus released.yields.forest)
      exact lost.trans (restoreFocus lost.yields.forest)

end Refocuses

end VividProtocol.Overlay

import Mathlib.Tactic
import VividProtocol.Overlay.Told

/-!
# Pending geometry

Which windows were told of geometry that is still moving, and that emitting,
closing and hiding neither start that nor let go of a capture without telling.
-/

set_option autoImplicit false

namespace VividProtocol.Overlay

open VividProtocol.Library
open VividProtocol.Library.OrderedForest
open VividProtocol.Library.Result
open VividProtocol.Library.Transition

open Windows

/-- Geometry that is still moving. -/
def Event.unsettled : Event → Bool
  | .geometry _ settled => ! settled
  | _ => false

/-- An event that reports where a gesture stands. -/
def Event.reports : Event → Bool
  | .geometry .. => true
  | .dismissed _ => true
  | .cancel => true
  | _ => false

namespace Windows

variable (state : Windows)

/-- The last geometry, cancellation or dismissal that a window was told. -/
def lastReport (id : SurfaceIdentity) : Option Event :=
  (((state.told id).map WindowEvent.event).filter Event.reports).getLast?

/-- The last report to a window is geometry that is still moving. -/
def Pending (id : SurfaceIdentity) : Prop :=
  ∃ bounds, state.lastReport id = some (.geometry bounds false)

/-- A window is being dragged or resized. -/
def Moving (id : SurfaceIdentity) : Prop :=
  ∃ capture, state.capture = some capture ∧ capture.window = id ∧ capture.role.gestures = true

/-- Live windows whose geometry is pending are being dragged or resized. -/
def Reported : Prop := ∀ id, state.Live id → state.Pending id → state.Moving id

variable {state}

theorem lastReport_of_journal {after : Windows} (same : after.journal = state.journal)
    (id : SurfaceIdentity) : after.lastReport id = state.lastReport id := by
  unfold lastReport
  rw [told_of_journal same]

theorem lastReport_push (owner : SessionIdentity) (queue : List WindowEvent) (window : Window)
    (id probe : SurfaceIdentity) (event : Event) :
    (state.push owner queue (stamp window id event)).lastReport probe =
      if id = probe ∧ event.reports = true then some event else state.lastReport probe := by
  unfold lastReport
  rw [told_push]
  by_cases same : id = probe
  · rw [if_pos same, List.map_append, List.filter_append]
    cases reports : event.reports with
    | true => simp [stamp, reports, same]
    | false => simp [stamp, reports]
  · rw [if_neg same, if_neg fun both => same both.1]

theorem Pending.of_push {owner : SessionIdentity} {queue : List WindowEvent} {window : Window}
    {id probe : SurfaceIdentity} {event : Event}
    (settled : id = probe → event.unsettled = false)
    (pending : (state.push owner queue (stamp window id event)).Pending probe) :
    state.Pending probe ∧ (id = probe → event.reports = false) := by
  obtain ⟨bounds, last⟩ := pending
  rw [lastReport_push] at last
  by_cases told : id = probe ∧ event.reports = true
  · rw [if_pos told, Option.some.injEq] at last
    subst last
    cases settled told.1
  · rw [if_neg told] at last
    refine ⟨⟨bounds, last⟩, fun same => ?_⟩
    rw [not_and, Bool.not_eq_true] at told
    exact told same

end Windows

/-! ## Hushing -/

/-- No window starts to have geometry pending, and one that keeps it keeps its capture. -/
def Hushed (before after : Windows) : Prop :=
  ∀ id, after.Live id → after.Pending id → before.Live id ∧ before.Pending id ∧
    ∀ capture, before.capture = some capture → capture.window = id →
      after.capture = some capture

namespace Hushed

variable {before middle after : Windows}

theorem refl (state : Windows) : Hushed state state :=
  fun _ live pending => ⟨live, pending, fun _ held _ => held⟩

theorem trans (first : Hushed before middle) (second : Hushed middle after) :
    Hushed before after := by
  intro id live pending
  obtain ⟨middleLive, middlePending, middleKept⟩ := second id live pending
  obtain ⟨beforeLive, beforePending, kept⟩ := first id middleLive middlePending
  exact ⟨beforeLive, beforePending, fun capture held same =>
    middleKept capture (kept capture held same) same⟩

/-- Hushing keeps the law. -/
theorem reported (hushed : Hushed before after) (reported : before.Reported) : after.Reported := by
  intro id live pending
  obtain ⟨liveBefore, pendingBefore, kept⟩ := hushed id live pending
  obtain ⟨capture, held, same, gestures⟩ := reported id liveBefore pendingBefore
  exact ⟨capture, kept capture held same, same, gestures⟩

/-- A state with the same windows, journal and capture. -/
theorem frame {state : Windows} (live : ∀ id, after.Live id → state.Live id)
    (journal : after.journal = state.journal) (capture : after.capture = state.capture) :
    Hushed state after := by
  intro id alive pending
  obtain ⟨bounds, last⟩ := pending
  rw [lastReport_of_journal journal] at last
  exact ⟨live id alive, ⟨bounds, last⟩, fun _ held _ => capture.trans held⟩

end Hushed

theorem Stirs.pending {allowed : SurfaceIdentity → Event → Prop} {before after : Windows}
    (stirs : Stirs allowed before after) {id : SurfaceIdentity}
    (settled : ∀ event, allowed id event → event.unsettled = false)
    (pending : after.Pending id) : before.Pending id := by
  have same : ∀ {state next : Windows}, next.journal = state.journal → next.Pending id →
      state.Pending id := by
    rintro state next journal ⟨bounds, last⟩
    exact ⟨bounds, (lastReport_of_journal journal id).symm.trans last⟩
  induction stirs with
  | refl => exact pending
  | queued _ _ _ _ _ permitted ih =>
      refine ih (Pending.of_push ?_ pending).1
      rintro rfl
      exact settled _ permitted
  | @dropped state _ owner ih =>
      refine ih (same ?_ pending)
      rw [dropOwner_eq]
  | marked _ _ _ ih => exact ih (same rfl pending)
  | aimed _ _ _ ih => exact ih (same rfl pending)

/-- What stirs without unsettled geometry hushes. -/
theorem Stirs.hushed {before after : Windows}
    (stirs : Stirs (fun _ event => event.unsettled = false) before after)
    (forest : Forest before) : Hushed before after := by
  intro id live pending
  refine ⟨stirs.sheds.live live, stirs.pending (fun _ settled => settled) pending, ?_⟩
  rintro capture held rfl
  rcases stirs.capture held with kept | gone
  · exact kept
  · obtain ⟨queue, served⟩ := (stirs.sheds.forest forest).served _ live
    rw [gone] at served
    cases served

/-! ## Hushed functions -/

section Functions

variable {state : Windows}

theorem settled_notices (_ : SurfaceIdentity) (event : Event) (notice : event.notice = true) :
    event.unsettled = false := by
  cases event with
  | geometry => cases notice
  | _ => rfl

theorem emit_hushed (forest : Forest state) {id : SurfaceIdentity} {event : Event}
    (settled : event.unsettled = false)
    (known : validEvent event = true ∨ id.context.session ∈ state.owners) :
    Hushed state (state.emit id event) := by
  have stirs : Stirs (fun _ event => event.unsettled = false) state (state.emit id event) :=
    emit_stirs settled_notices settled known
  exact stirs.hushed forest

theorem changeFocus_hushed (forest : Forest state) (next : Option SurfaceIdentity) :
    Hushed state (state.changeFocus next) := by
  have stirs : Stirs (fun _ event => event.unsettled = false) state (state.changeFocus next) :=
    changeFocus_stirs settled_notices state next
  exact stirs.hushed forest

theorem setHover_hushed (forest : Forest state) (next : Option Hover) :
    Hushed state (state.setHover next) := by
  have stirs : Stirs (fun _ event => event.unsettled = false) state (state.setHover next) :=
    setHover_stirs settled_notices state next
  exact stirs.hushed forest

theorem refreshHover_hushed (forest : Forest state) (position : Point)
    (hit : SurfaceIdentity → Point → Option HitRegion) :
    Hushed state (state.refreshHover position hit) := by
  have stirs : Stirs (fun _ event => event.unsettled = false) state
      (state.refreshHover position hit) := refreshHover_stirs settled_notices state position hit
  exact stirs.hushed forest

/-- A window that was told a report other than unsettled geometry has none pending. -/
theorem emit_reports (forest : Forest state) {id : SurfaceIdentity} {event : Event}
    (valid : validEvent event = true) (settled : event.unsettled = false)
    (reports : event.reports = true) (live : (state.emit id event).Live id) :
    ¬ (state.emit id event).Pending id := by
  have stirs : Stirs (fun _ _ => True) state (state.emit id event) :=
    emit_stirs (fun _ _ _ => trivial) trivial (.inl valid)
  have forestAfter := stirs.sheds.forest forest
  have served := forestAfter.served id live
  revert served live
  unfold emit
  cases told : state.deliver id event with
  | none =>
      intro live served
      obtain ⟨queue, found⟩ := served
      have gone : (state.revokeOwner id.context.session).events[id.context.session]? = none :=
        revokeOwner_unserved (fun _ _ _ => trivial : ∀ id event, event.notice = true →
          (fun _ _ => True : SurfaceIdentity → Event → Prop) id event) state _
      change (state.revokeOwner id.context.session).events[id.context.session]? = some queue at found
      rw [gone] at found
      cases found
  | some after =>
      intro live served pending
      rcases deliver_eq_some told with ⟨rfl, absent⟩ | ⟨window, queue, full, -, -, -, rfl⟩
      · obtain ⟨window, found⟩ := live
        obtain ⟨queue, kept⟩ := served
        rcases absent with absent | absent
        · change after.windows[id]? = some window at found
          rw [absent] at found
          cases found
        · change after.events[id.context.session]? = some queue at kept
          rw [absent] at kept
          cases kept
      · have quiet := (Pending.of_push (fun _ => settled) pending).2 rfl
        rw [reports] at quiet
        cases quiet

/-- A capture that is given up is told. -/
theorem release_hushed (forest : Forest state) {capture : Capture}
    (held : state.capture = some capture) :
    Hushed state ({ state with capture := none }.emit capture.window .cancel) := by
  have free : Forest { state with capture := none } := forest.frame rfl rfl rfl rfl rfl
  intro id live pending
  obtain ⟨liveBefore, pendingBefore, -⟩ := emit_hushed free rfl (.inl rfl) id live pending
  refine ⟨liveBefore, pendingBefore, ?_⟩
  rintro other holds rfl
  rw [held, Option.some.injEq] at holds
  subst holds
  exact absurd pending (emit_reports free rfl rfl rfl live)

theorem cancelCapture_hushed (forest : Forest state) (id : SurfaceIdentity) :
    Hushed state (state.cancelCapture id) := by
  unfold cancelCapture
  cases captured : state.capturedBy id with
  | false => exact .refl state
  | true =>
      unfold capturedBy at captured
      rw [Option.any_eq_true] at captured
      obtain ⟨capture, held, same⟩ := captured
      rw [← of_decide_eq_true same]
      exact release_hushed forest held

/-- Geometry for a window that is being dragged or resized may be pending. -/
theorem emit_moving (forest : Forest state) (reported : state.Reported) {id : SurfaceIdentity}
    {event : Event} (moving : state.Moving id)
    (known : validEvent event = true ∨ id.context.session ∈ state.owners) :
    (state.emit id event).Reported := by
  have stirs : Stirs (fun target event => target = id ∨ event.unsettled = false) state
      (state.emit id event) :=
    emit_stirs (fun target event notice => .inr (settled_notices target event notice)) (.inl rfl)
      known
  intro probe live pending
  have before : state.Moving probe := by
    by_cases same : probe = id
    · exact same ▸ moving
    · refine reported probe (stirs.sheds.live live) (stirs.pending ?_ pending)
      rintro other (own | settled)
      · exact absurd own same
      · exact settled
  obtain ⟨capture, held, same, gestures⟩ := before
  subst same
  rcases stirs.capture held with kept | gone
  · exact ⟨capture, kept, rfl, gestures⟩
  · obtain ⟨queue, served⟩ := (stirs.sheds.forest forest).served _ live
    rw [gone] at served
    cases served

theorem dismiss_hushed (forest : Forest state) (id : SurfaceIdentity) (reason : DismissReason) :
    Hushed state (state.dismiss id reason) := by
  have released := cancelCapture_hushed forest id
  have kept : Forest (state.cancelCapture id) :=
    forest.shed (cancelCapture_sheds Forest.notices state id)
  unfold dismiss
  generalize state.cancelCapture id = middle at released kept
  have left : Hushed state (if middle.hovers id then middle.setHover none else middle) ∧
      Forest (if middle.hovers id then middle.setHover none else middle) := by
    cases middle.hovers id with
    | false => exact ⟨released, kept⟩
    | true => exact ⟨released.trans (setHover_hushed kept none), kept.setHover none⟩
  dsimp only
  generalize (if middle.hovers id then middle.setHover none else middle) = next at left
  have unfocused : Hushed state (if next.focus = some id then next.changeFocus none else next) ∧
      Forest (if next.focus = some id then next.changeFocus none else next) := by
    by_cases focused : next.focus = some id
    · rw [if_pos focused]
      exact ⟨left.1.trans (changeFocus_hushed left.2 none), left.2.changeFocus none⟩
    · rw [if_neg focused]
      exact left
  exact unfocused.1.trans (emit_hushed unfocused.2 rfl (.inl rfl))

theorem removeOne_hushed (forest : Forest state) (id : SurfaceIdentity)
    (reason : DismissReason) : Hushed state (state.removeOne id reason) := by
  refine (dismiss_hushed forest id reason).trans (.frame ?_ rfl rfl)
  rintro probe ⟨window, found⟩
  unfold removeOne at found
  rw [Forest.forget_lookup] at found
  by_cases same : id = probe
  · rw [if_pos same] at found
    cases found
  · rw [if_neg same] at found
    exact ⟨window, found⟩

theorem close_hushed (forest : Forest state) (id : SurfaceIdentity) (reason : DismissReason) :
    Hushed state (state.close id reason) := by
  obtain ⟨kept, removed, -⟩ := @Forest.removeGroup_rel state forest Hushed Hushed.refl
    (fun _ _ _ first second => first.trans second) id reason
    (fun before child cause forestBefore _ _ => removeOne_hushed forestBefore child cause)
  exact removed.trans (changeFocus_hushed kept _)

theorem close_gone (forest : Forest state) (id : SurfaceIdentity) (reason : DismissReason) :
    ¬ (state.close id reason).Live id := by
  intro live
  have restored : Sheds (fun _ _ => True) (state.removeGroup id reason)
      (state.close id reason) := restoreFocus_sheds Forest.notices _
  have gone := (@Forest.removeGroup_rel state forest (fun _ _ => True) (fun _ => trivial)
    (fun _ _ _ _ _ => trivial) id reason (fun _ _ _ _ _ _ => trivial)).2.2 id
      (restored.live live)
  rw [(forest.descendant_iff id id).mpr (.refl id)] at gone
  cases gone

theorem cancelCaptures_hushed (ids : List SurfaceIdentity) (forest : Forest state) :
    Hushed state (ids.foldl cancelCapture state) := by
  induction ids generalizing state with
  | nil => exact .refl state
  | cons id rest ih =>
      exact (cancelCapture_hushed forest id).trans
        (ih (forest.shed (cancelCapture_sheds Forest.notices state id)))

theorem hideGroup_hushed (forest : Forest state) (id : SurfaceIdentity) :
    Hushed state (state.hideGroup id) := by
  have released := cancelCaptures_hushed (state.group id) forest
  have kept : Forest ((state.group id).foldl cancelCapture state) :=
    forest.shed (cancelCaptures_sheds Forest.notices _ state)
  unfold hideGroup
  generalize (state.group id).foldl cancelCapture state = middle at released kept
  dsimp only
  cases middle.focus.any fun focused => middle.descendant focused id with
  | false => exact released
  | true =>
      exact (released.trans (changeFocus_hushed kept none)).trans
        (changeFocus_hushed (kept.changeFocus none) _)

theorem takeFocus_hushed (forest : Forest state) {id : SurfaceIdentity} (live : state.Live id) :
    Hushed state (state.takeFocus id) := by
  have raised : Hushed state ((state.raiseGroup id).remember id) :=
    .frame (fun _ live => live) rfl rfl
  exact raised.trans (changeFocus_hushed ((forest.raiseGroup id).remember live) _)

theorem requestFocus_hushed (forest : Forest state) (id : SurfaceIdentity) :
    Hushed state (state.requestFocus id).2 := by
  have outcome := state.requestFocus_outcome id
  generalize state.requestFocus id = answer at outcome
  cases outcome with
  | refused _ _ => exact .refl state
  | taken eligible => exact takeFocus_hushed forest (forest.live_of_eligible eligible)

theorem setWindow_hushed {id : SurfaceIdentity} (live : state.Live id) (window : Window) :
    Hushed state (state.setWindow id window) :=
  .frame (fun probe alive => (Forest.setWindow_live live window probe).mp alive) rfl rfl

theorem insertWindow_hushed (id : SurfaceIdentity) (generation : UInt64)
    (options : WindowOptions) : Hushed state (state.insertWindow id generation options) := by
  rintro probe ⟨window, found⟩ ⟨bounds, last⟩
  unfold lastReport at last
  rw [told_insertWindow] at last
  by_cases same : id = probe
  · rw [if_pos same] at last
    cases last
  · rw [if_neg same] at last
    rw [Forest.insertWindow_lookup, if_neg same] at found
    exact ⟨⟨window, found⟩, ⟨bounds, last⟩, fun _ held _ => held⟩

end Functions

end VividProtocol.Overlay

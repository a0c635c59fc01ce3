import Mathlib.Tactic
import VividProtocol.Overlay.Operations
import VividProtocol.Overlay.Shed

/-!
# The effect of emitting

Each function that emits events sheds, and what it queues besides the event it
was given are notices: focus, hover, cancellation, dismissal and geometry.
-/

set_option autoImplicit false

namespace VividProtocol.Overlay

open VividProtocol.Library
open VividProtocol.Library.OrderedForest

/-- An event that carries input of the user. -/
def Event.input : Event → Bool
  | .pointer .. => true
  | .wheel .. => true
  | .key .. => true
  | .text _ => true
  | .ime .. => true
  | .focus _ => false
  | .accessibility .. => false
  | .hover .. => false
  | .geometry .. => false
  | .dismissed _ => false
  | .cancel => false

/-- An event by which the state tells of its own changes. -/
def Event.notice : Event → Bool
  | .focus _ => true
  | .hover .. => true
  | .dismissed _ => true
  | .cancel => true
  | _ => false

theorem Event.input_of_notice {event : Event} (notice : event.notice = true) :
    event.input = false := by
  cases event with
  | focus => rfl
  | hover => rfl
  | dismissed => rfl
  | cancel => rfl
  | pointer => cases notice
  | accessibility => cases notice
  | wheel => cases notice
  | key => cases notice
  | text => cases notice
  | ime => cases notice
  | geometry => cases notice

namespace Windows

variable {state after : Windows} {allowed : SurfaceIdentity → Event → Prop}

/-! ## Delivery -/

/-- Only a valid event is delivered. -/
theorem deliver_valid {id : SurfaceIdentity} {event : Event}
    (told : state.deliver id event = some after) : validEvent event = true := by
  unfold deliver at told
  cases valid : validEvent event with
  | false => simp [valid] at told
  | true => rfl

/-- A delivered event is queued, or its window or queue is missing. -/
theorem deliver_eq_some {id : SurfaceIdentity} {event : Event}
    (told : state.deliver id event = some after) :
    (after = state ∧
        (state.windows[id]? = none ∨ state.events[id.context.session]? = none)) ∨
      ∃ window queue full, state.windows[id]? = some window ∧
        state.events[id.context.session]? = some queue ∧
        enqueue queue (stamp window id event) = some full ∧
        after = state.push id.context.session full (stamp window id event) := by
  unfold deliver at told
  cases valid : validEvent event with
  | false => simp [valid] at told
  | true =>
      rw [valid, if_neg (by decide)] at told
      cases live : state.windows[id]? with
      | none =>
          rw [live] at told
          cases told
          exact .inl ⟨rfl, .inl rfl⟩
      | some window =>
          rw [live] at told
          cases served : state.events[id.context.session]? with
          | none =>
              rw [served] at told
              cases told
              exact .inl ⟨rfl, .inr rfl⟩
          | some queue =>
              simp only [served, Option.map_eq_some_iff] at told
              obtain ⟨full, fits, rfl⟩ := told
              exact .inr ⟨window, queue, full, rfl, rfl, fits, rfl⟩

theorem deliver_stirs {id : SurfaceIdentity} {event : Event}
    (told : state.deliver id event = some after) (permitted : allowed id event) :
    Stirs allowed state after := by
  have valid := deliver_valid told
  rcases deliver_eq_some told with ⟨rfl, -⟩ | ⟨window, queue, full, live, served, fits, rfl⟩
  · exact .refl
  · exact .queued .refl live served fits valid permitted

theorem deliver_sheds {id : SurfaceIdentity} {event : Event}
    (told : state.deliver id event = some after) (permitted : allowed id event) :
    Sheds allowed state after :=
  (deliver_stirs told permitted).sheds

/-- A valid event is refused by a full queue of a live window only. -/
theorem deliver_eq_none {id : SurfaceIdentity} {event : Event} (valid : validEvent event = true)
    (refused : state.deliver id event = none) :
    state.Live id ∧ id.context.session ∈ state.owners := by
  unfold deliver at refused
  rw [valid, if_neg (by decide)] at refused
  cases live : state.windows[id]? with
  | none => simp [live] at refused
  | some window =>
      rw [live] at refused
      cases served : state.events[id.context.session]? with
      | none => simp [served] at refused
      | some queue => exact ⟨⟨window, live⟩, mem_owners.mpr (.inl ⟨queue, served⟩)⟩

/-! ## Handing on the focus -/

/-- What the loop over the candidates can do: it ends, a candidate is told, or the
session of one that cannot be told is dropped and the loop goes on. -/
inductive HandsOn : Windows → Windows → Prop where
  | ended (state : Windows) : HandsOn state state
  | told {state after : Windows} {next : SurfaceIdentity}
      (candidate : state.focusCandidate = some next)
      (told : deliver { state with focus := some next } next (.focus true) = some after) :
      HandsOn state after
  | dropped {state after : Windows} {next : SurfaceIdentity}
      (candidate : state.focusCandidate = some next)
      (refused : deliver { state with focus := some next } next (.focus true) = none)
      (rest : HandsOn
        (dropOwner { state with focus := some next } next.context.session).clearFocus after) :
      HandsOn state (after.markOverflow next.context.session)

theorem refocusWithin_handsOn (rounds : Nat) (state : Windows) :
    HandsOn state (refocusWithin rounds state) := by
  induction rounds generalizing state with
  | zero => exact .ended state
  | succ rounds ih =>
      unfold refocusWithin
      cases candidate : state.focusCandidate with
      | none => exact .ended state
      | some next =>
          cases told : deliver { state with focus := some next } next (.focus true) with
          | some after =>
              simp only [told]
              exact .told candidate told
          | none =>
              simp only [told]
              exact .dropped candidate told (ih _)

/-! ## Stirring -/

section Stirring

variable (notices : ∀ id event, event.notice = true → allowed id event)

include notices

theorem HandsOn.stirs (handsOn : HandsOn state after) : Stirs allowed state after := by
  induction handsOn with
  | ended => exact .refl
  | @told state after next _ told =>
      have focused : Stirs allowed state { state with focus := some next } :=
        Stirs.refl.focus (some next)
      exact focused.trans (deliver_stirs told (notices _ _ rfl))
  | @dropped state after next _ refused _ rest =>
      have focused : Stirs allowed state { state with focus := some next } :=
        Stirs.refl.focus (some next)
      obtain ⟨-, listed⟩ := deliver_eq_none rfl refused
      have cleared := (focused.dropped next.context.session).focus none
      refine (cleared.trans rest).marked listed (rest.sheds.unserved ?_)
      simp [clearFocus, dropOwner_events]

theorem revokeOwner_stirs (state : Windows) (owner : SessionIdentity) :
    Stirs allowed state (state.revokeOwner owner) := by
  have dropped : Stirs allowed state (state.dropOwner owner) := Stirs.refl.dropped owner
  unfold revokeOwner refocus
  by_cases owned : (state.dropOwner owner).focusOwnedBy owner = true
  · rw [if_pos owned]
    exact (dropped.focus none).trans ((refocusWithin_handsOn _ _).stirs notices)
  · rw [if_neg owned]
    exact dropped

theorem revokeOwner_unserved (state : Windows) (owner : SessionIdentity) :
    (state.revokeOwner owner).events[owner]? = none := by
  have gone : (state.dropOwner owner).events[owner]? = none := by simp [dropOwner_events]
  unfold revokeOwner refocus
  by_cases owned : (state.dropOwner owner).focusOwnedBy owner = true
  · rw [if_pos owned]
    exact ((refocusWithin_handsOn _ _).stirs notices).sheds.unserved gone
  · rw [if_neg owned]
    exact gone

/-- Emitting sheds if an event that is not valid comes from a known session. -/
theorem emit_stirs {id : SurfaceIdentity} {event : Event} (permitted : allowed id event)
    (known : validEvent event = true ∨ id.context.session ∈ state.owners) :
    Stirs allowed state (state.emit id event) := by
  unfold emit
  cases told : state.deliver id event with
  | some after => exact deliver_stirs told permitted
  | none =>
      have listed : id.context.session ∈ state.owners := by
        rcases known with valid | listed
        · exact (deliver_eq_none valid told).2
        · exact listed
      exact (revokeOwner_stirs notices state _).marked listed
        (revokeOwner_unserved notices state _)

/-- A notice that is valid whatever it carries. -/
theorem notice_stirs (state : Windows) {id : SurfaceIdentity} {event : Event}
    (notice : event.notice = true) (valid : validEvent event = true) :
    Stirs allowed state (state.emit id event) :=
  emit_stirs notices (notices id event notice) (.inl valid)

theorem leaveFocus_stirs (state : Windows) : Stirs allowed state state.leaveFocus := by
  unfold leaveFocus
  cases state.focus with
  | none => exact .refl
  | some old =>
      have cleared : Stirs allowed state state.clearFocus := Stirs.refl.focus none
      exact (cleared.trans (notice_stirs notices _ rfl rfl)).trans
        (notice_stirs notices _ rfl rfl)

theorem changeFocus_stirs (state : Windows) (next : Option SurfaceIdentity) :
    Stirs allowed state (state.changeFocus next) := by
  unfold changeFocus
  by_cases same : state.focus = next
  · rw [if_pos same]
    exact .refl
  · rw [if_neg same]
    have moved := (leaveFocus_stirs notices state).focus next
    cases next with
    | none => exact moved
    | some id => exact moved.trans (notice_stirs notices _ rfl rfl)

theorem leaveHover_stirs (state : Windows) : Stirs allowed state state.leaveHover := by
  unfold leaveHover
  cases state.hover with
  | none => exact .refl
  | some previous => exact notice_stirs notices _ rfl rfl

theorem setHover_stirs (state : Windows) (next : Option Hover) :
    Stirs allowed state (state.setHover next) := by
  unfold setHover
  by_cases same : sameHover state.hover next = true
  · rw [if_pos same]
    exact Stirs.refl.hover next
  · rw [if_neg same]
    have moved := (leaveHover_stirs notices state).hover next
    cases next with
    | none => exact moved
    | some current => exact moved.trans (notice_stirs notices _ rfl rfl)

theorem refreshHover_stirs (state : Windows) (position : Point)
    (hit : SurfaceIdentity → Point → Option HitRegion) :
    Stirs allowed state (state.refreshHover position hit) := by
  unfold refreshHover
  cases state.targetAt position hit with
  | none => exact setHover_stirs notices state none
  | some found => exact setHover_stirs notices state _

end Stirring

/-! ## Shedding -/

section Notices

variable (notices : ∀ id event, event.input = false → allowed id event)

include notices

/-- The notices are among the events that carry no input. -/
theorem noticed (id : SurfaceIdentity) (event : Event) (notice : event.notice = true) :
    allowed id event :=
  notices id event (Event.input_of_notice notice)

theorem revokeOwner_sheds (state : Windows) (owner : SessionIdentity) :
    Sheds allowed state (state.revokeOwner owner) :=
  (revokeOwner_stirs (noticed notices) state owner).sheds

theorem emit_sheds {id : SurfaceIdentity} {event : Event} (permitted : allowed id event)
    (known : validEvent event = true ∨ id.context.session ∈ state.owners) :
    Sheds allowed state (state.emit id event) :=
  (emit_stirs (noticed notices) permitted known).sheds

theorem notice_sheds (state : Windows) {id : SurfaceIdentity} {event : Event}
    (notice : event.input = false) (valid : validEvent event = true) :
    Sheds allowed state (state.emit id event) :=
  emit_sheds notices (notices id event notice) (.inl valid)

theorem leaveFocus_sheds (state : Windows) : Sheds allowed state state.leaveFocus :=
  (leaveFocus_stirs (noticed notices) state).sheds

theorem changeFocus_sheds (state : Windows) (next : Option SurfaceIdentity) :
    Sheds allowed state (state.changeFocus next) :=
  (changeFocus_stirs (noticed notices) state next).sheds

theorem restoreFocus_sheds (state : Windows) : Sheds allowed state state.restoreFocus :=
  changeFocus_sheds notices state _

theorem setHover_sheds (state : Windows) (next : Option Hover) :
    Sheds allowed state (state.setHover next) :=
  (setHover_stirs (noticed notices) state next).sheds

theorem refreshHover_sheds (state : Windows) (position : Point)
    (hit : SurfaceIdentity → Point → Option HitRegion) :
    Sheds allowed state (state.refreshHover position hit) :=
  (refreshHover_stirs (noticed notices) state position hit).sheds

omit notices in
theorem releasePointer_sheds (state : Windows) (id : SurfaceIdentity) :
    Sheds allowed state (state.releasePointer id) := by
  unfold releasePointer
  by_cases captured : state.capturedBy id = true
  · rw [if_pos captured]
    exact Sheds.refl.capture none
  · rw [if_neg captured]
    exact .refl

theorem cancelCapture_sheds (state : Windows) (id : SurfaceIdentity) :
    Sheds allowed state (state.cancelCapture id) := by
  unfold cancelCapture
  by_cases captured : state.capturedBy id = true
  · rw [if_pos captured]
    exact (Sheds.refl.capture none).trans (notice_sheds notices _ rfl rfl)
  · rw [if_neg captured]
    exact .refl

theorem dismiss_sheds (state : Windows) (id : SurfaceIdentity) (reason : DismissReason) :
    Sheds allowed state (state.dismiss id reason) := by
  have released := cancelCapture_sheds notices state id
  unfold dismiss
  refine Sheds.trans ?_ (notice_sheds notices _ rfl rfl)
  generalize state.cancelCapture id = middle at released
  have left : Sheds allowed state (if middle.hovers id then middle.setHover none else middle) := by
    by_cases hovered : middle.hovers id = true
    · rw [if_pos hovered]
      exact released.trans (setHover_sheds notices middle none)
    · rw [if_neg hovered]
      exact released
  generalize (if middle.hovers id then middle.setHover none else middle) = next at left
  show Sheds allowed state (if next.focus = some id then next.changeFocus none else next)
  by_cases focused : next.focus = some id
  · rw [if_pos focused]
    exact left.trans (changeFocus_sheds notices next none)
  · rw [if_neg focused]
    exact left

theorem cancelCaptures_sheds (ids : List SurfaceIdentity) (state : Windows) :
    Sheds allowed state (ids.foldl cancelCapture state) := by
  induction ids generalizing state with
  | nil => exact .refl
  | cons id rest ih => exact (cancelCapture_sheds notices state id).trans (ih _)

theorem hideGroup_sheds (state : Windows) (id : SurfaceIdentity) :
    Sheds allowed state (state.hideGroup id) := by
  unfold hideGroup
  have released := cancelCaptures_sheds notices (state.group id) state
  generalize (state.group id).foldl cancelCapture state = middle at released
  show Sheds allowed state
    (if middle.focus.any fun focused => middle.descendant focused id then
      (middle.changeFocus none).restoreFocus
    else middle)
  by_cases focused : (middle.focus.any fun focused => middle.descendant focused id) = true
  · rw [if_pos focused]
    exact (released.trans (changeFocus_sheds notices middle none)).trans
      (restoreFocus_sheds notices _)
  · rw [if_neg focused]
    exact released

end Notices

/-! ## Known sessions -/

theorem deliver_owners {id : SurfaceIdentity} {event : Event}
    (told : state.deliver id event = some after) : after.owners = state.owners := by
  rcases deliver_eq_some told with ⟨rfl, -⟩ | ⟨window, queue, full, live, served, fits, rfl⟩
  · rfl
  · exact push_owners served

theorem HandsOn.owners (handsOn : HandsOn state after) : after.owners = state.owners := by
  induction handsOn with
  | ended => rfl
  | told _ told =>
      have kept := deliver_owners told
      exact kept
  | dropped _ refused _ rest =>
      obtain ⟨-, listed⟩ := deliver_eq_none rfl refused
      rw [markOverflow_owners, rest]
      exact (congrArg _ (dropOwner_owners _)).trans (Finset.insert_erase listed)

theorem revokeOwner_owners (state : Windows) (owner : SessionIdentity) :
    (state.revokeOwner owner).owners = state.owners.erase owner := by
  unfold revokeOwner refocus
  by_cases owned : (state.dropOwner owner).focusOwnedBy owner = true
  · rw [if_pos owned]
    exact (refocusWithin_handsOn _ _).owners.trans (dropOwner_owners owner)
  · rw [if_neg owned]
    exact dropOwner_owners owner

/-- A session that overflows stays known until the overflow is taken. -/
theorem emit_owners {id : SurfaceIdentity} {event : Event}
    (known : validEvent event = true ∨ id.context.session ∈ state.owners) :
    (state.emit id event).owners = state.owners := by
  unfold emit
  cases told : state.deliver id event with
  | some after => exact deliver_owners told
  | none =>
      have listed : id.context.session ∈ state.owners := by
        rcases known with valid | listed
        · exact (deliver_eq_none valid told).2
        · exact listed
      exact (markOverflow_owners _).trans
        ((congrArg _ (revokeOwner_owners _ _)).trans (Finset.insert_erase listed))

theorem changeFocus_owners (state : Windows) (next : Option SurfaceIdentity) :
    (state.changeFocus next).owners = state.owners := by
  have left : state.leaveFocus.owners = state.owners := by
    unfold leaveFocus
    cases state.focus with
    | none => rfl
    | some old => exact (emit_owners (.inl rfl)).trans (emit_owners (.inl rfl))
  unfold changeFocus
  by_cases same : state.focus = next
  · rw [if_pos same]
  · rw [if_neg same]
    cases next with
    | none => exact left
    | some id => exact (emit_owners (.inl rfl)).trans left

theorem setHover_owners (state : Windows) (next : Option Hover) :
    (state.setHover next).owners = state.owners := by
  have left : state.leaveHover.owners = state.owners := by
    unfold leaveHover
    cases state.hover with
    | none => rfl
    | some previous => exact emit_owners (.inl rfl)
  unfold setHover
  by_cases same : sameHover state.hover next = true
  · rw [if_pos same]
    rfl
  · rw [if_neg same]
    cases next with
    | none => exact left
    | some current => exact (emit_owners (.inl rfl)).trans left

theorem requestFocus_owners (state : Windows) (id : SurfaceIdentity) :
    (state.requestFocus id).2.owners = state.owners := by
  unfold requestFocus
  cases state.eligible id with
  | false => rfl
  | true => exact changeFocus_owners _ _

theorem restoreFocus_owners (state : Windows) : state.restoreFocus.owners = state.owners :=
  changeFocus_owners state _

theorem cancelCapture_owners (state : Windows) (id : SurfaceIdentity) :
    (state.cancelCapture id).owners = state.owners := by
  unfold cancelCapture
  cases state.capturedBy id with
  | false => rfl
  | true => exact emit_owners (.inl rfl)

theorem cancelCaptures_owners (ids : List SurfaceIdentity) (state : Windows) :
    (ids.foldl cancelCapture state).owners = state.owners := by
  induction ids generalizing state with
  | nil => rfl
  | cons id rest ih => exact (ih _).trans (cancelCapture_owners state id)

theorem hideGroup_owners (state : Windows) (id : SurfaceIdentity) :
    (state.hideGroup id).owners = state.owners := by
  unfold hideGroup
  have released := cancelCaptures_owners (state.group id) state
  generalize (state.group id).foldl cancelCapture state = middle at released
  dsimp only
  cases middle.focus.any fun focused => middle.descendant focused id with
  | false => exact released
  | true => exact (restoreFocus_owners _).trans ((changeFocus_owners _ _).trans released)

theorem dismiss_owners (state : Windows) (id : SurfaceIdentity) (reason : DismissReason) :
    (state.dismiss id reason).owners = state.owners := by
  have released := cancelCapture_owners state id
  unfold dismiss
  generalize state.cancelCapture id = middle at released
  dsimp only
  have left : (if middle.hovers id then middle.setHover none else middle).owners =
      state.owners := by
    cases middle.hovers id with
    | false => exact released
    | true => exact (setHover_owners middle none).trans released
  generalize (if middle.hovers id then middle.setHover none else middle) = next at left
  refine (emit_owners (.inl rfl)).trans ?_
  by_cases focused : next.focus = some id
  · rw [if_pos focused]
    exact (changeFocus_owners next none).trans left
  · rw [if_neg focused]
    exact left

theorem removeOne_owners (state : Windows) (id : SurfaceIdentity) (reason : DismissReason) :
    (state.removeOne id reason).owners = state.owners :=
  dismiss_owners state id reason

theorem close_owners (state : Windows) (id : SurfaceIdentity) (reason : DismissReason) :
    (state.close id reason).owners = state.owners := by
  have children : ∀ (ids : List SurfaceIdentity) (state : Windows),
      (ids.foldl (fun state child => state.removeOne child .parentClosed) state).owners =
        state.owners := by
    intro ids
    induction ids with
    | nil => exact fun _ => rfl
    | cons child rest ih =>
        intro state
        exact (ih _).trans (removeOne_owners state child .parentClosed)
  exact (restoreFocus_owners _).trans ((removeOne_owners _ id reason).trans (children _ state))

end Windows

end VividProtocol.Overlay

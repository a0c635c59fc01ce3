import Mathlib.Tactic
import VividProtocol.Overlay.Moves

/-!
# Calls without an overflow

A call that sheds and overflows no queue leaves the windows, the stack and the
focus history alone, and the focus where it was aimed.
-/

set_option autoImplicit false

namespace VividProtocol.Overlay

open VividProtocol.Library
open VividProtocol.Library.OrderedForest

open Windows

/-- A queue overflowed on the way. -/
def Overflows (before after : Windows) : Prop :=
  ∃ owner ∈ after.overflowed, owner ∉ before.overflowed

/-- The windows, their order and the focus history are the same. -/
structure Alike (before after : Windows) : Prop where
  windows : after.windows = before.windows
  stack : after.stack = before.stack
  history : after.focusHistory = before.focusHistory

namespace Alike

variable {before middle after : Windows}

theorem refl (state : Windows) : Alike state state := ⟨rfl, rfl, rfl⟩

theorem symm (alike : Alike before after) : Alike after before :=
  ⟨alike.windows.symm, alike.stack.symm, alike.history.symm⟩

theorem trans (first : Alike before middle) (second : Alike middle after) : Alike before after :=
  ⟨second.windows.trans first.windows, second.stack.trans first.stack,
    second.history.trans first.history⟩

theorem descendantWithin (alike : Alike before after) (rounds : Nat)
    (id target : SurfaceIdentity) :
    after.descendantWithin rounds id target = before.descendantWithin rounds id target := by
  induction rounds generalizing id with
  | zero => rfl
  | succ rounds ih =>
      unfold Windows.descendantWithin Windows.parent?
      rw [alike.windows]
      simp only [ih]

theorem descendant (alike : Alike before after) (id target : SurfaceIdentity) :
    after.descendant id target = before.descendant id target :=
  alike.descendantWithin MAX_WINDOWS id target

theorem visibleWithin (alike : Alike before after) (rounds : Nat) (id : SurfaceIdentity) :
    after.visibleWithin rounds id = before.visibleWithin rounds id := by
  induction rounds generalizing id with
  | zero => rfl
  | succ rounds ih =>
      unfold Windows.visibleWithin
      rw [alike.windows]
      simp only [ih]

theorem visible (alike : Alike before after) : after.visible = before.visible := by
  unfold Windows.visible Windows.effectivelyVisible Windows.get
  rw [alike.stack, alike.windows]
  simp only [alike.visibleWithin]

theorem topModal (alike : Alike before after) : after.topModal = before.topModal := by
  unfold Windows.topModal
  rw [alike.visible]

theorem eligible (alike : Alike before after) (id : SurfaceIdentity) :
    after.eligible id = before.eligible id := by
  unfold Windows.eligible Windows.effectivelyVisible
  rw [alike.topModal]
  simp only [alike.visibleWithin, alike.descendant]

theorem focusCandidate (alike : Alike before after) :
    after.focusCandidate = before.focusCandidate := by
  unfold Windows.focusCandidate
  rw [alike.history, funext alike.eligible]

end Alike

/-- A state that sheds stays as it was, or a session loses its queue. -/
theorem Sheds.alike_or_lost {allowed : SurfaceIdentity → Event → Prop} {before after : Windows}
    (sheds : Sheds allowed before after) (forest : Forest before) :
    Alike before after ∨
      ∃ (owner : SessionIdentity) (queue : List WindowEvent),
        before.events[owner]? = some queue ∧ after.events[owner]? = none := by
  induction sheds with
  | refl => exact .inl (.refl before)
  | @queued state id window queue full event _ _ served _ _ _ ih =>
      rcases ih with alike | ⟨owner, before, had, lost⟩
      · exact .inl (alike.trans ⟨rfl, rfl, rfl⟩)
      · refine .inr ⟨owner, before, had, ?_⟩
        rw [push_events, if_neg]
        · exact lost
        · rintro rfl
          rw [served] at lost
          cases lost
  | @dropped state sheds owner ih =>
      rcases ih with alike | ⟨other, before, had, lost⟩
      · cases had : before.events[owner]? with
        | some queue =>
            refine .inr ⟨owner, queue, had, ?_⟩
            rw [dropOwner_events, if_pos rfl]
        | none =>
            left
            -- A session without a queue has no window to lose.
            have gone := sheds.unserved had
            have middle := sheds.forest forest
            have foreign : ∀ id, state.Live id → ownedBy owner id = false := by
              intro id live
              refine decide_eq_false ?_
              rintro rfl
              obtain ⟨queue, served⟩ := middle.served id live
              rw [gone] at served
              cases served
            have none : state.stack.filter (ownedBy owner) = [] := by
              rw [List.filter_eq_nil_iff]
              intro id inside
              rw [foreign id ((middle.listed id).mp inside)]
              decide
            refine alike.trans ?_
            rw [dropOwner_eq, none]
            refine ⟨rfl, ?_, ?_⟩
            · refine List.filter_eq_self.mpr fun id inside => ?_
              rw [foreign id ((middle.listed id).mp inside)]
              rfl
            · refine List.filter_eq_self.mpr fun id inside => ?_
              rw [foreign id (middle.remembered id inside)]
              rfl
      · refine .inr ⟨other, before, had, ?_⟩
        rw [dropOwner_events, lost]
        exact ite_self _
  | marked _ _ _ ih =>
      rcases ih with alike | lost
      · exact .inl (alike.trans ⟨rfl, rfl, rfl⟩)
      · exact .inr lost
  | pointed _ _ _ _ ih =>
      rcases ih with alike | lost
      · exact .inl (alike.trans ⟨rfl, rfl, rfl⟩)
      · exact .inr lost

/-- What sheds and forgets no session keeps the overflows that were not taken. -/
theorem Sheds.overflowed {allowed : SurfaceIdentity → Event → Prop} {before after : Windows}
    (sheds : Sheds allowed before after) (forest : Forest before)
    (owners : after.owners = before.owners) : before.overflowed ⊆ after.overflowed := by
  intro owner inside
  have listed : owner ∈ after.owners := by
    rw [owners]
    exact mem_owners.mpr (.inr inside)
  rcases mem_owners.mp listed with ⟨queue, served⟩ | overflowed
  · rw [sheds.unserved (forest.disjoint owner inside)] at served
    cases served
  · exact overflowed

theorem Sheds.calm {allowed : SurfaceIdentity → Event → Prop} {before after : Windows}
    (sheds : Sheds allowed before after) (forest : Forest before)
    (owners : after.owners = before.owners) (calm : ¬ Overflows before after) :
    Alike before after := by
  rcases sheds.alike_or_lost forest with alike | ⟨owner, queue, had, lost⟩
  · exact alike
  exfalso
  have listed : owner ∈ after.owners := by
    rw [owners]
    exact mem_owners.mpr (.inl ⟨queue, had⟩)
  rcases mem_owners.mp listed with ⟨other, served⟩ | overflowed
  · rw [lost] at served
    cases served
  · refine calm ⟨owner, overflowed, fun before => ?_⟩
    rw [forest.disjoint owner before] at had
    cases had

theorem Overflows.first {before middle after : Windows}
    (overflows : Overflows before middle) (kept : middle.overflowed ⊆ after.overflowed) :
    Overflows before after := by
  obtain ⟨owner, inside, outside⟩ := overflows
  exact ⟨owner, kept inside, outside⟩

theorem Overflows.second {before middle after : Windows}
    (overflows : Overflows middle after) (kept : before.overflowed ⊆ middle.overflowed) :
    Overflows before after := by
  obtain ⟨owner, inside, outside⟩ := overflows
  exact ⟨owner, inside, fun before => outside (kept before)⟩

/-! ## Where the focus goes -/

namespace Windows

variable {state : Windows}

/-- An event that overflows no queue is delivered. -/
theorem emit_calm {id : SurfaceIdentity} {event : Event} (forest : Forest state)
    (valid : validEvent event = true) (calm : ¬ Overflows state (state.emit id event)) :
    state.deliver id event = some (state.emit id event) := by
  unfold emit at calm ⊢
  cases told : state.deliver id event with
  | some after => rfl
  | none =>
      rw [told] at calm
      refine absurd ⟨id.context.session, Finset.mem_insert_self _ _, fun before => ?_⟩ calm
      obtain ⟨⟨window, live⟩, -⟩ := deliver_eq_none valid told
      obtain ⟨queue, served⟩ := forest.served id ⟨window, live⟩
      rw [forest.disjoint _ before] at served
      cases served

theorem deliver_slots {after : Windows} {id : SurfaceIdentity} {event : Event}
    (told : state.deliver id event = some after) :
    after.focus = state.focus ∧ after.hover = state.hover ∧ after.capture = state.capture := by
  rcases deliver_eq_some told with ⟨rfl, -⟩ | ⟨_, _, _, -, -, -, rfl⟩
  · exact ⟨rfl, rfl, rfl⟩
  · exact ⟨rfl, rfl, rfl⟩

theorem leaveFocus_owners (state : Windows) : state.leaveFocus.owners = state.owners := by
  unfold leaveFocus
  cases state.focus with
  | none => rfl
  | some old => exact (emit_owners (.inl rfl)).trans (emit_owners (.inl rfl))

/-- Without an overflow the focus goes where it is aimed. -/
theorem changeFocus_calm (forest : Forest state) (next : Option SurfaceIdentity)
    (calm : ¬ Overflows state (state.changeFocus next)) :
    (state.changeFocus next).focus = next := by
  unfold changeFocus at calm ⊢
  by_cases same : state.focus = next
  · rw [if_pos same]
    exact same
  · rw [if_neg same] at calm ⊢
    cases next with
    | none => rfl
    | some id =>
        have left : Sheds (fun _ _ => True) state state.leaveFocus :=
          leaveFocus_sheds Forest.notices state
        have aimed : Sheds (fun _ _ => True) state { state.leaveFocus with focus := some id } :=
          left.focus (some id)
        have middle : Forest { state.leaveFocus with focus := some id } := aimed.forest forest
        have kept : state.overflowed ⊆ state.leaveFocus.overflowed :=
          left.overflowed forest (leaveFocus_owners state)
        have told := emit_calm middle rfl fun overflows => calm (overflows.second kept)
        exact (deliver_slots told).1

end Windows

end VividProtocol.Overlay

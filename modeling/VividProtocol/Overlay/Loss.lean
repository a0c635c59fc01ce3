import Mathlib.Tactic
import VividProtocol.Overlay.Told

/-!
# Sessions that are lost

An event that does not fit its queue revokes its session, and handing the focus
on can revoke further ones.  For each function that emits, the sessions it
revokes, and that it takes the windows of these sessions and no others.
-/

set_option autoImplicit false

namespace VividProtocol.Overlay

open VividProtocol.Library

namespace Windows

variable (state : Windows)

/-! ## Revoked sessions -/

/-- The sessions that `refocusWithin` revokes. -/
def refocusLosses : Nat → Windows → List SessionIdentity
  | 0, _ => []
  | rounds + 1, state =>
      match state.focusCandidate with
      | none => []
      | some next =>
          let focused := { state with focus := some next }
          match focused.deliver next (.focus true) with
          | some _ => []
          | none =>
              let owner := next.context.session
              owner :: refocusLosses rounds (focused.dropOwner owner).clearFocus

def revokeLosses (owner : SessionIdentity) : List SessionIdentity :=
  let dropped := state.dropOwner owner
  owner ::
    if dropped.focusOwnedBy owner then
      refocusLosses dropped.clearFocus.focusHistory.length dropped.clearFocus
    else []

def emitLosses (id : SurfaceIdentity) (event : Event) : List SessionIdentity :=
  match state.deliver id event with
  | some _ => []
  | none => state.revokeLosses id.context.session

def leaveFocusLosses : List SessionIdentity :=
  match state.focus with
  | none => []
  | some old =>
      state.clearFocus.emitLosses old .cancel ++
        (state.clearFocus.emit old .cancel).emitLosses old (.focus false)

def changeFocusLosses (next : Option SurfaceIdentity) : List SessionIdentity :=
  if state.focus = next then []
  else
    state.leaveFocusLosses ++
      match next with
      | none => []
      | some id => { state.leaveFocus with focus := some id }.emitLosses id (.focus true)

/-- A window that is to take the focus is not revoked while the other one is left. -/
def aims (next : Option SurfaceIdentity) : Bool :=
  decide (state.focus = next) ||
    next.all fun id => decide (id.context.session ∉ state.leaveFocusLosses)

def leaveHoverLosses : List SessionIdentity :=
  match state.hover with
  | none => []
  | some previous => state.emitLosses previous.window (.hover previous.region false)

def setHoverLosses (next : Option Hover) : List SessionIdentity :=
  if sameHover state.hover next then []
  else
    state.leaveHoverLosses ++
      match next with
      | none => []
      | some current =>
          { state.leaveHover with hover := some current }.emitLosses current.window
            (.hover current.region true)

def cancelCaptureLosses (id : SurfaceIdentity) : List SessionIdentity :=
  if state.capturedBy id then { state with capture := none }.emitLosses id .cancel else []

/-- The sessions that are revoked while captures are cancelled in turn. -/
def cancelLosses : List SurfaceIdentity → Windows → List SessionIdentity
  | [], _ => []
  | id :: rest, state => state.cancelCaptureLosses id ++ cancelLosses rest (state.cancelCapture id)

def dismissLosses (id : SurfaceIdentity) (reason : DismissReason) : List SessionIdentity :=
  let released := state.cancelCapture id
  let left := if released.hovers id then released.setHover none else released
  let unfocused := if left.focus = some id then left.changeFocus none else left
  state.cancelCaptureLosses id ++
    (if released.hovers id then released.setHoverLosses none else []) ++
    (if left.focus = some id then left.changeFocusLosses none else []) ++
    unfocused.emitLosses id (.dismissed reason)

/-- The sessions that are revoked while windows are removed in turn. -/
def removeLosses : List SurfaceIdentity → Windows → List SessionIdentity
  | [], _ => []
  | id :: rest, state =>
      state.dismissLosses id .parentClosed ++ removeLosses rest (state.removeOne id .parentClosed)

/-- The state in which `remove_group` comes to the window itself. -/
def orphaned (id : SurfaceIdentity) : Windows :=
  (state.children id).foldl (fun state child => state.removeOne child .parentClosed) state

def removeGroupLosses (id : SurfaceIdentity) (reason : DismissReason) : List SessionIdentity :=
  removeLosses (state.children id) state ++ (state.orphaned id).dismissLosses id reason

def restoreFocusLosses : List SessionIdentity := state.changeFocusLosses state.focusCandidate

def closeLosses (id : SurfaceIdentity) (reason : DismissReason) : List SessionIdentity :=
  state.removeGroupLosses id reason ++ (state.removeGroup id reason).restoreFocusLosses

def hideGroupLosses (id : SurfaceIdentity) : List SessionIdentity :=
  let released := (state.group id).foldl cancelCapture state
  cancelLosses (state.group id) state ++
    if released.focus.any fun focused => released.descendant focused id then
      released.changeFocusLosses none ++ (released.changeFocus none).restoreFocusLosses
    else []

def takeFocusLosses (id : SurfaceIdentity) : List SessionIdentity :=
  ((state.raiseGroup id).remember id).changeFocusLosses (some id)

/-! ## Losing -/

/-- The live windows are in the stack, and their sessions have queues. -/
structure Manned (state : Windows) : Prop where
  listed : ∀ id, state.Live id → id ∈ state.stack
  served : ∀ id, state.Live id →
    ∃ queue : List WindowEvent, state.events[id.context.session]? = some queue

end Windows

open Windows

theorem Forest.manned {state : Windows} (forest : Forest state) : state.Manned :=
  ⟨fun id => (forest.listed id).mpr, forest.served⟩

/-- The windows of some sessions and some further windows go, and no others, and
a capture that is left was held before by a window that stays.  The sessions are left
without a queue. -/
structure Loses (lost : List SessionIdentity) (gone : List SurfaceIdentity)
    (before after : Windows) : Prop where
  manned : after.Manned
  live : ∀ id, after.Live id ↔ before.Live id ∧ id.context.session ∉ lost ∧ id ∉ gone
  captured : ∀ capture, after.capture = some capture →
    before.capture = some capture ∧ capture.window.context.session ∉ lost ∧
      capture.window ∉ gone
  unserved : ∀ owner : SessionIdentity, before.events[owner]? = none → after.events[owner]? = none
  revoked : ∀ owner ∈ lost, after.events[owner]? = none

namespace Loses

variable {lost more : List SessionIdentity} {gone further : List SurfaceIdentity}
  {before middle after : Windows}

/-- Only the slots, the marks of sessions and the journal may differ. -/
theorem frame (manned : before.Manned) (windows : after.windows = before.windows)
    (stack : after.stack = before.stack) (events : after.events = before.events)
    (capture : ∀ held, after.capture = some held → before.capture = some held) :
    Loses [] [] before after := by
  have live : ∀ id, after.Live id ↔ before.Live id := by
    intro id
    unfold Windows.Live
    rw [windows]
  refine ⟨⟨?_, ?_⟩, ?_, ?_, ?_, ?_⟩
  · intro id alive
    rw [stack]
    exact manned.listed id ((live id).mp alive)
  · intro id alive
    rw [events]
    exact manned.served id ((live id).mp alive)
  · simp [live]
  · intro held found
    simp [capture held found]
  · intro owner none
    rw [events]
    exact none
  · exact fun _ impossible => absurd impossible List.not_mem_nil

theorem refl (manned : before.Manned) : Loses [] [] before before :=
  frame manned rfl rfl rfl fun _ held => held

theorem trans (first : Loses lost gone before middle) (second : Loses more further middle after) :
    Loses (lost ++ more) (gone ++ further) before after where
  manned := second.manned
  live := by
    intro id
    rw [second.live, first.live, List.mem_append, List.mem_append, not_or, not_or]
    tauto
  captured := by
    intro capture held
    obtain ⟨between, spared, kept⟩ := second.captured capture held
    obtain ⟨start, earlier, sooner⟩ := first.captured capture between
    rw [List.mem_append, List.mem_append, not_or, not_or]
    exact ⟨start, ⟨earlier, spared⟩, sooner, kept⟩
  unserved := fun owner none => second.unserved owner (first.unserved owner none)
  revoked := by
    intro owner inside
    rcases List.mem_append.mp inside with sooner | later
    · exact second.unserved owner (first.revoked owner sooner)
    · exact second.revoked owner later

/-- Nothing is lost on the second part of the way. -/
theorem still (first : Loses lost gone before middle) (second : Loses [] [] middle after) :
    Loses lost gone before after := by
  have both := first.trans second
  rw [List.append_nil, List.append_nil] at both
  exact both

/-- Nothing is lost on the first part of the way. -/
theorem from_still (first : Loses [] [] before middle) (second : Loses lost gone middle after) :
    Loses lost gone before after :=
  first.trans second

/-- Two parts on which sessions are lost and no further windows. -/
theorem both (first : Loses lost [] before middle) (second : Loses more [] middle after) :
    Loses (lost ++ more) [] before after :=
  first.trans second

end Loses

namespace Windows

variable {state : Windows}

/-! ## Emitting -/

theorem deliver_loses {after : Windows} {id : SurfaceIdentity} {event : Event}
    (manned : state.Manned) (told : state.deliver id event = some after) :
    Loses [] [] state after := by
  rcases deliver_eq_some told with ⟨rfl, -⟩ | ⟨window, queue, full, live, served, fits, rfl⟩
  · exact .refl manned
  · refine ⟨⟨manned.listed, ?_⟩, ?_, ?_, ?_, ?_⟩
    · intro probe alive
      rw [push_events]
      by_cases same : id.context.session = probe.context.session
      · exact ⟨full, if_pos same⟩
      · rw [if_neg same]
        exact manned.served probe alive
    · intro probe
      simp only [List.not_mem_nil, not_false_eq_true, and_true]
      exact Iff.rfl
    · intro capture held
      exact ⟨held, List.not_mem_nil, List.not_mem_nil⟩
    · intro owner none
      rw [push_events, if_neg]
      · exact none
      · rintro rfl
        rw [served] at none
        cases none
    · exact fun _ impossible => absurd impossible List.not_mem_nil

theorem Manned.dropOwner_live (manned : state.Manned) (owner : SessionIdentity)
    (id : SurfaceIdentity) :
    (state.dropOwner owner).Live id ↔ state.Live id ∧ id.context.session ≠ owner := by
  unfold Live
  rw [dropOwner_lookup]
  by_cases owned : id.context.session = owner
  · refine iff_of_false ?_ fun both => both.2 owned
    rintro ⟨window, found⟩
    by_cases inside : id ∈ state.stack ∧ ownedBy owner id = true
    · rw [if_pos inside] at found
      cases found
    · rw [if_neg inside] at found
      exact inside ⟨manned.listed id ⟨window, found⟩, decide_eq_true owned⟩
  · rw [if_neg fun both => owned (of_decide_eq_true both.2)]
    exact (and_iff_left owned).symm

theorem dropOwner_loses (manned : state.Manned) (owner : SessionIdentity) :
    Loses [owner] [] state (state.dropOwner owner) := by
  have live := manned.dropOwner_live owner
  refine ⟨⟨?_, ?_⟩, ?_, ?_, ?_, ?_⟩
  · intro id alive
    obtain ⟨before, foreign⟩ := (live id).mp alive
    rw [dropOwner_eq]
    refine List.mem_filter.mpr ⟨manned.listed id before, ?_⟩
    simpa [ownedBy] using foreign
  · intro id alive
    obtain ⟨before, foreign⟩ := (live id).mp alive
    rw [dropOwner_events, if_neg (Ne.symm foreign)]
    exact manned.served id before
  · intro id
    simp [live id]
  · intro capture held
    rw [dropOwner_eq] at held
    obtain ⟨before, foreign⟩ := Option.filter_eq_some_iff.mp held
    refine ⟨before, ?_, List.not_mem_nil⟩
    simpa [ownedBy] using foreign
  · intro other none
    rw [dropOwner_events, none, ite_self]
  · intro other inside
    rw [dropOwner_events, if_pos (List.mem_singleton.mp inside).symm]

theorem Manned.aim (manned : state.Manned) (focus : Option SurfaceIdentity) :
    Manned { state with focus := focus } :=
  ⟨manned.listed, manned.served⟩

/-- A session that is dropped with the focus leaves every window with a queue. -/
theorem Manned.retry (manned : state.Manned) (owner : SessionIdentity) :
    (state.dropOwner owner).clearFocus.Manned :=
  (dropOwner_loses manned owner).manned.aim none

theorem refocusWithin_loses (rounds : Nat) {state : Windows} (manned : state.Manned) :
    Loses (refocusLosses rounds state) [] state (refocusWithin rounds state) := by
  induction rounds generalizing state with
  | zero => exact .refl manned
  | succ rounds ih =>
      unfold refocusWithin refocusLosses
      cases state.focusCandidate with
      | none => exact .refl manned
      | some next =>
          have focused : Loses [] [] state { state with focus := some next } :=
            .frame manned rfl rfl rfl fun _ held => held
          cases told : deliver { state with focus := some next } next (.focus true) with
          | some after =>
              simp only [told]
              exact focused.still (deliver_loses focused.manned told)
          | none =>
              simp only [told]
              have dropped := focused.from_still
                (dropOwner_loses focused.manned next.context.session)
              have cleared := dropped.still (.frame dropped.manned rfl rfl rfl fun _ held => held :
                Loses [] [] _ (dropOwner { state with focus := some next }
                  next.context.session).clearFocus)
              have rest := cleared.both (ih cleared.manned)
              exact rest.still (.frame rest.manned rfl rfl rfl fun _ held => held)

theorem revokeOwner_loses (manned : state.Manned) (owner : SessionIdentity) :
    Loses (state.revokeLosses owner) [] state (state.revokeOwner owner) := by
  have dropped := dropOwner_loses manned owner
  unfold revokeOwner revokeLosses refocus
  dsimp only
  cases (state.dropOwner owner).focusOwnedBy owner with
  | false => exact dropped
  | true =>
      have cleared := dropped.still (.frame dropped.manned rfl rfl rfl fun _ held => held :
        Loses [] [] _ (state.dropOwner owner).clearFocus)
      exact cleared.both (refocusWithin_loses _ cleared.manned)

theorem emit_loses (manned : state.Manned) (id : SurfaceIdentity) (event : Event) :
    Loses (state.emitLosses id event) [] state (state.emit id event) := by
  unfold emit emitLosses
  cases told : state.deliver id event with
  | some after => exact deliver_loses manned told
  | none =>
      have revoked := revokeOwner_loses manned id.context.session
      exact revoked.still (.frame revoked.manned rfl rfl rfl fun _ held => held)

/-! ## Focus and hover -/

theorem leaveFocus_loses (manned : state.Manned) :
    Loses state.leaveFocusLosses [] state state.leaveFocus := by
  unfold leaveFocus leaveFocusLosses
  cases state.focus with
  | none => exact .refl manned
  | some old =>
      have cleared : Loses [] [] state state.clearFocus :=
        .frame manned rfl rfl rfl fun _ held => held
      have cancelled := emit_loses cleared.manned old .cancel
      exact cleared.from_still (cancelled.both (emit_loses cancelled.manned old (.focus false)))

theorem changeFocus_loses (manned : state.Manned) (next : Option SurfaceIdentity) :
    Loses (state.changeFocusLosses next) [] state (state.changeFocus next) := by
  unfold changeFocus changeFocusLosses
  by_cases same : state.focus = next
  · rw [if_pos same, if_pos same]
    exact .refl manned
  · rw [if_neg same, if_neg same]
    have left := leaveFocus_loses manned
    have moved := left.still (.frame left.manned rfl rfl rfl fun _ held => held :
      Loses [] [] _ { state.leaveFocus with focus := next })
    cases next with
    | none => exact moved.both (.refl moved.manned)
    | some id => exact moved.both (emit_loses moved.manned id (.focus true))

theorem leaveHover_loses (manned : state.Manned) :
    Loses state.leaveHoverLosses [] state state.leaveHover := by
  unfold leaveHover leaveHoverLosses
  cases state.hover with
  | none => exact .refl manned
  | some previous => exact emit_loses manned previous.window _

theorem setHover_loses (manned : state.Manned) (next : Option Hover) :
    Loses (state.setHoverLosses next) [] state (state.setHover next) := by
  unfold setHover setHoverLosses
  by_cases same : sameHover state.hover next = true
  · rw [if_pos same, if_pos same]
    exact .frame manned rfl rfl rfl fun _ held => held
  · rw [if_neg same, if_neg same]
    have left := leaveHover_loses manned
    have moved := left.still (.frame left.manned rfl rfl rfl fun _ held => held :
      Loses [] [] _ { state.leaveHover with hover := next })
    cases next with
    | none => exact moved.both (.refl moved.manned)
    | some current => exact moved.both (emit_loses moved.manned current.window _)

/-! ## Captures -/

theorem release_loses (manned : state.Manned) :
    Loses [] [] state { state with capture := none } := by
  refine .frame manned rfl rfl rfl ?_
  intro held found
  cases found

theorem cancelCapture_loses (manned : state.Manned) (id : SurfaceIdentity) :
    Loses (state.cancelCaptureLosses id) [] state (state.cancelCapture id) := by
  unfold cancelCapture cancelCaptureLosses
  cases state.capturedBy id with
  | false => exact .refl manned
  | true =>
      have released := release_loses manned
      exact released.from_still (emit_loses released.manned id .cancel)

/-- The window has let go of the pointer. -/
theorem cancelCapture_capture (manned : state.Manned) {id : SurfaceIdentity} {capture : Capture}
    (held : (state.cancelCapture id).capture = some capture) : capture.window ≠ id := by
  rintro rfl
  have before := ((cancelCapture_loses manned capture.window).captured capture held).1
  have captures : state.capturedBy capture.window = true := by
    unfold capturedBy
    rw [before, Option.any_some]
    exact decide_eq_true rfl
  unfold cancelCapture at held
  rw [captures, if_pos rfl] at held
  have released := release_loses manned
  cases ((emit_loses released.manned capture.window .cancel).captured capture held).1

theorem cancelCaptures_loses (ids : List SurfaceIdentity) {state : Windows}
    (manned : state.Manned) :
    Loses (cancelLosses ids state) [] state (ids.foldl cancelCapture state) := by
  induction ids generalizing state with
  | nil => exact .refl manned
  | cons id rest ih =>
      have first := cancelCapture_loses manned id
      exact first.both (ih first.manned)

/-! ## Closing -/

theorem dismiss_loses (manned : state.Manned) (id : SurfaceIdentity) (reason : DismissReason) :
    Loses (state.dismissLosses id reason) [] state (state.dismiss id reason) := by
  have released := cancelCapture_loses manned id
  unfold dismiss dismissLosses
  dsimp only
  generalize state.cancelCapture id = middle at released
  have left : Loses (state.cancelCaptureLosses id ++
      (if middle.hovers id then middle.setHoverLosses none else [])) [] state
      (if middle.hovers id then middle.setHover none else middle) := by
    cases middle.hovers id with
    | false => exact released.both (.refl released.manned)
    | true => exact released.both (setHover_loses released.manned none)
  generalize (if middle.hovers id then middle.setHover none else middle) = next at left
  have unfocused : Loses (state.cancelCaptureLosses id ++
      (if middle.hovers id then middle.setHoverLosses none else []) ++
      (if next.focus = some id then next.changeFocusLosses none else [])) [] state
      (if next.focus = some id then next.changeFocus none else next) := by
    by_cases focused : next.focus = some id
    · rw [if_pos focused, if_pos focused]
      exact left.both (changeFocus_loses left.manned none)
    · rw [if_neg focused, if_neg focused]
      exact left.both (.refl left.manned)
  exact unfocused.both (emit_loses unfocused.manned id (.dismissed reason))

theorem forget_live (id probe : SurfaceIdentity) :
    (state.forget id).Live probe ↔ state.Live probe ∧ probe ≠ id := by
  unfold Live
  rw [Forest.forget_lookup]
  by_cases same : id = probe
  · simp [same]
  · simp [same, Ne.symm same]

/-- A window that does not hold the pointer is forgotten. -/
theorem forget_loses (manned : state.Manned) {id : SurfaceIdentity}
    (free : ∀ capture, state.capture = some capture → capture.window ≠ id) :
    Loses [] [id] state (state.forget id) := by
  have live := @forget_live state id
  refine ⟨⟨?_, ?_⟩, ?_, ?_, ?_, ?_⟩
  · intro probe alive
    obtain ⟨before, kept⟩ := (live probe).mp alive
    exact List.mem_filter.mpr ⟨manned.listed probe before, decide_eq_true kept⟩
  · exact fun probe alive => manned.served probe ((live probe).mp alive).1
  · intro probe
    simp [live probe]
  · intro capture held
    exact ⟨held, List.not_mem_nil, by simpa using free capture held⟩
  · exact fun _ none => none
  · exact fun _ impossible => absurd impossible List.not_mem_nil

theorem dismiss_capture (manned : state.Manned) {id : SurfaceIdentity} {reason : DismissReason}
    {capture : Capture} (held : (state.dismiss id reason).capture = some capture) :
    capture.window ≠ id := by
  have released := cancelCapture_loses manned id
  refine cancelCapture_capture manned ?_
  unfold dismiss at held
  generalize state.cancelCapture id = middle at released held ⊢
  have left : ∃ lost, Loses lost [] middle
      (if middle.hovers id then middle.setHover none else middle) := by
    cases middle.hovers id with
    | false => exact ⟨_, .refl released.manned⟩
    | true => exact ⟨_, setHover_loses released.manned none⟩
  dsimp only at held
  generalize (if middle.hovers id then middle.setHover none else middle) = next at left held
  obtain ⟨sooner, left⟩ := left
  have unfocused : ∃ lost, Loses lost [] next
      (if next.focus = some id then next.changeFocus none else next) := by
    by_cases focused : next.focus = some id
    · rw [if_pos focused]
      exact ⟨_, changeFocus_loses left.manned none⟩
    · rw [if_neg focused]
      exact ⟨_, .refl left.manned⟩
  obtain ⟨later, unfocused⟩ := unfocused
  have told := (emit_loses unfocused.manned id (.dismissed reason)).captured capture held
  exact (left.captured capture (unfocused.captured capture told.1).1).1

theorem removeOne_loses (manned : state.Manned) (id : SurfaceIdentity) (reason : DismissReason) :
    Loses (state.dismissLosses id reason) [id] state (state.removeOne id reason) := by
  have dismissed := dismiss_loses manned id reason
  have both := dismissed.trans
    (forget_loses dismissed.manned fun _ held => dismiss_capture manned held)
  rw [List.append_nil] at both
  exact both

theorem removeAll_loses (ids : List SurfaceIdentity) {state : Windows} (manned : state.Manned) :
    Loses (removeLosses ids state) ids state
      (ids.foldl (fun state child => state.removeOne child .parentClosed) state) := by
  induction ids generalizing state with
  | nil => exact .refl manned
  | cons id rest ih =>
      have first := removeOne_loses manned id .parentClosed
      exact first.trans (ih first.manned)

theorem removeGroup_loses (manned : state.Manned) (id : SurfaceIdentity)
    (reason : DismissReason) :
    Loses (state.removeGroupLosses id reason) (state.children id ++ [id]) state
      (state.removeGroup id reason) := by
  have orphaned := removeAll_loses (state.children id) manned
  exact orphaned.trans (removeOne_loses orphaned.manned id reason)

theorem close_loses (manned : state.Manned) (id : SurfaceIdentity) (reason : DismissReason) :
    Loses (state.closeLosses id reason) (state.children id ++ [id]) state
      (state.close id reason) := by
  have removed := removeGroup_loses manned id reason
  have both := removed.trans (changeFocus_loses removed.manned
    (state.removeGroup id reason).focusCandidate)
  rw [List.append_nil] at both
  exact both

theorem hideGroup_loses (manned : state.Manned) (id : SurfaceIdentity) :
    Loses (state.hideGroupLosses id) [] state (state.hideGroup id) := by
  have released := cancelCaptures_loses (state.group id) manned
  unfold hideGroup hideGroupLosses
  dsimp only
  generalize (state.group id).foldl cancelCapture state = middle at released
  cases middle.focus.any fun focused => middle.descendant focused id with
  | false => exact released.both (.refl released.manned)
  | true =>
      have unfocused := changeFocus_loses released.manned none
      exact released.both (unfocused.both (changeFocus_loses unfocused.manned _))

end Windows

end VividProtocol.Overlay

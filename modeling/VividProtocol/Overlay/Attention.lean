import Mathlib.Tactic
import VividProtocol.Library.Alternation
import VividProtocol.Overlay.Loss

/-!
# Attention

The focus and hover events that a window was told alternate, and end as the
slots say.  Each function that emits keeps that, also where an event revokes the
window that is just about to receive it.
-/

set_option autoImplicit false

namespace VividProtocol.Overlay

open VividProtocol.Library
open VividProtocol.Library.Alternation

open Windows

/-! ## Marks -/

/-- The focus comes or goes. -/
def Event.focusMark : Event → Option (Unit × Bool)
  | .focus gained => some ((), gained)
  | _ => none

/-- A region is entered or left. -/
def Event.hoverMark : Event → Option (UInt64 × Bool)
  | .hover region entered => some (region, entered)
  | _ => none

/-- A slot names a window as the one that has the focus. -/
def focusAt (focus : Option SurfaceIdentity) (id : SurfaceIdentity) : Option Unit :=
  if focus = some id then some () else none

/-- The region of a window that a slot names. -/
def regionAt (hover : Option Hover) (id : SurfaceIdentity) : Option UInt64 :=
  (hover.filter fun hover => decide (hover.window = id)).map Hover.region

theorem focusAt_none (id : SurfaceIdentity) : focusAt none id = none := rfl

theorem focusAt_self (id : SurfaceIdentity) : focusAt (some id) id = some () := if_pos rfl

theorem focusAt_other {id probe : SurfaceIdentity} (other : probe ≠ id) :
    focusAt (some id) probe = none :=
  if_neg fun same => other (Option.some.inj same).symm

theorem regionAt_self (hover : Hover) : regionAt (some hover) hover.window = some hover.region := by
  simp [regionAt]

theorem regionAt_other {hover : Hover} {probe : SurfaceIdentity} (other : probe ≠ hover.window) :
    regionAt (some hover) probe = none := by
  simp [regionAt, Option.filter_some, Ne.symm other]

/-- What an event for a window makes of the slots. -/
structure Turned (id : SurfaceIdentity) (event : Event) (focus focus' : Option SurfaceIdentity)
    (hover hover' : Option Hover) : Prop where
  focusTurn : Turn event.focusMark (focusAt focus id) (focusAt focus' id)
  hoverTurn : Turn event.hoverMark (regionAt hover id) (regionAt hover' id)
  others : ∀ probe, probe ≠ id →
    focusAt focus' probe = focusAt focus probe ∧ regionAt hover' probe = regionAt hover probe

namespace Turned

variable {id : SurfaceIdentity} {focus : Option SurfaceIdentity} {hover : Option Hover}

theorem plain {event : Event} (quiet : event.focusMark = none ∧ event.hoverMark = none) :
    Turned id event focus focus hover hover := by
  refine ⟨?_, ?_, fun _ _ => ⟨rfl, rfl⟩⟩
  · rw [quiet.1]
    exact .still _
  · rw [quiet.2]
    exact .still _

theorem focused : Turned id (.focus true) none (some id) hover hover := by
  refine ⟨?_, .still _, fun probe other => ⟨focusAt_other other, rfl⟩⟩
  rw [focusAt_self]
  exact .enter ()

theorem unfocused : Turned id (.focus false) (some id) none hover hover := by
  refine ⟨?_, .still _, fun probe other => ⟨(focusAt_other other).symm, rfl⟩⟩
  rw [focusAt_self]
  exact .leave ()

theorem entered (hover : Hover) :
    Turned hover.window (.hover hover.region true) focus focus none (some hover) := by
  refine ⟨.still _, ?_, fun probe other => ⟨rfl, regionAt_other other⟩⟩
  rw [regionAt_self]
  exact .enter hover.region

theorem left (hover : Hover) :
    Turned hover.window (.hover hover.region false) focus focus (some hover) none := by
  refine ⟨.still _, ?_, fun probe other => ⟨rfl, (regionAt_other other).symm⟩⟩
  rw [regionAt_self]
  exact .leave hover.region

end Turned

/-! ## Histories of windows -/

namespace Windows

variable {Place : Type}

/-- The marks of the events that a window was told. -/
def marks (mark : Event → Option (Place × Bool)) (state : Windows) (id : SurfaceIdentity) :
    List (Place × Bool) :=
  (state.told id).filterMap fun event => mark event.event

/-- The marks of each live window alternate, and end as a slot says. -/
def Tracks (mark : Event → Option (Place × Bool)) (state : Windows)
    (slot : SurfaceIdentity → Option Place) : Prop :=
  ∀ id, state.Live id → Alternates (state.marks mark id) (slot id)

/-- The focus and hover events of live windows follow slots. -/
structure Follows (state : Windows) (focus : Option SurfaceIdentity) (hover : Option Hover) :
    Prop where
  focus : Tracks Event.focusMark state (focusAt focus)
  hover : Tracks Event.hoverMark state (regionAt hover)

/-- The focus and hover events of live windows follow the slots of the state. -/
def Attentive (state : Windows) : Prop := state.Follows state.focus state.hover

/-- The focus is at a live window. -/
def FocusLive (state : Windows) : Prop := ∀ id, state.focus = some id → state.Live id

variable {mark : Event → Option (Place × Bool)} {state after : Windows}
  {slot slot' : SurfaceIdentity → Option Place}
  {focus focus' : Option SurfaceIdentity} {hover hover' : Option Hover}

theorem marks_push (owner : SessionIdentity) (queue : List WindowEvent) (window : Window)
    (id probe : SurfaceIdentity) (event : Event) :
    (state.push owner queue (stamp window id event)).marks mark probe =
      if id = probe then state.marks mark probe ++ (mark event).toList
      else state.marks mark probe := by
  unfold marks
  rw [told_push]
  by_cases same : id = probe
  · rw [if_pos same, if_pos same, List.filterMap_append]
    rfl
  · rw [if_neg same, if_neg same]

theorem Tracks.frame (tracks : Tracks mark state slot) (journal : after.journal = state.journal)
    (agree : ∀ id, after.Live id → state.Live id ∧ slot' id = slot id) :
    Tracks mark after slot' := by
  intro id live
  obtain ⟨before, same⟩ := agree id live
  unfold marks
  rw [told_of_journal journal, same]
  exact tracks id before

theorem Tracks.deliver (tracks : Tracks mark state slot) (manned : state.Manned)
    {id : SurfaceIdentity} {event : Event} (told : state.deliver id event = some after)
    (turn : Turn (mark event) (slot id) (slot' id))
    (others : ∀ probe, probe ≠ id → slot' probe = slot probe) : Tracks mark after slot' := by
  rcases deliver_eq_some told with ⟨rfl, absent⟩ | ⟨window, queue, full, -, -, -, rfl⟩
  · intro probe live
    have other : probe ≠ id := by
      rintro rfl
      obtain ⟨queue, served⟩ := manned.served probe live
      obtain ⟨window, found⟩ := live
      rcases absent with absent | absent
      · rw [absent] at found
        cases found
      · rw [absent] at served
        cases served
    rw [others probe other]
    exact tracks probe live
  · intro probe live
    have before : state.Live probe := live
    rw [marks_push]
    by_cases same : id = probe
    · subst same
      rw [if_pos rfl]
      exact (tracks id before).turn turn
    · rw [if_neg same, others probe (Ne.symm same)]
      exact tracks probe before

theorem Follows.frame (follows : state.Follows focus hover)
    (journal : after.journal = state.journal)
    (agree : ∀ id, after.Live id → state.Live id ∧
      focusAt focus' id = focusAt focus id ∧ regionAt hover' id = regionAt hover id) :
    after.Follows focus' hover' :=
  ⟨follows.focus.frame journal fun id live => ⟨(agree id live).1, (agree id live).2.1⟩,
    follows.hover.frame journal fun id live => ⟨(agree id live).1, (agree id live).2.2⟩⟩

/-- Only the slots of the state may differ. -/
theorem Follows.aim (follows : state.Follows focus hover)
    (journal : after.journal = state.journal) (windows : after.windows = state.windows) :
    after.Follows focus hover := by
  refine follows.frame journal fun id live => ⟨?_, rfl, rfl⟩
  unfold Live at live
  rw [windows] at live
  exact live

theorem Follows.deliver (follows : state.Follows focus hover) (manned : state.Manned)
    {id : SurfaceIdentity} {event : Event} (told : state.deliver id event = some after)
    (turned : Turned id event focus focus' hover hover') : after.Follows focus' hover' :=
  ⟨follows.focus.deliver manned told turned.focusTurn fun probe other => (turned.others probe other).1,
    follows.hover.deliver manned told turned.hoverTurn fun probe other =>
      (turned.others probe other).2⟩

/-- What slots say of the windows of a session is void once it is dropped. -/
theorem Follows.dropOwner (follows : state.Follows focus hover) (manned : state.Manned)
    {owner : SessionIdentity}
    (agree : ∀ id : SurfaceIdentity, id.context.session ≠ owner →
      focusAt focus' id = focusAt focus id ∧ regionAt hover' id = regionAt hover id) :
    (state.dropOwner owner).Follows focus' hover' := by
  refine follows.frame (by rw [dropOwner_eq]) fun id live => ?_
  obtain ⟨before, foreign⟩ := (manned.dropOwner_live owner id).mp live
  exact ⟨before, agree id foreign⟩

/-! ## Revoking -/

theorem live_of_eligible {id : SurfaceIdentity} (eligible : state.eligible id = true) :
    state.Live id := by
  unfold Windows.eligible effectivelyVisible at eligible
  have visible := (Bool.and_eq_true _ _ ▸ eligible).1
  rw [show MAX_WINDOWS = 255 + 1 from rfl, visibleWithin] at visible
  cases found : state.windows[id]? with
  | none => simp [found] at visible
  | some window => exact ⟨window, found⟩

theorem live_of_candidate {id : SurfaceIdentity} (candidate : state.focusCandidate = some id) :
    state.Live id := by
  unfold focusCandidate at candidate
  exact live_of_eligible (List.find?_some candidate)

/-- The candidate that takes the focus is told so. -/
theorem HandsOn.follows (handsOn : HandsOn state after) (manned : state.Manned)
    (free : state.focus = none) (follows : state.Follows none hover) :
    after.Follows after.focus hover := by
  induction handsOn with
  | ended => exact free.symm ▸ follows
  | @told state after next _ told =>
      have start : Windows.Follows { state with focus := some next } none hover :=
        follows.aim rfl rfl
      rw [(deliver_slots told).1]
      exact start.deliver (manned.aim _) told .focused
  | @dropped state after next _ _ _ rest =>
      have start : Windows.Follows { state with focus := some next } none hover :=
        follows.aim rfl rfl
      have gone := start.dropOwner (manned.aim _)
        (fun _ _ => ⟨rfl, rfl⟩ : ∀ id : SurfaceIdentity,
          id.context.session ≠ next.context.session →
          focusAt none id = focusAt none id ∧ regionAt hover id = regionAt hover id)
      exact (rest ((manned.aim _).retry _) rfl (gone.aim rfl rfl)).aim rfl rfl

/-- The candidate that takes the focus is live. -/
theorem HandsOn.focused (handsOn : HandsOn state after) (manned : state.Manned)
    (free : state.focus = none) : after.FocusLive := by
  induction handsOn with
  | ended =>
      intro id focused
      rw [free] at focused
      cases focused
  | @told state after next candidate told =>
      intro id focused
      rw [(deliver_slots told).1, Option.some.injEq] at focused
      subst focused
      have alive : state.Live next := live_of_candidate candidate
      exact ((deliver_loses (manned.aim _) told).live next).mpr
        ⟨alive, List.not_mem_nil, List.not_mem_nil⟩
  | dropped _ _ _ rest => exact rest ((manned.aim _).retry _) rfl

theorem revokeOwner_follows (manned : state.Manned) (follows : state.Follows focus hover)
    {owner : SessionIdentity}
    (agree : ∀ id : SurfaceIdentity, id.context.session ≠ owner →
      focusAt state.focus id = focusAt focus id ∧ regionAt hover' id = regionAt hover id) :
    (state.revokeOwner owner).Follows (state.revokeOwner owner).focus hover' := by
  have same : (state.dropOwner owner).focus = state.focus := by rw [dropOwner_eq]
  unfold revokeOwner refocus
  dsimp only
  cases owned : (state.dropOwner owner).focusOwnedBy owner with
  | false =>
      have kept := follows.dropOwner manned agree
      rw [← same] at kept
      exact kept
  | true =>
      unfold focusOwnedBy at owned
      rw [same, Option.any_eq_true] at owned
      obtain ⟨focused, at_, belongs⟩ := owned
      have void := follows.dropOwner manned (fun id foreign => by
        obtain ⟨sameFocus, sameRegion⟩ := agree id foreign
        refine ⟨?_, sameRegion⟩
        rw [← sameFocus, at_, focusAt_none, focusAt_other]
        rintro rfl
        exact foreign (of_decide_eq_true belongs) : ∀ id : SurfaceIdentity,
          id.context.session ≠ owner →
          focusAt none id = focusAt focus id ∧ regionAt hover' id = regionAt hover id)
      exact (refocusWithin_handsOn _ _).follows (manned.retry owner) rfl (void.aim rfl rfl)

/-- A session that is revoked takes a focus along that was its own. -/
theorem revokeOwner_focused (manned : state.Manned) (focused : state.FocusLive)
    (owner : SessionIdentity) : (state.revokeOwner owner).FocusLive := by
  have same : (state.dropOwner owner).focus = state.focus := by rw [dropOwner_eq]
  unfold revokeOwner refocus
  dsimp only
  cases owned : (state.dropOwner owner).focusOwnedBy owner with
  | false =>
      intro id at_
      change (state.dropOwner owner).focus = some id at at_
      rw [focusOwnedBy, at_, Option.any_some] at owned
      rw [same] at at_
      exact (manned.dropOwner_live owner id).mpr ⟨focused id at_, of_decide_eq_false owned⟩
  | true =>
      exact (refocusWithin_handsOn _ _).focused (manned.retry owner) rfl

/-! ## Emitting -/

/-- Where the slots are set before an event tells of it, the event completes it. -/
theorem emit_follows (manned : state.Manned) (follows : state.Follows focus hover)
    {id : SurfaceIdentity} {event : Event}
    (turned : Turned id event focus state.focus hover hover') :
    (state.emit id event).Follows (state.emit id event).focus hover' := by
  unfold emit
  cases told : state.deliver id event with
  | some after =>
      rw [(deliver_slots told).1]
      exact follows.deliver manned told turned
  | none =>
      refine (revokeOwner_follows manned follows fun probe foreign => ?_).aim rfl rfl
      refine turned.others probe ?_
      rintro rfl
      exact foreign rfl

/-- While nothing is focused a revocation hands nothing on. -/
theorem emit_unfocused (manned : state.Manned) (free : state.focus = none)
    (follows : state.Follows focus hover) {id : SurfaceIdentity} {event : Event}
    (turned : Turned id event focus focus' hover hover') :
    (state.emit id event).Follows focus' hover' ∧ (state.emit id event).focus = none := by
  unfold emit
  cases told : state.deliver id event with
  | some after =>
      exact ⟨follows.deliver manned told turned, (deliver_slots told).1.trans free⟩
  | none =>
      have same : (state.dropOwner id.context.session).focus = none := by
        rw [dropOwner_eq]
        exact free
      have quiet : (state.dropOwner id.context.session).focusOwnedBy id.context.session = false := by
        rw [focusOwnedBy, same]
        rfl
      unfold revokeOwner
      dsimp only
      rw [quiet]
      refine ⟨(follows.dropOwner manned fun probe foreign => ?_).aim rfl rfl, same⟩
      refine turned.others probe ?_
      rintro rfl
      exact foreign rfl

theorem emit_focused (manned : state.Manned) (focused : state.FocusLive) (id : SurfaceIdentity)
    (event : Event) : (state.emit id event).FocusLive := by
  unfold emit
  cases told : state.deliver id event with
  | some after =>
      intro probe at_
      rw [(deliver_slots told).1] at at_
      have live := (deliver_loses manned told).live probe
      exact live.mpr ⟨focused probe at_, List.not_mem_nil, List.not_mem_nil⟩
  | none => exact revokeOwner_focused manned focused id.context.session

/-- The focus does not come to a window that has just been told something. -/
theorem emit_focus_ne (manned : state.Manned) (focused : state.FocusLive) {id : SurfaceIdentity}
    (event : Event) (other : state.focus ≠ some id) : (state.emit id event).focus ≠ some id := by
  intro at_
  have live := emit_focused manned focused id event id at_
  have spared := ((emit_loses manned id event).live id).mp live
  unfold emit emitLosses at *
  cases told : state.deliver id event with
  | some after =>
      rw [told] at at_
      exact other ((deliver_slots told).1 ▸ at_)
  | none =>
      rw [told] at spared
      exact spared.2.1 List.mem_cons_self

/-! ## The hover slot -/

theorem HandsOn.hover_kept (handsOn : HandsOn state after) : after.hover = state.hover := by
  induction handsOn with
  | ended => rfl
  | told _ told =>
      have kept := (deliver_slots told).2.1
      exact kept
  | dropped _ _ _ rest =>
      refine rest.trans ?_
      unfold clearFocus
      rw [dropOwner_eq]

theorem revokeOwner_hover (state : Windows) (owner : SessionIdentity) :
    (state.revokeOwner owner).hover = state.hover := by
  have dropped : (state.dropOwner owner).hover = state.hover := by rw [dropOwner_eq]
  unfold revokeOwner refocus
  dsimp only
  cases (state.dropOwner owner).focusOwnedBy owner with
  | false => exact dropped
  | true => exact (refocusWithin_handsOn _ _).hover_kept.trans dropped

@[simp]
theorem emit_hover (state : Windows) (id : SurfaceIdentity) (event : Event) :
    (state.emit id event).hover = state.hover := by
  unfold emit
  cases told : state.deliver id event with
  | some after => exact (deliver_slots told).2.1
  | none => exact revokeOwner_hover state id.context.session

@[simp]
theorem leaveFocus_hover (state : Windows) : state.leaveFocus.hover = state.hover := by
  unfold leaveFocus
  cases state.focus with
  | none => rfl
  | some old => simp [clearFocus]

@[simp]
theorem changeFocus_hover (state : Windows) (next : Option SurfaceIdentity) :
    (state.changeFocus next).hover = state.hover := by
  unfold changeFocus
  by_cases same : state.focus = next
  · rw [if_pos same]
  · rw [if_neg same]
    cases next with
    | none => simp
    | some id => simp

theorem setHover_hover (state : Windows) (next : Option Hover) :
    (state.setHover next).hover = next := by
  unfold setHover
  cases sameHover state.hover next with
  | true => rfl
  | false =>
      cases next with
      | none => rfl
      | some current => simp

@[simp]
theorem cancelCapture_hover (state : Windows) (id : SurfaceIdentity) :
    (state.cancelCapture id).hover = state.hover := by
  unfold cancelCapture
  cases state.capturedBy id with
  | false => rfl
  | true => simp

theorem cancelCaptures_hover (ids : List SurfaceIdentity) (state : Windows) :
    (ids.foldl cancelCapture state).hover = state.hover := by
  induction ids generalizing state with
  | nil => rfl
  | cons id rest ih => rw [List.foldl_cons, ih, cancelCapture_hover]

theorem hideGroup_hover (state : Windows) (id : SurfaceIdentity) :
    (state.hideGroup id).hover = state.hover := by
  have released := cancelCaptures_hover (state.group id) state
  unfold hideGroup
  dsimp only
  generalize (state.group id).foldl cancelCapture state = middle at released
  cases middle.focus.any fun focused => middle.descendant focused id with
  | false => exact released
  | true => exact (changeFocus_hover _ _).trans ((changeFocus_hover _ _).trans released)

/-- A window that is removed takes the pointer along. -/
theorem removeOne_hover (state : Windows) (id : SurfaceIdentity) (reason : DismissReason) :
    (state.removeOne id reason).hover =
      state.hover.filter fun hover => decide (hover.window ≠ id) := by
  have released := cancelCapture_hover state id
  show (state.dismiss id reason).hover = _
  unfold dismiss
  rw [emit_hover]
  generalize state.cancelCapture id = middle at released
  have left : (if middle.hovers id then middle.setHover none else middle).hover =
      state.hover.filter fun hover => decide (hover.window ≠ id) := by
    rw [← released]
    cases hovered : middle.hovers id with
    | false =>
        unfold hovers at hovered
        cases held : middle.hover with
        | none => simp [held]
        | some hover =>
            rw [held, Option.any_some, decide_eq_false_iff_not] at hovered
            simp [held, hovered, Option.filter_some]
    | true =>
        rw [if_pos rfl, setHover_hover]
        unfold hovers at hovered
        cases held : middle.hover with
        | none => rfl
        | some hover =>
            rw [held, Option.any_some, decide_eq_true_eq] at hovered
            simp [hovered, Option.filter_some]
  generalize (if middle.hovers id then middle.setHover none else middle) = next at left
  by_cases focused : next.focus = some id
  · rw [if_pos focused, changeFocus_hover, left]
  · rw [if_neg focused, left]

theorem removeAll_hover (ids : List SurfaceIdentity) (state : Windows) :
    (ids.foldl (fun state child => state.removeOne child .parentClosed) state).hover =
      state.hover.filter fun hover => decide (hover.window ∉ ids) := by
  induction ids generalizing state with
  | nil =>
      cases held : state.hover with
      | none => simp [held]
      | some hover => simp [held, Option.filter_some]
  | cons id rest ih =>
      rw [List.foldl_cons, ih, removeOne_hover, Option.filter_filter]
      simp

theorem close_hover (state : Windows) (id : SurfaceIdentity) (reason : DismissReason) :
    (state.close id reason).hover =
      state.hover.filter fun hover => decide (hover.window ∉ state.children id ++ [id]) := by
  refine (changeFocus_hover _ _).trans ((removeOne_hover _ id reason).trans ?_)
  rw [removeAll_hover, Option.filter_filter]
  simp [Bool.and_comm]

end Windows

end VividProtocol.Overlay

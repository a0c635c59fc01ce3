import Mathlib.Tactic
import VividProtocol.Overlay.Attention

/-!
# Minding the slots

The functions that move the focus, the pointer and the captures keep the events
of every live window in step with the slots.  The focus stays at a live window
where the window that is to take it is not revoked on the way.
-/

set_option autoImplicit false

namespace VividProtocol.Overlay

open VividProtocol.Library
open VividProtocol.Library.Alternation

open Windows

structure Minds (before after : Windows) : Prop where
  attentive : before.Attentive → after.Attentive
  focused : before.FocusLive → after.FocusLive

namespace Minds

variable {before middle after : Windows}

theorem refl (state : Windows) : Minds state state := ⟨id, id⟩

theorem trans (first : Minds before middle) (second : Minds middle after) : Minds before after :=
  ⟨fun attentive => second.attentive (first.attentive attentive),
    fun focused => second.focused (first.focused focused)⟩

/-- The windows, what they were told, the focus and the pointer are as they were. -/
theorem frame (live : ∀ id, after.Live id ↔ before.Live id)
    (journal : after.journal = before.journal) (focus : after.focus = before.focus)
    (hover : after.hover = before.hover) : Minds before after := by
  refine ⟨fun attentive => ?_, fun focused id at_ => ?_⟩
  · unfold Attentive
    rw [focus, hover]
    exact attentive.frame journal fun id alive => ⟨(live id).mp alive, rfl, rfl⟩
  · rw [focus] at at_
    exact (live id).mpr (focused id at_)

end Minds

namespace Windows

variable {state : Windows}

/-- An event that tells nothing of the slots. -/
theorem emit_minds (manned : state.Manned) (id : SurfaceIdentity) {event : Event}
    (quiet : event.focusMark = none ∧ event.hoverMark = none) :
    Minds state (state.emit id event) := by
  refine ⟨fun attentive => ?_, fun focused => emit_focused manned focused id event⟩
  unfold Attentive
  rw [emit_hover]
  exact emit_follows manned attentive (.plain quiet)

/-! ## Focus -/

theorem leaveFocus_follows (manned : state.Manned) {hover : Option Hover}
    (follows : state.Follows state.focus hover) :
    state.leaveFocus.Follows none hover ∧ state.leaveFocus.focus = none := by
  unfold leaveFocus
  cases focused : state.focus with
  | none =>
      rw [focused] at follows
      exact ⟨follows, focused⟩
  | some old =>
      rw [focused] at follows
      have cleared : Loses [] [] state state.clearFocus :=
        .frame manned rfl rfl rfl fun _ held => held
      have start : state.clearFocus.Follows (some old) hover := follows.aim rfl rfl
      obtain ⟨cancelled, free⟩ := emit_unfocused cleared.manned rfl start
        (.plain ⟨rfl, rfl⟩ : Turned old .cancel (some old) (some old) hover hover)
      exact emit_unfocused (emit_loses cleared.manned old .cancel).manned free cancelled .unfocused

theorem changeFocus_attentive (manned : state.Manned) (attentive : state.Attentive)
    (next : Option SurfaceIdentity) : (state.changeFocus next).Attentive := by
  unfold Attentive
  rw [changeFocus_hover]
  unfold changeFocus
  by_cases same : state.focus = next
  · rw [if_pos same]
    exact attentive
  · rw [if_neg same]
    obtain ⟨left, free⟩ := leaveFocus_follows manned attentive
    have moved : Loses [] [] state.leaveFocus { state.leaveFocus with focus := next } :=
      .frame (leaveFocus_loses manned).manned rfl rfl rfl fun _ held => held
    have start : Windows.Follows { state.leaveFocus with focus := next } none state.hover :=
      left.aim rfl rfl
    cases next with
    | none => exact start
    | some id => exact emit_follows moved.manned start .focused

/-- The focus is at a live window again, if that one survives. -/
theorem changeFocus_focused (manned : state.Manned) (focused : state.FocusLive)
    {next : Option SurfaceIdentity} (live : ∀ id, next = some id → state.Live id)
    (aims : state.aims next = true) : (state.changeFocus next).FocusLive := by
  unfold Windows.aims at aims
  unfold changeFocus
  by_cases same : state.focus = next
  · rw [if_pos same]
    exact focused
  · rw [if_neg same]
    rw [decide_eq_false same, Bool.false_or] at aims
    cases next with
    | none => exact nofun
    | some id =>
        rw [Option.all_some, decide_eq_true_eq] at aims
        have left := leaveFocus_loses manned
        have moved : Loses [] [] state.leaveFocus { state.leaveFocus with focus := some id } :=
          .frame left.manned rfl rfl rfl fun _ held => held
        refine emit_focused moved.manned ?_ id (.focus true)
        rintro _ ⟨⟩
        exact (left.live id).mpr ⟨live id rfl, aims, List.not_mem_nil⟩

theorem changeFocus_minds (manned : state.Manned) {next : Option SurfaceIdentity}
    (live : ∀ id, next = some id → state.Live id) (aims : state.aims next = true) :
    Minds state (state.changeFocus next) :=
  ⟨fun attentive => changeFocus_attentive manned attentive next,
    fun focused => changeFocus_focused manned focused live aims⟩

theorem aims_none (state : Windows) : state.aims none = true := by simp [aims]

/-- Where nothing is focused nothing is revoked before the focus is given. -/
theorem aims_of_free (free : state.focus = none) (next : Option SurfaceIdentity) :
    state.aims next = true := by
  unfold aims leaveFocusLosses
  rw [free]
  cases next with
  | none => rfl
  | some id => simp

theorem loseFocus_minds (manned : state.Manned) : Minds state (state.changeFocus none) :=
  changeFocus_minds manned nofun state.aims_none

theorem loseFocus_focus (state : Windows) : (state.changeFocus none).focus = none := by
  unfold changeFocus
  by_cases same : state.focus = none
  · rw [if_pos same]
    exact same
  · rw [if_neg same]

theorem restoreFocus_minds (manned : state.Manned)
    (aims : state.aims state.focusCandidate = true) : Minds state state.restoreFocus :=
  changeFocus_minds manned (fun _ candidate => live_of_candidate candidate) aims

/-! ## The pointer -/

theorem regionAt_of_sameHover {hover next : Option Hover} (same : sameHover hover next = true)
    (id : SurfaceIdentity) : regionAt next id = regionAt hover id := by
  cases hover with
  | none =>
      cases next with
      | none => rfl
      | some next => cases same
  | some hover =>
      cases next with
      | none => cases same
      | some next =>
          unfold sameHover at same
          rw [Bool.and_eq_true, decide_eq_true_eq, decide_eq_true_eq] at same
          simp [regionAt, Option.filter_some, same.1, same.2]

theorem leaveHover_follows (manned : state.Manned) (attentive : state.Attentive) :
    state.leaveHover.Follows state.leaveHover.focus none := by
  unfold Attentive at attentive
  unfold leaveHover
  cases hovered : state.hover with
  | none =>
      rw [hovered] at attentive
      exact attentive
  | some previous =>
      rw [hovered] at attentive
      exact emit_follows manned attentive (.left previous)

theorem leaveHover_focused (manned : state.Manned) (focused : state.FocusLive) :
    state.leaveHover.FocusLive := by
  unfold leaveHover
  cases state.hover with
  | none => exact focused
  | some previous => exact emit_focused manned focused _ _

theorem setHover_attentive (manned : state.Manned) (attentive : state.Attentive)
    (next : Option Hover) : (state.setHover next).Attentive := by
  unfold Attentive
  rw [setHover_hover]
  unfold setHover
  cases same : sameHover state.hover next with
  | true =>
      rw [if_pos rfl]
      exact attentive.frame rfl fun id live => ⟨live, rfl, regionAt_of_sameHover same id⟩
  | false =>
      rw [if_neg (by decide)]
      have moved : Loses [] [] state.leaveHover { state.leaveHover with hover := next } :=
        .frame (leaveHover_loses manned).manned rfl rfl rfl fun _ held => held
      have start : Windows.Follows { state.leaveHover with hover := next }
          state.leaveHover.focus none := (leaveHover_follows manned attentive).aim rfl rfl
      cases next with
      | none => exact start
      | some current => exact emit_follows moved.manned start (.entered current)

theorem setHover_minds (manned : state.Manned) (next : Option Hover) :
    Minds state (state.setHover next) := by
  refine ⟨fun attentive => setHover_attentive manned attentive next, fun focused => ?_⟩
  unfold setHover
  cases sameHover state.hover next with
  | true => exact focused
  | false =>
      rw [if_neg (by decide)]
      have moved : Loses [] [] state.leaveHover { state.leaveHover with hover := next } :=
        .frame (leaveHover_loses manned).manned rfl rfl rfl fun _ held => held
      have start : Windows.FocusLive { state.leaveHover with hover := next } :=
        leaveHover_focused manned focused
      cases next with
      | none => exact start
      | some current => exact emit_focused moved.manned start _ _

theorem cancelCapture_minds (manned : state.Manned) (id : SurfaceIdentity) :
    Minds state (state.cancelCapture id) := by
  unfold cancelCapture
  cases state.capturedBy id with
  | false => exact .refl state
  | true =>
      have freed : Minds state { state with capture := none } :=
        .frame (fun _ => Iff.rfl) rfl rfl rfl
      exact freed.trans (emit_minds (release_loses manned).manned id ⟨rfl, rfl⟩)

theorem cancelCaptures_minds (ids : List SurfaceIdentity) {state : Windows}
    (manned : state.Manned) : Minds state (ids.foldl cancelCapture state) := by
  induction ids generalizing state with
  | nil => exact .refl state
  | cons id rest ih =>
      exact (cancelCapture_minds manned id).trans (ih (cancelCapture_loses manned id).manned)

/-! ## Closing -/

/-- A window that is dismissed is told, and has lost the focus for good. -/
theorem dismiss_minds (manned : state.Manned) (id : SurfaceIdentity) (reason : DismissReason) :
    Minds state (state.dismiss id reason) ∧
      (state.FocusLive → (state.dismiss id reason).focus ≠ some id) := by
  have released := cancelCapture_loses manned id
  have freed := cancelCapture_minds manned id
  unfold dismiss
  dsimp only
  generalize state.cancelCapture id = middle at released freed
  have left : Minds state (if middle.hovers id then middle.setHover none else middle) ∧
      (if middle.hovers id then middle.setHover none else middle).Manned := by
    cases middle.hovers id with
    | false => exact ⟨freed, released.manned⟩
    | true =>
        exact ⟨freed.trans (setHover_minds released.manned none),
          (setHover_loses released.manned none).manned⟩
  generalize (if middle.hovers id then middle.setHover none else middle) = next at left
  obtain ⟨left, crew⟩ := left
  have unfocused : Minds state (if next.focus = some id then next.changeFocus none else next) ∧
      (if next.focus = some id then next.changeFocus none else next).Manned ∧
      (if next.focus = some id then next.changeFocus none else next).focus ≠ some id := by
    by_cases focused : next.focus = some id
    · rw [if_pos focused]
      refine ⟨left.trans (loseFocus_minds crew), (changeFocus_loses crew none).manned, ?_⟩
      rw [loseFocus_focus]
      exact nofun
    · rw [if_neg focused]
      exact ⟨left, crew, focused⟩
  obtain ⟨minds, kept, other⟩ := unfocused
  exact ⟨minds.trans (emit_minds kept id ⟨rfl, rfl⟩),
    fun focused => emit_focus_ne kept (minds.focused focused) _ other⟩

theorem removeOne_minds (manned : state.Manned) (id : SurfaceIdentity) (reason : DismissReason) :
    Minds state (state.removeOne id reason) := by
  obtain ⟨dismissed, other⟩ := dismiss_minds manned id reason
  refine ⟨fun attentive => ?_, fun focused probe at_ => ?_⟩
  · exact (dismissed.attentive attentive).frame rfl fun probe live =>
      ⟨((forget_live id probe).mp live).1, rfl, rfl⟩
  · refine (forget_live id probe).mpr ⟨dismissed.focused focused probe at_, ?_⟩
    rintro rfl
    exact other focused at_

theorem removeAll_minds (ids : List SurfaceIdentity) {state : Windows} (manned : state.Manned) :
    Minds state (ids.foldl (fun state child => state.removeOne child .parentClosed) state) := by
  induction ids generalizing state with
  | nil => exact .refl state
  | cons id rest ih =>
      exact (removeOne_minds manned id _).trans (ih (removeOne_loses manned id _).manned)

theorem removeGroup_minds (manned : state.Manned) (id : SurfaceIdentity)
    (reason : DismissReason) : Minds state (state.removeGroup id reason) :=
  (removeAll_minds (state.children id) manned).trans
    (removeOne_minds (removeAll_loses (state.children id) manned).manned id reason)

theorem close_minds (manned : state.Manned) {id : SurfaceIdentity} {reason : DismissReason}
    (aims : (state.removeGroup id reason).aims
      (state.removeGroup id reason).focusCandidate = true) :
    Minds state (state.close id reason) :=
  (removeGroup_minds manned id reason).trans
    (restoreFocus_minds (removeGroup_loses manned id reason).manned aims)

theorem hideGroup_minds (manned : state.Manned) (id : SurfaceIdentity) :
    Minds state (state.hideGroup id) := by
  have released := cancelCaptures_loses (state.group id) manned
  have freed := cancelCaptures_minds (state.group id) manned
  unfold hideGroup
  dsimp only
  generalize (state.group id).foldl cancelCapture state = middle at released freed
  cases middle.focus.any fun focused => middle.descendant focused id with
  | false => exact freed
  | true =>
      have lost := changeFocus_loses released.manned none
      exact (freed.trans (loseFocus_minds released.manned)).trans
        (restoreFocus_minds lost.manned (aims_of_free middle.loseFocus_focus _))

end Windows

end VividProtocol.Overlay

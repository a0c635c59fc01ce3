import Mathlib.Tactic
import VividProtocol.Overlay.Dangling

/-!
# Steps that revoke nobody

A step after which every session that had a queue has one is steady: nothing that the
predicates of `Steady.lean` ask for can have been lost on the way.  A revocation is to
leave the window under the pointer alone, and the host types no focus or hover event.
-/

set_option autoImplicit false

namespace VividProtocol.Overlay

open VividProtocol.Library
open VividProtocol.Library.Transition

open Windows

/-- The session has a queue. -/
def Windows.Served (state : Windows) (owner : SessionIdentity) : Prop :=
  ∃ queue : List WindowEvent, state.events[owner]? = some queue

/-- Every session that has a queue keeps one. -/
def KeepsQueues (before after : Windows) : Prop := ∀ owner, before.Served owner → after.Served owner

variable {before middle after state : Windows} {lost more : List SessionIdentity}
  {gone further : List SurfaceIdentity} {id : SurfaceIdentity}

namespace Loses

theorem apart (loses : Loses lost gone before after) {owner : SessionIdentity}
    (served : after.Served owner) : owner ∉ lost := by
  intro inside
  obtain ⟨queue, found⟩ := served
  rw [loses.revoked owner inside] at found
  cases found

theorem served (loses : Loses lost gone before after) {owner : SessionIdentity}
    (served : after.Served owner) : before.Served owner := by
  obtain ⟨queue, found⟩ := served
  cases earlier : before.events[owner]? with
  | none =>
      rw [loses.unserved owner earlier] at found
      cases found
  | some queue => exact ⟨queue, earlier⟩

/-- What holds of a whole way holds of its first part. -/
theorem keepsFirst (second : Loses lost gone middle after) (keeps : KeepsQueues before after) :
    KeepsQueues before middle :=
  fun owner queued => second.served (keeps owner queued)

theorem keepsSecond (first : Loses lost gone before middle) (keeps : KeepsQueues before after) :
    KeepsQueues middle after :=
  fun owner queued => keeps owner (first.served queued)

end Loses

theorem Grounded.spared (grounded : Grounded before) (manned : before.Manned)
    (loses : Loses lost gone before after) (keeps : KeepsQueues before after) :
    before.hoverSpared lost gone = true := by
  refine hoverSpared_iff.mpr fun hover found => .inr (loses.apart ?_)
  exact keeps _ (manned.served _ (grounded.hovered hover found))

namespace Windows

/-! ## Focus and pointer -/

theorem aims_keeps (manned : state.Manned) {next : Option SurfaceIdentity}
    (live : ∀ id, next = some id → state.Live id)
    (keeps : KeepsQueues state (state.changeFocus next)) : state.aims next = true := by
  unfold aims
  by_cases same : state.focus = next
  · rw [decide_eq_true same, Bool.true_or]
  · cases next with
    | none => exact Bool.or_true _
    | some id =>
        have apart := (changeFocus_loses manned (some id)).apart
          (keeps _ (manned.served id (live id rfl)))
        unfold changeFocusLosses at apart
        rw [if_neg same, List.mem_append, not_or] at apart
        rw [Option.all_some, decide_eq_true apart.1, Bool.or_true]

theorem restoreFocus_keeps (manned : state.Manned) (grounded : Grounded state)
    (keeps : KeepsQueues state state.restoreFocus) : state.restoreFocusSteady = true := by
  unfold restoreFocusSteady
  rw [Bool.and_eq_true]
  constructor
  · exact aims_keeps manned (fun _ candidate => live_of_candidate candidate) keeps
  · exact grounded.spared manned (changeFocus_loses manned _) keeps

theorem takeFocus_aims (forest : Forest state) (live : state.Live id)
    (keeps : KeepsQueues state (state.takeFocus id)) : (state.raised id).aims (some id) = true := by
  refine aims_keeps (raised_loses forest live).manned ?_ keeps
  rintro _ ⟨⟩
  exact live

theorem requestFocus_keeps (forest : Forest state) (grounded : Grounded state)
    {answer : Except InvalidScene Unit × Windows} (outcome : state.FocusOutcome id answer)
    (keeps : KeepsQueues state answer.2) : state.requestFocusSteady id = true := by
  unfold requestFocusSteady takeFocusSteady
  cases outcome with
  | refused _ blocked =>
      rw [blocked]
      rfl
  | taken eligible =>
      have live := forest.live_of_eligible eligible
      rw [eligible, Bool.not_true, Bool.false_or, Bool.and_eq_true]
      exact ⟨takeFocus_aims forest live keeps,
        grounded.spared forest.manned (takeFocus_loses forest live) keeps⟩

theorem setPaneFocus_keeps (forest : Forest state) (grounded : Grounded state) {focused : Bool}
    (keeps : KeepsQueues state (state.setPaneFocus focused)) :
    state.setPaneFocusSteady focused = true := by
  cases focused with
  | true => exact restoreFocus_keeps forest.manned grounded keeps
  | false => exact grounded.spared forest.manned (losePaneFocus_loses forest.manned) keeps

/-- The pointer comes to a window whose session is not revoked. -/
theorem setHover_keeps (manned : state.Manned) {next : Option Hover}
    (live : ∀ hover, next = some hover → state.Live hover.window)
    (keeps : KeepsQueues state (state.setHover next)) : state.setHoverSteady next = true := by
  unfold setHoverSteady
  cases next with
  | none => rfl
  | some hover =>
      rw [Option.all_some, decide_eq_true_eq]
      exact (setHover_loses manned (some hover)).apart
        (keeps _ (manned.served _ (live hover rfl)))

theorem refreshHover_keeps (forest : Forest state) {position : Point}
    {hit : SurfaceIdentity → Point → Option HitRegion}
    (keeps : KeepsQueues state (state.refreshHover position hit)) :
    state.refreshHoverSteady position hit = true := by
  unfold refreshHover at keeps
  unfold refreshHoverSteady
  cases found : state.targetAt position hit with
  | none => rfl
  | some target =>
      rw [found] at keeps
      refine setHover_keeps forest.manned ?_ keeps
      rintro hover ⟨⟩
      exact forest.live_of_eligible (topmostHit_eq_some found).1.1

/-! ## Windows -/

theorem create_keeps (forest : Forest state) (grounded : Grounded state) {generation : UInt64}
    {options : WindowOptions}
    (kept : state.admitCreate id generation options = .ok () →
      (state.create id generation options).2.Served id.context.session)
    (keeps : KeepsQueues state (state.create id generation options).2) :
    state.createSteady id generation options = true := by
  unfold createSteady
  cases admitted : state.admitCreate id generation options with
  | error error => rfl
  | ok =>
      cases takes : takesFocus options with
      | false => rfl
      | true =>
          have allowed := Forest.admitCreate_ok admitted
          have own := kept admitted
          unfold Windows.create at own keeps
          simp only [admitted, takes] at own keeps
          dsimp only
          rw [Bool.not_true, Bool.false_or]
          refine requestFocus_keeps (forest.insertWindow generation allowed)
            (insertWindow_grounded grounded allowed.fresh generation options)
            ((state.insertWindow id generation options).requestFocus_outcome id) ?_
          rintro owner ⟨queue, found⟩
          rw [Forest.insertWindow_events] at found
          by_cases new : id.context.session = owner ∧ state.events[owner]? = none
          · exact new.1 ▸ own
          · rw [if_neg new] at found
            exact keeps owner ⟨queue, found⟩

theorem update_keeps (forest : Forest state) (grounded : Grounded state)
    {generation revision : UInt64} {options : WindowOptions}
    (keeps : KeepsQueues state (state.update id generation revision options).2) :
    state.updateSteady id generation revision options = true := by
  unfold update at keeps
  unfold updateSteady
  cases valid : options.validate with
  | error error => rfl
  | ok =>
      cases live : state.windows[id]? with
      | none => rfl
      | some old =>
          dsimp only
          cases admitted : state.admitUpdate id old generation revision options with
          | error error => rfl
          | ok next =>
              dsimp only
              simp only [valid, live, admitted] at keeps
              have kept : Forest (state.setWindow id (updated old options next)) :=
                forest.setWindow live rfl (Forest.admitUpdate_ok admitted).1
              have placed := setWindow_grounded grounded live (updated old options next)
              by_cases hides : old.options.visible ∧ ¬ options.visible
              · rw [if_pos hides] at keeps ⊢
                exact placed.spared kept.manned (hideGroup_loses kept.manned id) keeps
              rw [if_neg hides] at keeps ⊢
              by_cases shows : ¬ old.options.visible ∧ options.visible ∧ options.mode ≠ .floating
              · rw [if_pos shows] at keeps ⊢
                have outcome :=
                  (state.setWindow id (updated old options next)).requestFocus_outcome id
                change KeepsQueues (state.setWindow id (updated old options next)) _ at keeps
                refine requestFocus_keeps kept placed outcome ?_
                unfold updated at keeps outcome ⊢
                generalize Windows.requestFocus _ id = answer at outcome keeps ⊢
                obtain ⟨result, reached⟩ := answer
                cases result with
                | error error => exact keeps
                | ok => exact keeps
              · rw [if_neg shows]

/-- The window that takes the focus over was there before the close. -/
theorem close_keeps (forest : Forest state) (grounded : Grounded state) {reason : DismissReason}
    (keeps : KeepsQueues state (state.close id reason)) : state.closeSteady id reason = true := by
  have removed := removeGroup_loses forest.manned id reason
  unfold closeSteady closeAims
  rw [Bool.and_eq_true]
  constructor
  · refine aims_keeps removed.manned (fun _ candidate => live_of_candidate candidate) ?_
    exact removed.keepsSecond keeps
  · exact grounded.spared forest.manned (close_loses forest.manned id reason) keeps

/-! ## Actions -/

theorem perform_keeps (forest : Forest state) (grounded : Grounded state) {action : WindowAction}
    (keeps : KeepsQueues state (state.perform id action).2) :
    state.performSteady id action = true := by
  cases action with
  | focus => exact requestFocus_keeps forest grounded (state.requestFocus_outcome id) keeps
  | _ => rfl

theorem settle_keeps (forest : Forest state) (grounded : Grounded state) {next : UInt64}
    {bounds : Option Rect} (keeps : KeepsQueues state (state.settle id next bounds).2) :
    state.settleSteady id next bounds = true := by
  unfold settle at keeps
  unfold settleSteady
  cases live : state.windows[id]? with
  | none => rfl
  | some window =>
      cases bounds with
      | none => rfl
      | some bounds =>
          simp only [live] at keeps
          have kept : Forest (state.setWindow id (placed window bounds next)) :=
            forest.setWindow live rfl rfl
          exact (setWindow_grounded grounded live _).spared kept.manned
            (emit_loses kept.manned id _) keeps

/-- Performing an action and settling it give no session a queue. -/
theorem perform_served (forest : Forest state) {action : WindowAction} {owner : SessionIdentity}
    (served : (state.perform id action).2.Served owner) : state.Served owner := by
  cases action with
  | close => exact served
  | center => exact served
  | raise =>
      unfold perform at served
      cases eligible : state.eligible id with
      | false =>
          rw [eligible] at served
          exact served
      | true =>
          rw [eligible] at served
          exact served
  | lower =>
      unfold perform at served
      cases blocked : ! state.eligible id || state.blocked with
      | true =>
          rw [blocked] at served
          exact served
      | false =>
          rw [blocked] at served
          exact served
  | focus =>
      have outcome := state.requestFocus_outcome id
      change (state.requestFocus id).2.Served owner at served
      generalize state.requestFocus id = answer at outcome served
      cases outcome with
      | refused _ _ => exact served
      | taken eligible =>
          exact (takeFocus_loses forest (forest.live_of_eligible eligible)).served served

theorem settle_served (forest : Forest state) {next : UInt64} {bounds : Option Rect}
    {owner : SessionIdentity} (served : (state.settle id next bounds).2.Served owner) :
    state.Served owner := by
  unfold settle at served
  cases live : state.windows[id]? with
  | none =>
      rw [live] at served
      exact served
  | some window =>
      rw [live] at served
      cases bounds with
      | none => exact served
      | some bounds =>
          have kept : Forest (state.setWindow id (placed window bounds next)) :=
            forest.setWindow live rfl rfl
          exact (emit_loses kept.manned id _).served served

theorem applyAction_keeps (forest : Forest state) (grounded : Grounded state)
    {owner : SessionIdentity} {action : Action} {viewport : Viewport}
    (keeps : KeepsQueues state (state.applyAction owner action viewport).2) :
    state.applyActionSteady owner action viewport = true := by
  unfold applyAction at keeps
  unfold applyActionSteady
  cases sent : orScene "invalid window action" action.payload with
  | error error => rfl
  | ok payload =>
      rw [sent] at keeps
      dsimp only at keeps ⊢
      cases named : orScene "invalid window identity" (action.address.toIdentity owner) with
      | error error => rfl
      | ok id =>
          rw [named] at keeps
          dsimp only at keeps ⊢
          cases live : state.windows[id]? with
          | none => rfl
          | some old =>
              rw [live] at keeps
              dsimp only at keeps ⊢
              by_cases stale : old.generation ≠ action.address.generation ∨
                  old.revision ≠ action.expectedRevision
              · rw [if_pos stale]
              rw [if_neg stale] at keeps ⊢
              by_cases closes : action.action = .close
              · rw [if_pos closes] at keeps ⊢
                exact close_keeps forest grounded keeps
              rw [if_neg closes] at keeps ⊢
              cases next : checkedAdd old.revision 1 with
              | none => rfl
              | some revision =>
                  rw [next] at keeps
                  dsimp only at keeps ⊢
                  cases asked : actionBounds action.action viewport old.options.bounds with
                  | error error => rfl
                  | ok bounds =>
                      unfold actionBounds at asked
                      rw [asked] at keeps
                      dsimp only at keeps ⊢
                      have performs := forest.perform id action.action
                      have heeds := @perform_grounded state id forest grounded action.action
                      have acts := @perform_keeps state id forest grounded action.action
                      have served := @perform_served state id forest action.action
                      cases done : state.perform id action.action with
                      | mk result middle =>
                          cases result with
                          | error error => rfl
                          | ok =>
                              rw [done] at keeps performs heeds acts served
                              dsimp only at keeps ⊢
                              have steady := acts fun owner queued =>
                                settle_served performs (keeps owner queued)
                              rw [steady, Bool.true_and]
                              exact settle_keeps performs (heeds steady) fun owner queued =>
                                keeps owner (served queued)

/-! ## Keyboard and wheel -/

theorem keyboard_keeps (forest : Forest state) (grounded : Grounded state) {event : Event}
    {escape : Bool} (untyped : event.focusMark = none ∧ event.hoverMark = none)
    (keeps : KeepsQueues state (state.keyboard event escape).2) :
    state.keyboardSteady event escape = true := by
  unfold keyboard at keeps
  unfold keyboardSteady
  cases swallowed : escape && state.swallowedEscape with
  | true => rfl
  | false =>
      rw [swallowed, if_neg (by decide)] at keeps
      rw [if_neg (by decide)]
      cases target : state.focus.filter state.eligible with
      | none => rfl
      | some id =>
          rw [target] at keeps
          dsimp only at keeps ⊢
          cases dismisses : escape && pressesKey event && state.dismissible id with
          | true =>
              rw [dismisses, if_pos rfl] at keeps
              rw [if_pos rfl]
              have free : Forest { state with swallowedEscape := true } :=
                forest.frame rfl rfl rfl rfl rfl
              have noted : Grounded { state with swallowedEscape := true } :=
                grounded.frame (fun _ => Iff.rfl) rfl rfl rfl grounded.captured
              exact close_keeps free noted keeps
          | false =>
              rw [dismisses, if_neg (by decide)] at keeps
              rw [if_neg (by decide), Bool.and_eq_true]
              constructor
              · unfold quietEvent
                rw [untyped.1, untyped.2]
                rfl
              · exact grounded.spared forest.manned (emit_loses forest.manned id event) keeps

theorem wheel_keeps (forest : Forest state) (grounded : Grounded state) {position : Point}
    {scroll : Scroll} {modifiers : UInt32}
    {hit : SurfaceIdentity → Point → Option (UInt64 × HitRole)}
    (keeps : KeepsQueues state (state.wheel position scroll modifiers hit).2) :
    state.wheelSteady position scroll modifiers hit = true := by
  unfold wheel at keeps
  unfold wheelSteady
  cases found : state.topmostHit Prod.snd position hit with
  | none => rfl
  | some target =>
      rw [found] at keeps
      exact grounded.spared forest.manned (emit_loses forest.manned _ _) keeps

/-! ## The pointer -/

theorem gesture_keeps (forest : Forest state) (grounded : Grounded state) {capture : Capture}
    {point : Point} {settled : Bool}
    (keeps : KeepsQueues state (state.gesture capture point settled)) :
    state.gestureAims capture point = true := by
  have outcome := state.gesture_outcome capture point settled
  generalize state.gesture capture point settled = after at outcome keeps
  unfold gestureAims
  cases outcome with
  | still nothing => simp only [gestureStep_still nothing]
  | exhausted live asked full =>
      have closing := close_keeps forest grounded keeps
      unfold closeSteady at closing
      rw [Bool.and_eq_true] at closing
      simp only [gestureStep_asked live asked, full]
      exact closing.1
  | moved live asked next => simp only [gestureStep_asked live asked, next]

theorem captureMotion_keeps (forest : Forest state) (grounded : Grounded state)
    {capture : Capture} {report : PointerReport}
    (keeps : KeepsQueues state (state.captureMotion capture report)) :
    state.captureMotionAims capture report = true := by
  unfold captureMotion at keeps
  unfold captureMotionAims
  cases gestures : capture.role.gestures with
  | false => rfl
  | true =>
      rw [gestures] at keeps
      exact gesture_keeps forest grounded keeps

theorem refreshHover_loses (manned : state.Manned) (position : Point)
    (hit : SurfaceIdentity → Point → Option HitRegion) :
    ∃ lost, Loses lost [] state (state.refreshHover position hit) := by
  unfold refreshHover
  cases state.targetAt position hit with
  | none => exact ⟨_, setHover_loses manned none⟩
  | some target => exact ⟨_, setHover_loses manned _⟩

theorem pointerCaptured_keeps (forest : Forest state) (grounded : Grounded state)
    {capture : Capture} {report : PointerReport}
    {hit : SurfaceIdentity → Point → Option HitRegion}
    (keeps : KeepsQueues state (state.pointerCaptured capture report hit).2) :
    state.pointerCapturedSteady capture report hit = true := by
  unfold pointerCaptured at keeps
  unfold pointerCapturedSteady
  cases eligible : state.eligible capture.window with
  | false =>
      rw [eligible] at keeps
      exact grounded.spared forest.manned (cancelCapture_loses forest.manned _) keeps
  | true =>
      rw [eligible, Bool.not_true, if_neg (by decide)] at keeps
      rw [Bool.not_true, if_neg (by decide), Bool.and_eq_true]
      have moved := forest.captureMotion report eligible
      cases releases : report.releases with
      | true =>
          rw [releases, if_pos rfl] at keeps
          have released : Forest { state.captureMotion capture report with capture := none } :=
            moved.frame rfl rfl rfl rfl rfl
          obtain ⟨lost, entering⟩ := refreshHover_loses released.manned report.position hit
          have aims := captureMotion_keeps forest grounded (entering.keepsFirst keeps)
          have loses := (captureMotion_parts forest aims).1
          rw [if_pos rfl]
          exact ⟨aims, refreshHover_keeps released (loses.keepsSecond keeps)⟩
      | false =>
          rw [releases, if_neg (by decide)] at keeps
          have aims := captureMotion_keeps forest grounded keeps
          rw [if_neg (by decide)]
          exact ⟨aims, grounded.spared forest.manned (captureMotion_parts forest aims).1 keeps⟩

/-- A press leaves the queues as the change of the focus left them. -/
theorem pressTarget_events (eligible : state.eligible id = true) (position : Point)
    (target : HitRegion) :
    (state.pressTarget id position target).events = (state.takeFocus id).events := by
  have taken : (state.requestFocus id).2 = state.takeFocus id := by
    unfold requestFocus
    rw [eligible]
    rfl
  unfold pressTarget
  dsimp only
  rw [taken]
  cases (state.takeFocus id).windows[id]? with
  | none => rfl
  | some window =>
      cases target.role.gestures with
      | false => rfl
      | true => rfl

theorem pointerHit_keeps (forest : Forest state) {report : PointerReport} {inside : Point}
    {target : HitRegion} (eligible : state.eligible id = true)
    (keeps : KeepsQueues state (state.pointerHit report id inside target).2) :
    state.pointerHitSteady report id inside target = true := by
  have live := forest.live_of_eligible eligible
  have own : state.Served id.context.session := forest.served id live
  unfold pointerHit at keeps
  unfold pointerHitSteady
  dsimp only at keeps ⊢
  have pressed : Forest (if report.presses then state.pressTarget id report.position target
      else state) := by
    cases report.presses with
    | false => exact forest
    | true => exact forest.pressTarget id report.position target
  have entered := setHover_loses pressed.manned
    (some { window := id, region := target.id, cursor := target.cursor })
  have told := entered.both
    (emit_loses entered.manned id (pointerEvent report inside target.id))
  have apart := told.apart (keeps _ own)
  have focused := told.keepsFirst keeps
  have taken : (! report.presses || (state.raised id).aims (some id)) = true ∧
      id.context.session ∉ (if report.presses then state.takeFocusLosses id else []) := by
    cases presses : report.presses with
    | false => exact ⟨rfl, List.not_mem_nil⟩
    | true =>
        rw [presses, if_pos rfl] at focused
        have kept : KeepsQueues state (state.takeFocus id) := by
          intro owner queued
          obtain ⟨queue, found⟩ := focused owner queued
          rw [pressTarget_events eligible] at found
          exact ⟨queue, found⟩
        rw [Bool.not_true, Bool.false_or, if_pos rfl]
        exact ⟨takeFocus_aims forest live kept, (takeFocus_loses forest live).apart (kept _ own)⟩
  rw [List.mem_append, not_or] at apart
  simp only [Bool.and_eq_true, decide_eq_true_eq, List.mem_append, not_or]
  exact ⟨taken.1, ⟨taken.2, apart.1⟩, apart.2⟩

theorem pointerFree_keeps (forest : Forest state) (grounded : Grounded state)
    {report : PointerReport} {hit : SurfaceIdentity → Point → Option HitRegion}
    (keeps : KeepsQueues state (state.pointerFree report hit).2) :
    state.pointerFreeSteady report hit = true := by
  unfold pointerFree at keeps
  unfold pointerFreeSteady
  cases dismisses : state.foremostPopup.filter fun popup =>
      report.presses && ! popup.options.bounds.contains report.position with
  | some popup =>
      rw [dismisses] at keeps
      dsimp only at keeps ⊢
      cases button : report.button with
      | none =>
          rw [button] at keeps
          exact close_keeps forest grounded keeps
      | some pair =>
          rw [button] at keeps
          have swallowing : Forest
              { state with swallowedButtons := insert pair.1 state.swallowedButtons } :=
            forest.frame rfl rfl rfl rfl rfl
          have swallowed : Grounded
              { state with swallowedButtons := insert pair.1 state.swallowedButtons } :=
            grounded.frame (fun _ => Iff.rfl) rfl rfl rfl grounded.captured
          exact close_keeps swallowing swallowed keeps
  | none =>
      rw [dismisses] at keeps
      dsimp only at keeps ⊢
      cases found : state.targetAt report.position hit with
      | none => rfl
      | some triple =>
          rw [found] at keeps
          exact pointerHit_keeps forest (topmostHit_eq_some found).1.1 keeps

theorem pointer_keeps (forest : Forest state) (grounded : Grounded state)
    {report : PointerReport} {hit : SurfaceIdentity → Point → Option HitRegion}
    (keeps : KeepsQueues state (state.pointer report hit).2) :
    state.pointerSteady report hit = true := by
  unfold pointerSteady
  cases quiet : state.swallows report with
  | true => rfl
  | false =>
      have heard : (report.button.filter fun pair =>
          decide (pair.1 ∈ state.swallowedButtons)) = none := by
        unfold swallows at quiet
        rw [Option.filter_eq_none_iff]
        intro pair reported held
        rw [reported, Option.any_some, held] at quiet
        cases quiet
      unfold pointer at keeps
      rw [heard] at keeps
      dsimp only at keeps
      rw [Bool.false_or]
      cases held : state.capture with
      | some capture =>
          rw [held] at keeps
          exact pointerCaptured_keeps forest grounded keeps
      | none =>
          rw [held] at keeps
          exact pointerFree_keeps forest grounded keeps

end Windows

/-! ## Steps and runs -/

/-- No session that has windows is revoked but by the host, who spares the one under the
pointer and types no focus or hover event. -/
structure Unrevoked (state : Windows) (operation : Operation) : Prop where
  keeps : ∀ owner, operation ≠ .revokeOwner owner → operation ≠ .takeEvent owner →
    state.Served owner → (windowsStep state operation).2.Served owner
  created : ∀ id generation options, operation = .create id generation options →
    state.admitCreate id generation options = .ok () →
    (windowsStep state operation).2.Served id.context.session
  apart : ∀ owner hover, operation = .revokeOwner owner → state.hover = some hover →
    hover.window.context.session ≠ owner
  untyped : ∀ event escape, operation = .keyboard event escape →
    event.focusMark = none ∧ event.hoverMark = none

theorem Unrevoked.revokeOwner_steady (forest : Forest state) (grounded : Grounded state)
    {owner : SessionIdentity} (unrevoked : Unrevoked state (.revokeOwner owner)) :
    state.hoverSpared (state.revokeLosses owner) [] = true := by
  refine hoverSpared_iff.mpr fun hover found => .inr ?_
  have foreign := unrevoked.apart owner hover rfl found
  refine (revokeOwner_loses forest.manned owner).apart (unrevoked.keeps _ ?_ ?_ ?_)
  · rintro ⟨⟩
    exact foreign rfl
  · rintro ⟨⟩
  · exact forest.served _ (grounded.hovered hover found)

theorem Unrevoked.steady (forest : Forest state) (grounded : Grounded state)
    {operation : Operation} (unrevoked : Unrevoked state operation) :
    state.steady operation = true := by
  have keeps : (∀ owner, operation ≠ .revokeOwner owner ∧ operation ≠ .takeEvent owner) →
      KeepsQueues state (windowsStep state operation).2 :=
    fun others owner => unrevoked.keeps owner (others owner).1 (others owner).2
  cases operation with
  | setPaneFocus focused => exact setPaneFocus_keeps forest grounded (keeps (by simp))
  | create id generation options =>
      exact create_keeps forest grounded (unrevoked.created id generation options rfl)
        (keeps (by simp))
  | applyAction owner action viewport => exact applyAction_keeps forest grounded (keeps (by simp))
  | update id generation revision options =>
      exact update_keeps forest grounded (keeps (by simp))
  | requestFocus id =>
      exact requestFocus_keeps forest grounded (state.requestFocus_outcome id) (keeps (by simp))
  | close id reason => exact close_keeps forest grounded (keeps (by simp))
  | revokeOwner owner => exact unrevoked.revokeOwner_steady forest grounded
  | keyboard event escape =>
      exact keyboard_keeps forest grounded (unrevoked.untyped event escape rfl) (keeps (by simp))
  | wheel position scroll modifiers hit => exact wheel_keeps forest grounded (keeps (by simp))
  | pointer report hit => exact pointer_keeps forest grounded (keeps (by simp))
  | refreshHover position hit => exact refreshHover_keeps forest (keeps (by simp))
  | publishScene id generation sceneRevision => rfl
  | takeOverflow owner => rfl
  | takeEvent owner => rfl
  | capturePointer id position => rfl
  | releasePointer id => rfl

/-- A run in which nobody is revoked is steady. -/
theorem steady_of_unrevoked {inputs : List Operation}
    (unrevoked : ∀ event ∈ windowsRuns.history Windows.default inputs,
      Unrevoked event.before event.input) :
    ∀ event ∈ windowsRuns.history Windows.default inputs,
      event.before.steady event.input = true := by
  induction inputs using List.reverseRecOn with
  | nil => exact fun event among => absurd among List.not_mem_nil
  | append_singleton inputs input ih =>
      rw [windowsRuns.history_snoc] at unrevoked ⊢
      have before := ih fun event among => unrevoked event (List.mem_append_left _ among)
      have last := unrevoked _ (List.mem_append_right _ (List.mem_singleton_self _))
      intro event among
      rcases List.mem_append.mp among with sooner | now
      · exact before event sooner
      · rw [List.mem_singleton.mp now]
        exact last.steady (forest_final inputs) (grounded_final before)

end VividProtocol.Overlay

import Mathlib.Tactic
import VividProtocol.Overlay.Hush
import VividProtocol.Overlay.Snapshot

/-!
# How a gesture ends

A window whose last report is an unsettled geometry is being dragged or resized,
as long as no step ends a gesture without telling, or reports geometry for a
window that is not captured.
-/

set_option autoImplicit false

namespace VividProtocol.Overlay

open VividProtocol.Library
open VividProtocol.Library.OrderedForest
open VividProtocol.Library.Result
open VividProtocol.Library.Transition

open Windows

/-- The calls that end a gesture with geometry pending and say nothing, and a key
event that is unsettled geometry of a window that no gesture moves. -/
inductive Abandons (state : Windows) : Operation → Prop
  | released {id : SurfaceIdentity} (live : state.Live id) (moving : state.Moving id)
      (pending : state.Pending id) : Abandons state (.releasePointer id)
  | recaptured {id moved : SurfaceIdentity} {position : Point}
      (eligible : state.eligible id = true) (focused : state.focus = some id)
      (live : state.Live moved) (moving : state.Moving moved) (pending : state.Pending moved) :
      Abandons state (.capturePointer id position)
  | failed {report : PointerReport} {hit : SurfaceIdentity → Point → Option HitRegion}
      {capture : Capture} {window : Window} {error : InvalidScene}
      (gestures : Gestures state (.pointer report hit) capture window report.position)
      (releases : report.releases = true)
      (fails : gestureBounds capture window.options report.position = some (.error error))
      (pending : state.Pending capture.window) : Abandons state (.pointer report hit)
  | typed {id : SurfaceIdentity} {bounds : Rect} {escape : Bool}
      (quiet : (escape && state.swallowedEscape) = false) (focused : state.focus = some id)
      (eligible : state.eligible id = true) (still : ¬ state.Moving id)
      (told : state.deliver id (.geometry bounds false) ≠ none) :
      Abandons state (.keyboard (.geometry bounds false) escape)

theorem Abandons.of_pointer {state : Windows} {report : PointerReport}
    {hit : SurfaceIdentity → Point → Option HitRegion}
    (abandons : Abandons state (.pointer report hit)) :
    report.releases = true ∧ ∃ capture window error,
      Gestures state (.pointer report hit) capture window report.position ∧
        gestureBounds capture window.options report.position = some (.error error) := by
  cases abandons with
  | failed gestures releases fails pending => exact ⟨releases, _, _, _, gestures, fails⟩

/-! ## Calls of producers -/

section Calls

variable {state : Windows}

theorem perform_hushed (forest : Forest state) (id : SurfaceIdentity) (action : WindowAction) :
    Hushed state (state.perform id action).2 := by
  cases action with
  | close => exact .refl state
  | center => exact .refl state
  | focus => exact requestFocus_hushed forest id
  | raise =>
      unfold perform
      cases state.eligible id with
      | false => exact .refl state
      | true => exact .frame (fun _ live => live) rfl rfl
  | lower =>
      unfold perform
      cases ! state.eligible id || state.blocked with
      | true => exact .refl state
      | false => exact .frame (fun _ live => live) rfl rfl

theorem settle_hushed (forest : Forest state) (id : SurfaceIdentity) (next : UInt64)
    {bounds : Option Rect} (valid : ∀ rect, bounds = some rect → rect.validate = .ok ()) :
    Hushed state (state.settle id next bounds).2 := by
  unfold settle
  cases live : state.windows[id]? with
  | none => exact .refl state
  | some window =>
      cases bounds with
      | none => exact setWindow_hushed ⟨window, live⟩ _
      | some rect =>
          have told : validEvent (.geometry rect true) = true := by
            show rect.validate.isOk = true
            rw [valid rect rfl]
            rfl
          have moved : Forest (state.setWindow id (placed window rect next)) :=
            forest.setWindow live rfl rfl
          have set : Hushed state (state.setWindow id (placed window rect next)) :=
            setWindow_hushed ⟨window, live⟩ _
          exact set.trans (emit_hushed moved rfl (.inl told))

end Calls

section Steps

variable {state : Windows} (forest : Forest state) (reported : state.Reported)

include forest reported

theorem setPaneFocus_reported (focused : Bool) : (state.setPaneFocus focused).Reported := by
  cases focused with
  | true => exact (changeFocus_hushed forest _).reported reported
  | false =>
      show state.losePaneFocus.Reported
      unfold losePaneFocus
      have cleared : ∀ middle : Windows, Hushed state middle → Forest middle →
          Windows.Reported { middle.changeFocus none with
            swallowedButtons := ∅
            swallowedEscape := false } := by
        intro middle hushed kept
        have lost := hushed.trans (changeFocus_hushed kept none)
        have noted : Hushed (middle.changeFocus none) { middle.changeFocus none with
            swallowedButtons := ∅
            swallowedEscape := false } := .frame (fun _ live => live) rfl rfl
        exact (lost.trans noted).reported reported
      cases held : state.capture with
      | none => exact cleared state (.refl state) forest
      | some capture =>
          have free : Forest { state with capture := none } := forest.frame rfl rfl rfl rfl rfl
          exact cleared _ (release_hushed forest held) (free.emit (.inl rfl))

theorem create_reported (id : SurfaceIdentity) (generation : UInt64) (options : WindowOptions) :
    (state.create id generation options).2.Reported := by
  have outcome := state.create_outcome id generation options
  generalize state.create id generation options = answer at outcome
  have inserted : Hushed state (state.insertWindow id generation options) :=
    insertWindow_hushed id generation options
  cases outcome with
  | refused _ => exact reported
  | inserted _ _ => exact inserted.reported reported
  | focused admitted _ outcome =>
      cases outcome with
      | refused _ _ => exact inserted.reported reported
      | taken eligible =>
          have kept := forest.insertWindow generation (Forest.admitCreate_ok admitted)
          exact (inserted.trans (takeFocus_hushed kept (kept.live_of_eligible eligible))).reported
            reported

theorem update_reported (id : SurfaceIdentity) (generation revision : UInt64)
    (options : WindowOptions) :
    (state.update id generation revision options).2.Reported := by
  have outcome := state.update_outcome id generation revision options
  generalize state.update id generation revision options = answer at outcome
  have replaced : ∀ {old : Window} {next : UInt64}, state.windows[id]? = some old →
      Hushed state (state.setWindow id (Windows.updated old options next)) :=
    fun live => setWindow_hushed ⟨_, live⟩ _
  cases outcome with
  | refused _ => exact reported
  | hidden _ live admitted _ _ =>
      have kept := updated_forest forest live admitted
      exact ((replaced live).trans (hideGroup_hushed kept id)).reported reported
  | focused _ live admitted _ _ _ outcome =>
      cases outcome with
      | refused _ _ => exact (replaced live).reported reported
      | taken eligible =>
          have kept := updated_forest forest live admitted
          exact ((replaced live).trans
            (takeFocus_hushed kept (kept.live_of_eligible eligible))).reported reported
  | replaced _ live _ _ => exact (replaced live).reported reported

theorem applyAction_reported (owner : SessionIdentity) (action : Action) (viewport : Viewport) :
    (state.applyAction owner action viewport).2.Reported := by
  have outcome := state.applyAction_outcome owner action viewport
  generalize state.applyAction owner action viewport = answer at outcome
  cases outcome with
  | refused _ => exact reported
  | closed _ _ _ => exact (close_hushed forest _ _).reported reported
  | performed _ _ done =>
      rw [perform_refused done]
      exact reported
  | @settled id _ _ _ _ _ _ _ centered _ done =>
      have performed := perform_hushed forest id action.action
      have kept := forest.perform id action.action
      rw [done] at performed kept
      refine (performed.trans (settle_hushed kept id _ ?_)).reported reported
      rintro rect rfl
      exact actionBounds_valid centered

theorem keyboard_reported {event : Event} {escape : Bool}
    (kept : ¬ Abandons state (.keyboard event escape)) :
    (state.keyboard event escape).2.Reported := by
  unfold keyboard
  cases swallowed : escape && state.swallowedEscape with
  | true =>
      cases releasesKey event with
      | false => exact reported
      | true =>
          have noted : Hushed state { state with swallowedEscape := false } :=
            .frame (fun _ live => live) rfl rfl
          exact noted.reported reported
  | false =>
      rw [if_neg (by decide)]
      cases target : state.focus.filter state.eligible with
      | none => exact reported
      | some id =>
          obtain ⟨focused, eligible⟩ := Option.filter_eq_some_iff.mp target
          have known : id.context.session ∈ state.owners :=
            forest.known (forest.live_of_eligible eligible)
          dsimp only
          cases escape && pressesKey event && state.dismissible id with
          | true =>
              have noted : Hushed state { state with swallowedEscape := true } :=
                .frame (fun _ live => live) rfl rfl
              have free : Forest { state with swallowedEscape := true } :=
                forest.frame rfl rfl rfl rfl rfl
              exact (noted.trans (close_hushed free id .escape)).reported reported
          | false =>
              show (state.emit id event).Reported
              cases settled : event.unsettled with
              | false => exact (emit_hushed forest settled (.inr known)).reported reported
              | true =>
                  by_cases moving : state.Moving id
                  · exact emit_moving forest reported moving (.inr known)
                  · cases event with
                    | geometry bounds rest =>
                        have unsettled : rest = false := by simpa [Event.unsettled] using settled
                        subst unsettled
                        cases told : state.deliver id (.geometry bounds false) with
                        | some after =>
                            exact absurd (.typed swallowed focused eligible moving
                              (by rw [told]; exact nofun)) kept
                        | none =>
                            unfold emit
                            rw [told]
                            have dropped : Stirs (fun _ event => event.unsettled = false) state
                                (state.revokeOwner id.context.session) :=
                              revokeOwner_stirs settled_notices state _
                            have marked : Hushed (state.revokeOwner id.context.session)
                                ((state.revokeOwner id.context.session).markOverflow
                                  id.context.session) := .frame (fun _ live => live) rfl rfl
                            exact ((dropped.hushed forest).trans marked).reported reported
                    | _ => cases settled

/-- A captured report keeps the law, and one that ends the capture leaves nothing pending. -/
theorem captureMotion_reported {report : PointerReport}
    {hit : SurfaceIdentity → Point → Option HitRegion} {capture : Capture}
    (quiet : state.swallows report = false) (held : state.capture = some capture)
    (eligible : state.eligible capture.window = true)
    (kept : ¬ Abandons state (.pointer report hit)) :
    (state.captureMotion capture report).Reported ∧ (report.releases = true →
      ∀ id, (state.captureMotion capture report).Live id →
        ¬ (state.captureMotion capture report).Pending id) := by
  have known : capture.window.context.session ∈ state.owners :=
    forest.known (forest.live_of_eligible eligible)
  have only : ∀ id, state.Live id → state.Pending id →
      id = capture.window ∧ capture.role.gestures = true := by
    intro id live pending
    obtain ⟨other, holds, same, gestures⟩ := reported id live pending
    rw [held, Option.some.injEq] at holds
    subst holds
    exact ⟨same.symm, gestures⟩
  unfold captureMotion
  cases role : capture.role.gestures with
  | false =>
      -- No window is pending while the capture is no gesture.
      have calm : ∀ after, Hushed state after → after.Reported ∧ (report.releases = true →
          ∀ id, after.Live id → ¬ after.Pending id) := by
        intro after hushed
        refine ⟨hushed.reported reported, fun _ id live pending => ?_⟩
        obtain ⟨liveBefore, pendingBefore, -⟩ := hushed id live pending
        have gestures := (only id liveBefore pendingBefore).2
        rw [role] at gestures
        cases gestures
      rw [if_neg (by decide)]
      cases state.localPoint capture.window report.position with
      | none => exact calm state (.refl state)
      | some inside => exact calm _ (emit_hushed forest rfl (.inr known))
  | true =>
      rw [if_pos rfl]
      have step := state.gesture_outcome capture report.position report.releases
      generalize state.gesture capture report.position report.releases = after at step
      cases step with
      | still none =>
          refine ⟨reported, fun releases id live pending => ?_⟩
          obtain ⟨same, -⟩ := only id live pending
          subst same
          obtain ⟨window, found⟩ := live
          cases aimed : gestureBounds capture window.options report.position with
          | none =>
              unfold gestureBounds at aimed
              cases kind : capture.role with
              | drag => simp [kind] at aimed
              | resize edges => simp [kind] at aimed
              | input => simp [kind, HitRole.gestures] at role
              | transparent => simp [kind, HitRole.gestures] at role
          | some result =>
              cases result with
              | ok bounds => exact absurd aimed (none window bounds found)
              | error error =>
                  exact kept (.failed ⟨⟨report, hit, rfl, quiet, rfl⟩, held, eligible, found⟩
                    releases aimed pending)
      | exhausted live asked full =>
          have hushed := close_hushed forest capture.window .closed
          refine ⟨hushed.reported reported, fun _ id live pending => ?_⟩
          obtain ⟨liveBefore, pendingBefore, -⟩ := hushed id live pending
          rw [(only id liveBefore pendingBefore).1] at live
          exact close_gone forest capture.window .closed live
      | @moved window bounds revision live asked next =>
          have valid : validEvent (.geometry bounds report.releases) = true := by
            show bounds.validate.isOk = true
            rw [gestureBounds_valid asked]
            rfl
          have set : Hushed state
              (state.setWindow capture.window (placed window bounds revision)) :=
            setWindow_hushed ⟨window, live⟩ _
          have middle : Forest (state.setWindow capture.window (placed window bounds revision)) :=
            forest.setWindow live rfl rfl
          cases releases : report.releases with
          | false =>
              rw [releases] at valid
              exact ⟨emit_moving middle (set.reported reported) ⟨capture, held, rfl, role⟩
                (.inl valid), nofun⟩
          | true =>
              rw [releases] at valid
              have told : Hushed (state.setWindow capture.window (placed window bounds revision))
                  ((state.setWindow capture.window (placed window bounds revision)).emit
                    capture.window (.geometry bounds true)) :=
                emit_hushed middle rfl (.inl valid)
              have hushed := set.trans told
              refine ⟨hushed.reported reported, fun _ id alive pending => ?_⟩
              obtain ⟨liveBefore, pendingBefore, -⟩ := hushed id alive pending
              have same := (only id liveBefore pendingBefore).1
              subst same
              exact emit_reports middle valid rfl rfl alive pending

theorem pointerCaptured_reported {report : PointerReport}
    {hit : SurfaceIdentity → Point → Option HitRegion} {capture : Capture}
    (quiet : state.swallows report = false) (held : state.capture = some capture)
    (eligible : state.eligible capture.window = true)
    (kept : ¬ Abandons state (.pointer report hit)) :
    (state.pointerCaptured capture report hit).2.Reported := by
  obtain ⟨moved, ended⟩ := captureMotion_reported forest reported quiet held eligible kept
  have middle : Forest (state.captureMotion capture report) :=
    forest.captureMotion report eligible
  unfold pointerCaptured
  rw [eligible, if_neg (by decide)]
  cases releases : report.releases with
  | false => exact moved
  | true =>
      have free : Forest { state.captureMotion capture report with capture := none } :=
        middle.frame rfl rfl rfl rfl rfl
      refine (refreshHover_hushed free report.position hit).reported ?_
      intro id live pending
      obtain ⟨bounds, last⟩ := pending
      exact absurd ⟨bounds, last⟩ (ended releases id live)

theorem pointerHit_reported (free : state.capture = none) (report : PointerReport)
    {id : SurfaceIdentity} (eligible : state.eligible id = true) (inside : Point)
    (target : HitRegion) : (state.pointerHit report id inside target).2.Reported := by
  have none : ∀ probe, state.Live probe → ¬ state.Pending probe := by
    intro probe live pending
    obtain ⟨capture, held, -⟩ := reported probe live pending
    rw [free] at held
    cases held
  have told : ∀ middle : Windows, middle.Reported → Forest middle →
      middle.owners = state.owners →
      Windows.Reported ((middle.setHover
        (some { window := id, region := target.id, cursor := target.cursor })).emit id
          (pointerEvent report inside target.id)) := by
    intro middle holds whole owners
    have entered := setHover_hushed whole
      (some { window := id, region := target.id, cursor := target.cursor })
    have listed : id.context.session ∈ (middle.setHover
        (some { window := id, region := target.id, cursor := target.cursor })).owners := by
      rw [setHover_owners, owners]
      exact forest.known (forest.live_of_eligible eligible)
    exact (entered.trans (emit_hushed (whole.setHover _) rfl (.inr listed))).reported holds
  unfold pointerHit
  cases report.presses with
  | false => exact told state reported forest rfl
  | true =>
      refine told _ ?_ (forest.pressTarget id report.position target)
        (Forest.pressTarget_owners id report.position target)
      have focused := requestFocus_hushed forest id
      unfold pressTarget
      dsimp only
      cases (state.requestFocus id).2.windows[id]? with
      | none => exact focused.reported reported
      | some window =>
          cases target.role.gestures with
          | false => exact focused.reported reported
          | true =>
              intro probe live pending
              obtain ⟨bounds, last⟩ := pending
              obtain ⟨liveBefore, pendingBefore, -⟩ := focused probe live ⟨bounds, last⟩
              exact absurd pendingBefore (none probe liveBefore)

theorem pointer_reported {report : PointerReport}
    {hit : SurfaceIdentity → Point → Option HitRegion}
    (kept : ¬ Abandons state (.pointer report hit)) :
    (state.pointer report hit).2.Reported := by
  have outcome := state.pointer_outcome report hit
  generalize state.pointer report hit = answer at outcome
  have noted : ∀ buttons, Hushed state { state with swallowedButtons := buttons } :=
    fun _ => .frame (fun _ live => live) rfl rfl
  cases outcome with
  | @swallowed button down _ _ =>
      cases down with
      | true => exact reported
      | false => exact (noted _).reported reported
  | cancelled _ _ _ => exact (cancelCapture_hushed forest _).reported reported
  | captured quiet held eligible =>
      exact pointerCaptured_reported forest reported quiet held eligible kept
  | @dismissed _ _ _ _ button _ _ =>
      have free : Forest
          { state with swallowedButtons := insert button state.swallowedButtons } :=
        forest.frame rfl rfl rfl rfl rfl
      exact ((noted _).trans (close_hushed free _ _)).reported reported
  | missed _ _ _ =>
      have left := setHover_hushed forest none
      unfold pointerMissed
      dsimp only
      cases ! (state.setHover none).blocked && report.presses with
      | false => exact left.reported reported
      | true =>
          have lost := left.trans (changeFocus_hushed (forest.setHover none) none)
          have cleared : Hushed ((state.setHover none).changeFocus none)
              { (state.setHover none).changeFocus none with focusHistory := [] } :=
            .frame (fun _ live => live) rfl rfl
          exact (lost.trans cleared).reported reported
  | met _ free found =>
      exact pointerHit_reported forest reported free report (topmostHit_eq_some found).1.1 _ _

/-- A step that abandons no gesture keeps the law. -/
theorem step_reported {operation : Operation} (kept : ¬ Abandons state operation) :
    (windowsStep state operation).2.Reported := by
  cases operation with
  | setPaneFocus focused => exact setPaneFocus_reported forest reported focused
  | create id generation options => exact create_reported forest reported id generation options
  | publishScene id generation sceneRevision =>
      show (state.publishScene id generation sceneRevision).2.Reported
      unfold publishScene
      cases live : state.windows[id]? with
      | none => exact reported
      | some window =>
          dsimp only
          by_cases stale : window.generation ≠ generation ∨ sceneRevision = 0 ∨
              sceneRevision ≤ window.sceneRevision
          · rw [if_pos stale]
            exact reported
          · rw [if_neg stale]
            exact (setWindow_hushed ⟨window, live⟩ _).reported reported
  | applyAction owner action viewport =>
      exact applyAction_reported forest reported owner action viewport
  | update id generation revision options =>
      exact update_reported forest reported id generation revision options
  | requestFocus id => exact (requestFocus_hushed forest id).reported reported
  | close id reason => exact (close_hushed forest id reason).reported reported
  | revokeOwner owner =>
      have dropped : Stirs (fun _ event => event.unsettled = false) state
          (state.revokeOwner owner) := revokeOwner_stirs settled_notices state owner
      exact (dropped.hushed forest).reported reported
  | takeOverflow owner =>
      have taken : Hushed state (state.takeOverflow owner).2 :=
        .frame (fun _ live => live) rfl rfl
      exact taken.reported reported
  | takeEvent owner =>
      obtain ⟨events, same⟩ := takeEvent_eq state owner
      show (state.takeEvent owner).2.Reported
      rw [same]
      have taken : Hushed state { state with events := events } :=
        .frame (fun _ live => live) rfl rfl
      exact taken.reported reported
  | capturePointer id position =>
      show (state.capturePointer id position).2.Reported
      unfold capturePointer
      cases refused : ! state.eligible id || decide (state.focus ≠ some id) with
      | true => exact reported
      | false =>
          rw [if_neg (by decide)]
          cases state.windows[id]? with
          | none => exact reported
          | some window =>
              rw [Bool.or_eq_false_iff, Bool.not_eq_false', decide_eq_false_iff_not,
                not_not] at refused
              intro probe live pending
              obtain ⟨bounds, last⟩ := pending
              exact absurd (.recaptured refused.1 refused.2 live
                (reported probe live ⟨bounds, last⟩) ⟨bounds, last⟩) kept
  | releasePointer id =>
      show (state.releasePointer id).Reported
      unfold releasePointer
      cases captured : state.capturedBy id with
      | false => exact reported
      | true =>
          intro probe live pending
          obtain ⟨bounds, last⟩ := pending
          have moving := reported probe live ⟨bounds, last⟩
          have grip := moving
          obtain ⟨capture, held, same, -⟩ := grip
          unfold capturedBy at captured
          rw [held, Option.any_some, same, decide_eq_true_eq] at captured
          subst captured
          exact absurd (.released live moving ⟨bounds, last⟩) kept
  | keyboard event escape => exact keyboard_reported forest reported kept
  | wheel position scroll modifiers hit =>
      show (state.wheel position scroll modifiers hit).2.Reported
      unfold Windows.wheel
      cases met : state.topmostHit Prod.snd position hit with
      | none => exact reported
      | some target =>
          have known : target.1.context.session ∈ state.owners :=
            forest.known (forest.live_of_eligible (topmostHit_eq_some met).1.1)
          exact (emit_hushed forest rfl (.inr known)).reported reported
  | pointer report hit => exact pointer_reported forest reported kept
  | refreshHover position hit =>
      exact (refreshHover_hushed forest position hit).reported reported

end Steps

/-! ## Runs -/

/-- In a run that abandons no gesture, a live window that is neither dragged nor
resized was not told of unsettled geometry last. -/
theorem gestures_report (inputs : List Operation)
    (kept : ∀ event ∈ windowsRuns.history Windows.default inputs,
      ¬ Abandons event.before event.input) (id : SurfaceIdentity)
    (live : (windowsRuns.final Windows.default inputs).Live id)
    (still : ¬ (windowsRuns.final Windows.default inputs).Moving id) :
    ¬ (windowsRuns.final Windows.default inputs).Pending id := by
  have reported : (windowsRuns.final Windows.default inputs).Reported := by
    clear live still
    induction inputs using List.reverseRecOn with
    | nil =>
        rintro id ⟨window, found⟩
        exact absurd ((Forest.default.listed id).mpr ⟨window, found⟩) List.not_mem_nil
    | append_singleton inputs operation ih =>
        rw [windowsRuns.history_snoc] at kept
        rw [windowsRuns.final_snoc]
        exact step_reported (forest_final inputs)
          (ih fun event inside => kept event (List.mem_append_left _ inside))
          (kept _ (List.mem_append_right _ (List.mem_singleton.mpr rfl)))
  exact fun pending => still (reported id live pending)

/-- A window that was dragged and let go by the producer. -/
def sampleLetGo : List Operation :=
  sampleDrag ++ [.pointer (sampleMotion sampleFar) sampleGrip, .releasePointer (sampleSurface 1 1)]

/-- Pressed, moved and let go, the window is told of where it is settled. -/
theorem gestures_report_dropped :
    (∃ bounds, (windowsRuns.final Windows.default sampleDropped).lastReport (sampleSurface 1 1) =
        some (.geometry bounds true)) ∧
      (windowsRuns.final Windows.default sampleMoved).Pending (sampleSurface 1 1) ∧
      ¬ (windowsRuns.final Windows.default sampleDropped).Pending (sampleSurface 1 1) := by
  let moved : Scalar := ⟨18 * 4294967296, by decide⟩
  let extent : Scalar := ⟨10 * 4294967296, by decide⟩
  have settled : (windowsRuns.final Windows.default sampleDropped).lastReport
      (sampleSurface 1 1) = some
        (.geometry { origin := ⟨moved, moved⟩, width := extent, height := extent } true) := by
    decide +kernel
  have pending : (windowsRuns.final Windows.default sampleMoved).lastReport
      (sampleSurface 1 1) = some
        (.geometry { origin := ⟨moved, moved⟩, width := extent, height := extent } false) := by
    decide +kernel
  have aimed : ∀ capture ∈ (windowsRuns.final Windows.default sampleMoved).capture,
      ∀ window ∈ (windowsRuns.final Windows.default sampleMoved).windows[capture.window]?,
        (gestureBounds capture window.options ⟨sampleFar, sampleFar⟩).any
          (fun result => ! result.isOk) = false := by
    decide +kernel
  refine ⟨⟨_, settled⟩, ⟨_, pending⟩, ?_⟩
  refine gestures_report sampleDropped ?_ (sampleSurface 1 1)
    (Option.isSome_iff_exists.mp (by decide +kernel)) ?_
  · intro event inside
    simp only [sampleDropped, sampleMoved, sampleUpdated, sampleDrag, List.cons_append,
      List.nil_append, Machine.history, List.mem_cons, List.not_mem_nil, or_false] at inside
    rcases inside with rfl | rfl | rfl | rfl | rfl
    · rintro ⟨⟩
    · exact fun abandons => absurd abandons.of_pointer.1 (by decide)
    · rintro ⟨⟩
    · exact fun abandons => absurd abandons.of_pointer.1 (by decide)
    · intro abandons
      obtain ⟨-, capture, window, error, gestures, fails⟩ := abandons.of_pointer
      have fits := aimed capture gestures.held window gestures.live
      rw [show gestureBounds capture window.options ⟨sampleFar, sampleFar⟩ = _ from fails] at fits
      cases fits
  · rintro ⟨capture, held, -⟩
    have free : (windowsRuns.final Windows.default sampleDropped).capture = none := by
      decide +kernel
    cases free.symm.trans held

/-- Released by the producer, the window was told of unsettled geometry last. -/
theorem release_abandons_gesture :
    (windowsRuns.final Windows.default sampleLetGo).Live (sampleSurface 1 1) ∧
      ¬ (windowsRuns.final Windows.default sampleLetGo).Moving (sampleSurface 1 1) ∧
      (windowsRuns.final Windows.default sampleLetGo).Pending (sampleSurface 1 1) := by
  refine ⟨Option.isSome_iff_exists.mp (by decide +kernel), ?_, ?_⟩
  · rintro ⟨capture, held, -⟩
    have free : (windowsRuns.final Windows.default sampleLetGo).capture = none := by
      decide +kernel
    cases free.symm.trans held
  · let moved : Scalar := ⟨18 * 4294967296, by decide⟩
    let extent : Scalar := ⟨10 * 4294967296, by decide⟩
    have last : (windowsRuns.final Windows.default sampleLetGo).lastReport (sampleSurface 1 1) =
        some (.geometry { origin := ⟨moved, moved⟩, width := extent, height := extent } false) := by
      decide +kernel
    exact ⟨_, last⟩

end VividProtocol.Overlay

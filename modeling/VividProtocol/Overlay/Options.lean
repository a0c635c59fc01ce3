import Mathlib.Tactic
import VividProtocol.Overlay.Closing

/-!
# What happens to the options of a window

After any call a live window is as it was, new, or the successor of itself by an
update, a scene, an action or a step of a gesture.
-/

set_option autoImplicit false

namespace VividProtocol.Overlay

open VividProtocol.Library
open VividProtocol.Library.OrderedForest
open VividProtocol.Library.Result
open VividProtocol.Library.Transition

open Windows

/-- A window that an action leaves: at the next revision, centered or not. -/
def Windows.acted (window : Window) (bounds : Option Rect) (revision : UInt64) : Window :=
  match bounds with
  | none => { window with revision := revision }
  | some bounds => placed window bounds revision

/-- A report is a step of the gesture of a capture on a window. -/
structure Gestures (state : Windows) (operation : Operation) (capture : Capture)
    (window : Window) (point : Point) : Prop where
  asked : ∃ report hit, operation = .pointer report hit ∧ state.swallows report = false ∧
    report.position = point
  held : state.capture = some capture
  eligible : state.eligible capture.window = true
  live : state.windows[capture.window]? = some window

/-- Where a live window of the state after a call comes from. -/
inductive Rewrites (state : Windows) (operation : Operation) (id : SurfaceIdentity) :
    Window → Prop
  | kept {window : Window} (live : state.windows[id]? = some window) :
      Rewrites state operation id window
  | created {generation : UInt64} {options : WindowOptions}
      (asked : operation = .create id generation options) (fresh : state.windows[id]? = none)
      (admitted : state.admitCreate id generation options = .ok ()) :
      Rewrites state operation id
        { identity := id
          generation := generation
          revision := 1
          sceneRevision := 0
          options := options }
  | updated {generation revision next : UInt64} {options : WindowOptions} {old : Window}
      (asked : operation = .update id generation revision options)
      (valid : options.validate = .ok ()) (live : state.windows[id]? = some old)
      (admitted : state.admitUpdate id old generation revision options = .ok next) :
      Rewrites state operation id (Windows.updated old options next)
  | published {old : Window} {sceneRevision : UInt64} (live : state.windows[id]? = some old) :
      Rewrites state operation id { old with sceneRevision := sceneRevision }
  | acted {owner : SessionIdentity} {action : Action} {viewport : Viewport} {old : Window}
      {bounds : Option Rect} {revision : UInt64}
      (asked : operation = .applyAction owner action viewport)
      (live : state.windows[id]? = some old) (next : checkedAdd old.revision 1 = some revision)
      (centered : actionBounds action.action viewport old.options.bounds = .ok bounds) :
      Rewrites state operation id (acted old bounds revision)
  | gestured {capture : Capture} {point : Point} {old : Window} {bounds : Rect}
      {revision : UInt64} (same : capture.window = id)
      (gestures : Gestures state operation capture old point)
      (aimed : gestureBounds capture old.options point = some (.ok bounds))
      (next : checkedAdd old.revision 1 = some revision) :
      Rewrites state operation id (placed old bounds revision)

/-! ## Single calls -/

theorem Forest.close_window {state : Windows} (forest : Forest state) {id probe : SurfaceIdentity}
    {reason : DismissReason} {window : Window} (found : (state.close id reason).windows[probe]? = some window) :
    state.windows[probe]? = some window := by
  have restored : Sheds (fun _ _ => True) (state.removeGroup id reason)
      (state.close id reason) := restoreFocus_sheds Forest.notices _
  have removed : Within state (state.removeGroup id reason) :=
    (@Forest.removeGroup_rel state forest Within (fun _ _ _ found => found)
      (fun _ _ _ first second key window found => first key window (second key window found))
      id reason fun _ _ _ _ _ _ _ _ found => (Forest.removeOne_window found).1).2.1
  exact removed probe window (restored.window found)

theorem emit_window {state : Windows} {id probe : SurfaceIdentity} {event : Event}
    {window : Window} (known : validEvent event = true ∨ id.context.session ∈ state.owners)
    (found : (state.emit id event).windows[probe]? = some window) :
    state.windows[probe]? = some window := by
  have sheds : Sheds (fun _ _ => True) state (state.emit id event) :=
    emit_sheds Forest.notices trivial known
  exact sheds.window found

section Calls

variable {state : Windows} (forest : Forest state) {id : SurfaceIdentity} {window : Window}

theorem settle_rewrites {owner : SessionIdentity} {action : Action} {viewport : Viewport}
    {target : SurfaceIdentity} {old : Window} {revision : UInt64} {bounds : Option Rect}
    {middle : Windows} (live : state.windows[target]? = some old)
    (next : checkedAdd old.revision 1 = some revision)
    (centered : actionBounds action.action viewport old.options.bounds = .ok bounds)
    (done : state.perform target action.action = (.ok (), middle))
    (found : (middle.settle target revision bounds).2.windows[id]? = some window) :
    Rewrites state (.applyAction owner action viewport) id window := by
  have earlier : ∀ (probe : SurfaceIdentity) (window : Window), middle.windows[probe]? = some window →
      state.windows[probe]? = some window := by
    intro probe window there
    have reached : (state.perform target action.action).2.windows[probe]? = some window := by
      rw [done]
      exact there
    exact perform_window reached
  unfold settle at found
  cases there : middle.windows[target]? with
  | none =>
      rw [there] at found
      exact .kept (earlier id window found)
  | some other =>
      have same := earlier target other there
      rw [live, Option.some.injEq] at same
      subst same
      rw [there] at found
      have placed : ∀ window, (middle.setWindow target (Windows.acted old bounds revision)).windows[id]? =
          some window → Rewrites state (.applyAction owner action viewport) id window := by
        intro other at_
        rw [Forest.setWindow_lookup] at at_
        by_cases own : target = id
        · rw [if_pos own, Option.some.injEq] at at_
          subst own
          subst at_
          exact .acted rfl live next centered
        · rw [if_neg own] at at_
          exact .kept (earlier id other at_)
      cases bounds with
      | none => exact placed window found
      | some rect =>
          have valid : validEvent (.geometry rect true) = true := by
            show rect.validate.isOk = true
            rw [actionBounds_valid centered]
            rfl
          exact placed window (emit_window (.inl valid) found)

include forest

theorem applyAction_rewrites {owner : SessionIdentity} {action : Action} {viewport : Viewport}
    (found : (state.applyAction owner action viewport).2.windows[id]? = some window) :
    Rewrites state (.applyAction owner action viewport) id window := by
  have outcome := state.applyAction_outcome owner action viewport
  generalize state.applyAction owner action viewport = answer at outcome found
  cases outcome with
  | refused _ => exact .kept found
  | closed _ _ _ => exact .kept (forest.close_window found)
  | performed _ _ done =>
      rw [perform_refused done] at found
      exact .kept found
  | settled _ live _ next centered done =>
      exact settle_rewrites live next centered done found

theorem captureMotion_rewrites {capture : Capture} {report : PointerReport}
    {hit : SurfaceIdentity → Point → Option HitRegion} (quiet : state.swallows report = false)
    (held : state.capture = some capture) (eligible : state.eligible capture.window = true)
    (moved : (state.captureMotion capture report).windows[id]? = some window) :
    Rewrites state (.pointer report hit) id window := by
  unfold captureMotion at moved
  cases gestures : capture.role.gestures with
  | false =>
      rw [gestures, if_neg (by decide)] at moved
      cases place : state.localPoint capture.window report.position with
      | none =>
          rw [place] at moved
          exact .kept moved
      | some inside =>
          rw [place] at moved
          exact .kept (emit_window
            (.inr (forest.known (forest.live_of_eligible eligible))) moved)
  | true =>
      rw [gestures, if_pos rfl] at moved
      have step := state.gesture_outcome capture report.position report.releases
      generalize state.gesture capture report.position report.releases = after at step moved
      cases step with
      | still _ => exact .kept moved
      | exhausted _ _ _ => exact .kept (forest.close_window moved)
      | @moved old bounds revision live asked next =>
          have valid : validEvent (.geometry bounds report.releases) = true := by
            show bounds.validate.isOk = true
            rw [gestureBounds_valid asked]
            rfl
          have before := emit_window (.inl valid) moved
          rw [Forest.setWindow_lookup] at before
          by_cases same : capture.window = id
          · rw [if_pos same, Option.some.injEq] at before
            subst before
            exact .gestured same ⟨⟨report, hit, rfl, quiet, rfl⟩, held, eligible, live⟩ asked next
          · rw [if_neg same] at before
            exact .kept before

omit forest in
/-- What follows the step of a gesture is the search for the window under the pointer. -/
theorem pointerCaptured_window {capture : Capture} {report : PointerReport}
    {hit : SurfaceIdentity → Point → Option HitRegion}
    (eligible : state.eligible capture.window = true)
    (found : (state.pointerCaptured capture report hit).2.windows[id]? = some window) :
    (state.captureMotion capture report).windows[id]? = some window := by
  unfold pointerCaptured at found
  rw [eligible, if_neg (by decide)] at found
  cases released : report.releases with
  | false =>
      rw [released] at found
      exact found
  | true =>
      rw [released] at found
      have sheds : Sheds (fun _ _ => True)
          { state.captureMotion capture report with capture := none } _ :=
        refreshHover_sheds Forest.notices _ report.position hit
      have before := sheds.window found
      exact before

omit forest in
theorem pointerMissed_window {report : PointerReport}
    (found : (state.pointerMissed report).2.windows[id]? = some window) :
    state.windows[id]? = some window := by
  have left : Sheds (fun _ _ => True) state (state.setHover none) :=
    setHover_sheds Forest.notices state none
  unfold pointerMissed at found
  dsimp only at found
  cases clears : ! (state.setHover none).blocked && report.presses with
  | false =>
      rw [clears] at found
      exact left.window found
  | true =>
      rw [clears] at found
      have lost : Sheds (fun _ _ => True) state ((state.setHover none).changeFocus none) :=
        left.trans (changeFocus_sheds Forest.notices _ none)
      exact lost.window found

omit forest in
theorem pressTarget_window {target : SurfaceIdentity} {position : Point} {region : HitRegion}
    (found : (state.pressTarget target position region).windows[id]? = some window) :
    state.windows[id]? = some window := by
  unfold pressTarget at found
  dsimp only at found
  cases there : (state.requestFocus target).2.windows[target]? with
  | none =>
      rw [there] at found
      exact requestFocus_window found
  | some other =>
      rw [there] at found
      cases gestures : region.role.gestures with
      | false =>
          rw [gestures] at found
          exact requestFocus_window found
      | true =>
          rw [gestures] at found
          exact requestFocus_window found

omit forest in
theorem pointerHit_window {report : PointerReport} {target : SurfaceIdentity} {inside : Point}
    {region : HitRegion} (known : target.context.session ∈ state.owners)
    (found : (state.pointerHit report target inside region).2.windows[id]? = some window) :
    state.windows[id]? = some window := by
  have told : ∀ middle : Windows, middle.owners = state.owners →
      ((middle.setHover
        (some { window := target, region := region.id, cursor := region.cursor })).emit target
          (pointerEvent report inside region.id)).windows[id]? = some window →
      middle.windows[id]? = some window := by
    intro middle owners found
    have hovered : Sheds (fun _ _ => True) middle (middle.setHover
        (some { window := target, region := region.id, cursor := region.cursor })) :=
      setHover_sheds Forest.notices middle _
    have listed : target.context.session ∈ (middle.setHover
        (some { window := target, region := region.id, cursor := region.cursor })).owners := by
      rw [setHover_owners, owners]
      exact known
    exact hovered.window (emit_window (.inr listed) found)
  unfold pointerHit at found
  cases pressed : report.presses with
  | false =>
      rw [pressed] at found
      exact told state rfl found
  | true =>
      rw [pressed] at found
      exact pressTarget_window
        (told _ (Forest.pressTarget_owners target report.position region) found)

theorem pointer_rewrites {report : PointerReport}
    {hit : SurfaceIdentity → Point → Option HitRegion}
    (found : (state.pointer report hit).2.windows[id]? = some window) :
    Rewrites state (.pointer report hit) id window := by
  have outcome := state.pointer_outcome report hit
  generalize state.pointer report hit = answer at outcome found
  cases outcome with
  | @swallowed _ down _ _ =>
      cases down with
      | true => exact .kept found
      | false => exact .kept found
  | @cancelled _ capture _ _ =>
      have sheds : Sheds (fun _ _ => True) state (state.cancelCapture capture.window) :=
        cancelCapture_sheds Forest.notices state _
      exact .kept (sheds.window found)
  | captured quiet held eligible =>
      exact captureMotion_rewrites forest quiet held eligible
        (pointerCaptured_window eligible found)
  | @dismissed _ _ _ _ button _ _ =>
      have noted : Forest
          { state with swallowedButtons := insert button state.swallowedButtons } :=
        forest.frame rfl rfl rfl rfl rfl
      have before := noted.close_window found
      exact .kept before
  | missed _ _ _ => exact .kept (pointerMissed_window found)
  | met _ _ met =>
      have known := forest.known (forest.live_of_eligible (topmostHit_eq_some met).1.1)
      exact .kept (pointerHit_window known found)

omit forest in
theorem setPaneFocus_window {focused : Bool}
    (found : (state.setPaneFocus focused).windows[id]? = some window) :
    state.windows[id]? = some window := by
  cases focused with
  | true => exact (restoreFocus_sheds Forest.notices state).window found
  | false =>
      obtain ⟨middle, sheds, reached⟩ := losePaneFocus_sheds Forest.notices state
      change state.losePaneFocus.windows[id]? = some window at found
      rw [reached] at found
      exact sheds.window found

omit forest in
theorem create_rewrites {target : SurfaceIdentity} {generation : UInt64} {options : WindowOptions}
    (found : (state.create target generation options).2.windows[id]? = some window) :
    Rewrites state (.create target generation options) id window := by
  have outcome := state.create_outcome target generation options
  generalize state.create target generation options = answer at outcome found
  have inserted : (state.insertWindow target generation options).windows[id]? = some window →
      state.admitCreate target generation options = .ok () →
      Rewrites state (.create target generation options) id window := by
    intro there admitted
    rw [Forest.insertWindow_lookup] at there
    by_cases same : target = id
    · rw [if_pos same, Option.some.injEq] at there
      subst same
      subst there
      exact .created rfl (not_live_iff.mp (Forest.admitCreate_ok admitted).fresh) admitted
    · rw [if_neg same] at there
      exact .kept there
  cases outcome with
  | refused _ => exact .kept found
  | inserted admitted _ => exact inserted found admitted
  | focused admitted _ outcome =>
      cases outcome with
      | refused _ _ => exact inserted found admitted
      | taken _ => exact inserted (takeFocus_window found) admitted

omit forest in
theorem publishScene_rewrites {target : SurfaceIdentity} {generation sceneRevision : UInt64}
    (found : (state.publishScene target generation sceneRevision).2.windows[id]? = some window) :
    Rewrites state (.publishScene target generation sceneRevision) id window := by
  unfold publishScene at found
  cases live : state.windows[target]? with
  | none =>
      rw [live] at found
      exact .kept found
  | some old =>
      rw [live] at found
      dsimp only at found
      by_cases stale : old.generation ≠ generation ∨ sceneRevision = 0 ∨
          sceneRevision ≤ old.sceneRevision
      · rw [if_pos stale] at found
        exact .kept found
      · rw [if_neg stale, Forest.setWindow_lookup] at found
        by_cases same : target = id
        · rw [if_pos same, Option.some.injEq] at found
          subst same
          subst found
          exact .published live
        · rw [if_neg same] at found
          exact .kept found

omit forest in
theorem update_rewrites {target : SurfaceIdentity} {generation revision : UInt64}
    {options : WindowOptions}
    (found : (state.update target generation revision options).2.windows[id]? = some window) :
    Rewrites state (.update target generation revision options) id window := by
  have outcome := state.update_outcome target generation revision options
  generalize state.update target generation revision options = answer at outcome found
  have replaced : ∀ {old : Window} {next : UInt64}, options.validate = .ok () →
      state.windows[target]? = some old →
      state.admitUpdate target old generation revision options = .ok next →
      (state.setWindow target (Windows.updated old options next)).windows[id]? = some window →
      Rewrites state (.update target generation revision options) id window := by
    intro old next valid live admitted there
    rw [Forest.setWindow_lookup] at there
    by_cases same : target = id
    · rw [if_pos same, Option.some.injEq] at there
      subst same
      subst there
      exact .updated rfl valid live admitted
    · rw [if_neg same] at there
      exact .kept there
  cases outcome with
  | refused _ => exact .kept found
  | @hidden valid old next live admitted _ _ =>
      have sheds : Sheds (fun _ _ => True)
          (state.setWindow target (Windows.updated old options next)) _ :=
        hideGroup_sheds Forest.notices _ target
      exact replaced valid live admitted (sheds.window found)
  | focused valid live admitted _ _ _ outcome =>
      cases outcome with
      | refused _ _ => exact replaced valid live admitted found
      | taken _ => exact replaced valid live admitted (takeFocus_window found)
  | replaced valid live admitted _ => exact replaced valid live admitted found

omit forest in
theorem takeEvent_window {owner : SessionIdentity}
    (found : (state.takeEvent owner).2.windows[id]? = some window) :
    state.windows[id]? = some window := by
  obtain ⟨events, same⟩ := takeEvent_eq state owner
  rw [same] at found
  exact found

omit forest in
theorem capturePointer_window {target : SurfaceIdentity} {position : Point}
    (found : (state.capturePointer target position).2.windows[id]? = some window) :
    state.windows[id]? = some window := by
  unfold capturePointer at found
  cases refused : ! state.eligible target || decide (state.focus ≠ some target) with
  | true =>
      rw [refused] at found
      exact found
  | false =>
      rw [refused, if_neg (by decide)] at found
      cases live : state.windows[target]? with
      | none =>
          rw [live] at found
          exact found
      | some old =>
          rw [live] at found
          exact found

theorem keyboard_window {event : Event} {escape : Bool}
    (found : (state.keyboard event escape).2.windows[id]? = some window) :
    state.windows[id]? = some window := by
  have outcome := state.keyboard_outcome event escape
  generalize state.keyboard event escape = answer at outcome found
  cases outcome with
  | swallowed _ _ reached =>
      rcases reached with rfl | rfl
      · exact found
      · exact found
  | unfocused _ => exact found
  | dismissed _ _ =>
      have noted : Forest { state with swallowedEscape := true } :=
        forest.frame rfl rfl rfl rfl rfl
      exact noted.close_window found
  | emitted _ eligible =>
      exact emit_window (.inr (forest.known (forest.live_of_eligible eligible))) found

theorem wheel_window {position : Point} {scroll : Scroll} {modifiers : UInt32}
    {hit : SurfaceIdentity → Point → Option (UInt64 × HitRole)}
    (found : (state.wheel position scroll modifiers hit).2.windows[id]? = some window) :
    state.windows[id]? = some window := by
  unfold Windows.wheel at found
  cases met : state.topmostHit Prod.snd position hit with
  | none =>
      rw [met] at found
      exact found
  | some target =>
      rw [met] at found
      exact emit_window
        (.inr (forest.known (forest.live_of_eligible (topmostHit_eq_some met).1.1))) found

/-- The options of a window change by a creation, an update, an action or a gesture. -/
theorem step_rewrites {operation : Operation}
    (found : (windowsStep state operation).2.windows[id]? = some window) :
    Rewrites state operation id window := by
  cases operation with
  | setPaneFocus focused => exact .kept (setPaneFocus_window found)
  | create target generation options => exact create_rewrites found
  | publishScene target generation sceneRevision => exact publishScene_rewrites found
  | applyAction owner action viewport => exact applyAction_rewrites forest found
  | update target generation revision options => exact update_rewrites found
  | requestFocus target => exact .kept (requestFocus_window found)
  | close target reason => exact .kept (forest.close_window found)
  | revokeOwner owner => exact .kept ((revokeOwner_sheds Forest.notices state owner).window found)
  | takeOverflow owner => exact .kept found
  | takeEvent owner => exact .kept (takeEvent_window found)
  | capturePointer target position => exact .kept (capturePointer_window found)
  | releasePointer target =>
      have released : Sheds (fun _ _ => True) state (state.releasePointer target) :=
        releasePointer_sheds state target
      exact .kept (released.window found)
  | keyboard event escape => exact .kept (keyboard_window forest found)
  | wheel position scroll modifiers hit => exact .kept (wheel_window forest found)
  | pointer report hit => exact pointer_rewrites forest found
  | refreshHover position hit =>
      exact .kept ((refreshHover_sheds Forest.notices state position hit).window found)

end Calls

end VividProtocol.Overlay

import Mathlib.Tactic
import VividProtocol.Overlay.Invariant

/-!
# What a step can do

Besides shedding, an operation forgets windows, replaces them by later versions,
moves them in the stack, and changes the focus history and what is swallowed.
Creating a window, updating its options and reading the queues are kept apart.
-/

set_option autoImplicit false

namespace VividProtocol.Overlay

open VividProtocol.Library
open VividProtocol.Library.OrderedForest
open VividProtocol.Library.Transition

open Windows

/-- A rectangle that `Rect::new` has built is valid. -/
theorem Rect.validate_of_new {x y width height : Int} {rect : Rect}
    (built : Rect.new x y width height = .ok rect) : rect.validate = .ok () := by
  unfold Rect.new at built
  obtain ⟨origin, -, built⟩ := Result.bind_eq_ok_iff.mp built
  obtain ⟨wide, -, built⟩ := Result.bind_eq_ok_iff.mp built
  obtain ⟨high, -, built⟩ := Result.bind_eq_ok_iff.mp built
  obtain ⟨⟨⟩, valid, same⟩ := Result.bind_eq_ok_iff.mp built
  cases same
  exact valid

/-- A gesture asks for no bounds, or for what `Rect::new` builds. -/
theorem Windows.gestureBounds_valid {capture : Capture} {options : WindowOptions} {point : Point}
    {bounds : Rect} (asked : gestureBounds capture options point = some (.ok bounds)) :
    bounds.validate = .ok () := by
  unfold gestureBounds at asked
  cases role : capture.role with
  | input => simp [role] at asked
  | transparent => simp [role] at asked
  | drag =>
      simp only [role, Option.some.injEq] at asked
      exact Rect.validate_of_new asked
  | resize edges =>
      simp only [role, Option.some.injEq] at asked
      exact Rect.validate_of_new asked

/-- A later version of a window: the same surface with the same place and mode. -/
structure Window.Later (old window : Window) : Prop where
  identity : window.identity = old.identity
  generation : window.generation = old.generation
  parent : window.options.parent = old.options.parent
  mode : window.options.mode = old.options.mode
  revision : old.revision.toNat ≤ window.revision.toNat
  sceneRevision : old.sceneRevision.toNat ≤ window.sceneRevision.toNat

theorem Window.Later.refl (window : Window) : window.Later window :=
  ⟨rfl, rfl, rfl, rfl, le_refl _, le_refl _⟩

theorem Window.Later.trans {first second third : Window} (sooner : first.Later second)
    (later : second.Later third) : first.Later third where
  identity := later.identity.trans sooner.identity
  generation := later.generation.trans sooner.generation
  parent := later.parent.trans sooner.parent
  mode := later.mode.trans sooner.mode
  revision := le_trans sooner.revision later.revision
  sceneRevision := le_trans sooner.sceneRevision later.sceneRevision

inductive Moves (allowed : SurfaceIdentity → Event → Prop) (before : Windows) : Windows → Prop
  | refl : Moves allowed before before
  | shed {state after : Windows} (moves : Moves allowed before state)
      (sheds : Sheds allowed state after) : Moves allowed before after
  | forgot {state : Windows} (moves : Moves allowed before state) (id : SurfaceIdentity) :
      Moves allowed before (state.forget id)
  | replaced {state : Windows} (moves : Moves allowed before state) {id : SurfaceIdentity}
      {old window : Window} (live : state.windows[id]? = some old) (later : old.Later window)
      (visible : window.options.visible = old.options.visible) :
      Moves allowed before (state.setWindow id window)
  | restacked {state : Windows} (moves : Moves allowed before state)
      {stack : List SurfaceIdentity} (perm : stack.Perm state.stack)
      (history : List SurfaceIdentity) :
      Moves allowed before { state with stack := stack, focusHistory := history }
  | swallowed {state : Windows} (moves : Moves allowed before state) {buttons : Finset UInt16}
      (more : state.swallowedButtons ⊆ buttons) (escape : Bool) :
      Moves allowed before
        { state with swallowedButtons := buttons, swallowedEscape := escape }

namespace Moves

variable {allowed : SurfaceIdentity → Event → Prop} {before middle after : Windows}

theorem of (sheds : Sheds allowed before after) : Moves allowed before after := .shed .refl sheds

theorem trans (first : Moves allowed before middle) (second : Moves allowed middle after) :
    Moves allowed before after := by
  induction second with
  | refl => exact first
  | shed _ sheds ih => exact .shed ih sheds
  | forgot _ id ih => exact .forgot ih id
  | replaced _ live later visible ih => exact .replaced ih live later visible
  | restacked _ perm history ih => exact .restacked ih perm history
  | swallowed _ more escape ih => exact .swallowed ih more escape

end Moves

namespace Windows

variable {allowed : SurfaceIdentity → Event → Prop}

theorem raiseGroup_perm (state : Windows) (id : SurfaceIdentity) :
    (state.raiseGroup id).stack.Perm state.stack := by
  unfold raiseGroup
  rw [Forest.outside_eq]
  exact List.perm_append_comm.trans
    (List.filter_append_perm (fun key => state.descendant key id) state.stack)

theorem lowerGroup_perm (state : Windows) (id : SurfaceIdentity) :
    (state.lowerGroup id).stack.Perm state.stack := by
  unfold lowerGroup
  dsimp only
  rw [Forest.outside_eq]
  exact regroup_perm _ state.stack

theorem raiseGroup_moves (state : Windows) (id : SurfaceIdentity) :
    Moves allowed state (state.raiseGroup id) :=
  .restacked .refl (state.raiseGroup_perm id) state.focusHistory

theorem lowerGroup_moves (state : Windows) (id : SurfaceIdentity) :
    Moves allowed state (state.lowerGroup id) :=
  .restacked .refl (state.lowerGroup_perm id) state.focusHistory

section Notices

variable (notices : ∀ id event, event.input = false → allowed id event)

include notices

theorem takeFocus_moves (state : Windows) (id : SurfaceIdentity) :
    Moves allowed state (state.takeFocus id) := by
  have raised : Moves allowed state (state.raiseGroup id) := raiseGroup_moves state id
  have remembered := raised.restacked (List.Perm.refl _) ((state.raiseGroup id).remember id).focusHistory
  exact remembered.shed (changeFocus_sheds notices _ _)

theorem requestFocus_moves (state : Windows) (id : SurfaceIdentity) :
    Moves allowed state (state.requestFocus id).2 := by
  unfold requestFocus
  cases state.eligible id with
  | false => exact .refl
  | true => exact takeFocus_moves notices state id

theorem removeOne_moves (state : Windows) (id : SurfaceIdentity) (reason : DismissReason) :
    Moves allowed state (state.removeOne id reason) :=
  (Moves.of (dismiss_sheds notices state id reason)).forgot id

theorem foldl_removeOne_moves (ids : List SurfaceIdentity) (reason : DismissReason)
    (state : Windows) :
    Moves allowed state (ids.foldl (fun state child => state.removeOne child reason) state) := by
  induction ids generalizing state with
  | nil => exact .refl
  | cons id rest ih => exact (removeOne_moves notices state id reason).trans (ih _)

theorem removeGroup_moves (state : Windows) (id : SurfaceIdentity) (reason : DismissReason) :
    Moves allowed state (state.removeGroup id reason) :=
  (foldl_removeOne_moves notices _ _ state).trans (removeOne_moves notices _ id reason)

theorem close_moves (state : Windows) (id : SurfaceIdentity) (reason : DismissReason) :
    Moves allowed state (state.close id reason) :=
  (removeGroup_moves notices state id reason).shed (restoreFocus_sheds notices _)

/-- `set_pane_focus(false)` before it clears what is swallowed. -/
theorem losePaneFocus_sheds (state : Windows) :
    ∃ middle, Sheds allowed state middle ∧
      state.losePaneFocus =
        { middle with swallowedButtons := ∅, swallowedEscape := false } := by
  unfold losePaneFocus
  cases state.capture with
  | none => exact ⟨_, changeFocus_sheds notices state none, rfl⟩
  | some capture =>
      exact ⟨_, ((Sheds.refl.capture none).trans (notice_sheds notices _ rfl rfl)).trans
        (changeFocus_sheds notices _ none), rfl⟩

theorem gesture_moves (state : Windows) (capture : Capture) (point : Point) (settled : Bool) :
    Moves allowed state (state.gesture capture point settled) := by
  have outcome := state.gesture_outcome capture point settled
  generalize state.gesture capture point settled = after at outcome
  cases outcome with
  | still _ => exact .refl
  | exhausted _ _ _ => exact close_moves notices state _ _
  | @moved window bounds revision live asked next =>
      have later : window.Later (placed window bounds revision) := by
        have more := checkedAdd_eq_some.mp next
        exact ⟨rfl, rfl, rfl, rfl, by unfold placed; dsimp only; omega, le_refl _⟩
      have valid : validEvent (.geometry bounds settled) = true := by
        show bounds.validate.isOk = true
        rw [gestureBounds_valid asked]
        rfl
      exact (Moves.refl.replaced live later rfl).shed
        (emit_sheds notices (notices _ _ rfl) (.inl valid))

theorem captureMotion_moves (state : Windows) (capture : Capture) (report : PointerReport)
    (known : capture.window.context.session ∈ state.owners)
    (permitted : ∀ inside, allowed capture.window (pointerEvent report inside capture.region)) :
    Moves allowed state (state.captureMotion capture report) := by
  unfold captureMotion
  cases capture.role.gestures with
  | true => exact gesture_moves notices state capture report.position report.releases
  | false =>
      cases state.localPoint capture.window report.position with
      | none => exact .refl
      | some inside => exact .of (emit_sheds notices (permitted inside) (.inr known))

theorem pointerCaptured_moves (state : Windows) (capture : Capture) (report : PointerReport)
    (hit : SurfaceIdentity → Point → Option HitRegion)
    (eligible : state.eligible capture.window = true)
    (known : capture.window.context.session ∈ state.owners)
    (permitted : ∀ inside, allowed capture.window (pointerEvent report inside capture.region)) :
    Moves allowed state (state.pointerCaptured capture report hit).2 := by
  have moved := captureMotion_moves notices state capture report known permitted
  unfold pointerCaptured
  rw [eligible, if_neg (by decide)]
  cases report.releases with
  | false => exact moved
  | true => exact (moved.shed (Sheds.refl.capture none)).shed (refreshHover_sheds notices _ _ hit)

theorem pointerMissed_moves (state : Windows) (report : PointerReport) :
    Moves allowed state (state.pointerMissed report).2 := by
  have left := setHover_sheds notices state none
  unfold pointerMissed
  dsimp only
  cases ! (state.setHover none).blocked && report.presses with
  | false => exact .of left
  | true =>
      exact (Moves.of (left.trans (changeFocus_sheds notices _ none))).restacked
        (List.Perm.refl _) []

theorem pressTarget_moves (state : Windows) (id : SurfaceIdentity) (position : Point)
    (target : HitRegion) : Moves allowed state (state.pressTarget id position target) := by
  have focused := requestFocus_moves notices state id
  unfold pressTarget
  dsimp only
  cases (state.requestFocus id).2.windows[id]? with
  | none => exact focused
  | some window =>
      cases target.role.gestures with
      | false => exact focused
      | true => exact focused.shed (Sheds.refl.capture _)

theorem pointerHit_moves (state : Windows) (report : PointerReport) {id : SurfaceIdentity}
    (inside : Point) (target : HitRegion) (known : id.context.session ∈ state.owners)
    (permitted : allowed id (pointerEvent report inside target.id)) :
    Moves allowed state (state.pointerHit report id inside target).2 := by
  have pressed : ∀ middle, Moves allowed state middle → middle.owners = state.owners →
      Moves allowed state ((middle.setHover
        (some { window := id, region := target.id, cursor := target.cursor })).emit id
          (pointerEvent report inside target.id)) := by
    intro middle moves owners
    refine (moves.shed (setHover_sheds notices middle _)).shed
      (emit_sheds notices permitted (.inr ?_))
    rw [setHover_owners, owners]
    exact known
  unfold pointerHit
  cases report.presses with
  | false => exact pressed state .refl rfl
  | true =>
      exact pressed _ (pressTarget_moves notices state id report.position target)
        (Forest.pressTarget_owners id report.position target)

theorem keyboard_moves (state : Windows) (event : Event) (escape : Bool)
    (known : ∀ id, state.eligible id = true → id.context.session ∈ state.owners)
    (permitted : ∀ id, state.focus = some id → state.eligible id = true → allowed id event) :
    Moves allowed state (state.keyboard event escape).2 := by
  have outcome := state.keyboard_outcome event escape
  generalize state.keyboard event escape = answer at outcome
  cases outcome with
  | swallowed _ _ reached =>
      rcases reached with rfl | rfl
      · exact .refl
      · exact .swallowed .refl (Finset.Subset.refl _) false
  | unfocused _ => exact .refl
  | dismissed _ _ =>
      have swallowed : Moves allowed state { state with swallowedEscape := true } :=
        .swallowed .refl (Finset.Subset.refl _) true
      exact swallowed.trans (close_moves notices _ _ _)
  | emitted focused eligible =>
      exact .of (emit_sheds notices (permitted _ focused eligible) (.inr (known _ eligible)))

theorem wheel_moves (state : Windows) (position : Point) (scroll : Scroll) (modifiers : UInt32)
    (hit : SurfaceIdentity → Point → Option (UInt64 × HitRole))
    (known : ∀ id, state.eligible id = true → id.context.session ∈ state.owners)
    (permitted : ∀ id inside region,
      state.topmostHit Prod.snd position hit = some (id, inside, region) →
      allowed id
        (.wheel inside scroll.dx scroll.dy modifiers scroll.precise scroll.phase)) :
    Moves allowed state (state.wheel position scroll modifiers hit).2 := by
  unfold wheel
  cases found : state.topmostHit Prod.snd position hit with
  | none => exact .refl
  | some target =>
      obtain ⟨id, inside, region⟩ := target
      have eligible := (topmostHit_eq_some found).1.1
      exact .of (emit_sheds notices (permitted id inside region found) (.inr (known id eligible)))

theorem pointer_moves (state : Windows) (report : PointerReport)
    (hit : SurfaceIdentity → Point → Option HitRegion)
    (known : ∀ id, state.eligible id = true → id.context.session ∈ state.owners)
    (captured : ∀ capture, state.capture = some capture →
      state.eligible capture.window = true →
      ∀ inside, allowed capture.window (pointerEvent report inside capture.region))
    (permitted : ∀ id inside target, state.capture = none →
      state.targetAt report.position hit = some (id, inside, target) →
      allowed id (pointerEvent report inside target.id)) :
    Moves allowed state (state.pointer report hit).2 ∨
      ∃ button, report.button = some (button, false) ∧ button ∈ state.swallowedButtons ∧
        (state.pointer report hit).2 =
          { state with swallowedButtons := state.swallowedButtons.erase button } := by
  have outcome := state.pointer_outcome report hit
  generalize state.pointer report hit = answer at outcome
  cases outcome with
  | @swallowed button down reported held =>
      cases down with
      | true => exact .inl .refl
      | false => exact .inr ⟨button, reported, held, rfl⟩
  | cancelled _ _ _ => exact .inl (.of (cancelCapture_sheds notices state _))
  | captured _ held eligible =>
      exact .inl (pointerCaptured_moves notices state _ report hit eligible (known _ eligible)
        (captured _ held eligible))
  | @dismissed _ _ _ _ button _ _ =>
      have swallowed : Moves allowed state
          { state with swallowedButtons := insert button state.swallowedButtons } :=
        .swallowed .refl (Finset.subset_insert _ _) state.swallowedEscape
      exact .inl (swallowed.trans (close_moves notices _ _ _))
  | missed _ _ _ => exact .inl (pointerMissed_moves notices state report)
  | met _ free found =>
      have eligible := (topmostHit_eq_some found).1.1
      exact .inl (pointerHit_moves notices state report _ _ (known _ eligible)
        (permitted _ _ _ free found))

theorem perform_moves (state : Windows) (id : SurfaceIdentity) (action : WindowAction) :
    Moves allowed state (state.perform id action).2 := by
  cases action with
  | close => exact .refl
  | center => exact .refl
  | focus => exact requestFocus_moves notices state id
  | raise =>
      unfold perform
      cases state.eligible id with
      | false => exact .refl
      | true => exact raiseGroup_moves state id
  | lower =>
      unfold perform
      cases ! state.eligible id || state.blocked with
      | true => exact .refl
      | false => exact lowerGroup_moves state id

end Notices

/-! ## Actions -/

theorem takeFocus_window {state : Windows} {id probe : SurfaceIdentity} {window : Window}
    (found : (state.takeFocus id).windows[probe]? = some window) :
    state.windows[probe]? = some window := by
  have sheds : Sheds (fun _ _ => True) ((state.raiseGroup id).remember id) (state.takeFocus id) :=
    changeFocus_sheds Forest.notices _ _
  exact sheds.window found

theorem requestFocus_window {state : Windows} {id probe : SurfaceIdentity} {window : Window}
    (found : (state.requestFocus id).2.windows[probe]? = some window) :
    state.windows[probe]? = some window := by
  unfold requestFocus at found
  cases eligible : state.eligible id with
  | false =>
      rw [eligible] at found
      exact found
  | true =>
      rw [eligible] at found
      exact takeFocus_window found

theorem perform_window {state : Windows} {id probe : SurfaceIdentity} {action : WindowAction}
    {window : Window} (found : (state.perform id action).2.windows[probe]? = some window) :
    state.windows[probe]? = some window := by
  cases action with
  | close => exact found
  | center => exact found
  | focus => exact requestFocus_window found
  | raise =>
      unfold perform at found
      cases eligible : state.eligible id with
      | false =>
          rw [eligible] at found
          exact found
      | true =>
          rw [eligible] at found
          exact found
  | lower =>
      unfold perform at found
      cases refused : ! state.eligible id || state.blocked with
      | true =>
          rw [refused] at found
          exact found
      | false =>
          rw [refused] at found
          exact found

theorem centered_valid {viewport : Viewport} {bounds placed : Rect}
    (asked : centered viewport bounds = .ok placed) : placed.validate = .ok () := by
  unfold centered at asked
  obtain ⟨-, -, built⟩ := Result.bind_eq_ok_iff.mp asked
  exact Rect.validate_of_new built

theorem actionBounds_valid {action : WindowAction} {viewport : Viewport} {bounds placed : Rect}
    (asked : actionBounds action viewport bounds = .ok (some placed)) :
    placed.validate = .ok () := by
  unfold actionBounds at asked
  by_cases centers : action = .center
  · rw [if_pos centers] at asked
    cases found : centered viewport bounds with
    | error error =>
        rw [found] at asked
        cases asked
    | ok rect =>
        rw [found] at asked
        cases asked
        exact centered_valid found
  · rw [if_neg centers] at asked
    cases asked

theorem settle_moves (notices : ∀ id event, event.input = false → allowed id event)
    {middle : Windows} {id : SurfaceIdentity} {old : Window} {revision : UInt64}
    {bounds : Option Rect}
    (only : ∀ window, middle.windows[id]? = some window → window = old)
    (next : checkedAdd old.revision 1 = some revision)
    (valid : ∀ rect, bounds = some rect → rect.validate = .ok ()) :
    Moves allowed middle (middle.settle id revision bounds).2 := by
  have more := checkedAdd_eq_some.mp next
  unfold settle
  cases live : middle.windows[id]? with
  | none => exact .refl
  | some window =>
      have same := only window live
      subst same
      have later : ∀ options : WindowOptions, options.parent = window.options.parent →
          options.mode = window.options.mode →
          window.Later { window with
            revision := revision
            options := options } := by
        intro options parent mode
        exact ⟨rfl, rfl, parent, mode, by dsimp only; omega, le_refl _⟩
      cases bounds with
      | none => exact Moves.refl.replaced live (later window.options rfl rfl) rfl
      | some rect =>
          have told : validEvent (.geometry rect true) = true := by
            show rect.validate.isOk = true
            rw [valid rect rfl]
            rfl
          have moved : Moves allowed middle (middle.setWindow id
              { window with
                revision := revision
                options := { window.options with bounds := rect } }) :=
            Moves.refl.replaced live (later _ rfl rfl) rfl
          exact moved.shed (emit_sheds notices (notices _ _ rfl) (.inl told))

theorem applyAction_moves (notices : ∀ id event, event.input = false → allowed id event)
    (state : Windows) (owner : SessionIdentity) (action : Action) (viewport : Viewport) :
    Moves allowed state (state.applyAction owner action viewport).2 := by
  have outcome := state.applyAction_outcome owner action viewport
  generalize state.applyAction owner action viewport = answer at outcome
  cases outcome with
  | refused _ => exact .refl
  | closed _ _ _ => exact close_moves notices state _ _
  | @performed id _ _ _ _ _ done =>
      have performed := perform_moves notices state id action.action
      rw [done] at performed
      exact performed
  | @settled id _ old live _ revision next bounds asked middle done =>
      have performed := perform_moves notices state id action.action
      rw [done] at performed
      refine performed.trans (settle_moves notices ?_ next ?_)
      · intro window found
        have before : state.windows[id]? = some window := by
          have reached : (state.perform id action.action).2.windows[id]? = some window := by
            rw [done]
            exact found
          exact perform_window reached
        rw [live, Option.some.injEq] at before
        exact before.symm
      · rintro rect rfl
        exact actionBounds_valid asked

end Windows

/-! ## Steps -/

/-- What one operation does to the state. -/
inductive StepEffect (allowed : SurfaceIdentity → Event → Prop) (state : Windows)
    (operation : Operation) : Windows → Prop
  | moved {after : Windows} (moves : Moves allowed state after) :
      StepEffect allowed state operation after
  | created {id : SurfaceIdentity} {generation : UInt64} {options : WindowOptions}
      {after : Windows} (asked : operation = .create id generation options)
      (admitted : state.admitCreate id generation options = .ok ())
      (moves : Moves allowed (state.insertWindow id generation options) after) :
      StepEffect allowed state operation after
  | updated {id : SurfaceIdentity} {old : Window} {generation revision next : UInt64}
      {options : WindowOptions} {after : Windows}
      (asked : operation = .update id generation revision options)
      (valid : options.validate = .ok ()) (live : state.windows[id]? = some old)
      (admitted : state.admitUpdate id old generation revision options = .ok next)
      (moves : Moves allowed (state.setWindow id (updated old options next)) after) :
      StepEffect allowed state operation after
  | released {report : PointerReport} {hit : SurfaceIdentity → Point → Option HitRegion}
      {button : UInt16} (asked : operation = .pointer report hit)
      (reported : report.button = some (button, false)) :
      StepEffect allowed state operation
        { state with swallowedButtons := state.swallowedButtons.erase button }
  | unfocused {middle : Windows} (asked : operation = .setPaneFocus false)
      (sheds : Sheds allowed state middle) :
      StepEffect allowed state operation
        { middle with swallowedButtons := ∅, swallowedEscape := false }
  | tookEvent {owner : SessionIdentity} (asked : operation = .takeEvent owner) :
      StepEffect allowed state operation (state.takeEvent owner).2
  | tookOverflow {owner : SessionIdentity} (asked : operation = .takeOverflow owner) :
      StepEffect allowed state operation (state.takeOverflow owner).2

/-- Taking an event changes the queues only. -/
theorem takeEvent_eq (state : Windows) (owner : SessionIdentity) :
    ∃ events, (state.takeEvent owner).2 = { state with events := events } := by
  unfold takeEvent
  cases state.events[owner]? with
  | none => exact ⟨state.events, rfl⟩
  | some queue =>
      dsimp only
      by_cases last : queue.tail.isEmpty = true ∧
          ¬ state.windows.keys.any (ownedBy owner) = true
      · rw [if_pos last]
        exact ⟨_, rfl⟩
      · rw [if_neg last]
        exact ⟨_, rfl⟩

theorem publishScene_effect {allowed : SurfaceIdentity → Event → Prop} (state : Windows)
    (id : SurfaceIdentity) (generation sceneRevision : UInt64) :
    Moves allowed state (state.publishScene id generation sceneRevision).2 := by
  unfold publishScene
  cases live : state.windows[id]? with
  | none => exact .refl
  | some window =>
      dsimp only
      by_cases stale : window.generation ≠ generation ∨ sceneRevision = 0 ∨
          sceneRevision ≤ window.sceneRevision
      · rw [if_pos stale]
        exact .refl
      · rw [if_neg stale]
        have later : window.Later { window with sceneRevision := sceneRevision } := by
          refine ⟨rfl, rfl, rfl, rfl, le_refl _, ?_⟩
          have order := (not_or.mp (not_or.mp stale).2).2
          exact le_of_lt (lt_of_not_ge order)
        exact Moves.refl.replaced live later rfl

theorem create_effect {state : Windows} (id : SurfaceIdentity) (generation : UInt64)
    (options : WindowOptions) :
    StepEffect (fun _ _ => True) state (.create id generation options)
      (state.create id generation options).2 := by
  have outcome := state.create_outcome id generation options
  generalize state.create id generation options = answer at outcome
  cases outcome with
  | refused _ => exact .moved .refl
  | inserted admitted _ => exact .created rfl admitted .refl
  | focused admitted _ outcome =>
      cases outcome with
      | refused _ _ => exact .created rfl admitted .refl
      | taken _ => exact .created rfl admitted (takeFocus_moves Forest.notices _ id)

theorem update_effect {state : Windows} (id : SurfaceIdentity) (generation revision : UInt64)
    (options : WindowOptions) :
    StepEffect (fun _ _ => True) state (.update id generation revision options)
      (state.update id generation revision options).2 := by
  have outcome := state.update_outcome id generation revision options
  generalize state.update id generation revision options = answer at outcome
  cases outcome with
  | refused _ => exact .moved .refl
  | hidden valid live admitted _ _ =>
      exact .updated rfl valid live admitted (.of (hideGroup_sheds Forest.notices _ id))
  | focused valid live admitted _ _ _ outcome =>
      cases outcome with
      | refused _ _ => exact .updated rfl valid live admitted .refl
      | taken _ => exact .updated rfl valid live admitted (takeFocus_moves Forest.notices _ id)
  | replaced valid live admitted _ => exact .updated rfl valid live admitted .refl

theorem windowsStep_effect {state : Windows} (forest : Forest state) (operation : Operation) :
    StepEffect (fun _ _ => True) state operation (windowsStep state operation).2 := by
  have known : ∀ id, state.eligible id = true → id.context.session ∈ state.owners :=
    fun id eligible => forest.known (forest.live_of_eligible eligible)
  cases operation with
  | setPaneFocus focused =>
      cases focused with
      | true => exact .moved (.of (restoreFocus_sheds Forest.notices state))
      | false =>
          obtain ⟨middle, sheds, reached⟩ := losePaneFocus_sheds Forest.notices state
          show StepEffect _ state _ state.losePaneFocus
          rw [reached]
          exact .unfocused rfl sheds
  | create id generation options => exact create_effect id generation options
  | publishScene id generation sceneRevision =>
      exact .moved (publishScene_effect state id generation sceneRevision)
  | applyAction owner action viewport =>
      exact .moved (applyAction_moves Forest.notices state owner action viewport)
  | update id generation revision options => exact update_effect id generation revision options
  | requestFocus id => exact .moved (requestFocus_moves Forest.notices state id)
  | close id reason => exact .moved (close_moves Forest.notices state id reason)
  | revokeOwner owner => exact .moved (.of (revokeOwner_sheds Forest.notices state owner))
  | takeOverflow owner => exact .tookOverflow rfl
  | takeEvent owner => exact .tookEvent rfl
  | capturePointer id position =>
      show StepEffect _ state _ (state.capturePointer id position).2
      unfold capturePointer
      cases ! state.eligible id || decide (state.focus ≠ some id) with
      | true => exact .moved .refl
      | false =>
          rw [if_neg (by decide)]
          cases state.windows[id]? with
          | none => exact .moved .refl
          | some window => exact .moved (.of (Sheds.refl.capture _))
  | releasePointer id => exact .moved (.of (releasePointer_sheds state id))
  | keyboard event escape =>
      exact .moved (keyboard_moves Forest.notices state event escape known fun _ _ _ => trivial)
  | wheel position scroll modifiers hit =>
      exact .moved (wheel_moves Forest.notices state position scroll modifiers hit known
        fun _ _ _ _ => trivial)
  | pointer report hit =>
      rcases pointer_moves Forest.notices state report hit known
        (fun _ _ _ _ => trivial) fun _ _ _ _ _ => trivial with moves | ⟨button, reported, -, reached⟩
      · exact .moved moves
      · show StepEffect _ state _ (state.pointer report hit).2
        rw [reached]
        exact .released rfl reported
  | refreshHover position hit =>
      exact .moved (.of (refreshHover_sheds Forest.notices state position hit))

end VividProtocol.Overlay

import Mathlib.Tactic
import VividProtocol.Overlay.Refusal
import VividProtocol.Overlay.Steady

/-!
# Slots that never dangle

A steady step leaves focus, pointer and capture at live windows, and the focus
and hover events of every live window in step with them.
-/

set_option autoImplicit false

namespace VividProtocol.Overlay

open VividProtocol.Library
open VividProtocol.Library.Alternation

open Windows

/-- The events follow the slots, and the focus and the capture are at live windows. -/
structure Minded (state : Windows) : Prop where
  attentive : state.Attentive
  focused : state.FocusLive
  captured : ∀ capture, state.capture = some capture → state.Live capture.window

/-- The pointer is in a live window as well. -/
structure Grounded (state : Windows) : Prop extends Minded state where
  hovered : ∀ hover, state.hover = some hover → state.Live hover.window

variable {before middle after state : Windows} {lost : List SessionIdentity}
  {gone : List SurfaceIdentity}

theorem hoverSpared_iff :
    state.hoverSpared lost gone = true ↔
      ∀ hover, state.hover = some hover →
        hover.window ∈ gone ∨ hover.window.context.session ∉ lost := by
  unfold hoverSpared
  cases state.hover with
  | none => simp
  | some hover => simp

namespace Minded

theorem reach (minded : Minded before) (loses : Loses lost gone before after)
    (minds : Minds before after) : Minded after where
  attentive := minds.attentive minded.attentive
  focused := minds.focused minded.focused
  captured := by
    intro capture held
    obtain ⟨earlier, spared, kept⟩ := loses.captured capture held
    exact (loses.live capture.window).mpr ⟨minded.captured capture earlier, spared, kept⟩

theorem frame (minded : Minded before) (live : ∀ id, after.Live id ↔ before.Live id)
    (journal : after.journal = before.journal) (focus : after.focus = before.focus)
    (hover : after.hover = before.hover)
    (capture : ∀ held, after.capture = some held → before.Live held.window) : Minded after := by
  have minds : Minds before after := .frame live journal focus hover
  refine ⟨minds.attentive minded.attentive, minds.focused minded.focused, ?_⟩
  intro held found
  exact (live held.window).mpr (capture held found)

end Minded

namespace Grounded

/-- The pointer stays where it is, unless its window goes. -/
theorem reach (grounded : Grounded before) (loses : Loses lost gone before after)
    (minds : Minds before after) (spared : before.hoverSpared lost gone = true)
    (kept : ∀ hover, after.hover = some hover → before.hover = some hover ∧ hover.window ∉ gone) :
    Grounded after := by
  refine ⟨grounded.toMinded.reach loses minds, ?_⟩
  intro hover found
  obtain ⟨earlier, stays⟩ := kept hover found
  have apart := (hoverSpared_iff.mp spared hover earlier).resolve_left stays
  exact (loses.live hover.window).mpr ⟨grounded.hovered hover earlier, apart, stays⟩

theorem stay (grounded : Grounded before) (loses : Loses lost [] before after)
    (minds : Minds before after) (spared : before.hoverSpared lost [] = true)
    (hover : after.hover = before.hover) : Grounded after := by
  refine grounded.reach loses minds spared ?_
  intro slot found
  exact ⟨hover ▸ found, List.not_mem_nil⟩

/-- No window goes and no slot moves, but for a capture that ends or is at a live window. -/
theorem frame (grounded : Grounded before) (live : ∀ id, after.Live id ↔ before.Live id)
    (journal : after.journal = before.journal) (focus : after.focus = before.focus)
    (hover : after.hover = before.hover)
    (capture : ∀ held, after.capture = some held → before.Live held.window) :
    Grounded after := by
  refine ⟨grounded.toMinded.frame live journal focus hover capture, ?_⟩
  intro slot found
  rw [hover] at found
  exact (live slot.window).mpr (grounded.hovered slot found)

end Grounded

theorem grounded_default : Grounded Windows.default := by
  have nobody : ∀ id, ¬ Windows.default.Live id := by
    rintro id ⟨window, found⟩
    have none : Windows.default.windows[id]? = none := Forest.default.listed id |>.not.mp
      List.not_mem_nil |> not_live_iff.mp
    rw [none] at found
    cases found
  refine ⟨⟨⟨?_, ?_⟩, ?_, ?_⟩, ?_⟩
  · exact fun id live => absurd live (nobody id)
  · exact fun id live => absurd live (nobody id)
  · intro id focused
    cases focused
  · intro capture held
    cases held
  · intro hover held
    cases held

namespace Windows

/-! ## Focus -/

section Focus

variable {id : SurfaceIdentity}

/-- Raising a window moves nothing but the stack and the focus history. -/
theorem raised_loses (forest : Forest state) (live : state.Live id) :
    Loses [] [] state (state.raised id) where
  manned := ((forest.raiseGroup id).remember live).manned
  live := by
    intro probe
    simp only [List.not_mem_nil, not_false_eq_true, and_true]
    exact Iff.rfl
  captured := fun _ held => ⟨held, List.not_mem_nil, List.not_mem_nil⟩
  unserved := fun _ none => none
  revoked := fun _ impossible => absurd impossible List.not_mem_nil

theorem takeFocus_loses (forest : Forest state) (live : state.Live id) :
    Loses (state.takeFocusLosses id) [] state (state.takeFocus id) := by
  have raised := raised_loses forest live
  exact raised.from_still (changeFocus_loses raised.manned (some id))

theorem takeFocus_minds (forest : Forest state) (live : state.Live id)
    (aims : (state.raised id).aims (some id) = true) : Minds state (state.takeFocus id) := by
  have raised : Minds state (state.raised id) := .frame (fun _ => Iff.rfl) rfl rfl rfl
  refine raised.trans (changeFocus_minds (raised_loses forest live).manned ?_ aims)
  rintro _ ⟨⟩
  exact live

theorem takeFocus_hover (state : Windows) (id : SurfaceIdentity) :
    (state.takeFocus id).hover = state.hover :=
  changeFocus_hover (state.raised id) (some id)

theorem requestFocus_grounded (forest : Forest state) (grounded : Grounded state)
    (steady : state.requestFocusSteady id = true)
    {answer : Except InvalidScene Unit × Windows} (outcome : state.FocusOutcome id answer) :
    Grounded answer.2 := by
  cases outcome with
  | refused _ _ => exact grounded
  | taken eligible =>
      have live := forest.live_of_eligible eligible
      unfold requestFocusSteady takeFocusSteady at steady
      rw [eligible, Bool.not_true, Bool.false_or, Bool.and_eq_true] at steady
      exact grounded.stay (takeFocus_loses forest live) (takeFocus_minds forest live steady.1)
        steady.2 (takeFocus_hover state id)

theorem restoreFocus_grounded (forest : Forest state) (grounded : Grounded state)
    (steady : state.restoreFocusSteady = true) : Grounded state.restoreFocus := by
  unfold restoreFocusSteady at steady
  rw [Bool.and_eq_true] at steady
  exact grounded.stay (changeFocus_loses forest.manned _) (restoreFocus_minds forest.manned steady.1)
    steady.2 (changeFocus_hover _ _)

/-- The focus is lost after the capture, and both may revoke sessions. -/
theorem losePaneFocus_loses (manned : state.Manned) :
    Loses state.losePaneFocusLosses [] state state.losePaneFocus := by
  unfold losePaneFocus losePaneFocusLosses
  cases state.capture with
  | none =>
      have unfocused := changeFocus_loses manned none
      exact unfocused.still (.frame unfocused.manned rfl rfl rfl fun _ held => held)
  | some capture =>
      have free := release_loses manned
      have told := emit_loses free.manned capture.window .cancel
      have unfocused := free.from_still (told.both (changeFocus_loses told.manned none))
      exact unfocused.still (.frame unfocused.manned rfl rfl rfl fun _ held => held)

theorem losePaneFocus_minds (manned : state.Manned) : Minds state state.losePaneFocus := by
  unfold losePaneFocus
  cases state.capture with
  | none =>
      exact (loseFocus_minds manned).trans (.frame (fun _ => Iff.rfl) rfl rfl rfl)
  | some capture =>
      have free := release_loses manned
      have freed : Minds state { state with capture := none } :=
        .frame (fun _ => Iff.rfl) rfl rfl rfl
      have told := emit_loses free.manned capture.window .cancel
      have cancelled : Minds state
          (Windows.emit { state with capture := none } capture.window .cancel) :=
        freed.trans (emit_minds free.manned capture.window ⟨rfl, rfl⟩)
      exact (cancelled.trans (loseFocus_minds told.manned)).trans
        (.frame (fun _ => Iff.rfl) rfl rfl rfl)

theorem losePaneFocus_hover (state : Windows) : state.losePaneFocus.hover = state.hover := by
  unfold losePaneFocus
  cases state.capture with
  | none => exact changeFocus_hover state none
  | some capture =>
      dsimp only
      rw [changeFocus_hover, emit_hover]

theorem setPaneFocus_grounded (forest : Forest state) (grounded : Grounded state)
    {focused : Bool} (steady : state.setPaneFocusSteady focused = true) :
    Grounded (state.setPaneFocus focused) := by
  cases focused with
  | true => exact restoreFocus_grounded forest grounded steady
  | false =>
      exact grounded.stay (losePaneFocus_loses forest.manned) (losePaneFocus_minds forest.manned)
        steady (losePaneFocus_hover state)

/-! ## Windows -/

/-- A window that is created has been told nothing, and no slot is at it. -/
theorem insertWindow_grounded (grounded : Grounded state) (fresh : ¬ state.Live id)
    (generation : UInt64) (options : WindowOptions) :
    Grounded (state.insertWindow id generation options) := by
  have live : ∀ probe, (state.insertWindow id generation options).Live probe ↔
      probe = id ∨ state.Live probe := by
    intro probe
    unfold Live
    rw [Forest.insertWindow_lookup]
    by_cases same : id = probe
    · simp [same]
    · simp [same, Ne.symm same]
  have unfocused : focusAt state.focus id = none := by
    refine if_neg fun focused => fresh (grounded.focused id focused)
  have outside : regionAt state.hover id = none := by
    unfold regionAt
    rw [Option.map_eq_none_iff, Option.filter_eq_none_iff]
    intro hover found inside
    exact fresh (of_decide_eq_true inside ▸ grounded.hovered hover found)
  have tracks : ∀ {Place : Type} {mark : Event → Option (Place × Bool)}
      {slot : SurfaceIdentity → Option Place}, Tracks mark state slot → slot id = none →
      Tracks mark (state.insertWindow id generation options) slot := by
    intro Place mark slot tracks empty probe alive
    unfold marks
    rw [told_insertWindow]
    by_cases same : id = probe
    · subst same
      rw [if_pos rfl, empty]
      exact .nil
    · rw [if_neg same]
      exact tracks probe (((live probe).mp alive).resolve_left (Ne.symm same))
  refine ⟨⟨⟨?_, ?_⟩, ?_, ?_⟩, ?_⟩
  · exact tracks grounded.attentive.focus unfocused
  · exact tracks grounded.attentive.hover outside
  · exact fun probe focused => (live probe).mpr (.inr (grounded.focused probe focused))
  · exact fun capture held => (live capture.window).mpr (.inr (grounded.captured capture held))
  · exact fun hover found => (live hover.window).mpr (.inr (grounded.hovered hover found))

theorem create_grounded (forest : Forest state) (grounded : Grounded state) {generation : UInt64}
    {options : WindowOptions} (steady : state.createSteady id generation options = true) :
    Grounded (state.create id generation options).2 := by
  have outcome := state.create_outcome id generation options
  generalize state.create id generation options = answer at outcome
  cases outcome with
  | refused _ => exact grounded
  | inserted admitted _ =>
      exact insertWindow_grounded grounded (Forest.admitCreate_ok admitted).fresh generation options
  | focused admitted takes outcome =>
      have allowed := Forest.admitCreate_ok admitted
      unfold createSteady at steady
      simp only [admitted, takes, Bool.not_true, Bool.false_or] at steady
      exact requestFocus_grounded (forest.insertWindow generation allowed)
        (insertWindow_grounded grounded allowed.fresh generation options) steady outcome

theorem setWindow_grounded (grounded : Grounded state) {old : Window}
    (live : state.windows[id]? = some old) (window : Window) :
    Grounded (state.setWindow id window) :=
  grounded.frame (Forest.setWindow_live ⟨old, live⟩ window) rfl rfl rfl grounded.captured

theorem publishScene_grounded (grounded : Grounded state) (generation sceneRevision : UInt64) :
    Grounded (state.publishScene id generation sceneRevision).2 := by
  unfold publishScene
  cases live : state.windows[id]? with
  | none => exact grounded
  | some window =>
      dsimp only
      by_cases stale : window.generation ≠ generation ∨ sceneRevision = 0 ∨
          sceneRevision ≤ window.sceneRevision
      · rw [if_pos stale]
        exact grounded
      · rw [if_neg stale]
        exact setWindow_grounded grounded live _

theorem update_grounded (forest : Forest state) (grounded : Grounded state)
    {generation revision : UInt64} {options : WindowOptions}
    (steady : state.updateSteady id generation revision options = true) :
    Grounded (state.update id generation revision options).2 := by
  have outcome := state.update_outcome id generation revision options
  generalize state.update id generation revision options = answer at outcome
  unfold updateSteady at steady
  cases outcome with
  | refused _ => exact grounded
  | @hidden valid old next live admitted shown hides =>
      have kept : Forest (state.setWindow id (updated old options next)) :=
        forest.setWindow live rfl (Forest.admitUpdate_ok admitted).1
      simp only [valid, live, admitted, shown, hides] at steady
      exact (setWindow_grounded grounded live _).stay (hideGroup_loses kept.manned id)
        (hideGroup_minds kept.manned id) steady (hideGroup_hover _ id)
  | @focused valid old next live admitted hidden shows mode _ outcome =>
      have kept : Forest (state.setWindow id (updated old options next)) :=
        forest.setWindow live rfl (Forest.admitUpdate_ok admitted).1
      simp only [valid, live, admitted, hidden, shows] at steady
      exact requestFocus_grounded kept (setWindow_grounded grounded live _)
        (by simpa [mode] using steady) outcome
  | replaced _ live _ _ => exact setWindow_grounded grounded live _

theorem close_grounded (forest : Forest state) (grounded : Grounded state) {reason : DismissReason}
    (steady : state.closeSteady id reason = true) : Grounded (state.close id reason) := by
  unfold closeSteady at steady
  rw [Bool.and_eq_true] at steady
  refine grounded.reach (close_loses forest.manned id reason) (close_minds forest.manned steady.1)
    steady.2 ?_
  intro hover found
  rw [close_hover] at found
  obtain ⟨earlier, stays⟩ := Option.filter_eq_some_iff.mp found
  exact ⟨earlier, of_decide_eq_true stays⟩

theorem revokeOwner_minds (manned : state.Manned) (owner : SessionIdentity) :
    Minds state (state.revokeOwner owner) := by
  refine ⟨fun attentive => ?_, fun focused => revokeOwner_focused manned focused owner⟩
  unfold Attentive
  rw [revokeOwner_hover]
  exact revokeOwner_follows manned attentive fun _ _ => ⟨rfl, rfl⟩

theorem revokeOwner_grounded (forest : Forest state) (grounded : Grounded state)
    {owner : SessionIdentity} (spared : state.hoverSpared (state.revokeLosses owner) [] = true) :
    Grounded (state.revokeOwner owner) :=
  grounded.stay (revokeOwner_loses forest.manned owner) (revokeOwner_minds forest.manned owner)
    spared (revokeOwner_hover state owner)

/-! ## Actions -/

theorem perform_grounded (forest : Forest state) (grounded : Grounded state)
    {action : WindowAction} (steady : state.performSteady id action = true) :
    Grounded (state.perform id action).2 := by
  cases action with
  | close => exact grounded
  | center => exact grounded
  | focus => exact requestFocus_grounded forest grounded steady (state.requestFocus_outcome id)
  | raise =>
      unfold perform
      cases state.eligible id with
      | false => exact grounded
      | true => exact grounded.frame (fun _ => Iff.rfl) rfl rfl rfl grounded.captured
  | lower =>
      unfold perform
      cases ! state.eligible id || state.blocked with
      | true => exact grounded
      | false => exact grounded.frame (fun _ => Iff.rfl) rfl rfl rfl grounded.captured

theorem settle_grounded (forest : Forest state) (grounded : Grounded state) {next : UInt64}
    {bounds : Option Rect} (steady : state.settleSteady id next bounds = true) :
    Grounded (state.settle id next bounds).2 := by
  unfold settleSteady at steady
  unfold settle
  cases live : state.windows[id]? with
  | none => exact grounded
  | some window =>
      cases bounds with
      | none => exact setWindow_grounded grounded live _
      | some bounds =>
          simp only [live] at steady
          have kept : Forest (state.setWindow id (placed window bounds next)) :=
            forest.setWindow live rfl rfl
          exact (setWindow_grounded grounded live _).stay (emit_loses kept.manned id _)
            (emit_minds kept.manned id ⟨rfl, rfl⟩) steady (emit_hover _ _ _)

theorem applyAction_grounded (forest : Forest state) (grounded : Grounded state)
    {owner : SessionIdentity} {action : Action} {viewport : Viewport}
    (steady : state.applyActionSteady owner action viewport = true) :
    Grounded (state.applyAction owner action viewport).2 := by
  unfold applyActionSteady at steady
  unfold applyAction
  cases sent : orScene "invalid window action" action.payload with
  | error error => exact grounded
  | ok payload =>
      rw [sent] at steady
      dsimp only at steady ⊢
      cases named : orScene "invalid window identity" (action.address.toIdentity owner) with
      | error error => exact grounded
      | ok id =>
          rw [named] at steady
          dsimp only at steady ⊢
          cases live : state.windows[id]? with
          | none => exact grounded
          | some old =>
              rw [live] at steady
              dsimp only at steady ⊢
              by_cases stale : old.generation ≠ action.address.generation ∨
                  old.revision ≠ action.expectedRevision
              · rw [if_pos stale]
                exact grounded
              rw [if_neg stale] at steady ⊢
              by_cases closes : action.action = .close
              · rw [if_pos closes] at steady ⊢
                exact close_grounded forest grounded steady
              rw [if_neg closes] at steady ⊢
              cases next : checkedAdd old.revision 1 with
              | none => exact grounded
              | some revision =>
                  rw [next] at steady
                  dsimp only at steady ⊢
                  cases asked : actionBounds action.action viewport old.options.bounds with
                  | error error =>
                      unfold actionBounds at asked
                      rw [asked]
                      exact grounded
                  | ok bounds =>
                      rw [asked] at steady
                      unfold actionBounds at asked
                      rw [asked]
                      dsimp only at steady ⊢
                      have performs := forest.perform id action.action
                      have heeds := @perform_grounded state id forest grounded action.action
                      cases done : state.perform id action.action with
                      | mk result middle =>
                          rw [done] at steady performs heeds
                          cases result with
                          | error error =>
                              rw [perform_refused done]
                              exact grounded
                          | ok =>
                              dsimp only at steady ⊢
                              rw [Bool.and_eq_true] at steady
                              exact settle_grounded performs (heeds steady.1) steady.2

end Focus

/-! ## Queues and captures -/

theorem takeEvent_grounded (grounded : Grounded state) (owner : SessionIdentity) :
    Grounded (state.takeEvent owner).2 := by
  unfold takeEvent
  cases state.events[owner]? with
  | none => exact grounded
  | some queue =>
      dsimp only
      by_cases last : queue.tail.isEmpty ∧ ¬ state.windows.keys.any (ownedBy owner)
      · rw [if_pos last]
        exact grounded.frame (fun _ => Iff.rfl) rfl rfl rfl grounded.captured
      · rw [if_neg last]
        exact grounded.frame (fun _ => Iff.rfl) rfl rfl rfl grounded.captured

theorem capturePointer_grounded (grounded : Grounded state) (id : SurfaceIdentity)
    (position : Point) : Grounded (state.capturePointer id position).2 := by
  unfold capturePointer
  cases ! state.eligible id || decide (state.focus ≠ some id) with
  | true => exact grounded
  | false =>
      rw [if_neg (by decide)]
      cases live : state.windows[id]? with
      | none => exact grounded
      | some window =>
          refine grounded.frame (fun _ => Iff.rfl) rfl rfl rfl ?_
          intro held found
          cases found
          exact ⟨window, live⟩

theorem release_grounded (grounded : Grounded state) : Grounded { state with capture := none } := by
  refine grounded.frame (fun _ => Iff.rfl) rfl rfl rfl ?_
  intro held found
  cases found

theorem releasePointer_grounded (grounded : Grounded state) (id : SurfaceIdentity) :
    Grounded (state.releasePointer id) := by
  unfold releasePointer
  cases state.capturedBy id with
  | true => exact release_grounded grounded
  | false => exact grounded

/-! ## Keyboard and wheel -/

/-- An event that the host types is told, unless it takes its window down. -/
theorem emit_quiet_minds (manned : state.Manned) {id : SurfaceIdentity} {event : Event}
    (quiet : state.quietEvent id event = true) : Minds state (state.emit id event) := by
  unfold quietEvent at quiet
  rw [Bool.or_eq_true, Bool.and_eq_true, Option.isNone_iff_eq_none, Option.isNone_iff_eq_none,
    Option.isNone_iff_eq_none] at quiet
  rcases quiet with silent | refused
  · exact emit_minds manned id silent
  · unfold emit
    rw [refused]
    exact (revokeOwner_minds manned id.context.session).trans
      (.frame (fun _ => Iff.rfl) rfl rfl rfl)

theorem keyboard_grounded (forest : Forest state) (grounded : Grounded state) {event : Event}
    {escape : Bool} (steady : state.keyboardSteady event escape = true) :
    Grounded (state.keyboard event escape).2 := by
  unfold keyboardSteady at steady
  unfold keyboard
  cases swallowed : escape && state.swallowedEscape with
  | true =>
      cases releasesKey event with
      | false => exact grounded
      | true => exact grounded.frame (fun _ => Iff.rfl) rfl rfl rfl grounded.captured
  | false =>
      rw [swallowed] at steady
      rw [if_neg (by decide)] at steady ⊢
      cases target : state.focus.filter state.eligible with
      | none => exact grounded
      | some id =>
          rw [target] at steady
          dsimp only at steady ⊢
          cases dismisses : escape && pressesKey event && state.dismissible id with
          | true =>
              rw [dismisses, if_pos rfl] at steady
              have free : Forest { state with swallowedEscape := true } :=
                forest.frame rfl rfl rfl rfl rfl
              have noted : Grounded { state with swallowedEscape := true } :=
                grounded.frame (fun _ => Iff.rfl) rfl rfl rfl grounded.captured
              exact close_grounded free noted steady
          | false =>
              rw [dismisses, if_neg (by decide), Bool.and_eq_true] at steady
              exact grounded.stay (emit_loses forest.manned id event)
                (emit_quiet_minds forest.manned steady.1) steady.2 (emit_hover state id event)

theorem wheel_grounded (forest : Forest state) (grounded : Grounded state) {position : Point}
    {scroll : Scroll} {modifiers : UInt32}
    {hit : SurfaceIdentity → Point → Option (UInt64 × HitRole)}
    (steady : state.wheelSteady position scroll modifiers hit = true) :
    Grounded (state.wheel position scroll modifiers hit).2 := by
  unfold wheelSteady at steady
  unfold wheel
  cases found : state.topmostHit Prod.snd position hit with
  | none => exact grounded
  | some target =>
      rw [found] at steady
      exact grounded.stay (emit_loses forest.manned _ _) (emit_minds forest.manned _ ⟨rfl, rfl⟩)
        steady (emit_hover _ _ _)

/-! ## The pointer -/

/-- The pointer comes to a live window, wherever it was before. -/
theorem setHover_grounded (forest : Forest state) (minded : Minded state) {next : Option Hover}
    (live : ∀ hover, next = some hover → state.Live hover.window)
    (steady : state.setHoverSteady next = true) : Grounded (state.setHover next) := by
  have loses := setHover_loses forest.manned next
  refine ⟨minded.reach loses (setHover_minds forest.manned next), ?_⟩
  intro hover found
  rw [setHover_hover] at found
  subst found
  unfold setHoverSteady at steady
  rw [Option.all_some, decide_eq_true_eq] at steady
  exact (loses.live hover.window).mpr ⟨live hover rfl, steady, List.not_mem_nil⟩

theorem refreshHover_grounded (forest : Forest state) (minded : Minded state) {position : Point}
    {hit : SurfaceIdentity → Point → Option HitRegion}
    (steady : state.refreshHoverSteady position hit = true) :
    Grounded (state.refreshHover position hit) := by
  unfold refreshHoverSteady at steady
  unfold refreshHover
  cases found : state.targetAt position hit with
  | none =>
      refine setHover_grounded forest minded ?_ rfl
      intro hover impossible
      cases impossible
  | some target =>
      obtain ⟨id, inside, region⟩ := target
      rw [found] at steady
      have eligible := (topmostHit_eq_some found).1.1
      refine setHover_grounded forest minded ?_ steady
      rintro hover ⟨⟩
      exact forest.live_of_eligible eligible

/-- Where no window goes, the pointer stays. -/
theorem hover_kept (slot : Option Hover) :
    slot = slot.filter fun hover => decide (hover.window ∉ ([] : List SurfaceIdentity)) := by
  cases slot with
  | none => rfl
  | some hover => simp [Option.filter_some]

theorem gestureStep_asked {capture : Capture} {point : Point} {window : Window} {bounds : Rect}
    (live : state.windows[capture.window]? = some window)
    (asked : gestureBounds capture window.options point = some (.ok bounds)) :
    state.gestureStep capture point = some (window, bounds, checkedAdd window.revision 1) := by
  unfold gestureStep
  simp only [live, asked]

theorem gestureStep_still {capture : Capture} {point : Point}
    (nothing : ∀ (window : Window) (bounds : Rect), state.windows[capture.window]? = some window →
      gestureBounds capture window.options point ≠ some (.ok bounds)) :
    state.gestureStep capture point = none := by
  unfold gestureStep
  cases live : state.windows[capture.window]? with
  | none => rfl
  | some window =>
      dsimp only
      cases asked : gestureBounds capture window.options point with
      | none => rfl
      | some result =>
          cases result with
          | error error => rfl
          | ok bounds => exact absurd asked (nothing window bounds live)

/-- A gesture, the sessions that it revokes and the windows that it takes away. -/
theorem gesture_parts (forest : Forest state) {capture : Capture} {point : Point} {settled : Bool}
    (aims : state.gestureAims capture point = true) :
    Loses (state.gestureLosses capture point settled) (state.gestureGone capture point) state
        (state.gesture capture point settled) ∧
      Minds state (state.gesture capture point settled) ∧
      (state.gesture capture point settled).hover =
        state.hover.filter fun hover =>
          decide (hover.window ∉ state.gestureGone capture point) := by
  have outcome := state.gesture_outcome capture point settled
  generalize state.gesture capture point settled = after at outcome
  unfold gestureLosses gestureGone gestureAims at *
  cases outcome with
  | still nothing =>
      simp only [gestureStep_still nothing]
      exact ⟨.refl forest.manned, .refl state, hover_kept state.hover⟩
  | exhausted live asked full =>
      have idle := gestureStep_asked live asked
      rw [full] at idle
      simp only [idle] at aims ⊢
      exact ⟨close_loses forest.manned _ _, close_minds forest.manned aims, close_hover _ _ _⟩
  | @moved window bounds revision live asked next =>
      have moves := gestureStep_asked live asked
      rw [next] at moves
      simp only [moves]
      have kept : Forest (state.setWindow capture.window (placed window bounds revision)) :=
        forest.setWindow live rfl rfl
      have manned := kept.manned
      have same := Forest.setWindow_live ⟨window, live⟩ (placed window bounds revision)
      have replaced : Loses [] [] state
          (state.setWindow capture.window (placed window bounds revision)) := by
        refine ⟨manned, ?_, fun held found => ⟨found, List.not_mem_nil, List.not_mem_nil⟩,
          fun _ none => none, fun _ impossible => absurd impossible List.not_mem_nil⟩
        intro probe
        simp [same probe]
      have minds : Minds state (state.setWindow capture.window (placed window bounds revision)) :=
        .frame same rfl rfl rfl
      refine ⟨replaced.from_still (emit_loses manned _ _),
        minds.trans (emit_minds manned _ ⟨rfl, rfl⟩), ?_⟩
      rw [emit_hover]
      exact hover_kept state.hover

theorem captureMotion_parts (forest : Forest state) {capture : Capture} {report : PointerReport}
    (aims : state.captureMotionAims capture report = true) :
    Loses (state.captureMotionLosses capture report) (state.captureMotionGone capture report) state
        (state.captureMotion capture report) ∧
      Minds state (state.captureMotion capture report) ∧
      (state.captureMotion capture report).hover =
        state.hover.filter fun hover =>
          decide (hover.window ∉ state.captureMotionGone capture report) := by
  unfold captureMotionAims at aims
  unfold captureMotionLosses captureMotionGone captureMotion
  cases gestures : capture.role.gestures with
  | true =>
      rw [gestures] at aims
      exact gesture_parts forest aims
  | false =>
      cases state.localPoint capture.window report.position with
      | none => exact ⟨.refl forest.manned, .refl state, hover_kept state.hover⟩
      | some inside =>
          refine ⟨emit_loses forest.manned _ _, emit_minds forest.manned _ ⟨rfl, rfl⟩, ?_⟩
          exact (emit_hover _ _ _).trans (hover_kept state.hover)

theorem pointerCaptured_grounded (forest : Forest state) (grounded : Grounded state)
    {capture : Capture} {report : PointerReport}
    {hit : SurfaceIdentity → Point → Option HitRegion}
    (steady : state.pointerCapturedSteady capture report hit = true) :
    Grounded (state.pointerCaptured capture report hit).2 := by
  unfold pointerCapturedSteady at steady
  unfold pointerCaptured
  cases eligible : state.eligible capture.window with
  | false =>
      rw [eligible] at steady
      exact grounded.stay (cancelCapture_loses forest.manned _) (cancelCapture_minds forest.manned _)
        steady (cancelCapture_hover _ _)
  | true =>
      rw [eligible, if_neg (by decide), Bool.and_eq_true] at steady
      rw [if_neg (by decide)]
      obtain ⟨aims, spared⟩ := steady
      obtain ⟨loses, minds, hover⟩ := captureMotion_parts forest aims
      have moved := forest.captureMotion report eligible
      cases releases : report.releases with
      | true =>
          rw [releases, if_pos rfl] at spared
          have freed : Minded { state.captureMotion capture report with capture := none } := by
            refine (grounded.toMinded.reach loses minds).frame (fun _ => Iff.rfl) rfl rfl rfl ?_
            intro held found
            cases found
          have released : Forest { state.captureMotion capture report with capture := none } :=
            moved.frame rfl rfl rfl rfl rfl
          exact refreshHover_grounded released freed spared
      | false =>
          rw [releases, if_neg (by decide)] at spared
          refine grounded.reach loses minds spared ?_
          intro slot found
          change (state.captureMotion capture report).hover = some slot at found
          rw [hover] at found
          obtain ⟨earlier, stays⟩ := Option.filter_eq_some_iff.mp found
          exact ⟨earlier, of_decide_eq_true stays⟩

theorem pointerMissed_grounded (forest : Forest state) (grounded : Grounded state)
    (report : PointerReport) : Grounded (state.pointerMissed report).2 := by
  have left : Grounded (state.setHover none) := by
    refine setHover_grounded forest grounded.toMinded ?_ rfl
    intro hover impossible
    cases impossible
  have manned := (forest.setHover none).manned
  unfold pointerMissed
  dsimp only
  cases ! (state.setHover none).blocked && report.presses with
  | false => exact left
  | true =>
      have unfocused : Grounded ((state.setHover none).changeFocus none) := by
        refine left.reach (changeFocus_loses manned none) (loseFocus_minds manned) ?_ ?_
        · refine hoverSpared_iff.mpr ?_
          intro hover found
          rw [setHover_hover] at found
          cases found
        · intro hover found
          rw [changeFocus_hover, setHover_hover] at found
          cases found
      exact unfocused.frame (fun _ => Iff.rfl) rfl rfl rfl unfocused.captured

/-- A window that is pressed takes the focus, and the capture if it is grasped. -/
theorem pressTarget_minded (forest : Forest state) (minded : Minded state) {id : SurfaceIdentity}
    {position : Point} {target : HitRegion} (eligible : state.eligible id = true)
    (aims : (state.raised id).aims (some id) = true)
    (spared : id.context.session ∉ state.takeFocusLosses id) :
    Minded (state.pressTarget id position target) ∧
      (state.pressTarget id position target).Live id := by
  have live := forest.live_of_eligible eligible
  have loses := takeFocus_loses forest live
  have taken : (state.requestFocus id).2 = state.takeFocus id := by
    unfold requestFocus
    rw [eligible]
    rfl
  have focused : Minded (state.takeFocus id) := minded.reach loses (takeFocus_minds forest live aims)
  have alive : (state.takeFocus id).Live id :=
    (loses.live id).mpr ⟨live, spared, List.not_mem_nil⟩
  unfold pressTarget
  dsimp only
  rw [taken]
  cases found : (state.takeFocus id).windows[id]? with
  | none => exact ⟨focused, alive⟩
  | some window =>
      cases target.role.gestures with
      | false => exact ⟨focused, alive⟩
      | true =>
          refine ⟨focused.frame (fun _ => Iff.rfl) rfl rfl rfl ?_, alive⟩
          intro held grasped
          cases grasped
          exact alive

theorem pointerHit_grounded (forest : Forest state) (grounded : Grounded state)
    {report : PointerReport} {id : SurfaceIdentity} {inside : Point} {target : HitRegion}
    (eligible : state.eligible id = true)
    (steady : state.pointerHitSteady report id inside target = true) :
    Grounded (state.pointerHit report id inside target).2 := by
  unfold pointerHitSteady at steady
  simp only [Bool.and_eq_true, decide_eq_true_eq, List.mem_append, not_or] at steady
  obtain ⟨aims, ⟨spared, entering⟩, telling⟩ := steady
  have pressed : Forest (if report.presses then state.pressTarget id report.position target
        else state) ∧
      Minded (if report.presses then state.pressTarget id report.position target else state) ∧
      (if report.presses then state.pressTarget id report.position target else state).Live id := by
    cases presses : report.presses with
    | false => exact ⟨forest, grounded.toMinded, forest.live_of_eligible eligible⟩
    | true =>
        rw [presses] at aims spared
        obtain ⟨minded, alive⟩ := @pressTarget_minded state forest grounded.toMinded id
          report.position target eligible aims spared
        exact ⟨forest.pressTarget id report.position target, minded, alive⟩
  unfold pointerHit
  dsimp only
  generalize (if report.presses then state.pressTarget id report.position target else state) =
    pressed at pressed entering telling
  obtain ⟨kept, minded, alive⟩ := pressed
  have entered : Grounded (pressed.setHover
      (some { window := id, region := target.id, cursor := target.cursor })) := by
    refine setHover_grounded kept minded ?_ (by simpa [setHoverSteady] using entering)
    rintro hover ⟨⟩
    exact alive
  have manned := (kept.setHover
    (some { window := id, region := target.id, cursor := target.cursor })).manned
  refine entered.stay (emit_loses manned id _) (emit_minds manned id ⟨rfl, rfl⟩) ?_
    (emit_hover _ _ _)
  refine hoverSpared_iff.mpr ?_
  intro hover found
  rw [setHover_hover] at found
  cases found
  exact .inr telling

theorem pointerFree_grounded (forest : Forest state) (grounded : Grounded state)
    {report : PointerReport} {hit : SurfaceIdentity → Point → Option HitRegion}
    (steady : state.pointerFreeSteady report hit = true) :
    Grounded (state.pointerFree report hit).2 := by
  unfold pointerFreeSteady at steady
  unfold pointerFree
  cases dismisses : state.foremostPopup.filter fun popup =>
      report.presses && ! popup.options.bounds.contains report.position with
  | some popup =>
      rw [dismisses] at steady
      dsimp only at steady ⊢
      cases button : report.button with
      | none =>
          rw [button] at steady
          exact close_grounded forest grounded steady
      | some pair =>
          rw [button] at steady
          have swallowing : Forest
              { state with swallowedButtons := insert pair.1 state.swallowedButtons } :=
            forest.frame rfl rfl rfl rfl rfl
          have swallowed : Grounded
              { state with swallowedButtons := insert pair.1 state.swallowedButtons } :=
            grounded.frame (fun _ => Iff.rfl) rfl rfl rfl grounded.captured
          exact close_grounded swallowing swallowed steady
  | none =>
      rw [dismisses] at steady
      dsimp only at steady ⊢
      cases found : state.targetAt report.position hit with
      | none => exact pointerMissed_grounded forest grounded report
      | some triple =>
          rw [found] at steady
          exact pointerHit_grounded forest grounded (topmostHit_eq_some found).1.1 steady

theorem pointer_grounded (forest : Forest state) (grounded : Grounded state)
    {report : PointerReport} {hit : SurfaceIdentity → Point → Option HitRegion}
    (steady : state.pointerSteady report hit = true) :
    Grounded (state.pointer report hit).2 := by
  unfold pointerSteady at steady
  unfold pointer
  cases swallowed : report.button.filter fun pair =>
      decide (pair.1 ∈ state.swallowedButtons) with
  | some pair =>
      obtain ⟨button, down⟩ := pair
      cases down with
      | true => exact grounded
      | false => exact grounded.frame (fun _ => Iff.rfl) rfl rfl rfl grounded.captured
  | none =>
      have quiet : state.swallows report = false := by
        unfold swallows
        rw [Bool.eq_false_iff, ne_eq, Option.any_eq_true]
        rintro ⟨pair, reported, held⟩
        exact Option.filter_eq_none_iff.mp swallowed pair reported held
      rw [quiet, Bool.false_or] at steady
      dsimp only
      cases held : state.capture with
      | some capture =>
          rw [held] at steady
          exact pointerCaptured_grounded forest grounded steady
      | none =>
          rw [held] at steady
          exact pointerFree_grounded forest grounded steady

end Windows

/-! ## Runs -/

theorem Grounded.step (grounded : Grounded state) (forest : Forest state) {operation : Operation}
    (steady : state.steady operation = true) : Grounded (windowsStep state operation).2 := by
  cases operation with
  | setPaneFocus focused => exact setPaneFocus_grounded forest grounded steady
  | create id generation options => exact create_grounded forest grounded steady
  | publishScene id generation sceneRevision =>
      exact publishScene_grounded grounded generation sceneRevision
  | applyAction owner action viewport => exact applyAction_grounded forest grounded steady
  | update id generation revision options => exact update_grounded forest grounded steady
  | requestFocus id =>
      exact requestFocus_grounded forest grounded steady (state.requestFocus_outcome id)
  | close id reason => exact close_grounded forest grounded steady
  | revokeOwner owner => exact revokeOwner_grounded forest grounded steady
  | takeOverflow owner => exact grounded.frame (fun _ => Iff.rfl) rfl rfl rfl grounded.captured
  | takeEvent owner => exact takeEvent_grounded grounded owner
  | capturePointer id position => exact capturePointer_grounded grounded id position
  | releasePointer id => exact releasePointer_grounded grounded id
  | keyboard event escape => exact keyboard_grounded forest grounded steady
  | wheel position scroll modifiers hit => exact wheel_grounded forest grounded steady
  | pointer report hit => exact pointer_grounded forest grounded steady
  | refreshHover position hit => exact refreshHover_grounded forest grounded.toMinded steady

theorem grounded_final {inputs : List Operation}
    (steady : ∀ event ∈ windowsRuns.history Windows.default inputs,
      event.before.steady event.input = true) :
    Grounded (windowsRuns.final Windows.default inputs) := by
  induction inputs using List.reverseRecOn with
  | nil => exact grounded_default
  | append_singleton inputs input ih =>
      rw [windowsRuns.history_snoc] at steady
      rw [windowsRuns.final_snoc]
      have before := ih fun event among => steady event (List.mem_append_left _ among)
      have last := steady _ (List.mem_append_right _ (List.mem_singleton_self _))
      exact before.step (forest_final inputs) last

/-- In a run of steady steps the focus, the pointer and the capture are at live
windows, no removed window gives the cursor its shape, and what a live window was
told of focus and pointer alternates and ends as the slots say. -/
theorem slots_never_dangle (inputs : List Operation)
    (steady : ∀ event ∈ windowsRuns.history Windows.default inputs,
      event.before.steady event.input = true) :
    let state := windowsRuns.final Windows.default inputs
    (∀ id, state.focus = some id → state.Live id) ∧
      (∀ id, state.hoveredWindow = some id → state.Live id) ∧
      (∀ capture, state.capture = some capture → state.Live capture.window) ∧
      (∀ shape, state.cursor = some shape → ∃ id, state.Live id ∧
        ((∃ capture, state.capture = some capture ∧ capture.window = id ∧
            capture.cursor = some shape) ∨
          ∃ hover, state.hover = some hover ∧ hover.window = id ∧ hover.cursor = some shape)) ∧
      ∀ id, state.Live id →
        InStep (state.marks Event.focusMark id) (focusAt state.focus id) ∧
          InStep (state.marks Event.hoverMark id) (regionAt state.hover id) := by
  intro state
  have grounded : Grounded state := grounded_final steady
  refine ⟨grounded.focused, ?_, grounded.captured, ?_, ?_⟩
  · intro id inside
    obtain ⟨hover, found, same⟩ := Option.map_eq_some_iff.mp inside
    exact same ▸ grounded.hovered hover found
  · intro shape shown
    rcases Option.or_eq_some_iff.mp shown with captured | ⟨_, hovered⟩
    · obtain ⟨capture, held, drawn⟩ := Option.bind_eq_some_iff.mp captured
      exact ⟨capture.window, grounded.captured capture held, .inl ⟨capture, held, rfl, drawn⟩⟩
    · obtain ⟨hover, found, drawn⟩ := Option.bind_eq_some_iff.mp hovered
      exact ⟨hover.window, grounded.hovered hover found, .inr ⟨hover, found, rfl, drawn⟩⟩
  · intro id live
    exact ⟨(grounded.attentive.focus id live).inStep, (grounded.attentive.hover id live).inStep⟩

/-- A region with a shape of its own, everywhere in a window. -/
def sampleRegion (_ : SurfaceIdentity) (_ : Point) : Option HitRegion :=
  some { id := 1, role := .input, cursor := some .pointer }

/-- A window is created, pressed and closed below the pointer. -/
def samplePress : List Operation :=
  [.create (sampleSurface 1 1) 1 (sampleOptions .floating),
    .pointer (sampleReport sampleNear true) sampleRegion,
    .create (sampleSurface 2 1) 1 (sampleOptions .popup),
    .close (sampleSurface 1 1) .closed,
    .pointer (sampleReport sampleNear false) sampleRegion]

theorem slots_never_dangle_press :
    (windowsRuns.final Windows.default samplePress).Live (sampleSurface 2 1) ∧
      InStep ((windowsRuns.final Windows.default samplePress).marks Event.hoverMark
        (sampleSurface 2 1)) (some 1) := by
  have steady : ((windowsRuns.history Windows.default samplePress).all
      fun event => event.before.steady event.input) = true := by decide +kernel
  obtain ⟨_, hovered, _, _, told⟩ :=
    slots_never_dangle samplePress fun event among => List.all_eq_true.mp steady event among
  have live := hovered (sampleSurface 2 1) (by decide +kernel)
  have slot : regionAt (windowsRuns.final Windows.default samplePress).hover (sampleSurface 2 1) =
      some 1 := by decide +kernel
  exact ⟨live, slot ▸ (told _ live).2⟩

/-- The pointer is over a window whose session is revoked. -/
def sampleRevoked : List Operation :=
  [.create (sampleSurface 1 1) 1 (sampleOptions .floating),
    .pointer (sampleReport sampleNear false) sampleRegion,
    .revokeOwner (sampleSurface 1 1).context.session]

theorem hover_dangles :
    (windowsRuns.final Windows.default sampleRevoked).hoveredWindow = some (sampleSurface 1 1) ∧
      (windowsRuns.final Windows.default sampleRevoked).cursor = some .pointer ∧
      ¬ (windowsRuns.final Windows.default sampleRevoked).Live (sampleSurface 1 1) := by
  refine ⟨by decide +kernel, by decide +kernel, not_live_iff.mpr ?_⟩
  decide +kernel

end VividProtocol.Overlay

import Mathlib.Tactic
import VividProtocol.Library.Coalescing
import VividProtocol.Overlay.Gesture

/-!
# Queues and the journal

What a step queues for a session that keeps its queue: the events that the
journal notes, coalesced as the queue coalesces them.
-/

set_option autoImplicit false

namespace VividProtocol.Overlay

open VividProtocol.Library
open VividProtocol.Library.OrderedForest
open VividProtocol.Library.Transition

open Windows

/-- The events that notes say were queued for windows of a session. -/
def sessionEvents (owner : SessionIdentity) (notes : List Note) : List WindowEvent :=
  notes.filterMap fun note =>
    match note with
    | .created _ => none
    | .queued event => if ownedBy owner event.window then some event else none

theorem sessionEvents_append (owner : SessionIdentity) (first second : List Note) :
    sessionEvents owner (first ++ second) =
      sessionEvents owner first ++ sessionEvents owner second :=
  List.filterMap_append

theorem sessionEvents_queued (owner : SessionIdentity) (event : WindowEvent) :
    sessionEvents owner [.queued event] =
      if ownedBy owner event.window then [event] else [] := by
  unfold sessionEvents
  cases own : ownedBy owner event.window with
  | false => simp [own]
  | true => simp [own]

/-- An event that the next one for the same window replaces: motion without a
button, or geometry that is still moving, of the same scene. -/
def Superseded (event next : WindowEvent) : Prop :=
  event.window = next.window ∧ event.sceneRevision = next.sceneRevision ∧
    replaces event.event next.event = true

/-- An event that a queue takes is its last, after or in place of the last one. -/
theorem enqueue_coalesced {queue full handed emitted : List WindowEvent} {event : WindowEvent}
    (fits : enqueue queue event = some full)
    (coalesced : Coalesced Superseded emitted (handed ++ queue)) :
    Coalesced Superseded (emitted ++ [event]) (handed ++ full) := by
  unfold enqueue at fits
  dsimp only at fits
  have result : ∀ kept : List WindowEvent,
      (if MAX_PENDING_EVENTS ≤ kept.length ∨
        MAX_EVENT_QUEUE_BYTES < queueBytes kept + eventBytes event.event then none
      else some (kept ++ [event])) = some full → full = kept ++ [event] := by
    intro kept same
    split at same
    · cases same
    · exact (Option.some.inj same).symm
  cases merges : coalesces queue event with
  | false =>
      simp only [merges, Bool.false_eq_true, if_false] at fits
      rw [result queue fits, ← List.append_assoc]
      exact coalesced.snoc event
  | true =>
      simp only [merges, if_true] at fits
      rw [result queue.dropLast fits, ← List.append_assoc]
      unfold coalesces at merges
      rw [Option.any_eq_true] at merges
      obtain ⟨last, isLast, same⟩ := merges
      simp only [Bool.and_eq_true, decide_eq_true_eq] at same
      obtain ⟨front, split⟩ := List.getLast?_eq_some_iff.mp isLast
      subst split
      rw [List.dropLast_concat]
      rw [← List.append_assoc] at coalesced
      exact coalesced.replace ⟨same.1.1, same.1.2, same.2⟩

/-! ## What a step queues -/

/-- Between two states a session was queued what the journal notes, if it still
has its queue. -/
def Feeds (owner : SessionIdentity) (before after : Windows) : Prop :=
  ∃ notes, after.journal = before.journal ++ notes ∧
    (before.events[owner]? = none →
      after.events[owner]? = none ∧ sessionEvents owner notes = []) ∧
    ∀ full : List WindowEvent, after.events[owner]? = some full →
      ∃ queue : List WindowEvent, before.events[owner]? = some queue ∧
        ∀ emitted handed, Coalesced Superseded emitted (handed ++ queue) →
          Coalesced Superseded (emitted ++ sessionEvents owner notes) (handed ++ full)

namespace Feeds

variable {owner : SessionIdentity} {before middle after : Windows}

theorem refl (state : Windows) : Feeds owner state state := by
  refine ⟨[], (List.append_nil _).symm, fun none => ⟨none, rfl⟩, fun full served => ?_⟩
  refine ⟨full, served, fun emitted handed coalesced => ?_⟩
  rw [show sessionEvents owner [] = [] from rfl, List.append_nil]
  exact coalesced

theorem trans (first : Feeds owner before middle) (second : Feeds owner middle after) :
    Feeds owner before after := by
  obtain ⟨sooner, grown, unserved, served⟩ := first
  obtain ⟨later, grownLater, unservedLater, servedLater⟩ := second
  refine ⟨sooner ++ later, by rw [grownLater, grown, List.append_assoc], ?_, ?_⟩
  · intro none
    obtain ⟨gone, nothing⟩ := unserved none
    obtain ⟨goneLater, nothingLater⟩ := unservedLater gone
    rw [sessionEvents_append, nothing, nothingLater]
    exact ⟨goneLater, rfl⟩
  · intro full kept
    obtain ⟨between, at_, extends_⟩ := servedLater full kept
    obtain ⟨queue, start, extendsFirst⟩ := served between at_
    refine ⟨queue, start, fun emitted handed coalesced => ?_⟩
    rw [sessionEvents_append, ← List.append_assoc]
    exact extends_ _ _ (extendsFirst _ _ coalesced)

/-- A change that leaves the queues and the journal alone. -/
theorem frame (events : after.events = before.events) (journal : after.journal = before.journal) :
    Feeds owner before after := by
  refine ⟨[], by rw [journal, List.append_nil], fun none => ⟨by rw [events, none], rfl⟩, ?_⟩
  intro full served
  rw [events] at served
  refine ⟨full, served, fun emitted handed coalesced => ?_⟩
  rw [show sessionEvents owner [] = [] from rfl, List.append_nil]
  exact coalesced

end Feeds

theorem push_feeds {state : Windows} (owner : SessionIdentity) {id : SurfaceIdentity}
    {window : Window} {queue full : List WindowEvent} {event : Event}
    (served : state.events[id.context.session]? = some queue)
    (fits : enqueue queue (stamp window id event) = some full) :
    Feeds owner state (state.push id.context.session full (stamp window id event)) := by
  refine ⟨[.queued (stamp window id event)], rfl, ?_, ?_⟩
  · intro none
    have foreign : id.context.session ≠ owner := by
      rintro rfl
      rw [served] at none
      cases none
    rw [push_events, if_neg foreign, sessionEvents_queued, if_neg]
    · exact ⟨none, rfl⟩
    · intro own
      exact foreign (of_decide_eq_true own)
  · intro queued at_
    rw [push_events] at at_
    by_cases own : id.context.session = owner
    · rw [if_pos own, Option.some.injEq] at at_
      subst at_
      refine ⟨queue, own ▸ served, fun emitted handed coalesced => ?_⟩
      have belongs : ownedBy owner (stamp window id event).window = true := decide_eq_true own
      rw [sessionEvents_queued, if_pos belongs]
      exact enqueue_coalesced fits coalesced
    · rw [if_neg own] at at_
      refine ⟨queued, at_, fun emitted handed coalesced => ?_⟩
      have foreign : ¬ ownedBy owner (stamp window id event).window = true :=
        fun belongs => own (of_decide_eq_true belongs)
      rw [sessionEvents_queued, if_neg foreign, List.append_nil]
      exact coalesced

theorem Sheds.feeds {allowed : SurfaceIdentity → Event → Prop} {before after : Windows}
    (sheds : Sheds allowed before after) (owner : SessionIdentity) :
    Feeds owner before after := by
  induction sheds with
  | refl => exact .refl before
  | queued _ _ served fits _ _ ih => exact ih.trans (push_feeds owner served fits)
  | @dropped state _ other ih =>
      refine ih.trans ⟨[], by rw [dropOwner_eq, List.append_nil], ?_, ?_⟩
      · intro none
        rw [dropOwner_events, none]
        exact ⟨ite_self _, rfl⟩
      · intro full served
        rw [dropOwner_events] at served
        by_cases own : other = owner
        · rw [if_pos own] at served
          cases served
        · rw [if_neg own] at served
          refine ⟨full, served, fun emitted handed coalesced => ?_⟩
          rw [show sessionEvents owner [] = [] from rfl, List.append_nil]
          exact coalesced
  | marked _ _ _ ih => exact ih.trans (.frame rfl rfl)
  | pointed _ _ _ _ ih => exact ih.trans (.frame rfl rfl)

theorem Moves.feeds {allowed : SurfaceIdentity → Event → Prop} {before after : Windows}
    (moves : Moves allowed before after) (owner : SessionIdentity) :
    Feeds owner before after := by
  induction moves with
  | refl => exact .refl before
  | shed _ sheds ih => exact ih.trans (sheds.feeds owner)
  | forgot _ _ ih => exact ih.trans (.frame rfl rfl)
  | replaced _ _ _ _ ih => exact ih.trans (.frame rfl rfl)
  | restacked _ _ _ ih => exact ih.trans (.frame rfl rfl)
  | swallowed _ _ _ ih => exact ih.trans (.frame rfl rfl)

/-! ## Known sessions -/

section Listed

variable {state : Windows} (forest : Forest state)

theorem insertWindow_owners (id : SurfaceIdentity) (generation : UInt64)
    (options : WindowOptions) :
    state.owners ⊆ (state.insertWindow id generation options).owners := by
  intro owner listed
  rw [mem_owners] at listed ⊢
  rcases listed with ⟨queue, served⟩ | overflowed
  · left
    rw [Forest.insertWindow_events, if_neg]
    · exact ⟨queue, served⟩
    · rintro ⟨-, none⟩
      rw [served] at none
      cases none
  · exact .inr overflowed

theorem perform_owners (id : SurfaceIdentity) (action : WindowAction) :
    (state.perform id action).2.owners = state.owners := by
  cases action with
  | close => rfl
  | center => rfl
  | focus => exact requestFocus_owners state id
  | raise =>
      unfold perform
      cases state.eligible id with
      | false => rfl
      | true => rfl
  | lower =>
      unfold perform
      cases ! state.eligible id || state.blocked with
      | true => rfl
      | false => rfl

theorem settle_owners (id : SurfaceIdentity) (next : UInt64) {bounds : Option Rect}
    (valid : ∀ rect, bounds = some rect → rect.validate = .ok ()) :
    (state.settle id next bounds).2.owners = state.owners := by
  unfold settle
  cases state.windows[id]? with
  | none => rfl
  | some window =>
      cases bounds with
      | none => rfl
      | some rect =>
          have told : validEvent (.geometry rect true) = true := by
            show rect.validate.isOk = true
            rw [valid rect rfl]
            rfl
          exact emit_owners (.inl told)

theorem applyAction_owners (owner : SessionIdentity) (action : Action) (viewport : Viewport) :
    (state.applyAction owner action viewport).2.owners = state.owners := by
  have outcome := state.applyAction_outcome owner action viewport
  generalize state.applyAction owner action viewport = answer at outcome
  cases outcome with
  | refused _ => rfl
  | closed _ _ _ => exact close_owners state _ _
  | performed _ _ done => rw [perform_refused done]
  | @settled id _ _ _ _ _ _ _ centered middle done =>
      have performed := @perform_owners state id action.action
      rw [done] at performed
      refine (settle_owners id _ ?_).trans performed
      rintro rect rfl
      exact actionBounds_valid centered

theorem update_owners (id : SurfaceIdentity) (generation revision : UInt64)
    (options : WindowOptions) :
    (state.update id generation revision options).2.owners = state.owners := by
  have outcome := state.update_outcome id generation revision options
  generalize state.update id generation revision options = answer at outcome
  cases outcome with
  | refused _ => rfl
  | hidden _ _ _ _ _ => exact hideGroup_owners _ id
  | replaced _ _ _ _ => rfl
  | focused _ _ _ _ _ _ outcome =>
      cases outcome with
      | refused _ _ => rfl
      | taken _ => exact changeFocus_owners _ _

include forest

theorem keyboard_owners (event : Event) (escape : Bool) :
    (state.keyboard event escape).2.owners = state.owners := by
  have outcome := state.keyboard_outcome event escape
  generalize state.keyboard event escape = answer at outcome
  cases outcome with
  | swallowed _ _ reached =>
      rcases reached with rfl | rfl
      · rfl
      · rfl
  | unfocused _ => rfl
  | dismissed _ _ => exact close_owners _ _ _
  | emitted _ eligible =>
      exact emit_owners (.inr (forest.known (forest.live_of_eligible eligible)))

theorem captureMotion_owners {capture : Capture} (report : PointerReport)
    (eligible : state.eligible capture.window = true) :
    (state.captureMotion capture report).owners = state.owners := by
  unfold captureMotion
  cases capture.role.gestures with
  | false =>
      rw [if_neg (by decide)]
      cases state.localPoint capture.window report.position with
      | none => rfl
      | some inside => exact emit_owners (.inr (forest.known (forest.live_of_eligible eligible)))
  | true =>
      rw [if_pos rfl]
      have step := state.gesture_outcome capture report.position report.releases
      generalize state.gesture capture report.position report.releases = after at step
      cases step with
      | still _ => rfl
      | exhausted _ _ _ => exact close_owners state _ _
      | @moved window bounds revision live asked next =>
          have valid : validEvent (.geometry bounds report.releases) = true := by
            show bounds.validate.isOk = true
            rw [gestureBounds_valid asked]
            rfl
          exact emit_owners (.inl valid)

theorem pointer_owners (report : PointerReport)
    (hit : SurfaceIdentity → Point → Option HitRegion) :
    (state.pointer report hit).2.owners = state.owners := by
  have outcome := state.pointer_outcome report hit
  generalize state.pointer report hit = answer at outcome
  have hovered : ∀ middle : Windows, (middle.refreshHover report.position hit).owners =
      middle.owners := by
    intro middle
    unfold refreshHover
    cases middle.targetAt report.position hit with
    | none => exact setHover_owners middle none
    | some target => exact setHover_owners middle _
  cases outcome with
  | @swallowed _ down _ _ =>
      cases down with
      | true => rfl
      | false => rfl
  | cancelled _ _ _ => exact cancelCapture_owners state _
  | @captured _ capture _ eligible =>
      have moved := captureMotion_owners forest report eligible
      unfold pointerCaptured
      rw [eligible, if_neg (by decide)]
      cases report.releases with
      | false => exact moved
      | true => exact (hovered _).trans moved
  | dismissed _ _ _ _ _ => exact close_owners _ _ _
  | missed _ _ _ =>
      unfold pointerMissed
      dsimp only
      cases ! (state.setHover none).blocked && report.presses with
      | false => exact setHover_owners state none
      | true => exact (changeFocus_owners _ none).trans (setHover_owners state none)
  | @met _ _ id inside target found =>
      have known := forest.known (forest.live_of_eligible (topmostHit_eq_some found).1.1)
      have told : ∀ middle : Windows, middle.owners = state.owners →
          ((middle.setHover (some { window := id, region := target.id, cursor := target.cursor })).emit
            id (pointerEvent report inside target.id)).owners = state.owners := by
        intro middle owners
        have entered := setHover_owners middle
          (some { window := id, region := target.id, cursor := target.cursor })
        rw [owners] at entered
        exact (emit_owners (.inr (by rw [entered]; exact known))).trans entered
      unfold pointerHit
      cases report.presses with
      | false => exact told state rfl
      | true => exact told _ (Forest.pressTarget_owners id report.position target)

/-- A known session stays known until it is revoked or its queue is taken. -/
theorem step_listed {operation : Operation} {owner : SessionIdentity}
    (listed : owner ∈ state.owners) (notRevoked : operation ≠ .revokeOwner owner)
    (notReported : operation ≠ .takeOverflow owner) (notTaken : operation ≠ .takeEvent owner) :
    owner ∈ (windowsStep state operation).2.owners := by
  have same : ∀ {after : Windows}, after.owners = state.owners → owner ∈ after.owners :=
    fun owners => owners ▸ listed
  cases operation with
  | setPaneFocus focused =>
      cases focused with
      | true => exact same (restoreFocus_owners state)
      | false =>
          refine same ?_
          show state.losePaneFocus.owners = state.owners
          unfold losePaneFocus
          cases state.capture with
          | none => exact changeFocus_owners state none
          | some capture => exact (changeFocus_owners _ none).trans (emit_owners (.inl rfl))
  | create id generation options =>
      have outcome := state.create_outcome id generation options
      show owner ∈ (state.create id generation options).2.owners
      generalize state.create id generation options = answer at outcome
      have inserted := insertWindow_owners id generation options listed
      cases outcome with
      | refused _ => exact listed
      | inserted _ _ => exact inserted
      | focused _ _ outcome =>
          cases outcome with
          | refused _ _ => exact inserted
          | taken _ =>
              show owner ∈ ((state.insertWindow id generation options).takeFocus id).owners
              unfold takeFocus
              rw [changeFocus_owners]
              exact inserted
  | publishScene id generation sceneRevision =>
      refine same ?_
      show (state.publishScene id generation sceneRevision).2.owners = state.owners
      unfold publishScene
      cases state.windows[id]? with
      | none => rfl
      | some window =>
          dsimp only
          split
          · rfl
          · rfl
  | applyAction sender action viewport => exact same (applyAction_owners sender action viewport)
  | update id generation revision options => exact same (update_owners id generation revision options)
  | requestFocus id => exact same (requestFocus_owners state id)
  | close id reason => exact same (close_owners state id reason)
  | revokeOwner other =>
      show owner ∈ (state.revokeOwner other).owners
      rw [revokeOwner_owners, Finset.mem_erase]
      exact ⟨fun own => notRevoked (own ▸ rfl), listed⟩
  | takeOverflow other =>
      rw [mem_owners] at listed ⊢
      rcases listed with served | overflowed
      · exact .inl served
      · refine .inr (Finset.mem_erase.mpr ⟨fun own => notReported (own ▸ rfl), overflowed⟩)
  | takeEvent other =>
      have apart : other ≠ owner := fun own => notTaken (own ▸ rfl)
      show owner ∈ (state.takeEvent other).2.owners
      unfold takeEvent
      cases state.events[other]? with
      | none => exact listed
      | some queue =>
          dsimp only
          rw [mem_owners] at listed
          split
          · rw [mem_owners, OrderedMap.lookup_erase, if_neg apart, OrderedMap.lookup_insert,
              if_neg apart]
            exact listed
          · rw [mem_owners, OrderedMap.lookup_insert, if_neg apart]
            exact listed
  | capturePointer id position =>
      refine same ?_
      show (state.capturePointer id position).2.owners = state.owners
      unfold capturePointer
      split
      · rfl
      · cases state.windows[id]? with
        | none => rfl
        | some window => rfl
  | releasePointer id =>
      refine same ?_
      show (state.releasePointer id).owners = state.owners
      unfold releasePointer
      split
      · rfl
      · rfl
  | keyboard event escape => exact same (keyboard_owners forest event escape)
  | wheel position scroll modifiers hit =>
      refine same ?_
      show (state.wheel position scroll modifiers hit).2.owners = state.owners
      unfold Windows.wheel
      cases met : state.topmostHit Prod.snd position hit with
      | none => rfl
      | some target =>
          exact emit_owners
            (.inr (forest.known (forest.live_of_eligible (topmostHit_eq_some met).1.1)))
  | pointer report hit => exact same (pointer_owners forest report hit)
  | refreshHover position hit =>
      refine same ?_
      show (state.refreshHover position hit).owners = state.owners
      unfold refreshHover
      cases state.targetAt position hit with
      | none => exact setHover_owners state none
      | some target => exact setHover_owners state _

end Listed

end VividProtocol.Overlay

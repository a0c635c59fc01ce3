import Mathlib.Tactic
import VividProtocol.Overlay.Delivery
import VividProtocol.Overlay.Wire.InputEvent

/-!
# From the queue to the producer

Every event that waits in a queue has a nonzero address and passed the test for
events, so it can be sent, and what is sent is read back as it was queued.
-/

set_option autoImplicit false

namespace VividProtocol.Overlay.Wire

open VividProtocol.Cbor
open VividProtocol.Library
open VividProtocol.Library.Result
open Windows

/-- No part of a live window's address is zero, and what waits in a queue can
be sent. -/
structure Addressed (state : Windows) : Prop where
  windows : ∀ (id : SurfaceIdentity) (window : Window), state.windows[id]? = some window →
    id.context.contextId ≠ 0 ∧ id.surfaceId ≠ 0 ∧ window.generation ≠ 0
  queued : ∀ (owner : SessionIdentity) (queue : List WindowEvent),
    state.events[owner]? = some queue → ∀ event ∈ queue, (InputEvent.ofWindowEvent event).Valid

namespace Addressed

variable {before after : Windows}

/-- Windows and queued events are only lost. -/
theorem frame (addressed : Addressed before)
    (windows : ∀ (id : SurfaceIdentity) (window : Window), after.windows[id]? = some window →
      before.windows[id]? = some window)
    (queues : ∀ (owner : SessionIdentity) (queue : List WindowEvent),
      after.events[owner]? = some queue →
      queue = [] ∨ ∃ held, before.events[owner]? = some held ∧ ∀ event ∈ queue, event ∈ held) :
    Addressed after where
  windows := fun id window live => addressed.windows id window (windows id window live)
  queued := fun owner queue served event inside => by
    rcases queues owner queue served with empty | ⟨held, had, within⟩
    · rw [empty] at inside
      cases inside
    · exact addressed.queued owner held had event (within event inside)

theorem mem_enqueue {queue full : List WindowEvent} {event other : WindowEvent}
    (fits : enqueue queue event = some full) (inside : other ∈ full) :
    other ∈ queue ∨ other = event := by
  unfold enqueue at fits
  dsimp only at fits
  split_ifs at fits
  all_goals
    cases fits
    rcases List.mem_append.mp inside with old | new
  · exact .inl (List.mem_of_mem_dropLast old)
  · exact .inr (List.mem_singleton.mp new)
  · exact .inl old
  · exact .inr (List.mem_singleton.mp new)

theorem push (addressed : Addressed before) {id : SurfaceIdentity} {window : Window}
    {queue full : List WindowEvent} {event : Event}
    (live : before.windows[id]? = some window)
    (served : before.events[id.context.session]? = some queue)
    (fits : enqueue queue (stamp window id event) = some full)
    (valid : validEvent event = true) :
    Addressed (before.push id.context.session full (stamp window id event)) where
  windows := addressed.windows
  queued := fun owner held at_ other inside => by
    rw [push_events] at at_
    by_cases own : id.context.session = owner
    · rw [if_pos own, Option.some.injEq] at at_
      rw [← at_] at inside
      rcases mem_enqueue fits inside with old | new
      · exact addressed.queued _ queue served other old
      · obtain ⟨context, surface, generation⟩ := addressed.windows id window live
        rw [new]
        exact ⟨⟨context, surface, generation⟩, valid⟩
    · rw [if_neg own] at at_
      exact addressed.queued owner held at_ other inside

theorem setWindow (addressed : Addressed before) {id : SurfaceIdentity} {old window : Window}
    (live : before.windows[id]? = some old) (later : old.Later window) :
    Addressed (before.setWindow id window) where
  windows := fun probe other found => by
    rw [Forest.setWindow_lookup] at found
    by_cases same : id = probe
    · rw [if_pos same, Option.some.injEq] at found
      rw [← same, ← found, later.generation]
      exact addressed.windows id old live
    · rw [if_neg same] at found
      exact addressed.windows probe other found
  queued := addressed.queued

theorem insertWindow (addressed : Addressed before) {id : SurfaceIdentity} {generation : UInt64}
    {options : WindowOptions} (admitted : before.admitCreate id generation options = .ok ()) :
    Addressed (before.insertWindow id generation options) where
  windows := fun probe window found => by
    rw [Forest.insertWindow_lookup] at found
    by_cases same : id = probe
    · rw [if_pos same, Option.some.injEq] at found
      unfold admitCreate at admitted
      simp only [bind_eq_ok_iff, ite_error_eq_ok_iff, not_or] at admitted
      obtain ⟨_, _, ⟨named, context, surface⟩, _⟩ := admitted
      rw [← same, ← found]
      exact ⟨context, surface, named⟩
    · rw [if_neg same] at found
      exact addressed.windows probe window found
  queued := fun owner queue served event inside => by
    rw [Forest.insertWindow_events] at served
    split at served
    · cases served
      cases inside
    · exact addressed.queued owner queue served event inside

theorem sheds {allowed : SurfaceIdentity → Event → Prop} (addressed : Addressed before)
    (sheds : Sheds allowed before after) : Addressed after := by
  induction sheds with
  | refl => exact addressed
  | queued _ live served fits valid _ ih => exact ih.push live served fits valid
  | @dropped state sheds owner ih =>
      have gone : Sheds allowed state (state.dropOwner owner) := .dropped .refl owner
      refine ih.frame (fun id window found => gone.window found) ?_
      intro other queue served
      rw [dropOwner_events] at served
      split at served
      · cases served
      · exact .inr ⟨queue, served, fun _ inside => inside⟩
  | marked _ _ _ ih =>
      exact ih.frame (fun _ _ found => found)
        fun _ queue served => .inr ⟨queue, served, fun _ inside => inside⟩
  | pointed _ _ _ _ ih =>
      exact ih.frame (fun _ _ found => found)
        fun _ queue served => .inr ⟨queue, served, fun _ inside => inside⟩

theorem moves {allowed : SurfaceIdentity → Event → Prop} (addressed : Addressed before)
    (moves : Moves allowed before after) : Addressed after := by
  induction moves with
  | refl => exact addressed
  | shed _ sheds ih => exact ih.sheds sheds
  | forgot _ id ih =>
      refine ih.frame (fun probe window found => ?_)
        fun _ queue served => .inr ⟨queue, served, fun _ inside => inside⟩
      rw [Forest.forget_lookup] at found
      split at found
      · cases found
      · exact found
  | replaced _ live later _ ih => exact ih.setWindow live later
  | restacked _ _ _ ih => exact ⟨ih.windows, ih.queued⟩
  | swallowed _ _ _ ih => exact ⟨ih.windows, ih.queued⟩

/-- Taking an event shortens one queue. -/
theorem takeEvent (addressed : Addressed before) (owner : SessionIdentity) :
    Addressed (before.takeEvent owner).2 := by
  unfold Windows.takeEvent
  cases had : before.events[owner]? with
  | none => exact addressed
  | some queue =>
      dsimp only
      split_ifs
      all_goals
        refine addressed.frame (fun _ _ found => found) fun other rest served => ?_
        simp only [OrderedMap.lookup_erase, OrderedMap.lookup_insert] at served
        by_cases own : owner = other
      · simp [own] at served
      · simp only [own, if_false] at served
        exact .inr ⟨rest, served, fun _ inside => inside⟩
      · simp only [own, if_true, Option.some.injEq] at served
        rw [← own, ← served]
        exact .inr ⟨queue, had, fun _ inside => List.mem_of_mem_tail inside⟩
      · simp only [own, if_false] at served
        exact .inr ⟨rest, served, fun _ inside => inside⟩

/-- The event that is handed out can be sent. -/
theorem taken (addressed : Addressed before) {owner : SessionIdentity} {event : WindowEvent}
    (taken : (before.takeEvent owner).1 = some event) :
    (InputEvent.ofWindowEvent event).Valid := by
  unfold Windows.takeEvent at taken
  cases had : before.events[owner]? with
  | none =>
      rw [had] at taken
      cases taken
  | some queue =>
      have head : queue.head? = some event := by
        rw [had] at taken
        dsimp only at taken
        split_ifs at taken <;> exact taken
      exact addressed.queued owner queue had event (List.mem_of_head? head)

theorem step (addressed : Addressed before) (forest : Forest before) (operation : Operation) :
    Addressed (windowsStep before operation).2 := by
  have effect := windowsStep_effect forest operation
  generalize (windowsStep before operation).2 = reached at effect
  cases effect with
  | moved moves => exact addressed.moves moves
  | created _ admitted moves => exact (addressed.insertWindow admitted).moves moves
  | updated _ _ live admitted moves =>
      exact (addressed.setWindow live (updated_later admitted)).moves moves
  | released _ _ => exact ⟨addressed.windows, addressed.queued⟩
  | unfocused _ sheds => exact ⟨(addressed.sheds sheds).windows, (addressed.sheds sheds).queued⟩
  | @tookEvent owner _ => exact addressed.takeEvent owner
  | tookOverflow _ => exact ⟨addressed.windows, addressed.queued⟩

end Addressed

theorem addressed_final (inputs : List Operation) :
    Addressed (windowsRuns.final Windows.default inputs) := by
  induction inputs using List.reverseRecOn with
  | nil => exact ⟨fun _ _ => nofun, fun _ _ => nofun⟩
  | append_singleton inputs operation ih =>
      rw [windowsRuns.final_snoc]
      exact ih.step (forest_final inputs) operation

/-- An event that a run hands out has a payload; a payload goes through its bytes
to the event it was made of; and the decoder accepts events only that the queue
would accept, each of them with a payload that is read back as it. -/
theorem events_reach_producer :
    (∀ (inputs : List Operation) (owner : SessionIdentity) (event : WindowEvent),
      ((windowsRuns.final Windows.default inputs).takeEvent owner).1 = some event →
        ∃ entries, (InputEvent.ofWindowEvent event).payload = .ok entries) ∧
    (∀ (input : InputEvent) (entries : PayloadMap), input.payload = .ok entries →
      ∃ bytes value, encode (.map entries) = .ok bytes ∧ Cbor.decode bytes = .ok value ∧
        InputEvent.decode input.address.surfaceId value = .ok input) ∧
    (∀ (object : UInt64) (value : Value) (input : InputEvent),
      InputEvent.decode object value = .ok input →
        validEvent input.event = true ∧
          ∃ entries, input.payload = .ok entries ∧
            InputEvent.decode object (.map entries) = .ok input) := by
  refine ⟨?_, ?_, ?_⟩
  · intro inputs owner event taken
    exact ⟨_, InputEvent.payload_eq_ok.mpr ⟨(addressed_final inputs).taken taken, rfl⟩⟩
  · intro input entries written
    obtain ⟨valid, same⟩ := InputEvent.payload_eq_ok.mp written
    obtain ⟨bytes, sent, received⟩ := valid.fits.throughBytes
    rw [same] at sent received
    exact ⟨bytes, .map entries, sent, received, InputEvent.agrees.readsBack written⟩
  · intro object value input accepted
    exact ⟨(InputEvent.decode_valid accepted).2.event, InputEvent.agrees.settles accepted⟩

/-- The first button is pressed in a window that has the focus and the pointer. -/
def samplePressed : List Operation :=
  [.create (sampleSurface 1 1) 1 (sampleOptions .popup),
    .pointer (sampleReport sampleNear true) fun _ _ => some ⟨1, .input, none⟩,
    .takeEvent (sampleSurface 1 1).context.session,
    .takeEvent (sampleSurface 1 1).context.session]

/-- What the window is told of the press. -/
def pressNotice : WindowEvent :=
  { window := sampleSurface 1 1
    generation := 1
    revision := 1
    sceneRevision := 0
    event := .pointer ⟨sampleNear, sampleNear⟩ 1 (some (0, true)) 0 1 none }

/-- It is taken from the queue, sent through bytes and read back as it was. -/
theorem events_reach_producer_press :
    ∃ value, InputEvent.decode 1 value = .ok (InputEvent.ofWindowEvent pressNotice) ∧
      validEvent pressNotice.event = true := by
  have taken : ((windowsRuns.final Windows.default samplePressed).takeEvent
      (sampleSurface 1 1).context.session).1 = some pressNotice := by
    decide +kernel
  obtain ⟨entries, written⟩ := events_reach_producer.1 _ _ _ taken
  obtain ⟨_, value, _, _, received⟩ := events_reach_producer.2.1 _ _ written
  exact ⟨value, received, (events_reach_producer.2.2 _ _ _ received).1⟩

end VividProtocol.Overlay.Wire

import Mathlib.Tactic
import VividProtocol.Overlay.Forest

/-!
# Shedding

What emitting an event can do to the state, said once: events are queued for
live windows, whole sessions are dropped, and the slots for focus, hover and
capture move.  `emit`, the focus, the hover and the captures do nothing else.
-/

set_option autoImplicit false

namespace VividProtocol.Overlay

open VividProtocol.Library
open VividProtocol.Library.OrderedForest

/-- A state reached from another by the effects of emitting, where every event
that was queued is allowed. -/
inductive Sheds (allowed : SurfaceIdentity → Event → Prop) (before : Windows) : Windows → Prop
  | refl : Sheds allowed before before
  | queued {state : Windows} {id : SurfaceIdentity} {window : Window}
      {queue full : List WindowEvent} {event : Event} (sheds : Sheds allowed before state)
      (live : state.windows[id]? = some window)
      (served : state.events[id.context.session]? = some queue)
      (fits : enqueue queue (Windows.stamp window id event) = some full)
      (valid : validEvent event = true) (permitted : allowed id event) :
      Sheds allowed before
        (state.push id.context.session full (Windows.stamp window id event))
  | dropped {state : Windows} (sheds : Sheds allowed before state) (owner : SessionIdentity) :
      Sheds allowed before (state.dropOwner owner)
  | marked {state : Windows} {owner : SessionIdentity} (sheds : Sheds allowed before state)
      (listed : owner ∈ before.owners) (gone : state.events[owner]? = none) :
      Sheds allowed before (state.markOverflow owner)
  | pointed {state : Windows} (sheds : Sheds allowed before state)
      (focus : Option SurfaceIdentity) (hover : Option Hover) (capture : Option Capture) :
      Sheds allowed before { state with focus := focus, hover := hover, capture := capture }

namespace Windows

variable {state : Windows}

/-! ## Dropping a session -/

theorem foldl_remove (ids : List SurfaceIdentity) (state : Windows) :
    ids.foldl remove state =
      { state with
        windows := ids.foldl (fun windows id => windows.erase id) state.windows
        stack := state.stack.filter fun key => decide (key ∉ ids) } := by
  induction ids generalizing state with
  | nil => simp
  | cons id rest ih =>
      rw [List.foldl_cons, ih]
      simp only [remove, List.foldl_cons, List.filter_filter, List.mem_cons, not_or,
        Bool.decide_and, Bool.and_comm]

theorem lookup_foldl_erase (ids : List SurfaceIdentity)
    (windows : OrderedMap SurfaceIdentity Window) (id : SurfaceIdentity) :
    (ids.foldl (fun windows id => windows.erase id) windows)[id]? =
      if id ∈ ids then none else windows[id]? := by
  induction ids generalizing windows with
  | nil => simp
  | cons first rest ih =>
      rw [List.foldl_cons, ih, OrderedMap.lookup_erase]
      by_cases inside : id ∈ rest
      · simp [inside]
      · by_cases same : first = id
        · simp [same]
        · simp [inside, same, Ne.symm same]

theorem dropOwner_eq (owner : SessionIdentity) :
    state.dropOwner owner =
      { state with
        windows := (state.stack.filter (ownedBy owner)).foldl
          (fun windows id => windows.erase id) state.windows
        stack := state.stack.filter fun id => ! ownedBy owner id
        focusHistory := state.focusHistory.filter fun id => ! ownedBy owner id
        capture := state.capture.filter fun capture => ! ownedBy owner capture.window
        events := state.events.erase owner
        overflowed := state.overflowed.erase owner } := by
  have same : (state.stack.filter fun id => decide (id ∉ state.stack.filter (ownedBy owner))) =
      state.stack.filter fun id => ! ownedBy owner id := by
    refine List.filter_congr fun id inside => ?_
    simp [inside]
  unfold dropOwner
  simp only [foldl_remove, same]

theorem dropOwner_lookup (owner : SessionIdentity) (id : SurfaceIdentity) :
    (state.dropOwner owner).windows[id]? =
      if id ∈ state.stack ∧ ownedBy owner id = true then none else state.windows[id]? := by
  rw [dropOwner_eq]
  simp only [lookup_foldl_erase, List.mem_filter]

theorem dropOwner_live (forest : Forest state) (owner : SessionIdentity)
    (id : SurfaceIdentity) :
    (state.dropOwner owner).windows[id]? =
      if ownedBy owner id = true then none else state.windows[id]? := by
  rw [dropOwner_lookup]
  by_cases inside : id ∈ state.stack
  · simp [inside]
  · have absent := not_live_iff.mp fun live => inside ((forest.listed id).mpr live)
    simp [inside, absent]

/-! ## Queues -/

theorem queueBytes_append (queue rest : List WindowEvent) :
    queueBytes (queue ++ rest) = queueBytes queue + queueBytes rest := by
  unfold queueBytes
  rw [List.map_append, List.sum_append]

theorem enqueue_bounds {queue full : List WindowEvent} {event : WindowEvent}
    (fits : enqueue queue event = some full) :
    full.length ≤ MAX_PENDING_EVENTS ∧ queueBytes full ≤ MAX_EVENT_QUEUE_BYTES := by
  unfold enqueue at fits
  generalize (if coalesces queue event = true then queue.dropLast else queue) = kept at fits
  by_cases refused : MAX_PENDING_EVENTS ≤ kept.length ∨
      MAX_EVENT_QUEUE_BYTES < queueBytes kept + eventBytes event.event
  · rw [if_pos refused] at fits
    cases fits
  · rw [if_neg refused, Option.some.injEq] at fits
    rw [← fits, queueBytes_append, List.length_append]
    have single : queueBytes [event] = eventBytes event.event := by simp [queueBytes]
    rw [single, List.length_singleton]
    omega

theorem push_events (owner probe : SessionIdentity) (queue : List WindowEvent)
    (event : WindowEvent) :
    (state.push owner queue event).events[probe]? =
      if owner = probe then some queue else state.events[probe]? :=
  OrderedMap.lookup_insert _ _ _ _

theorem dropOwner_events (owner probe : SessionIdentity) :
    (state.dropOwner owner).events[probe]? =
      if owner = probe then none else state.events[probe]? := by
  rw [dropOwner_eq]
  exact OrderedMap.lookup_erase _ _ _

theorem push_owners {owner : SessionIdentity} {queue full : List WindowEvent}
    {event : WindowEvent} (served : state.events[owner]? = some queue) :
    (state.push owner full event).owners = state.owners := by
  ext other
  rw [mem_owners, mem_owners, push_events]
  by_cases same : owner = other
  · subst same
    simp [served, push]
  · rw [if_neg same]
    rfl

theorem dropOwner_owners (owner : SessionIdentity) :
    (state.dropOwner owner).owners = state.owners.erase owner := by
  have overflowed : (state.dropOwner owner).overflowed = state.overflowed.erase owner := by
    rw [dropOwner_eq]
  ext other
  rw [Finset.mem_erase, mem_owners, mem_owners, dropOwner_events, overflowed, Finset.mem_erase]
  by_cases same : owner = other
  · simp [same]
  · simp [same, Ne.symm same]

theorem markOverflow_owners (owner : SessionIdentity) :
    (state.markOverflow owner).owners = insert owner state.owners := by
  ext other
  rw [Finset.mem_insert, mem_owners, mem_owners]
  simp only [markOverflow, Finset.mem_insert]
  tauto

end Windows

open Windows

/-! ## The forest is kept -/

namespace Forest

variable {state : Windows} (forest : Forest state)

include forest

theorem push {owner : SessionIdentity} {queue full : List WindowEvent} {event : WindowEvent}
    (served : state.events[owner]? = some queue) (fits : enqueue queue event = some full) :
    Forest (state.push owner full event) := by
  refine { forest with served := ?_, disjoint := ?_, enlisted := ?_, queues := ?_ }
  · intro id live
    rw [push_events]
    by_cases same : owner = id.context.session
    · exact ⟨full, if_pos same⟩
    · rw [if_neg same]
      exact forest.served id live
  · intro other overflowed
    rw [push_events]
    by_cases same : owner = other
    · subst same
      rw [forest.disjoint owner overflowed] at served
      cases served
    · rw [if_neg same]
      exact forest.disjoint other overflowed
  · exact le_trans ((congrArg Finset.card (push_owners served)).le) forest.enlisted
  · intro other found at_other
    rw [push_events] at at_other
    by_cases same : owner = other
    · rw [if_pos same, Option.some.injEq] at at_other
      rw [← at_other]
      exact enqueue_bounds fits
    · rw [if_neg same] at at_other
      exact forest.queues other found at_other

theorem dropOwner (owner : SessionIdentity) : Forest (state.dropOwner owner) := by
  have live : ∀ id, (state.dropOwner owner).Live id ↔
      state.Live id ∧ ownedBy owner id = false := by
    intro id
    unfold Live
    rw [dropOwner_live forest]
    cases ownedBy owner id with
    | false => simp
    | true => simp
  have link : ∀ child parent, (state.dropOwner owner).parent? child = some parent →
      state.parent? child = some parent ∧ ownedBy owner child = false := by
    intro child parent found
    have kept := ((live child).mp (live_of_parent? found)).2
    unfold parent? at found
    rw [dropOwner_live forest, kept] at found
    exact ⟨found, kept⟩
  have stack : (state.dropOwner owner).stack = state.stack.filter fun id => ! ownedBy owner id := by
    rw [dropOwner_eq]
  have history : (state.dropOwner owner).focusHistory =
      state.focusHistory.filter fun id => ! ownedBy owner id := by
    rw [dropOwner_eq]
  have overflowed : (state.dropOwner owner).overflowed = state.overflowed.erase owner := by
    rw [dropOwner_eq]
  constructor
  case listed =>
    intro id
    rw [stack, List.mem_filter, live, forest.listed, Bool.not_eq_true']
  case ordered =>
    rw [stack]
    refine forest.ordered.restrict _ ?_
    intro child parent found
    obtain ⟨before, kept⟩ := link child parent found
    have same := forest.family child parent before
    refine ⟨before, by simp [kept], ?_⟩
    unfold ownedBy at kept ⊢
    rw [same, kept, Bool.not_false]
  case named =>
    intro id window found
    rw [dropOwner_live forest] at found
    cases owned : ownedBy owner id with
    | false => exact forest.named id window (by simpa [owned] using found)
    | true => simp [owned] at found
  case family =>
    intro child parent found
    exact forest.family child parent (link child parent found).1
  case total =>
    rw [stack]
    exact le_trans (List.length_filter_le _ _) forest.total
  case perOwner =>
    intro other
    rw [stack]
    exact le_trans ((List.filter_sublist.filter _).length_le) (forest.perOwner other)
  case served =>
    intro id found
    obtain ⟨before, kept⟩ := (live id).mp found
    rw [dropOwner_events]
    have other : owner ≠ id.context.session := by
      rintro rfl
      simp [ownedBy] at kept
    rw [if_neg other]
    exact forest.served id before
  case disjoint =>
    intro other inside
    rw [overflowed, Finset.mem_erase] at inside
    rw [dropOwner_events, if_neg (Ne.symm inside.1)]
    exact forest.disjoint other inside.2
  case enlisted =>
    rw [dropOwner_owners]
    exact le_trans (Finset.card_erase_le) forest.enlisted
  case queues =>
    intro other queue found
    rw [dropOwner_events] at found
    by_cases same : owner = other
    · simp [same] at found
    · rw [if_neg same] at found
      exact forest.queues other queue found
  case history =>
    rw [history]
    exact forest.history.filter _
  case remembered =>
    intro id inside
    rw [history, List.mem_filter, Bool.not_eq_true'] at inside
    exact (live id).mpr ⟨forest.remembered id inside.1, inside.2⟩

end Forest

namespace Sheds

variable {allowed : SurfaceIdentity → Event → Prop} {before middle after : Windows}

theorem owners_subset (sheds : Sheds allowed before after) : after.owners ⊆ before.owners := by
  induction sheds with
  | refl => exact Finset.Subset.refl _
  | queued _ _ served _ _ _ ih =>
      rw [push_owners served]
      exact ih
  | dropped _ owner ih =>
      rw [dropOwner_owners]
      exact (Finset.erase_subset _ _).trans ih
  | marked _ listed _ ih =>
      rw [markOverflow_owners]
      exact Finset.insert_subset listed ih
  | pointed _ _ _ _ ih => exact ih

theorem trans (first : Sheds allowed before middle) (second : Sheds allowed middle after) :
    Sheds allowed before after := by
  induction second with
  | refl => exact first
  | queued _ live served fits valid permitted ih =>
      exact .queued ih live served fits valid permitted
  | dropped _ owner ih => exact .dropped ih owner
  | marked _ listed gone ih => exact .marked ih (first.owners_subset listed) gone
  | pointed _ focus hover capture ih => exact .pointed ih focus hover capture

theorem mono {allowed' : SurfaceIdentity → Event → Prop} (sheds : Sheds allowed before after)
    (weaker : ∀ id event, allowed id event → allowed' id event) :
    Sheds allowed' before after := by
  induction sheds with
  | refl => exact .refl
  | queued _ live served fits valid permitted ih =>
      exact .queued ih live served fits valid (weaker _ _ permitted)
  | dropped _ owner ih => exact .dropped ih owner
  | marked _ listed gone ih => exact .marked ih listed gone
  | pointed _ focus hover capture ih => exact .pointed ih focus hover capture

theorem forest (sheds : Sheds allowed before after) (kept : Forest before) : Forest after := by
  induction sheds with
  | refl => exact kept
  | queued _ _ served fits _ _ ih => exact ih.push served fits
  | dropped _ owner ih => exact ih.dropOwner owner
  | marked sheds listed gone ih =>
      have within := (Sheds.marked sheds listed gone).owners_subset
      refine { ih with disjoint := ?_, enlisted := ?_ }
      · intro other inside
        rcases Finset.mem_insert.mp inside with rfl | inside
        · exact gone
        · exact ih.disjoint other inside
      · exact le_trans (Finset.card_le_card within) kept.enlisted
  | pointed _ _ _ _ ih => exact ih.frame rfl rfl rfl rfl rfl

/-- Windows are only lost. -/
theorem window (sheds : Sheds allowed before after) {id : SurfaceIdentity} {window : Window}
    (found : after.windows[id]? = some window) : before.windows[id]? = some window := by
  induction sheds with
  | refl => exact found
  | queued _ _ _ _ _ _ ih => exact ih found
  | @dropped state _ owner ih =>
      rw [dropOwner_lookup] at found
      by_cases gone : id ∈ state.stack ∧ ownedBy owner id = true
      · rw [if_pos gone] at found
        cases found
      · rw [if_neg gone] at found
        exact ih found
  | marked _ _ _ ih => exact ih found
  | pointed _ _ _ _ ih => exact ih found

theorem within (sheds : Sheds allowed before after) : Within before after :=
  fun _ _ found => sheds.window found

theorem live (sheds : Sheds allowed before after) {id : SurfaceIdentity}
    (found : after.Live id) : before.Live id := by
  obtain ⟨window, found⟩ := found
  exact ⟨window, sheds.window found⟩

theorem link (sheds : Sheds allowed before after) {child parent : SurfaceIdentity}
    (found : after.parent? child = some parent) : before.parent? child = some parent := by
  obtain ⟨window, found, named⟩ := parent?_eq_some.mp found
  exact parent?_eq_some.mpr ⟨window, sheds.window found, named⟩

theorem clearFocus (sheds : Sheds allowed before after) :
    Sheds allowed before after.clearFocus :=
  sheds.pointed none after.hover after.capture

theorem focus (sheds : Sheds allowed before after) (focus : Option SurfaceIdentity) :
    Sheds allowed before { after with focus := focus } :=
  sheds.pointed focus after.hover after.capture

theorem hover (sheds : Sheds allowed before after) (hover : Option Hover) :
    Sheds allowed before { after with hover := hover } :=
  sheds.pointed after.focus hover after.capture

theorem capture (sheds : Sheds allowed before after) (capture : Option Capture) :
    Sheds allowed before { after with capture := capture } :=
  sheds.pointed after.focus after.hover capture

/-- A session without a queue stays without one. -/
theorem unserved (sheds : Sheds allowed before after) {owner : SessionIdentity}
    (gone : before.events[owner]? = none) : after.events[owner]? = none := by
  induction sheds with
  | refl => exact gone
  | @queued _ id _ _ _ _ _ _ served _ _ _ ih =>
      rw [push_events]
      by_cases same : id.context.session = owner
      · rw [same, ih] at served
        cases served
      · rw [if_neg same]
        exact ih
  | dropped _ other ih =>
      rw [dropOwner_events, ih]
      exact ite_self _
  | marked _ _ _ ih => exact ih
  | pointed _ _ _ _ ih => exact ih

end Sheds

/-! ## Stirring -/

/-- What emitting does: events are queued, sessions are dropped and marked, and
focus and hover move.  The capture is only lost with its window. -/
inductive Stirs (allowed : SurfaceIdentity → Event → Prop) (before : Windows) : Windows → Prop
  | refl : Stirs allowed before before
  | queued {state : Windows} (stirs : Stirs allowed before state) {id : SurfaceIdentity}
      {window : Window} {queue full : List WindowEvent} {event : Event}
      (live : state.windows[id]? = some window)
      (served : state.events[id.context.session]? = some queue)
      (fits : enqueue queue (stamp window id event) = some full)
      (valid : validEvent event = true) (permitted : allowed id event) :
      Stirs allowed before (state.push id.context.session full (stamp window id event))
  | dropped {state : Windows} (stirs : Stirs allowed before state) (owner : SessionIdentity) :
      Stirs allowed before (state.dropOwner owner)
  | marked {state : Windows} (stirs : Stirs allowed before state) {owner : SessionIdentity}
      (listed : owner ∈ before.owners) (gone : state.events[owner]? = none) :
      Stirs allowed before (state.markOverflow owner)
  | aimed {state : Windows} (stirs : Stirs allowed before state)
      (focus : Option SurfaceIdentity) (hover : Option Hover) :
      Stirs allowed before { state with focus := focus, hover := hover }

namespace Stirs

variable {allowed : SurfaceIdentity → Event → Prop} {before middle after : Windows}

theorem sheds (stirs : Stirs allowed before after) : Sheds allowed before after := by
  induction stirs with
  | refl => exact .refl
  | queued _ live served fits valid permitted ih =>
      exact .queued ih live served fits valid permitted
  | dropped _ owner ih => exact .dropped ih owner
  | marked _ listed gone ih => exact .marked ih listed gone
  | @aimed state _ focus hover ih => exact .pointed ih focus hover state.capture

theorem trans (first : Stirs allowed before middle) (second : Stirs allowed middle after) :
    Stirs allowed before after := by
  induction second with
  | refl => exact first
  | queued _ live served fits valid permitted ih =>
      exact .queued ih live served fits valid permitted
  | dropped _ owner ih => exact .dropped ih owner
  | marked _ listed gone ih => exact .marked ih (first.sheds.owners_subset listed) gone
  | aimed _ focus hover ih => exact .aimed ih focus hover

theorem focus (stirs : Stirs allowed before after) (focus : Option SurfaceIdentity) :
    Stirs allowed before { after with focus := focus } :=
  stirs.aimed focus after.hover

theorem hover (stirs : Stirs allowed before after) (hover : Option Hover) :
    Stirs allowed before { after with hover := hover } :=
  stirs.aimed after.focus hover

/-- A capture stays, unless its session loses its queue. -/
theorem capture (stirs : Stirs allowed before after) {capture : Capture}
    (held : before.capture = some capture) :
    after.capture = some capture ∨ after.events[capture.window.context.session]? = none := by
  induction stirs with
  | refl => exact .inl held
  | @queued state _ id _ _ _ _ _ served _ _ _ ih =>
      rcases ih with kept | gone
      · exact .inl kept
      · right
        rw [push_events, if_neg]
        · exact gone
        · intro same
          rw [same, gone] at served
          cases served
  | @dropped state _ owner ih =>
      by_cases own : owner = capture.window.context.session
      · right
        rw [dropOwner_events, if_pos own]
      · rcases ih with kept | gone
        · left
          rw [dropOwner_eq]
          dsimp only
          rw [kept, Option.filter_some]
          have foreign : ownedBy owner capture.window = false :=
            decide_eq_false (Ne.symm own)
          rw [foreign]
          rfl
        · right
          rw [dropOwner_events, gone]
          exact ite_self _
  | marked _ _ _ ih => exact ih
  | aimed _ _ _ ih => exact ih

/-- A capture is not taken. -/
theorem captured (stirs : Stirs allowed before after) {capture : Capture}
    (holds : after.capture = some capture) : before.capture = some capture := by
  induction stirs with
  | refl => exact holds
  | queued _ _ _ _ _ _ ih => exact ih holds
  | @dropped state _ owner ih =>
      rw [dropOwner_eq] at holds
      exact ih (Option.filter_eq_some_iff.mp holds).1
  | marked _ _ _ ih => exact ih holds
  | aimed _ _ _ ih => exact ih holds

end Stirs

end VividProtocol.Overlay

import Mathlib.Tactic
import VividProtocol.Overlay.Delivery

/-!
# Overflow

An event that is refused costs its session its windows and its queue.  The other
sessions keep theirs, and a queue gains at most the news that a window has the
focus now.  The overflow is reported once.
-/

set_option autoImplicit false

namespace VividProtocol.Overlay

open VividProtocol.Library
open VividProtocol.Library.OrderedForest
open VividProtocol.Library.Transition

open Windows

/-! ## Refused events -/

/-- An event is not valid, or the queue of its window does not take it. -/
def Windows.Refuses (state : Windows) (id : SurfaceIdentity) (event : Event) : Prop :=
  validEvent event = false ∨
    ∃ (window : Window) (queue : List WindowEvent), state.windows[id]? = some window ∧
      state.events[id.context.session]? = some queue ∧
      enqueue queue (stamp window id event) = none

theorem deliver_eq_none_iff {state : Windows} {id : SurfaceIdentity} {event : Event} :
    state.deliver id event = none ↔ state.Refuses id event := by
  unfold deliver Refuses
  cases valid : validEvent event with
  | false => simp
  | true =>
      cases state.windows[id]? with
      | none => simp
      | some window =>
          cases state.events[id.context.session]? with
          | none => simp
          | some queue => simp

/-- A session has neither windows nor a queue, and is marked. -/
structure Windows.Lost (state : Windows) (owner : SessionIdentity) : Prop where
  windows : ∀ id : SurfaceIdentity, id.context.session = owner → state.windows[id]? = none
  queue : state.events[owner]? = none
  marked : owner ∈ state.overflowed

/-- A session keeps its windows, and its queue gains at most focus notices. -/
structure Bystands (owner : SessionIdentity) (before after : Windows) : Prop where
  windows : ∀ id : SurfaceIdentity, id.context.session = owner →
    after.windows[id]? = before.windows[id]?
  unserved : before.events[owner]? = none → after.events[owner]? = none
  queue : ∀ queue : List WindowEvent, before.events[owner]? = some queue →
    ∃ told : List WindowEvent, after.events[owner]? = some (queue ++ told) ∧
      ∀ event ∈ told, event.event = .focus true
  marked : owner ∈ after.overflowed ↔ owner ∈ before.overflowed

/-- A session bystands, or the focus notice to one of its windows is refused and
it is lost in turn. -/
def Endures (owner : SessionIdentity) (before after : Windows) : Prop :=
  Bystands owner before after ∨
    after.Lost owner ∧ ∃ id, id.context.session = owner ∧ before.Refuses id (.focus true)

theorem Windows.Lost.of_forest {state : Windows} (forest : Forest state) {owner : SessionIdentity}
    (marked : owner ∈ state.overflowed) : state.Lost owner where
  windows := fun id own => by
    by_contra live
    obtain ⟨window, found⟩ := Option.ne_none_iff_exists'.mp live
    obtain ⟨queue, served⟩ := forest.served id ⟨window, found⟩
    rw [own, forest.disjoint owner marked] at served
    cases served
  queue := forest.disjoint owner marked
  marked := marked

namespace Bystands

variable {owner : SessionIdentity} {before middle after : Windows}

theorem refl (state : Windows) : Bystands owner state state :=
  ⟨fun _ _ => rfl, fun none => none,
    fun queue served => ⟨[], by rw [List.append_nil, served], List.forall_mem_nil _⟩, Iff.rfl⟩

theorem trans (first : Bystands owner before middle) (second : Bystands owner middle after) :
    Bystands owner before after where
  windows := fun id own => (second.windows id own).trans (first.windows id own)
  unserved := fun none => second.unserved (first.unserved none)
  queue := fun queue served => by
    obtain ⟨sooner, between, focusSooner⟩ := first.queue queue served
    obtain ⟨later, reached, focusLater⟩ := second.queue _ between
    refine ⟨sooner ++ later, by rw [reached, List.append_assoc], fun event inside => ?_⟩
    rcases List.mem_append.mp inside with inside | inside
    · exact focusSooner event inside
    · exact focusLater event inside
  marked := second.marked.trans first.marked

/-- The focus moves. -/
theorem focus (state : Windows) (focus : Option SurfaceIdentity) :
    Bystands owner state { state with focus := focus } :=
  ⟨fun _ _ => rfl, fun none => none,
    fun queue served => ⟨[], by rw [List.append_nil]; exact served, List.forall_mem_nil _⟩, Iff.rfl⟩

/-- Another session is dropped. -/
theorem dropOwner {state : Windows} (forest : Forest state) {other : SessionIdentity}
    (apart : other ≠ owner) : Bystands owner state (state.dropOwner other) where
  windows := fun id own => by
    rw [dropOwner_live forest, if_neg]
    exact fun belongs => apart ((of_decide_eq_true belongs).symm.trans own)
  unserved := fun none => by rw [dropOwner_events, if_neg apart, none]
  queue := fun queue served =>
    ⟨[], by rw [dropOwner_events, if_neg apart, served, List.append_nil], List.forall_mem_nil _⟩
  marked := by
    rw [dropOwner_eq]
    exact ⟨fun inside => (Finset.mem_erase.mp inside).2,
      fun inside => Finset.mem_erase.mpr ⟨Ne.symm apart, inside⟩⟩

/-- Another session is marked. -/
theorem markOverflow (state : Windows) {other : SessionIdentity} (apart : other ≠ owner) :
    Bystands owner state (state.markOverflow other) where
  windows := fun _ _ => rfl
  unserved := fun none => none
  queue := fun queue served => ⟨[], by rw [List.append_nil]; exact served, List.forall_mem_nil _⟩
  marked := by
    unfold Windows.markOverflow
    rw [Finset.mem_insert]
    exact ⟨fun marked => marked.resolve_left (Ne.symm apart), .inr⟩

/-- A focus notice is queued behind what the queue holds. -/
theorem deliver {state : Windows} {id : SurfaceIdentity}
    (told : state.deliver id (.focus true) = some after) : Bystands owner state after := by
  rcases deliver_eq_some told with ⟨rfl, -⟩ | ⟨window, queue, full, live, served, fits, rfl⟩
  · exact .refl after
  have grown : full = queue ++ [stamp window id (.focus true)] := by
    have apart : coalesces queue (stamp window id (.focus true)) = false := by
      unfold coalesces
      cases queue.getLast? with
      | none => rfl
      | some last =>
          have different : replaces last.event (.focus true) = false := by
            cases last.event with
            | pointer position region button modifiers clicks pressure =>
                cases button with
                | none => rfl
                | some pair => rfl
            | geometry bounds settled =>
                cases settled with
                | false => rfl
                | true => rfl
            | _ => rfl
          simp [stamp, different]
    unfold enqueue at fits
    simp only [apart, Bool.false_eq_true, if_false] at fits
    split at fits
    · cases fits
    · exact (Option.some.inj fits).symm
  refine ⟨fun _ _ => rfl, fun none => ?_, fun other found => ?_, Iff.rfl⟩
  · rw [push_events, if_neg]
    · exact none
    · rintro rfl
      rw [none] at served
      cases served
  · rw [push_events]
    by_cases own : id.context.session = owner
    · subst own
      cases served.symm.trans found
      refine ⟨[stamp window id (.focus true)], by rw [if_pos rfl, grown], fun event inside => ?_⟩
      rw [List.mem_singleton.mp inside]
      rfl
    · refine ⟨[], ?_, fun event inside => absurd inside List.not_mem_nil⟩
      rw [if_neg own, List.append_nil]
      exact found

/-- What is refused later is refused to the windows and the queue of before. -/
theorem endures (first : Bystands owner before middle)
    (same : middle.events[owner]? = before.events[owner]?) (second : Endures owner middle after) :
    Endures owner before after := by
  rcases second with later | ⟨lost, id, own, refused⟩
  · exact .inl (first.trans later)
  · refine .inr ⟨lost, id, own, ?_⟩
    unfold Refuses at refused ⊢
    rw [own, same, first.windows id own] at refused
    rw [own]
    exact refused

end Bystands

theorem Endures.markOverflow {owner other : SessionIdentity} {before after : Windows}
    (endures : Endures owner before after) (apart : other ≠ owner) :
    Endures owner before (after.markOverflow other) := by
  rcases endures with bystands | ⟨lost, refused⟩
  · exact .inl (bystands.trans (.markOverflow after apart))
  · exact .inr ⟨⟨lost.windows, lost.queue, Finset.mem_insert_of_mem lost.marked⟩, refused⟩

/-- Every other session endures that the focus is handed on. -/
theorem Windows.HandsOn.endures {owner : SessionIdentity} {state after : Windows}
    (handsOn : HandsOn state after) (forest : Forest state) : Endures owner state after := by
  induction handsOn with
  | ended state => exact .inl (.refl state)
  | @told state after next _ told => exact .inl ((Bystands.focus state _).trans (.deliver told))
  | @dropped state after next candidate refused rest ih =>
      have whole : Forest (after.markOverflow next.context.session) :=
        ((HandsOn.dropped candidate refused rest).stirs (noticed Forest.notices)).sheds.forest
          forest
      have refuses := deliver_eq_none_iff.mp refused
      by_cases own : next.context.session = owner
      · exact .inr ⟨.of_forest whole (Finset.mem_insert.mpr (.inl own.symm)), next, own, refuses⟩
      · have focused : Bystands owner state { state with focus := some next } := .focus state _
        have between : Forest { state with focus := some next } :=
          forest.frame rfl rfl rfl rfl rfl
        have dropped := focused.trans (.dropOwner between own)
        have cleared := dropped.trans (.focus _ none)
        refine (cleared.endures ?_ (ih ?_)).markOverflow own
        · exact (dropOwner_events _ _).trans (if_neg own)
        · exact (between.dropOwner _).frame rfl rfl rfl rfl rfl

/-- A refused event costs its session everything, and no session else. -/
theorem emit_refused {state : Windows} (forest : Forest state) {id : SurfaceIdentity}
    {event : Event} (known : id.context.session ∈ state.owners)
    (refused : state.Refuses id event) :
    (state.emit id event).Lost id.context.session ∧
      ∀ owner, owner ≠ id.context.session → Endures owner state (state.emit id event) := by
  have whole : Forest (state.emit id event) := forest.emit (.inr known)
  have told := deliver_eq_none_iff.mpr refused
  unfold emit at whole ⊢
  rw [told] at whole ⊢
  dsimp only at whole ⊢
  refine ⟨.of_forest whole (Finset.mem_insert_self _ _), fun owner other => ?_⟩
  refine Endures.markOverflow ?_ (Ne.symm other)
  have dropped : Bystands owner state (state.dropOwner id.context.session) :=
    .dropOwner forest (Ne.symm other)
  have between := forest.dropOwner id.context.session
  unfold revokeOwner
  dsimp only
  cases (state.dropOwner id.context.session).focusOwnedBy id.context.session with
  | false => exact .inl dropped
  | true =>
      have cleared := dropped.trans (.focus _ none)
      refine cleared.endures ?_
        ((refocusWithin_handsOn _ _).endures (between.frame rfl rfl rfl rfl rfl))
      exact (dropOwner_events _ _).trans (if_neg (Ne.symm other))

/-- An event that is not refused is queued, or its window is gone. -/
theorem emit_accepted {state : Windows} (forest : Forest state) {id : SurfaceIdentity}
    {event : Event} (accepted : ¬ state.Refuses id event) :
    ¬ state.Live id ∧ state.emit id event = state ∨
      ∃ (window : Window) (queue full : List WindowEvent), state.windows[id]? = some window ∧
        state.events[id.context.session]? = some queue ∧
        enqueue queue (stamp window id event) = some full ∧
        state.emit id event = state.push id.context.session full (stamp window id event) := by
  unfold emit
  cases told : state.deliver id event with
  | none => exact absurd (deliver_eq_none_iff.mp told) accepted
  | some after =>
      rcases deliver_eq_some told with ⟨rfl, absent⟩ | queued
      · refine .inl ⟨fun live => ?_, rfl⟩
        obtain ⟨queue, served⟩ := forest.served id live
        rcases absent with gone | gone
        · exact not_live_iff.mpr gone live
        · cases gone.symm.trans served
      · exact .inr queued

/-! ## Reports -/

/-- A session that is marked has no queue until it is revoked or reported. -/
theorem step_unserved {state : Windows} (forest : Forest state) {operation : Operation}
    {owner : SessionIdentity} (marked : owner ∈ state.overflowed) :
    (windowsStep state operation).2.events[owner]? = none := by
  have gone := forest.disjoint owner marked
  have effect := windowsStep_effect forest operation
  generalize (windowsStep state operation).2 = after at effect
  cases effect with
  | moved moves =>
      obtain ⟨notes, -, unserved, -⟩ := moves.feeds owner
      exact (unserved gone).1
  | @created id generation options _ _ admitted moves =>
      obtain ⟨notes, -, unserved, -⟩ := moves.feeds owner
      refine (unserved ?_).1
      have apart : id.context.session ≠ owner := by
        rintro rfl
        exact (Forest.admitCreate_ok admitted).accepted marked
      rw [Forest.insertWindow_events, if_neg fun both => apart both.1]
      exact gone
  | updated _ _ _ _ moves =>
      obtain ⟨notes, -, unserved, -⟩ := moves.feeds owner
      exact (unserved gone).1
  | released _ _ => exact gone
  | unfocused _ sheds => exact sheds.unserved gone
  | @tookEvent other _ =>
      unfold takeEvent
      cases served : state.events[other]? with
      | none => exact gone
      | some queue =>
          have apart : other ≠ owner := by
            rintro rfl
            cases gone.symm.trans served
          dsimp only
          split
          · rw [OrderedMap.lookup_erase, if_neg apart, OrderedMap.lookup_insert, if_neg apart]
            exact gone
          · rw [OrderedMap.lookup_insert, if_neg apart]
            exact gone
  | tookOverflow _ => exact gone

/-- A mark stays until the session is revoked or reported. -/
theorem step_overflowed {state : Windows} (forest : Forest state) {operation : Operation}
    {owner : SessionIdentity} (marked : owner ∈ state.overflowed)
    (notRevoked : operation ≠ .revokeOwner owner)
    (notReported : operation ≠ .takeOverflow owner) :
    owner ∈ (windowsStep state operation).2.overflowed := by
  by_cases taken : operation = .takeEvent owner
  · subst taken
    show owner ∈ (state.takeEvent owner).2.overflowed
    obtain ⟨events, same⟩ := takeEvent_eq state owner
    rw [same]
    exact marked
  · have listed := step_listed forest (mem_owners.mpr (.inr marked)) notRevoked notReported taken
    rcases mem_owners.mp listed with ⟨queue, served⟩ | kept
    · rw [step_unserved forest marked] at served
      cases served
    · exact kept

/-- A step in which a session overflows. -/
def Overflowing (owner : SessionIdentity) (event : Transition.Event Windows Operation Answer) :
    Prop :=
  owner ∉ event.before.overflowed ∧ owner ∈ event.after.overflowed

/-- A step in which a session overflows, is revoked or is reported. -/
def Concerns (owner : SessionIdentity) (event : Transition.Event Windows Operation Answer) :
    Prop :=
  Overflowing owner event ∨ event.input = .revokeOwner owner ∨
    event.input = .takeOverflow owner

/-- A session is marked if it overflowed and was neither revoked nor reported since. -/
theorem marked_iff (owner : SessionIdentity) (inputs : List Operation) :
    owner ∈ (windowsRuns.final Windows.default inputs).overflowed ↔
      ∃ event since, Latest (Concerns owner) (windowsRuns.history Windows.default inputs)
        event since ∧ Overflowing owner event := by
  induction inputs using List.reverseRecOn with
  | nil =>
      refine ⟨fun marked => absurd marked (Finset.notMem_empty _), ?_⟩
      rintro ⟨event, since, latest, -⟩
      exact absurd latest.mem List.not_mem_nil
  | append_singleton inputs operation ih =>
      rw [windowsRuns.history_snoc, windowsRuns.final_snoc]
      have forest := forest_final inputs
      generalize windowsRuns.history Windows.default inputs = past at ih ⊢
      generalize windowsRuns.final Windows.default inputs = state at ih forest ⊢
      by_cases overflowing : Overflowing owner (windowsRuns.event state operation)
      · refine ⟨fun _ => ⟨_, [], latest_snoc_self past (.inl overflowing), overflowing⟩,
          fun _ => overflowing.2⟩
      by_cases ends : operation = .revokeOwner owner ∨ operation = .takeOverflow owner
      · have cleared : owner ∉ (windowsStep state operation).2.overflowed := by
          rcases ends with rfl | rfl
          · intro marked
            have listed : owner ∈ (state.revokeOwner owner).owners := mem_owners.mpr (.inr marked)
            rw [revokeOwner_owners] at listed
            exact (Finset.mem_erase.mp listed).1 rfl
          · exact Finset.notMem_erase owner _
        refine ⟨fun marked => absurd marked cleared, ?_⟩
        rintro ⟨event, since, latest, overflowed⟩
        rcases latest.of_snoc with rfl | ⟨quiet, -⟩
        · exact absurd overflowed overflowing
        · exact absurd (.inr ends) quiet
      · have quiet : ¬ Concerns owner (windowsRuns.event state operation) :=
          fun concerned => concerned.elim overflowing ends
        rw [not_or] at ends
        have kept : owner ∈ (windowsStep state operation).2.overflowed ↔
            owner ∈ state.overflowed :=
          ⟨fun marked => by_contra fun before => overflowing ⟨before, marked⟩,
            fun marked => step_overflowed forest marked ends.1 ends.2⟩
        refine (kept.trans ih).trans ⟨?_, ?_⟩
        · rintro ⟨event, since, latest, overflowed⟩
          exact ⟨event, _, latest.snoc quiet, overflowed⟩
        · rintro ⟨event, since, latest, overflowed⟩
          rcases latest.of_snoc with rfl | ⟨-, sooner, -, before⟩
          · exact absurd overflowed overflowing
          · exact ⟨event, sooner, before, overflowed⟩

/-! ## Runs -/

/-- Until a session is revoked its events are handed out or queued, in order, but
for those that the next one replaced; a window is told its revisions in order; a
refused event costs its session everything and no session else; and a session
that overflowed is reported once. -/
theorem events_kept :
    (∀ (owner : SessionIdentity) (past middle : List Operation),
      (windowsRuns.final Windows.default past).events[owner]? = none →
      (∀ event ∈ windowsRuns.history (windowsRuns.final Windows.default past) middle,
        event.input ≠ .revokeOwner owner ∧ owner ∉ event.after.overflowed) →
      ∃ notes,
        (windowsRuns.final Windows.default (past ++ middle)).journal =
            (windowsRuns.final Windows.default past).journal ++ notes ∧
          Coalesced Superseded (sessionEvents owner notes)
            (handed owner
                (windowsRuns.history (windowsRuns.final Windows.default past) middle) ++
              (windowsRuns.final Windows.default (past ++ middle)).queueOf owner)) ∧
      (∀ inputs id, ((windowsRuns.final Windows.default inputs).told id).Pairwise
        WindowEvent.NotLater) ∧
      (∀ inputs, Forest (windowsRuns.final Windows.default inputs)) ∧
      (∀ state, Forest state → ∀ id event, id.context.session ∈ state.owners →
        (state.Refuses id event →
          (state.emit id event).Lost id.context.session ∧
            ∀ owner, owner ≠ id.context.session → Endures owner state (state.emit id event)) ∧
          (¬ state.Refuses id event →
            ¬ state.Live id ∧ state.emit id event = state ∨
              ∃ (window : Window) (queue full : List WindowEvent),
                state.windows[id]? = some window ∧
                state.events[id.context.session]? = some queue ∧
                enqueue queue (stamp window id event) = some full ∧
                state.emit id event =
                  state.push id.context.session full (stamp window id event))) ∧
      ∀ inputs owner,
        ((windowsRuns.final Windows.default inputs).takeOverflow owner).1 = true ↔
          ∃ event since, Latest (Concerns owner)
            (windowsRuns.history Windows.default inputs) event since ∧
              Overflowing owner event := by
  refine ⟨run_delivers, fun inputs => (stamped_final inputs).ordered, forest_final, ?_, ?_⟩
  · intro state forest id event known
    exact ⟨emit_refused forest known, emit_accepted forest⟩
  · intro inputs owner
    exact decide_eq_true_iff.trans (marked_iff owner inputs)

/-- A region that takes input, everywhere. -/
def sampleTouch : SurfaceIdentity → Point → Option HitRegion := fun _ _ => some ⟨1, .input, none⟩

/-- Motion without a button at a point of the diagonal of a window. -/
def sampleHovering (place : Scalar) : Operation :=
  .pointer { sampleReport place true with button := none, clicks := 0 } sampleTouch

/-- A window that takes the focus and is told of two motions before its producer asks again. -/
def sampleWander : List Operation :=
  [.create (sampleSurface 1 1) 1 (sampleOptions .popup),
    .takeEvent (sampleSurface 1 1).context.session, sampleHovering sampleNear,
    sampleHovering .ONE, .takeEvent (sampleSurface 1 1).context.session]

/-- The second motion replaces the first, and nothing else is missing. -/
theorem events_kept_motion :
    let owner := (sampleSurface 1 1).context.session
    let final := windowsRuns.final Windows.default sampleWander
    let told := handed owner (windowsRuns.history Windows.default sampleWander) ++
      final.queueOf owner
    Coalesced Superseded (sessionEvents owner final.journal) told ∧
      told.length + 1 = (sessionEvents owner final.journal).length := by
  refine ⟨?_, by decide +kernel⟩
  have unmarked : ∀ event ∈ windowsRuns.history Windows.default sampleWander,
      (sampleSurface 1 1).context.session ∉ event.after.overflowed := by decide +kernel
  have unrevoked : ∀ event ∈ windowsRuns.history Windows.default sampleWander,
      event.input ≠ .revokeOwner (sampleSurface 1 1).context.session := by
    intro event inside
    simp only [sampleWander, sampleHovering, Machine.history, List.mem_cons, List.not_mem_nil,
      or_false] at inside
    rcases inside with rfl | rfl | rfl | rfl | rfl <;>
      · intro same
        cases same
  obtain ⟨notes, journal, kept⟩ := events_kept.1 (sampleSurface 1 1).context.session []
    sampleWander rfl fun event inside => ⟨unrevoked event inside, unmarked event inside⟩
  change (windowsRuns.final Windows.default sampleWander).journal = [] ++ notes at journal
  rw [journal]
  exact kept

end VividProtocol.Overlay

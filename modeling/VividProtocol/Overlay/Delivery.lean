import Mathlib.Tactic
import VividProtocol.Overlay.Queue

/-!
# No event is lost

The events of a session that was not revoked are handed out or queued, but for
those that a later one replaced; a window's events carry its revisions in order;
and an event that is refused costs its session everything, and no other session.
-/

set_option autoImplicit false

namespace VividProtocol.Overlay

open VividProtocol.Library
open VividProtocol.Library.OrderedForest
open VividProtocol.Library.Transition

open Windows

/-- The queue of a session, empty if it has none. -/
def Windows.queueOf (state : Windows) (owner : SessionIdentity) : List WindowEvent :=
  (state.events[owner]?).getD []

/-- What a call hands out to a session. -/
def handedBy (owner : SessionIdentity) (event : Transition.Event Windows Operation Answer) :
    Option WindowEvent :=
  match event.input, event.output with
  | .takeEvent other, .taken taken => if other = owner then taken else none
  | _, _ => none

/-- What a session was handed out, in order. -/
def handed (owner : SessionIdentity)
    (history : List (Transition.Event Windows Operation Answer)) : List WindowEvent :=
  history.filterMap (handedBy owner)

theorem handedBy_eq_none {owner : SessionIdentity}
    {event : Transition.Event Windows Operation Answer}
    (other : event.input ≠ .takeEvent owner) : handedBy owner event = none := by
  obtain ⟨before, input, output, after⟩ := event
  unfold handedBy
  cases input with
  | takeEvent owner' =>
      cases output with
      | taken taken => exact if_neg fun same => other (congrArg Operation.takeEvent same)
      | _ => rfl
  | _ => rfl

/-! ## One step -/

/-- Between two states the queue of a session grew by what the journal notes,
and what was handed out is missing at its front. -/
def Delivers (owner : SessionIdentity) (before after : Windows) (taken : List WindowEvent) :
    Prop :=
  ∃ notes, after.journal = before.journal ++ notes ∧
    ∀ emitted out, Coalesced Superseded emitted (out ++ before.queueOf owner) →
      Coalesced Superseded (emitted ++ sessionEvents owner notes)
        (out ++ taken ++ after.queueOf owner)

theorem Feeds.delivers {owner : SessionIdentity} {before after : Windows}
    (feeds : Feeds owner before after)
    (kept : ∀ queue : List WindowEvent, before.events[owner]? = some queue →
      ∃ full : List WindowEvent, after.events[owner]? = some full) :
    Delivers owner before after [] := by
  obtain ⟨notes, grown, unserved, served⟩ := feeds
  refine ⟨notes, grown, fun emitted out coalesced => ?_⟩
  unfold queueOf at coalesced ⊢
  rw [List.append_nil]
  cases had : before.events[owner]? with
  | none =>
      obtain ⟨gone, nothing⟩ := unserved had
      rw [had] at coalesced
      rw [gone, nothing, List.append_nil]
      exact coalesced
  | some queue =>
      obtain ⟨full, has⟩ := kept queue had
      obtain ⟨start, found, extends_⟩ := served full has
      rw [had, Option.some.injEq] at found
      subst found
      rw [had, Option.getD_some] at coalesced
      rw [has, Option.getD_some]
      exact extends_ emitted out coalesced

theorem Delivers.frame {owner : SessionIdentity} {before after : Windows}
    (events : after.events[owner]? = before.events[owner]?)
    (journal : after.journal = before.journal) : Delivers owner before after [] := by
  refine ⟨[], by rw [journal, List.append_nil], fun emitted out coalesced => ?_⟩
  unfold queueOf at coalesced ⊢
  rw [events, List.append_nil, show sessionEvents owner [] = [] from rfl, List.append_nil]
  exact coalesced

/-- A new window begins no queue that is not empty. -/
theorem insertWindow_delivers (state : Windows) (owner : SessionIdentity) (id : SurfaceIdentity)
    (generation : UInt64) (options : WindowOptions) :
    Delivers owner state (state.insertWindow id generation options) [] := by
  refine ⟨[.created id], rfl, fun emitted out coalesced => ?_⟩
  have queue : (state.insertWindow id generation options).queueOf owner =
      state.queueOf owner := by
    unfold queueOf
    rw [Forest.insertWindow_events]
    by_cases fresh : id.context.session = owner ∧ state.events[owner]? = none
    · rw [if_pos fresh, fresh.2]
      rfl
    · rw [if_neg fresh]
  rw [queue, List.append_nil, show sessionEvents owner [.created id] = [] from rfl,
    List.append_nil]
  exact coalesced

theorem Delivers.trans {owner : SessionIdentity} {before middle after : Windows}
    (first : Delivers owner before middle []) (second : Delivers owner middle after []) :
    Delivers owner before after [] := by
  obtain ⟨sooner, grown, extendsFirst⟩ := first
  obtain ⟨later, grownLater, extendsSecond⟩ := second
  refine ⟨sooner ++ later, by rw [grownLater, grown, List.append_assoc],
    fun emitted out coalesced => ?_⟩
  rw [sessionEvents_append, ← List.append_assoc]
  have between := extendsFirst emitted out coalesced
  rw [List.append_nil] at between
  exact extendsSecond _ out between

/-- What `create` inserted stays known while the new window takes the focus. -/
theorem create_listed {state : Windows} {id : SurfaceIdentity} {generation : UInt64}
    {options : WindowOptions} (admitted : state.admitCreate id generation options = .ok ())
    {owner : SessionIdentity} (inserted : owner ∈ (state.insertWindow id generation options).owners) :
    owner ∈ (state.create id generation options).2.owners := by
  unfold create
  rw [admitted]
  cases takesFocus options with
  | false => exact inserted
  | true =>
      rw [if_pos rfl]
      have outcome := (state.insertWindow id generation options).requestFocus_outcome id
      generalize (state.insertWindow id generation options).requestFocus id = answer at outcome
      cases outcome with
      | refused _ _ => exact inserted
      | taken _ =>
          show owner ∈ ((state.insertWindow id generation options).takeFocus id).owners
          unfold takeFocus
          rw [changeFocus_owners]
          exact inserted

theorem takeEvent_delivers (state : Windows) (owner : SessionIdentity) :
    Delivers owner state (state.takeEvent owner).2 (state.takeEvent owner).1.toList := by
  unfold takeEvent
  cases had : state.events[owner]? with
  | none => exact .frame rfl rfl
  | some queue =>
      have split : queue.head?.toList ++ queue.tail = queue := by
        cases queue with
        | nil => rfl
        | cons head tail => rfl
      have popped : ∀ after : Windows, after.journal = state.journal →
          after.queueOf owner = queue.tail →
          Delivers owner state after queue.head?.toList := by
        intro after journal left
        refine ⟨[], by rw [journal, List.append_nil], fun emitted out coalesced => ?_⟩
        rw [left, show sessionEvents owner [] = [] from rfl, List.append_nil, List.append_assoc,
          split]
        unfold queueOf at coalesced
        rw [had, Option.getD_some] at coalesced
        exact coalesced
      dsimp only
      by_cases last : queue.tail.isEmpty = true ∧ ¬ state.windows.keys.any (ownedBy owner) = true
      · rw [if_pos last]
        refine popped _ rfl ?_
        unfold queueOf
        rw [OrderedMap.lookup_erase, if_pos rfl]
        exact (List.isEmpty_iff.mp last.1).symm
      · rw [if_neg last]
        refine popped _ rfl ?_
        unfold queueOf
        rw [OrderedMap.lookup_insert, if_pos rfl]
        rfl

/-- A step that does not revoke a session delivers to it what it notes. -/
theorem step_delivers {state : Windows} (forest : Forest state) {operation : Operation}
    {owner : SessionIdentity} (notRevoked : operation ≠ .revokeOwner owner)
    (calm : owner ∉ (windowsStep state operation).2.overflowed) :
    Delivers owner state (windowsStep state operation).2
      (handedBy owner (windowsRuns.event state operation)).toList := by
  by_cases takes : operation = .takeEvent owner
  · subst takes
    have same : handedBy owner (windowsRuns.event state (.takeEvent owner)) =
        (state.takeEvent owner).1 := if_pos rfl
    rw [same]
    exact takeEvent_delivers state owner
  rw [handedBy_eq_none takes]
  by_cases reports : operation = .takeOverflow owner
  · subst reports
    exact .frame rfl rfl
  have known : owner ∈ state.owners → ∃ full : List WindowEvent,
      (windowsStep state operation).2.events[owner]? = some full := by
    intro listed
    rcases mem_owners.mp (step_listed forest listed notRevoked reports takes) with
      served | overflowed
    · exact served
    · exact absurd overflowed calm
  have kept : ∀ queue : List WindowEvent, state.events[owner]? = some queue →
      ∃ full : List WindowEvent, (windowsStep state operation).2.events[owner]? = some full :=
    fun queue served => known (mem_owners.mpr (.inl ⟨queue, served⟩))
  have effect := windowsStep_effect forest operation
  generalize reached : (windowsStep state operation).2 = after at effect kept calm
  cases effect with
  | moved moves => exact (moves.feeds owner).delivers kept
  | @updated _ _ _ _ _ _ _ _ _ live _ moves =>
      have set : Feeds owner state after := Feeds.trans (.frame rfl rfl) (moves.feeds owner)
      exact set.delivers kept
  | released _ _ => exact .frame rfl rfl
  | unfocused _ sheds =>
      have cleared := (sheds.feeds owner).trans (.frame rfl rfl)
      exact cleared.delivers kept
  | @tookEvent other asked =>
      have apart : other ≠ owner := fun own => takes (own ▸ asked)
      refine .frame ?_ ?_
      · unfold takeEvent
        cases state.events[other]? with
        | none => rfl
        | some queue =>
            dsimp only
            split
            · rw [OrderedMap.lookup_erase, if_neg apart, OrderedMap.lookup_insert, if_neg apart]
            · rw [OrderedMap.lookup_insert, if_neg apart]
      · obtain ⟨events, same⟩ := takeEvent_eq state other
        rw [same]
  | tookOverflow _ => exact .frame rfl rfl
  | @created id generation options _ asked admitted moves =>
      refine (insertWindow_delivers state owner id generation options).trans
        ((moves.feeds owner).delivers fun queue served => ?_)
      have listed := create_listed admitted (mem_owners.mpr (.inl ⟨queue, served⟩))
      have created : (state.create id generation options).2 = after := by
        rw [← reached, asked]
        rfl
      rw [created] at listed
      rcases mem_owners.mp listed with found | overflowed
      · exact found
      · exact absurd overflowed calm

/-! ## Runs -/

/-- From a state in which a session has no queue, and until it is revoked, what
was handed out and what is still queued is what was queued, coalesced. -/
theorem run_delivers (owner : SessionIdentity) (past middle : List Operation)
    (new : (windowsRuns.final Windows.default past).events[owner]? = none)
    (kept : ∀ event ∈ windowsRuns.history (windowsRuns.final Windows.default past) middle,
      event.input ≠ .revokeOwner owner ∧ owner ∉ event.after.overflowed) :
    ∃ notes,
      (windowsRuns.final Windows.default (past ++ middle)).journal =
          (windowsRuns.final Windows.default past).journal ++ notes ∧
        Coalesced Superseded (sessionEvents owner notes)
          (handed owner
              (windowsRuns.history (windowsRuns.final Windows.default past) middle) ++
            (windowsRuns.final Windows.default (past ++ middle)).queueOf owner) := by
  induction middle using List.reverseRecOn with
  | nil =>
      refine ⟨[], by rw [List.append_nil, List.append_nil], ?_⟩
      unfold queueOf
      rw [List.append_nil, new]
      exact .nil
  | append_singleton middle operation ih =>
      rw [windowsRuns.history_snoc] at kept ⊢
      obtain ⟨notes, grown, coalesced⟩ :=
        ih fun event inside => kept event (List.mem_append_left _ inside)
      obtain ⟨notRevoked, calm⟩ :=
        kept _ (List.mem_append_right _ (List.mem_singleton.mpr rfl))
      rw [← windowsRuns.final_append] at notRevoked calm ⊢
      obtain ⟨more, later, extends_⟩ :=
        @step_delivers _ (forest_final (past ++ middle)) operation owner notRevoked calm
      rw [← List.append_assoc past, windowsRuns.final_snoc]
      refine ⟨notes ++ more, ?_, ?_⟩
      · show (windowsStep _ operation).2.journal = _
        rw [later, grown, List.append_assoc]
      · rw [sessionEvents_append]
        have split : handed owner
            (windowsRuns.history (windowsRuns.final Windows.default past) middle ++
              [windowsRuns.event (windowsRuns.final Windows.default (past ++ middle))
                operation]) =
            handed owner (windowsRuns.history (windowsRuns.final Windows.default past) middle) ++
              (handedBy owner (windowsRuns.event
                (windowsRuns.final Windows.default (past ++ middle)) operation)).toList := by
          unfold handed
          rw [List.filterMap_append]
          congr 1
        rw [split]
        exact extends_ _ _ coalesced

/-! ## Revisions -/

/-- An admitted update makes a later version of the window. -/
theorem updated_later {state : Windows} {id : SurfaceIdentity} {old : Window}
    {generation revision next : UInt64} {options : WindowOptions}
    (admitted : state.admitUpdate id old generation revision options = .ok next) :
    old.Later (updated old options next) where
  identity := rfl
  generation := rfl
  parent := (Forest.admitUpdate_ok admitted).1
  mode := (Forest.admitUpdate_ok admitted).2.1
  revision := by
    obtain ⟨current, more⟩ := admitUpdate_revision admitted
    have moved := checkedAdd_eq_some.mp more
    show old.revision.toNat ≤ next.toNat
    rw [current]
    omega
  sceneRevision := le_refl _

/-- An event was stamped no later than another one. -/
def WindowEvent.NotLater (event next : WindowEvent) : Prop :=
  event.revision ≤ next.revision ∧ event.sceneRevision ≤ next.sceneRevision

/-- What a window was told carries its revisions in order, up to its own. -/
structure Windows.Stamped (state : Windows) : Prop where
  ordered : ∀ id, (state.told id).Pairwise WindowEvent.NotLater
  current : ∀ id window, state.windows[id]? = some window → ∀ event ∈ state.told id,
    event.revision ≤ window.revision ∧ event.sceneRevision ≤ window.sceneRevision

namespace Windows.Stamped

variable {before after : Windows}

/-- Windows are only lost, and nothing is told. -/
theorem frame (stamped : before.Stamped) (journal : after.journal = before.journal)
    (within : ∀ (id : SurfaceIdentity) (window : Window), after.windows[id]? = some window →
      before.windows[id]? = some window) : after.Stamped where
  ordered := fun id => (told_of_journal journal id).symm ▸ stamped.ordered id
  current := fun id window live => by
    rw [told_of_journal journal id]
    exact stamped.current id window (within id window live)

theorem push (stamped : before.Stamped) {owner : SessionIdentity} {full : List WindowEvent}
    {id : SurfaceIdentity} {window : Window} {event : Event}
    (live : before.windows[id]? = some window) :
    (before.push owner full (stamp window id event)).Stamped where
  ordered := fun probe => by
    rw [told_push]
    by_cases same : id = probe
    · subst same
      rw [if_pos rfl, List.pairwise_append]
      refine ⟨stamped.ordered id, List.pairwise_singleton _ _, fun earlier inside last isLast => ?_⟩
      rw [List.mem_singleton.mp isLast]
      exact stamped.current id window live earlier inside
    · rw [if_neg same]
      exact stamped.ordered probe
  current := fun probe other found earlier inside => by
    rw [told_push] at inside
    by_cases same : id = probe
    · subst same
      rw [if_pos rfl, List.mem_append, List.mem_singleton] at inside
      rcases inside with inside | rfl
      · exact stamped.current id other found earlier inside
      · cases live.symm.trans found
        exact ⟨UInt64.le_refl _, UInt64.le_refl _⟩
    · rw [if_neg same] at inside
      exact stamped.current probe other found earlier inside

theorem setWindow (stamped : before.Stamped) {id : SurfaceIdentity} {old window : Window}
    (live : before.windows[id]? = some old) (later : old.Later window) :
    (before.setWindow id window).Stamped where
  ordered := stamped.ordered
  current := fun probe other found earlier inside => by
    rw [Forest.setWindow_lookup] at found
    by_cases same : id = probe
    · subst same
      rw [if_pos rfl, Option.some.injEq] at found
      subst found
      obtain ⟨revision, scene⟩ := stamped.current id old live earlier inside
      exact ⟨le_trans revision later.revision, le_trans scene later.sceneRevision⟩
    · rw [if_neg same] at found
      exact stamped.current probe other found earlier inside

theorem insertWindow (stamped : before.Stamped) (id : SurfaceIdentity) (generation : UInt64)
    (options : WindowOptions) : (before.insertWindow id generation options).Stamped where
  ordered := fun probe => by
    rw [told_insertWindow]
    by_cases same : id = probe
    · rw [if_pos same]
      exact .nil
    · rw [if_neg same]
      exact stamped.ordered probe
  current := fun probe window found earlier inside => by
    rw [told_insertWindow] at inside
    by_cases same : id = probe
    · rw [if_pos same] at inside
      cases inside
    · rw [if_neg same] at inside
      rw [Forest.insertWindow_lookup, if_neg same] at found
      exact stamped.current probe window found earlier inside

theorem sheds {allowed : SurfaceIdentity → Event → Prop} (stamped : before.Stamped)
    (sheds : Sheds allowed before after) : after.Stamped := by
  induction sheds with
  | refl => exact stamped
  | queued _ live _ _ _ _ ih => exact ih.push live
  | @dropped state _ owner ih =>
      have gone : Sheds allowed state (state.dropOwner owner) := .dropped .refl owner
      exact ih.frame (by rw [dropOwner_eq]) fun id window found => gone.window found
  | marked _ _ _ ih => exact ih.frame rfl fun _ _ found => found
  | pointed _ _ _ _ ih => exact ih.frame rfl fun _ _ found => found

theorem moves {allowed : SurfaceIdentity → Event → Prop} (stamped : before.Stamped)
    (moves : Moves allowed before after) : after.Stamped := by
  induction moves with
  | refl => exact stamped
  | shed _ sheds ih => exact ih.sheds sheds
  | forgot _ id ih =>
      refine ih.frame rfl fun probe window found => ?_
      rw [Forest.forget_lookup] at found
      split at found
      · cases found
      · exact found
  | replaced _ live later _ ih => exact ih.setWindow live later
  | restacked _ _ _ ih => exact ih.frame rfl fun _ _ found => found
  | swallowed _ _ _ ih => exact ih.frame rfl fun _ _ found => found

theorem step (stamped : before.Stamped) (forest : Forest before) (operation : Operation) :
    (windowsStep before operation).2.Stamped := by
  have effect := windowsStep_effect forest operation
  generalize (windowsStep before operation).2 = reached at effect
  cases effect with
  | moved moves => exact stamped.moves moves
  | created _ _ moves => exact (stamped.insertWindow _ _ _).moves moves
  | updated _ _ live admitted moves =>
      exact (stamped.setWindow live (updated_later admitted)).moves moves
  | released _ _ => exact stamped.frame rfl fun _ _ found => found
  | unfocused _ sheds => exact (stamped.sheds sheds).frame rfl fun _ _ found => found
  | @tookEvent owner _ =>
      obtain ⟨events, same⟩ := takeEvent_eq before owner
      rw [same]
      exact stamped.frame rfl fun _ _ found => found
  | tookOverflow _ => exact stamped.frame rfl fun _ _ found => found

end Windows.Stamped

theorem stamped_final (inputs : List Operation) :
    (windowsRuns.final Windows.default inputs).Stamped := by
  induction inputs using List.reverseRecOn with
  | nil =>
      exact ⟨fun _ => .nil, fun _ _ _ _ => nofun⟩
  | append_singleton inputs operation ih =>
      rw [windowsRuns.final_snoc]
      exact ih.step (forest_final inputs) operation

end VividProtocol.Overlay

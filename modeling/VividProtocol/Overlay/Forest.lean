import Mathlib.Tactic
import VividProtocol.Library.OrderedForest
import VividProtocol.Overlay.Emit

/-!
# The window forest

What every reachable state keeps: the stack lists the live windows, parents
below their children, and every bound of the source holds.  Under it the bounded
walks `descendant` and `effectively_visible` say what their names say.
-/

set_option autoImplicit false

namespace VividProtocol.Overlay

open VividProtocol.Library
open VividProtocol.Library.OrderedForest

namespace Windows

variable (state : Windows)

def Live (id : SurfaceIdentity) : Prop := ∃ window, state.windows[id]? = some window

/-- The sessions with a queue or with an overflow that was not taken. -/
def owners : Finset SessionIdentity := state.events.keys.toFinset ∪ state.overflowed

/-- Whether a live window is visible by its own options. -/
def shown (id : SurfaceIdentity) : Bool :=
  (state.windows[id]?).any fun window => window.options.visible

/-- A window is live and visible, and so are all its ancestors. -/
def Effective (id : SurfaceIdentity) : Prop :=
  ∀ ancestor, Ancestor state.parent? ancestor id →
    ∃ window, state.windows[ancestor]? = some window ∧ window.options.visible = true

/-- A window is a live modal. -/
def Modal (id : SurfaceIdentity) : Prop :=
  ∃ window, state.windows[id]? = some window ∧ window.options.mode = .modal

/-- The last effectively visible modal of the stack. -/
def TopModal (id : SurfaceIdentity) : Prop :=
  state.Effective id ∧ state.Modal id ∧
    ∀ other, state.Effective other → state.Modal other →
      other = id ∨ [other, id].Sublist state.stack

/-- A window that input may reach. -/
def Eligible (id : SurfaceIdentity) : Prop :=
  state.Effective id ∧ ∀ modal, state.TopModal modal → Ancestor state.parent? modal id

variable {state}

theorem parent?_eq_some {id parent : SurfaceIdentity} :
    state.parent? id = some parent ↔
      ∃ window, state.windows[id]? = some window ∧ window.options.parent = some parent := by
  unfold parent?
  exact Option.bind_eq_some_iff

theorem parent?_of_live {id : SurfaceIdentity} {window : Window}
    (live : state.windows[id]? = some window) : state.parent? id = window.options.parent := by
  unfold parent?
  rw [live, Option.bind_some]

theorem live_of_parent? {id parent : SurfaceIdentity} (link : state.parent? id = some parent) :
    state.Live id := by
  obtain ⟨window, live, -⟩ := parent?_eq_some.mp link
  exact ⟨window, live⟩

theorem not_live_iff {id : SurfaceIdentity} : ¬ state.Live id ↔ state.windows[id]? = none := by
  unfold Live
  cases state.windows[id]? with
  | none => simp
  | some window => simp

theorem mem_owners {owner : SessionIdentity} :
    owner ∈ state.owners ↔
      (∃ queue, state.events[owner]? = some queue) ∨ owner ∈ state.overflowed := by
  unfold owners
  rw [Finset.mem_union, List.mem_toFinset, Std.ExtTreeMap.mem_keys,
    Std.ExtTreeMap.mem_iff_isSome_getElem?, Option.isSome_iff_exists]

theorem shown_eq_true {id : SurfaceIdentity} :
    state.shown id = true ↔
      ∃ window, state.windows[id]? = some window ∧ window.options.visible = true := by
  unfold shown
  rw [Option.any_eq_true]

end Windows

open Windows

/-! ## Losing windows -/

/-- A state whose windows are among those of an earlier one. -/
def Within (base state : Windows) : Prop :=
  ∀ (id : SurfaceIdentity) (window : Window),
    state.windows[id]? = some window → base.windows[id]? = some window

theorem Within.link {base state : Windows} (within : Within base state)
    {child parent : SurfaceIdentity} (link : state.parent? child = some parent) :
    base.parent? child = some parent := by
  obtain ⟨window, found, named⟩ := parent?_eq_some.mp link
  exact parent?_eq_some.mpr ⟨window, within _ _ found, named⟩

theorem Windows.Effective.parent {state : Windows} {child parent : SurfaceIdentity}
    (effective : state.Effective child) (link : state.parent? child = some parent) :
    state.Effective parent :=
  fun ancestor above => effective ancestor (.parent link above)

theorem Within.ancestor {base state : Windows} (within : Within base state)
    {ancestor id : SurfaceIdentity} (above : Ancestor base.parent? ancestor id)
    (effective : state.Effective id) : Ancestor state.parent? ancestor id := by
  induction above using Relation.ReflTransGen.head_induction_on with
  | refl => exact .refl ancestor
  | @head child parent link _ ih =>
      obtain ⟨window, live, -⟩ := effective child (.refl child)
      have same : state.parent? child = some parent := by
        rw [parent?_of_live live, ← parent?_of_live (within child window live), link]
      exact .parent same (ih (effective.parent same))

/-- What is effectively visible was so before other windows were lost. -/
theorem Within.effective {base state : Windows} (within : Within base state)
    {id : SurfaceIdentity} (effective : state.Effective id) : base.Effective id := by
  intro ancestor above
  obtain ⟨window, live, visible⟩ := effective ancestor (within.ancestor above effective)
  exact ⟨window, within _ _ live, visible⟩

theorem Within.modal {base state : Windows} (within : Within base state) {id : SurfaceIdentity}
    (modal : state.Modal id) : base.Modal id := by
  obtain ⟨window, live, mode⟩ := modal
  exact ⟨window, within _ _ live, mode⟩

/-! ## The invariant -/

structure Forest (state : Windows) : Prop where
  listed : ∀ id, id ∈ state.stack ↔ state.Live id
  ordered : Ordered state.parent? state.stack
  named : ∀ (id : SurfaceIdentity) (window : Window), state.windows[id]? = some window → window.identity = id
  family : ∀ child parent, state.parent? child = some parent →
    parent.context.session = child.context.session
  total : state.stack.length ≤ MAX_WINDOWS
  perOwner : ∀ owner, (state.stack.filter (ownedBy owner)).length ≤ MAX_WINDOWS_PER_OWNER
  served : ∀ id, state.Live id → ∃ queue, state.events[id.context.session]? = some queue
  disjoint : ∀ owner ∈ state.overflowed, state.events[owner]? = none
  enlisted : state.owners.card ≤ MAX_OWNERS
  queues : ∀ (owner : SessionIdentity) (queue : List WindowEvent), state.events[owner]? = some queue →
    queue.length ≤ MAX_PENDING_EVENTS ∧ queueBytes queue ≤ MAX_EVENT_QUEUE_BYTES
  history : state.focusHistory.Nodup
  remembered : ∀ id ∈ state.focusHistory, state.Live id

/-- The slots for focus, hover and capture, what is swallowed and the journal
are not part of the forest. -/
theorem Forest.frame {before after : Windows} (forest : Forest before)
    (windows : after.windows = before.windows) (stack : after.stack = before.stack)
    (history : after.focusHistory = before.focusHistory) (events : after.events = before.events)
    (overflowed : after.overflowed = before.overflowed) : Forest after := by
  obtain ⟨afterWindows, afterStack, _, _, afterHistory, _, _, _, afterEvents, afterOverflowed, _⟩ :=
    after
  cases windows
  cases stack
  cases history
  cases events
  cases overflowed
  exact
    { listed := forest.listed
      ordered := forest.ordered
      named := forest.named
      family := forest.family
      total := forest.total
      perOwner := forest.perOwner
      served := forest.served
      disjoint := forest.disjoint
      enlisted := forest.enlisted
      queues := forest.queues
      history := forest.history
      remembered := forest.remembered }

namespace Forest

variable {state : Windows} (forest : Forest state)

include forest

/-! ## Exact walks -/

theorem rank_lt (id : SurfaceIdentity) : rank state.stack id < MAX_WINDOWS :=
  rank_lt_of_length (by decide) forest.total id

omit forest in
theorem descendantWithin_eq (rounds : Nat) (id target : SurfaceIdentity) :
    state.descendantWithin rounds id target =
      reachesWithin state.parent? rounds id target := by
  induction rounds generalizing id with
  | zero => rfl
  | succ rounds ih =>
      unfold descendantWithin reachesWithin
      cases state.parent? id with
      | none => rfl
      | some next => simp only [ih]

theorem descendant_iff (id target : SurfaceIdentity) :
    state.descendant id target = true ↔ Ancestor state.parent? target id := by
  unfold descendant
  rw [descendantWithin_eq]
  exact forest.ordered.reachesWithin_iff target (forest.rank_lt id)

omit forest in
theorem visibleWithin_eq (rounds : Nat) (id : SurfaceIdentity) :
    state.visibleWithin rounds id = allWithin state.shown state.parent? rounds id := by
  induction rounds generalizing id with
  | zero => rfl
  | succ rounds ih =>
      unfold visibleWithin allWithin shown parent?
      cases state.windows[id]? with
      | none => rfl
      | some window =>
          simp only [Option.any_some, Option.bind_some]
          cases window.options.parent with
          | none => rfl
          | some parent =>
              simp only [ih]
              rfl

theorem effectivelyVisible_iff (id : SurfaceIdentity) :
    state.effectivelyVisible id = true ↔ state.Effective id := by
  unfold effectivelyVisible Effective
  rw [visibleWithin_eq, forest.ordered.allWithin_iff (forest.rank_lt id)]
  simp only [shown_eq_true]

/-! ## Modals -/

omit forest in
theorem live_of_effective {id : SurfaceIdentity} (effective : state.Effective id) :
    state.Live id := by
  obtain ⟨window, live, -⟩ := effective id (.refl id)
  exact ⟨window, live⟩

/-- What is visible of a kind, as identities in stack order. -/
theorem visible_filter_map (kind : Window → Bool) :
    (state.visible.filter kind).map Window.identity =
      state.stack.filter fun id => state.effectivelyVisible id && (state.get id).any kind := by
  unfold visible
  induction state.stack with
  | nil => rfl
  | cons id rest ih =>
      cases live : state.get id with
      | none =>
          have hidden : state.effectivelyVisible id = false := by
            rw [Bool.eq_false_iff, ne_eq, forest.effectivelyVisible_iff]
            intro effective
            exact not_live_iff.mpr live (live_of_effective effective)
          rw [List.filterMap_cons_none live, ih, List.filter_cons, hidden]
          simp
      | some window =>
          have same := forest.named id window live
          rw [List.filterMap_cons_some live, List.filter_cons, List.filter_cons, same]
          cases state.effectivelyVisible id with
          | false => simpa using ih
          | true =>
              cases matched : kind window with
              | false => simpa [matched, live] using ih
              | true => simpa [matched, live, same] using ih

theorem topModal_eq_some (id : SurfaceIdentity) :
    state.topModal = some id ↔ state.TopModal id := by
  unfold Windows.topModal Windows.TopModal
  rw [← List.getLast?_map, forest.visible_filter_map,
    getLast?_filter_eq_some forest.ordered.nodup]
  have kind : ∀ other, (state.effectivelyVisible other && (state.get other).any fun window =>
      decide (window.options.mode = .modal)) = true ↔
      state.Effective other ∧ state.Modal other := by
    intro other
    rw [Bool.and_eq_true, forest.effectivelyVisible_iff, Option.any_eq_true]
    simp only [decide_eq_true_eq, Modal, Windows.get]
  simp only [kind]
  constructor
  · rintro ⟨-, ⟨effective, modal⟩, latest⟩
    refine ⟨effective, modal, ?_⟩
    intro other otherEffective otherModal
    exact latest other ((forest.listed other).mpr (live_of_effective otherEffective))
      ⟨otherEffective, otherModal⟩
  · rintro ⟨effective, modal, latest⟩
    refine ⟨(forest.listed id).mpr (live_of_effective effective), ⟨effective, modal⟩, ?_⟩
    intro other _ both
    exact latest other both.1 both.2

theorem topModal_eq_none :
    state.topModal = none ↔ ∀ id, state.Effective id → ¬ state.Modal id := by
  unfold Windows.topModal
  rw [← List.getLast?_map, forest.visible_filter_map, List.getLast?_eq_none_iff,
    List.filter_eq_nil_iff]
  constructor
  · intro none id effective modal
    obtain ⟨window, live, mode⟩ := modal
    refine none id ((forest.listed id).mpr ⟨window, live⟩) ?_
    rw [Bool.and_eq_true, forest.effectivelyVisible_iff]
    exact ⟨effective, by simp [Windows.get, live, mode]⟩
  · intro none id _ both
    rw [Bool.and_eq_true, forest.effectivelyVisible_iff, Option.any_eq_true] at both
    obtain ⟨effective, window, live, mode⟩ := both
    exact none id effective ⟨window, live, of_decide_eq_true mode⟩

theorem eligible_iff (id : SurfaceIdentity) :
    state.eligible id = true ↔ state.Eligible id := by
  unfold Windows.eligible Windows.Eligible
  rw [Bool.and_eq_true, forest.effectivelyVisible_iff]
  refine and_congr_right fun _ => ?_
  cases top : state.topModal with
  | none =>
      have none : ∀ modal, ¬ state.TopModal modal := by
        intro modal isTop
        rw [← forest.topModal_eq_some, top] at isTop
        cases isTop
      simp [none]
  | some modal =>
      have same : ∀ other, state.TopModal other ↔ other = modal := by
        intro other
        rw [← forest.topModal_eq_some, top, Option.some.injEq]
        exact eq_comm
      simp only [Option.all_some, forest.descendant_iff, same, forall_eq]

theorem live_of_eligible {id : SurfaceIdentity} (eligible : state.eligible id = true) :
    state.Live id :=
  live_of_effective ((forest.eligible_iff id).mp eligible).1

/-- Ancestors are windows of the same session. -/
theorem ancestor_session {ancestor id : SurfaceIdentity}
    (above : Ancestor state.parent? ancestor id) :
    ancestor.context.session = id.context.session := by
  have kept : ∀ child parent, state.parent? child = some parent →
      child.context.session = id.context.session → parent.context.session = id.context.session := by
    intro child parent link same
    rw [forest.family child parent link, same]
  exact above.keeps kept rfl

end Forest

end VividProtocol.Overlay

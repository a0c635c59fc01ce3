import Mathlib.Tactic
import VividProtocol.Library.Result
import VividProtocol.Overlay.Effect
import VividProtocol.Overlay.Outcome

/-!
# Every operation keeps the forest

The changes that are not shedding: a window is inserted, replaced, forgotten or
moved in the stack, and queues are read.
-/

set_option autoImplicit false

namespace VividProtocol.Overlay

open VividProtocol.Library
open VividProtocol.Library.OrderedForest
open VividProtocol.Library.Transition
open VividProtocol.Library.Result

open Windows

theorem Forest.default : Forest Windows.default := by
  have empty : ∀ id : SurfaceIdentity, Windows.default.windows[id]? = none :=
    fun _ => Std.ExtTreeMap.getElem?_empty
  have quiet : ∀ owner : SessionIdentity, Windows.default.events[owner]? = none :=
    fun _ => Std.ExtTreeMap.getElem?_empty
  have dead : ∀ id, ¬ Windows.default.Live id := fun id => not_live_iff.mpr (empty id)
  have rootless : ∀ child parent, Windows.default.parent? child ≠ some parent :=
    fun child parent link => dead child (live_of_parent? link)
  constructor
  case listed => exact fun id => iff_of_false List.not_mem_nil (dead id)
  case ordered => exact ⟨List.nodup_nil, fun child parent link => absurd link (rootless _ _)⟩
  case named =>
    intro id window live
    rw [empty] at live
    cases live
  case family => exact fun child parent link => absurd link (rootless _ _)
  case total => decide
  case perOwner => exact fun _ => Nat.zero_le _
  case served => exact fun id live => absurd live (dead id)
  case disjoint => exact fun owner _ => quiet owner
  case enlisted => decide
  case queues =>
    intro owner queue found
    rw [quiet] at found
    cases found
  case history => exact List.nodup_nil
  case remembered => exact fun id inside => absurd inside List.not_mem_nil

namespace Forest

variable {state : Windows} (forest : Forest state)

include forest

/-! ## Counts -/

theorem keys_perm : state.windows.keys.Perm state.stack := by
  rw [List.perm_ext_iff_of_nodup Std.ExtTreeMap.nodup_keys forest.ordered.nodup]
  intro id
  rw [Std.ExtTreeMap.mem_keys, Std.ExtTreeMap.mem_iff_isSome_getElem?, Option.isSome_iff_exists,
    forest.listed id]
  rfl

theorem size_eq : state.windows.size = state.stack.length := by
  rw [← Std.ExtTreeMap.length_keys, forest.keys_perm.length_eq]

theorem ownedCount_eq (owner : SessionIdentity) :
    state.ownedCount owner = (state.stack.filter (ownedBy owner)).length :=
  (forest.keys_perm.filter _).length_eq

theorem owners_card : state.owners.card = state.events.size + state.overflowed.card := by
  have apart : Disjoint state.events.keys.toFinset state.overflowed := by
    rw [Finset.disjoint_right]
    intro owner overflowed inside
    rw [List.mem_toFinset, Std.ExtTreeMap.mem_keys, Std.ExtTreeMap.mem_iff_isSome_getElem?,
      forest.disjoint owner overflowed] at inside
    cases inside
  unfold owners
  rw [Finset.card_union_of_disjoint apart, List.toFinset_card_of_nodup Std.ExtTreeMap.nodup_keys,
    Std.ExtTreeMap.length_keys]

/-! ## The stack -/

theorem restack {stack : List SurfaceIdentity} (perm : stack.Perm state.stack)
    (ordered : Ordered state.parent? stack) : Forest { state with stack := stack } := by
  refine { forest with listed := ?_, ordered := ordered, total := ?_, perOwner := ?_ }
  · intro id
    exact perm.mem_iff.trans (forest.listed id)
  · exact perm.length_eq.trans_le forest.total
  · intro owner
    exact (perm.filter _).length_eq.trans_le (forest.perOwner owner)

omit forest in
theorem outside_eq (id : SurfaceIdentity) :
    state.outside (state.group id) =
      state.stack.filter fun key => ! state.descendant key id := by
  unfold outside
  refine List.filter_congr fun key inside => ?_
  simp [group, inside]

/-- A group is closed under children. -/
theorem group_closed (id : SurfaceIdentity) {child parent : SurfaceIdentity}
    (link : state.parent? child = some parent) (inside : state.descendant parent id = true) :
    state.descendant child id = true := by
  rw [forest.descendant_iff] at inside ⊢
  exact .parent link inside

/-- The only link out of a group is the one of its root. -/
theorem group_link (id : SurfaceIdentity) {child parent : SurfaceIdentity}
    (link : state.parent? child = some parent) (inside : state.descendant child id = true)
    (outside : state.descendant parent id = false) : child = id := by
  rw [forest.descendant_iff] at inside
  rw [Bool.eq_false_iff, ne_eq, forest.descendant_iff] at outside
  rcases ancestor_iff.mp inside with same | ⟨next, step, above⟩
  · exact same
  · rw [link] at step
    cases step
    exact absurd above outside

/-- A group may move to any place above the parent of its root. -/
theorem regroup (id : SurfaceIdentity) (index : Nat)
    (placed : ∀ parent, state.parent? id = some parent →
      state.descendant parent id = false →
      parent ∈ (state.outside (state.group id)).take index) :
    Forest
      { state with
        stack := (state.outside (state.group id)).take index ++ state.group id ++
          (state.outside (state.group id)).drop index } := by
  have perm : (OrderedForest.regroup (fun key => state.descendant key id) index
      state.stack).Perm state.stack := regroup_perm index state.stack
  have ordered := @Ordered.regroup _ _ _ (fun key => state.descendant key id) forest.ordered index
    (fun child parent link => forest.group_closed id link) (by
      intro child parent link inside outside
      have root := forest.group_link id link inside outside
      subst root
      rw [← outside_eq]
      exact placed parent link outside)
  unfold OrderedForest.regroup at perm ordered
  rw [← outside_eq] at perm ordered
  exact forest.restack perm ordered

theorem mem_outside (id : SurfaceIdentity) {parent : SurfaceIdentity}
    (link : state.parent? id = some parent) (outside : state.descendant parent id = false) :
    parent ∈ state.outside (state.group id) := by
  rw [outside_eq, List.mem_filter, outside]
  exact ⟨forest.ordered.parent_mem link, rfl⟩

theorem raiseGroup (id : SurfaceIdentity) : Forest (state.raiseGroup id) := by
  have moved := forest.regroup id (state.outside (state.group id)).length (by
    intro parent link outside
    rw [List.take_length]
    exact forest.mem_outside id link outside)
  rw [List.take_length, List.drop_length, List.append_nil] at moved
  exact moved

theorem lowerGroup (id : SurfaceIdentity) : Forest (state.lowerGroup id) := by
  refine forest.regroup id _ ?_
  intro parent link outside
  have present := forest.mem_outside id link outside
  rw [link, Option.bind_some]
  cases found : (state.outside (state.group id)).findIdx? fun key => decide (key = parent) with
  | none =>
      rw [List.findIdx?_eq_none_iff] at found
      exact absurd (found parent present) (by simp)
  | some position =>
      obtain ⟨bound, matched, -⟩ := List.findIdx?_eq_some_iff_getElem.mp found
      rw [List.mem_take_iff_getElem]
      refine ⟨position, by simp only; omega, ?_⟩
      simpa using matched

/-! ## Windows -/

omit forest in
theorem setWindow_lookup (id probe : SurfaceIdentity) (window : Window) :
    (state.setWindow id window).windows[probe]? =
      if id = probe then some window else state.windows[probe]? :=
  OrderedMap.lookup_insert _ _ _ _

omit forest in
theorem setWindow_live {id : SurfaceIdentity} (live : state.Live id) (window : Window)
    (probe : SurfaceIdentity) : (state.setWindow id window).Live probe ↔ state.Live probe := by
  unfold Live
  rw [setWindow_lookup]
  by_cases same : id = probe
  · subst same
    exact iff_of_true ⟨window, if_pos rfl⟩ live
  · rw [if_neg same]

omit forest in
theorem setWindow_parent? {id : SurfaceIdentity} {old window : Window}
    (live : state.windows[id]? = some old) (parent : window.options.parent = old.options.parent) :
    (state.setWindow id window).parent? = state.parent? := by
  funext probe
  unfold parent?
  rw [setWindow_lookup]
  by_cases same : id = probe
  · subst same
    rw [if_pos rfl, live, Option.bind_some, Option.bind_some, parent]
  · rw [if_neg same]

/-- A live window may be replaced by one with the same identity and parent. -/
theorem setWindow {id : SurfaceIdentity} {old window : Window}
    (live : state.windows[id]? = some old) (identity : window.identity = old.identity)
    (parent : window.options.parent = old.options.parent) :
    Forest (state.setWindow id window) := by
  have alive := setWindow_live ⟨old, live⟩ window
  have links := setWindow_parent? live parent
  refine { forest with
    listed := ?_, ordered := ?_, named := ?_, family := ?_, served := ?_, remembered := ?_ }
  · exact fun probe => (forest.listed probe).trans (alive probe).symm
  · rw [links]
    exact forest.ordered
  · intro probe other found
    rw [setWindow_lookup] at found
    by_cases same : id = probe
    · subst same
      rw [if_pos rfl, Option.some.injEq] at found
      rw [← found, identity]
      exact forest.named id old live
    · rw [if_neg same] at found
      exact forest.named probe other found
  · rw [links]
    exact forest.family
  · exact fun probe found => forest.served probe ((alive probe).mp found)
  · exact fun probe inside => (alive probe).mpr (forest.remembered probe inside)

omit forest in
theorem forget_lookup (id probe : SurfaceIdentity) :
    (state.forget id).windows[probe]? = if id = probe then none else state.windows[probe]? :=
  OrderedMap.lookup_erase _ _ _

/-- A window without live children may be forgotten. -/
theorem forget {id : SurfaceIdentity}
    (childless : ∀ child, state.parent? child ≠ some id) : Forest (state.forget id) := by
  have live : ∀ probe, (state.forget id).Live probe ↔ state.Live probe ∧ probe ≠ id := by
    intro probe
    unfold Live
    rw [forget_lookup]
    by_cases same : id = probe
    · simp [same]
    · simp [same, Ne.symm same]
  have link : ∀ child parent, (state.forget id).parent? child = some parent →
      state.parent? child = some parent ∧ child ≠ id := by
    intro child parent found
    have kept := ((live child).mp (live_of_parent? found)).2
    unfold parent? at found
    rw [forget_lookup, if_neg (Ne.symm kept)] at found
    exact ⟨found, kept⟩
  constructor
  case listed =>
    intro probe
    rw [live, ← forest.listed]
    simp [Windows.forget, remove]
  case ordered =>
    refine forest.ordered.restrict (fun key => decide (key ≠ id)) ?_
    intro child parent found
    obtain ⟨before, kept⟩ := link child parent found
    have root : parent ≠ id := by
      rintro rfl
      exact childless child before
    exact ⟨before, decide_eq_true kept, decide_eq_true root⟩
  case named =>
    intro probe window found
    rw [forget_lookup] at found
    by_cases same : id = probe
    · simp [same] at found
    · rw [if_neg same] at found
      exact forest.named probe window found
  case family => exact fun child parent found => forest.family child parent (link _ _ found).1
  case total => exact le_trans (List.length_filter_le _ _) forest.total
  case perOwner =>
    intro owner
    exact le_trans ((List.filter_sublist.filter _).length_le) (forest.perOwner owner)
  case served => exact fun probe found => forest.served probe ((live probe).mp found).1
  case disjoint => exact forest.disjoint
  case enlisted => exact forest.enlisted
  case queues => exact forest.queues
  case history => exact forest.history.filter _
  case remembered =>
    intro probe inside
    obtain ⟨before, kept⟩ := List.mem_filter.mp inside
    exact (live probe).mpr ⟨forest.remembered probe before, of_decide_eq_true kept⟩

theorem remember {id : SurfaceIdentity} (live : state.Live id) : Forest (state.remember id) := by
  refine { forest with history := ?_, remembered := ?_ }
  · refine List.nodup_append.mpr ⟨forest.history.filter _, by simp, ?_⟩
    intro first inside second single
    rw [List.mem_singleton.mp single]
    exact of_decide_eq_true (List.mem_filter.mp inside).2
  · intro probe inside
    rcases List.mem_append.mp inside with inside | single
    · exact forest.remembered probe (List.mem_filter.mp inside).1
    · rw [List.mem_singleton.mp single]
      exact live

/-! ## Creation -/

omit forest in
/-- What `create` has checked before it inserts a window. -/
structure Admitted (state : Windows) (id : SurfaceIdentity) (options : WindowOptions) :
    Prop where
  fresh : ¬ state.Live id
  accepted : id.context.session ∉ state.overflowed
  room : state.events.contains id.context.session = true ∨
    state.events.size + state.overflowed.card < MAX_OWNERS
  total : state.windows.size < MAX_WINDOWS
  perOwner : state.ownedCount id.context.session < MAX_WINDOWS_PER_OWNER
  parent : ∀ parent, options.parent = some parent →
    parent.context.session = id.context.session ∧ state.Live parent
  modal : options.visible = true → options.mode = .modal →
    state.modalOfAnother id.context.session = false
  popup : takesFocus options = true → options.mode = .popup →
    ∀ modal, state.topModal = some modal →
      ∃ parent, options.parent = some parent ∧ state.descendant parent modal = true

omit forest in
theorem contains_eq_false {id : SurfaceIdentity} :
    state.windows.contains id = false ↔ ¬ state.Live id := by
  rw [not_live_iff, Std.ExtTreeMap.contains_eq_isSome_getElem?, Option.isSome_eq_false_iff,
    Option.isNone_iff_eq_none]

omit forest in
theorem admitCreate_ok {id : SurfaceIdentity} {generation : UInt64} {options : WindowOptions}
    (admitted : state.admitCreate id generation options = .ok ()) :
    Admitted state id options := by
  unfold admitCreate at admitted
  rw [bind_eq_ok_iff] at admitted
  obtain ⟨-, -, admitted⟩ := admitted
  simp only [ite_error_eq_ok_iff] at admitted
  obtain ⟨-, fresh, accepted, room, counts, parent, modal, popup, -⟩ := admitted
  refine
    { fresh := contains_eq_false.mp (Bool.eq_false_iff.mpr fresh)
      accepted := accepted
      room := ?_
      total := by omega
      perOwner := by omega
      parent := ?_
      modal := ?_
      popup := ?_ }
  · by_cases known : state.events.contains id.context.session = true
    · exact .inl known
    · exact .inr (not_le.mp fun full => room ⟨known, full⟩)
  · intro ancestor named
    rw [named, Option.any_some, Bool.or_eq_true, not_or] at parent
    obtain ⟨owned, alive⟩ := parent
    constructor
    · simpa [ownedBy] using owned
    · by_contra dead
      rw [contains_eq_false.mpr dead] at alive
      exact alive rfl
  · intro visible mode
    by_contra blocked
    exact modal ⟨visible, mode, Bool.not_eq_false _ ▸ blocked⟩
  · intro takes mode top isTop
    by_contra outside
    refine popup ⟨takes, mode, ?_⟩
    rw [isTop, Option.any_some, Bool.not_eq_true', Bool.eq_false_iff, ne_eq, Option.any_eq_true]
    rintro ⟨parent, named, descends⟩
    exact outside ⟨parent, named, descends⟩

omit forest in
theorem insertWindow_lookup (id probe : SurfaceIdentity) (generation : UInt64)
    (options : WindowOptions) :
    (state.insertWindow id generation options).windows[probe]? =
      if id = probe then
        some
          { identity := id
            generation := generation
            revision := 1
            sceneRevision := 0
            options := options }
      else state.windows[probe]? :=
  OrderedMap.lookup_insert _ _ _ _

omit forest in
theorem insertWindow_events (id : SurfaceIdentity) (owner : SessionIdentity)
    (generation : UInt64) (options : WindowOptions) :
    (state.insertWindow id generation options).events[owner]? =
      if id.context.session = owner ∧ state.events[owner]? = none then some []
      else state.events[owner]? := by
  unfold insertWindow
  dsimp only
  cases known : state.events.contains id.context.session with
  | true =>
      rw [if_pos rfl]
      rw [Std.ExtTreeMap.contains_eq_isSome_getElem?] at known
      by_cases same : id.context.session = owner
      · subst same
        rw [if_neg]
        rintro ⟨-, absent⟩
        rw [absent] at known
        cases known
      · rw [if_neg fun both => same both.1]
  | false =>
      rw [if_neg (by decide), OrderedMap.lookup_insert]
      rw [Std.ExtTreeMap.contains_eq_isSome_getElem?, Option.isSome_eq_false_iff,
        Option.isNone_iff_eq_none] at known
      by_cases same : id.context.session = owner
      · subst same
        rw [if_pos rfl, if_pos ⟨rfl, known⟩]
      · rw [if_neg same, if_neg fun both => same both.1]

theorem insertWindow {id : SurfaceIdentity} {options : WindowOptions} (generation : UInt64)
    (admitted : Admitted state id options) :
    Forest (state.insertWindow id generation options) := by
  have absent := not_live_iff.mp admitted.fresh
  have unlisted : id ∉ state.stack := fun inside => admitted.fresh ((forest.listed id).mp inside)
  have live : ∀ probe, (state.insertWindow id generation options).Live probe ↔
      probe = id ∨ state.Live probe := by
    intro probe
    unfold Live
    rw [insertWindow_lookup]
    by_cases same : id = probe
    · simp [same]
    · simp [same, Ne.symm same]
  have link : ∀ child parent,
      (state.insertWindow id generation options).parent? child = some parent →
      state.parent? child = some parent ∨ child = id ∧ options.parent = some parent := by
    intro child parent found
    unfold parent? at found
    rw [insertWindow_lookup] at found
    by_cases same : id = child
    · rw [if_pos same, Option.bind_some] at found
      exact .inr ⟨same.symm, found⟩
    · rw [if_neg same] at found
      exact .inl found
  constructor
  case listed =>
    intro probe
    rw [live, ← forest.listed]
    simp [Windows.insertWindow, or_comm]
  case ordered =>
    refine forest.ordered.push unlisted ?_
    intro child parent found
    rcases link child parent found with before | ⟨same, named⟩
    · exact .inl before
    · exact .inr ⟨same, (forest.listed parent).mpr (admitted.parent parent named).2⟩
  case named =>
    intro probe window found
    rw [insertWindow_lookup] at found
    by_cases same : id = probe
    · rw [if_pos same, Option.some.injEq] at found
      rw [← found]
      exact same
    · rw [if_neg same] at found
      exact forest.named probe window found
  case family =>
    intro child parent found
    rcases link child parent found with before | ⟨rfl, named⟩
    · exact forest.family child parent before
    · exact (admitted.parent parent named).1
  case total =>
    have room := admitted.total
    rw [forest.size_eq] at room
    simpa [Windows.insertWindow] using room
  case perOwner =>
    intro owner
    have room := admitted.perOwner
    rw [forest.ownedCount_eq] at room
    have rest := forest.perOwner owner
    unfold Windows.insertWindow
    rw [List.filter_append, List.length_append]
    by_cases owned : ownedBy owner id = true
    · have same : id.context.session = owner := of_decide_eq_true owned
      rw [same] at room
      simpa [owned] using room
    · simpa [owned] using rest
  case served =>
    intro probe found
    rw [insertWindow_events]
    by_cases fresh : id.context.session = probe.context.session ∧
        state.events[probe.context.session]? = none
    · exact ⟨[], if_pos fresh⟩
    · rw [if_neg fresh]
      rcases (live probe).mp found with rfl | before
      · cases served : state.events[probe.context.session]? with
        | some queue => exact ⟨queue, rfl⟩
        | none => exact absurd ⟨rfl, served⟩ fresh
      · exact forest.served probe before
  case disjoint =>
    intro owner overflowed
    have other : id.context.session ≠ owner := by
      rintro rfl
      exact admitted.accepted overflowed
    rw [insertWindow_events, if_neg fun both => other both.1]
    exact forest.disjoint owner overflowed
  case enlisted =>
    have listed : (state.insertWindow id generation options).owners ⊆
        insert id.context.session state.owners := by
      intro owner inside
      rw [mem_owners, insertWindow_events] at inside
      rw [Finset.mem_insert, mem_owners]
      by_cases same : id.context.session = owner
      · exact .inl same.symm
      · rw [if_neg fun both => same both.1] at inside
        exact .inr inside
    rcases admitted.room with known | room
    · have known : id.context.session ∈ state.owners := by
        rw [Std.ExtTreeMap.contains_eq_isSome_getElem?, Option.isSome_iff_exists] at known
        exact mem_owners.mpr (.inl known)
      rw [Finset.insert_eq_of_mem known] at listed
      exact le_trans (Finset.card_le_card listed) forest.enlisted
    · rw [← forest.owners_card] at room
      exact le_trans (Finset.card_le_card listed) (le_trans (Finset.card_insert_le _ _) room)
  case queues =>
    intro owner queue found
    rw [insertWindow_events] at found
    by_cases fresh : id.context.session = owner ∧ state.events[owner]? = none
    · rw [if_pos fresh, Option.some.injEq] at found
      rw [← found]
      exact ⟨Nat.zero_le _, Nat.zero_le _⟩
    · rw [if_neg fresh] at found
      exact forest.queues owner queue found
  case history => exact forest.history
  case remembered => exact fun probe inside => (live probe).mpr (.inr (forest.remembered _ inside))

/-! ## Focus and closing -/

theorem shed {allowed : SurfaceIdentity → Event → Prop} {after : Windows}
    (sheds : Sheds allowed state after) : Forest after :=
  sheds.forest forest

theorem takeFocus {id : SurfaceIdentity} (live : state.Live id) :
    Forest (state.takeFocus id) :=
  ((forest.raiseGroup id).remember live).shed (changeFocus_sheds (fun _ _ _ => trivial) _ _)

theorem removeOne {id : SurfaceIdentity} (reason : DismissReason)
    (childless : ∀ child, state.parent? child ≠ some id) :
    Forest (state.removeOne id reason) := by
  have sheds : Sheds (fun _ _ => True) state (state.dismiss id reason) :=
    dismiss_sheds (fun _ _ _ => trivial) state id reason
  exact (forest.shed sheds).forget fun child link => childless child (sheds.link link)

omit forest in
theorem removeOne_window {id probe : SurfaceIdentity} {reason : DismissReason} {window : Window}
    (found : (state.removeOne id reason).windows[probe]? = some window) :
    state.windows[probe]? = some window ∧ probe ≠ id := by
  have sheds : Sheds (fun _ _ => True) state (state.dismiss id reason) :=
    dismiss_sheds (fun _ _ _ => trivial) state id reason
  unfold Windows.removeOne at found
  rw [forget_lookup] at found
  by_cases same : id = probe
  · rw [if_pos same] at found
    cases found
  · rw [if_neg same] at found
    exact ⟨sheds.window found, Ne.symm same⟩

end Forest

/-- The loop of `close`: the descendants go leaves first, none of them is left
at the end, and what every removal keeps the loop keeps. -/
theorem foldl_removeOne {base : Windows} (forestBase : Forest base) (id : SurfaceIdentity)
    {Rel : Windows → Windows → Prop} (refl : ∀ state, Rel state state)
    (trans : ∀ first second third, Rel first second → Rel second third → Rel first third)
    (one : ∀ state child, Forest state → (∀ key, state.parent? key ≠ some child) →
      base.descendant child id = true → Rel state (state.removeOne child .parentClosed))
    (remaining : List SurfaceIdentity) (state : Windows) (forest : Forest state)
    (within : Within base state) (order : LeafFirst base.parent? remaining)
    (below : ∀ child ∈ remaining, base.descendant child id = true)
    (left : ∀ child, state.Live child → base.descendant child id = true → child ≠ id →
      child ∈ remaining) :
    let closed := remaining.foldl (fun state child => state.removeOne child .parentClosed) state
    Forest closed ∧ Within base closed ∧ Rel state closed ∧
      ∀ child, closed.Live child → base.descendant child id = true → child = id := by
  induction remaining generalizing state with
  | nil =>
      refine ⟨forest, within, refl state, ?_⟩
      intro child live descends
      by_contra other
      exact absurd (left child live descends other) List.not_mem_nil
  | cons leaf rest ih =>
      have leafBelow := below leaf List.mem_cons_self
      have childless : ∀ child, state.parent? child ≠ some leaf := by
        intro child link
        have linkBase := within.link link
        have descends := forestBase.group_closed id linkBase leafBelow
        have other : child ≠ id := by
          rintro rfl
          rw [forestBase.descendant_iff] at leafBelow
          exact forestBase.ordered.acyclic linkBase leafBelow
        rcases List.mem_cons.mp (left child (live_of_parent? link) descends other) with same | inside
        · exact forestBase.ordered.ne linkBase same
        · exact order.childless linkBase inside
      obtain ⟨kept, inBase, related, empty⟩ := ih (state.removeOne leaf .parentClosed)
        (forest.removeOne _ childless)
        (fun probe window found => within probe window (Forest.removeOne_window found).1)
        order.tail (fun child inside => below child (List.mem_cons_of_mem _ inside)) (by
          rintro child ⟨window, found⟩ descends other
          obtain ⟨before, distinct⟩ := Forest.removeOne_window found
          rcases List.mem_cons.mp (left child ⟨window, before⟩ descends other) with same | inside
          · exact absurd same distinct
          · exact inside)
      exact ⟨kept, inBase, trans _ _ _ (one state leaf forest childless leafBelow) related, empty⟩

namespace Forest

variable {state : Windows} (forest : Forest state)

include forest

/-- What removing a childless window of the group keeps, removing the group keeps. -/
theorem removeGroup_rel {Rel : Windows → Windows → Prop} (refl : ∀ state, Rel state state)
    (trans : ∀ first second third, Rel first second → Rel second third → Rel first third)
    (id : SurfaceIdentity) (reason : DismissReason)
    (one : ∀ before child cause, Forest before → (∀ key, before.parent? key ≠ some child) →
      state.descendant child id = true → Rel before (before.removeOne child cause)) :
    Forest (state.removeGroup id reason) ∧ Rel state (state.removeGroup id reason) ∧
      ∀ child, (state.removeGroup id reason).Live child → state.descendant child id = false := by
  have self : state.descendant id id = true :=
    (forest.descendant_iff id id).mpr (.refl id)
  obtain ⟨kept, within, related, left⟩ := foldl_removeOne forest id refl trans
    (fun before child forestBefore childless below =>
      one before child .parentClosed forestBefore childless below)
    (state.children id) state forest
    (fun _ _ found => found) (forest.ordered.leafFirst _) (by
      intro child inside
      have both := (List.mem_filter.mp inside).2
      rw [Bool.and_eq_true] at both
      exact both.2) (by
      intro child live descends other
      refine List.mem_filter.mpr ⟨?_, by simp [descends, other]⟩
      exact List.mem_reverse.mpr ((forest.listed child).mpr live))
  have childless : ∀ child, ((state.children id).foldl
      (fun state child => state.removeOne child .parentClosed) state).parent? child ≠ some id := by
    intro child link
    have linkBase := within.link link
    have descends : state.descendant child id = true :=
      (forest.descendant_iff child id).mpr (.parent linkBase (.refl id))
    exact forest.ordered.ne linkBase (left child (live_of_parent? link) descends)
  refine ⟨kept.removeOne reason childless,
    trans _ _ _ related (one _ id reason kept childless self), ?_⟩
  rintro child ⟨window, found⟩
  obtain ⟨before, distinct⟩ := Forest.removeOne_window found
  rw [Bool.eq_false_iff]
  exact fun descends => distinct (left child ⟨window, before⟩ descends)

theorem removeGroup (id : SurfaceIdentity) (reason : DismissReason) :
    Forest (state.removeGroup id reason) :=
  (forest.removeGroup_rel (fun _ => trivial) (fun _ _ _ _ _ => trivial) id reason
    fun _ _ _ _ _ _ => trivial).1

theorem close (id : SurfaceIdentity) (reason : DismissReason) :
    Forest (state.close id reason) :=
  (forest.removeGroup id reason).shed (restoreFocus_sheds (fun _ _ _ => trivial) _)

/-! ## Queues -/

theorem known {id : SurfaceIdentity} (live : state.Live id) :
    id.context.session ∈ state.owners :=
  mem_owners.mpr (.inl (forest.served id live))

theorem takeOverflow (owner : SessionIdentity) : Forest (state.takeOverflow owner).2 := by
  refine { forest with disjoint := ?_, enlisted := ?_ }
  · intro other inside
    exact forest.disjoint other (Finset.mem_of_mem_erase inside)
  · refine le_trans (Finset.card_le_card ?_) forest.enlisted
    exact Finset.union_subset_union_right (Finset.erase_subset _ _)

/-- A queue may be replaced by a shorter one, and one that serves no window may
be dropped. -/
theorem requeue {owner : SessionIdentity} {queue rest : List WindowEvent}
    {events : OrderedMap SessionIdentity (List WindowEvent)}
    (served : state.events[owner]? = some queue) (shorter : rest.Sublist queue)
    (lookup : ∀ other, events[other]? =
      if owner = other then events[owner]? else state.events[other]?)
    (replaced : events[owner]? = some rest ∨
      events[owner]? = none ∧ ∀ id, state.Live id → id.context.session ≠ owner) :
    Forest { state with events := events } := by
  refine { forest with served := ?_, disjoint := ?_, enlisted := ?_, queues := ?_ }
  · intro id live
    have found := forest.served id live
    rcases replaced with replaced | ⟨-, unused⟩
    · rw [lookup]
      by_cases same : owner = id.context.session
      · exact ⟨rest, (if_pos same).trans replaced⟩
      · rw [if_neg same]
        exact found
    · rw [lookup, if_neg (Ne.symm (unused id live))]
      exact found
  · intro other inside
    rw [lookup]
    by_cases same : owner = other
    · subst same
      rw [forest.disjoint owner inside] at served
      cases served
    · rw [if_neg same]
      exact forest.disjoint other inside
  · refine le_trans (Finset.card_le_card ?_) forest.enlisted
    intro other inside
    rw [mem_owners] at inside ⊢
    dsimp only at inside
    rw [lookup] at inside
    by_cases same : owner = other
    · subst same
      exact .inl ⟨queue, served⟩
    · rw [if_neg same] at inside
      exact inside
  · intro other found present
    rw [lookup] at present
    by_cases same : owner = other
    · rw [if_pos same] at present
      rcases replaced with replaced | ⟨gone, -⟩
      · rw [replaced, Option.some.injEq] at present
        subst present
        obtain ⟨short, light⟩ := forest.queues owner queue served
        refine ⟨shorter.length_le.trans short, le_trans ?_ light⟩
        exact List.Sublist.sum_le_sum (shorter.map _) fun _ _ => Nat.zero_le _
      · rw [gone] at present
        cases present
    · rw [if_neg same] at present
      exact forest.queues other found present

theorem takeEvent (owner : SessionIdentity) : Forest (state.takeEvent owner).2 := by
  unfold Windows.takeEvent
  cases served : state.events[owner]? with
  | none => exact forest
  | some queue =>
      dsimp only
      by_cases last : queue.tail.isEmpty = true ∧
          ¬ state.windows.keys.any (ownedBy owner) = true
      · rw [if_pos last]
        refine forest.requeue served (List.nil_sublist _) ?_ (.inr ⟨?_, ?_⟩)
        · intro other
          rw [OrderedMap.lookup_erase, OrderedMap.lookup_erase, OrderedMap.lookup_insert]
          by_cases same : owner = other
          · simp [same]
          · simp [same]
        · simp
        · rintro id ⟨window, live⟩ owned
          refine last.2 (List.any_eq_true.mpr ⟨id, ?_, by simp [ownedBy, owned]⟩)
          rw [Std.ExtTreeMap.mem_keys, Std.ExtTreeMap.mem_iff_isSome_getElem?, live]
          rfl
      · rw [if_neg last]
        refine forest.requeue served (List.tail_sublist queue) ?_ (.inl ?_)
        · intro other
          rw [OrderedMap.lookup_insert, OrderedMap.lookup_insert]
          by_cases same : owner = other
          · simp [same]
          · simp [same]
        · rw [OrderedMap.lookup_insert, if_pos rfl]

/-! ## Operations -/

omit forest in
/-- Emitting sheds, whatever may be queued. -/
theorem notices (id : SurfaceIdentity) (event : Event) (_ : event.input = false) :
    (fun (_ : SurfaceIdentity) (_ : Event) => True) id event := trivial

theorem emit {id : SurfaceIdentity} {event : Event}
    (known : validEvent event = true ∨ id.context.session ∈ state.owners) :
    Forest (state.emit id event) :=
  forest.shed (emit_sheds notices trivial known)

theorem changeFocus (next : Option SurfaceIdentity) : Forest (state.changeFocus next) :=
  forest.shed (changeFocus_sheds notices state next)

theorem setHover (next : Option Hover) : Forest (state.setHover next) :=
  forest.shed (setHover_sheds notices state next)

theorem refreshHover (position : Point) (hit : SurfaceIdentity → Point → Option HitRegion) :
    Forest (state.refreshHover position hit) :=
  forest.shed (refreshHover_sheds notices state position hit)

theorem setPaneFocus (focused : Bool) : Forest (state.setPaneFocus focused) := by
  unfold Windows.setPaneFocus losePaneFocus
  cases focused with
  | true => exact forest.shed (restoreFocus_sheds notices state)
  | false =>
      rw [if_neg (by decide)]
      cases state.capture with
      | none => exact (forest.changeFocus none).frame rfl rfl rfl rfl rfl
      | some capture =>
          have released : Forest { state with capture := none } :=
            forest.frame rfl rfl rfl rfl rfl
          exact ((released.emit (.inl rfl)).changeFocus none).frame rfl rfl rfl rfl rfl

theorem ofFocus {id : SurfaceIdentity} {answer : Except InvalidScene Unit × Windows}
    (outcome : state.FocusOutcome id answer) : Forest answer.2 := by
  cases outcome with
  | refused _ _ => exact forest
  | taken eligible => exact forest.takeFocus (forest.live_of_eligible eligible)

theorem create (id : SurfaceIdentity) (generation : UInt64) (options : WindowOptions) :
    Forest (state.create id generation options).2 := by
  have outcome := state.create_outcome id generation options
  generalize state.create id generation options = answer at outcome
  cases outcome with
  | refused _ => exact forest
  | inserted admitted _ => exact forest.insertWindow generation (admitCreate_ok admitted)
  | focused admitted _ outcome =>
      exact (forest.insertWindow generation (admitCreate_ok admitted)).ofFocus outcome

theorem publishScene (id : SurfaceIdentity) (generation sceneRevision : UInt64) :
    Forest (state.publishScene id generation sceneRevision).2 := by
  unfold Windows.publishScene
  cases live : state.windows[id]? with
  | none => exact forest
  | some window =>
      dsimp only
      by_cases stale : window.generation ≠ generation ∨ sceneRevision = 0 ∨
          sceneRevision ≤ window.sceneRevision
      · rw [if_pos stale]
        exact forest
      · rw [if_neg stale]
        exact forest.setWindow live rfl rfl

omit forest in
/-- An update keeps the parent and the mode, and does not show a window past
the modal of another session. -/
theorem admitUpdate_ok {id : SurfaceIdentity} {old : Window} {generation revision next : UInt64}
    {options : WindowOptions}
    (admitted : state.admitUpdate id old generation revision options = .ok next) :
    options.parent = old.options.parent ∧ options.mode = old.options.mode ∧
      (options.visible = true → options.mode = .modal →
        state.modalOfAnother id.context.session = false) ∧
      (options.visible = true → options.mode = .popup →
        ∀ modal, state.topModal = some modal → state.descendant id modal = true) := by
  unfold admitUpdate at admitted
  simp only [ite_error_eq_ok_iff] at admitted
  obtain ⟨-, kept, modal, popup, -⟩ := admitted
  rw [not_or, not_not, not_not] at kept
  refine ⟨kept.1, kept.2, ?_, ?_⟩
  · intro visible mode
    by_contra blocked
    exact modal ⟨visible, mode, Bool.not_eq_false _ ▸ blocked⟩
  · intro visible mode top isTop
    by_contra outside
    exact popup ⟨visible, mode, by simpa [isTop] using outside⟩

theorem hideGroup (id : SurfaceIdentity) : Forest (state.hideGroup id) :=
  forest.shed (hideGroup_sheds notices state id)

theorem update (id : SurfaceIdentity) (generation revision : UInt64) (options : WindowOptions) :
    Forest (state.update id generation revision options).2 := by
  have outcome := state.update_outcome id generation revision options
  have replaced : ∀ {old : Window} {next : UInt64}, state.windows[id]? = some old →
      state.admitUpdate id old generation revision options = .ok next →
      Forest (state.setWindow id (updated old options next)) := by
    intro old next live admitted
    exact forest.setWindow live rfl (admitUpdate_ok admitted).1
  generalize state.update id generation revision options = answer at outcome
  cases outcome with
  | refused _ => exact forest
  | hidden _ live admitted _ _ => exact (replaced live admitted).hideGroup id
  | focused _ live admitted _ _ _ outcome => exact (replaced live admitted).ofFocus outcome
  | replaced _ live admitted _ => exact replaced live admitted

theorem perform (id : SurfaceIdentity) (action : WindowAction) :
    Forest (state.perform id action).2 := by
  cases action with
  | close => exact forest
  | center => exact forest
  | focus => exact forest.ofFocus (state.requestFocus_outcome id)
  | raise =>
      unfold Windows.perform
      cases state.eligible id with
      | false => exact forest
      | true => exact forest.raiseGroup id
  | lower =>
      unfold Windows.perform
      cases ! state.eligible id || state.blocked with
      | true => exact forest
      | false => exact forest.lowerGroup id

theorem settle (id : SurfaceIdentity) (next : UInt64) (bounds : Option Rect) :
    Forest (state.settle id next bounds).2 := by
  unfold Windows.settle
  cases live : state.windows[id]? with
  | none => exact forest
  | some window =>
      cases bounds with
      | none => exact forest.setWindow live rfl rfl
      | some bounds =>
          have moved : Forest (state.setWindow id
              { window with
                revision := next
                options := { window.options with bounds := bounds } }) :=
            forest.setWindow live rfl rfl
          exact moved.emit (.inr (moved.known ((setWindow_live ⟨window, live⟩ _ id).mpr
            ⟨window, live⟩)))

theorem applyAction (owner : SessionIdentity) (action : Action) (viewport : Viewport) :
    Forest (state.applyAction owner action viewport).2 := by
  have outcome := state.applyAction_outcome owner action viewport
  generalize state.applyAction owner action viewport = answer at outcome
  cases outcome with
  | refused _ => exact forest
  | closed _ _ _ => exact forest.close _ _
  | @performed id _ _ _ _ _ done =>
      have performed := forest.perform id action.action
      rw [done] at performed
      exact performed
  | @settled id _ _ _ _ _ _ _ _ _ done =>
      have performed := forest.perform id action.action
      rw [done] at performed
      exact performed.settle id _ _

theorem capturePointer (id : SurfaceIdentity) (position : Point) :
    Forest (state.capturePointer id position).2 := by
  unfold Windows.capturePointer
  cases ! state.eligible id || decide (state.focus ≠ some id) with
  | true => exact forest
  | false =>
      rw [if_neg (by decide)]
      cases state.windows[id]? with
      | none => exact forest
      | some window => exact forest.frame rfl rfl rfl rfl rfl

theorem releasePointer (id : SurfaceIdentity) : Forest (state.releasePointer id) :=
  by
  have sheds : Sheds (fun _ _ => True) state (state.releasePointer id) :=
    releasePointer_sheds state id
  exact forest.shed sheds

theorem keyboard (event : Event) (escape : Bool) : Forest (state.keyboard event escape).2 := by
  have outcome := state.keyboard_outcome event escape
  generalize state.keyboard event escape = answer at outcome
  cases outcome with
  | swallowed _ _ reached =>
      rcases reached with rfl | rfl
      · exact forest
      · exact forest.frame rfl rfl rfl rfl rfl
  | unfocused _ => exact forest
  | dismissed _ _ =>
      have swallowing : Forest { state with swallowedEscape := true } :=
        forest.frame rfl rfl rfl rfl rfl
      exact swallowing.close _ _
  | emitted _ eligible => exact forest.emit (.inr (forest.known (forest.live_of_eligible eligible)))

theorem wheel (position : Point) (scroll : Scroll) (modifiers : UInt32)
    (hit : SurfaceIdentity → Point → Option (UInt64 × HitRole)) :
    Forest (state.wheel position scroll modifiers hit).2 := by
  unfold Windows.wheel
  cases found : state.topmostHit Prod.snd position hit with
  | none => exact forest
  | some target =>
      obtain ⟨id, inside, region⟩ := target
      have eligible := (topmostHit_eq_some found).1.1
      exact forest.emit (.inr (forest.known (forest.live_of_eligible eligible)))

theorem gesture (capture : Capture) (point : Point) (settled : Bool) :
    Forest (state.gesture capture point settled) := by
  have outcome := state.gesture_outcome capture point settled
  generalize state.gesture capture point settled = after at outcome
  cases outcome with
  | still _ => exact forest
  | exhausted _ _ _ => exact forest.close _ _
  | @moved window bounds revision live _ _ =>
      have moved : Forest (state.setWindow capture.window (placed window bounds revision)) :=
        forest.setWindow live rfl rfl
      exact moved.emit (.inr (moved.known ((setWindow_live ⟨window, live⟩ _ _).mpr ⟨window, live⟩)))

theorem captureMotion {capture : Capture} (report : PointerReport)
    (eligible : state.eligible capture.window = true) :
    Forest (state.captureMotion capture report) := by
  unfold Windows.captureMotion
  cases capture.role.gestures with
  | true => exact forest.gesture capture report.position report.releases
  | false =>
      cases state.localPoint capture.window report.position with
      | none => exact forest
      | some inside => exact forest.emit (.inr (forest.known (forest.live_of_eligible eligible)))

theorem pointerCaptured {capture : Capture} (report : PointerReport)
    (hit : SurfaceIdentity → Point → Option HitRegion)
    (eligible : state.eligible capture.window = true) :
    Forest (state.pointerCaptured capture report hit).2 := by
  have moved := forest.captureMotion report eligible
  unfold Windows.pointerCaptured
  rw [eligible, if_neg (by decide)]
  cases report.releases with
  | false => exact moved
  | true =>
      have released : Forest { state.captureMotion capture report with capture := none } :=
        moved.frame rfl rfl rfl rfl rfl
      exact released.refreshHover report.position hit

theorem pointerMissed (report : PointerReport) : Forest (state.pointerMissed report).2 := by
  have left := forest.setHover none
  unfold Windows.pointerMissed
  dsimp only
  cases ! (state.setHover none).blocked && report.presses with
  | false => exact left
  | true =>
      have unfocused := left.changeFocus none
      exact { unfocused with
        history := List.nodup_nil
        remembered := fun id inside => absurd inside List.not_mem_nil }

theorem pressTarget (id : SurfaceIdentity) (position : Point) (target : HitRegion) :
    Forest (state.pressTarget id position target) := by
  have focused := forest.ofFocus (state.requestFocus_outcome id)
  unfold Windows.pressTarget
  dsimp only
  cases (state.requestFocus id).2.windows[id]? with
  | none => exact focused
  | some window =>
      cases target.role.gestures with
      | false => exact focused
      | true => exact focused.frame rfl rfl rfl rfl rfl

omit forest in
theorem pressTarget_owners (id : SurfaceIdentity) (position : Point) (target : HitRegion) :
    (state.pressTarget id position target).owners = state.owners := by
  have kept := requestFocus_owners state id
  unfold Windows.pressTarget
  dsimp only
  cases (state.requestFocus id).2.windows[id]? with
  | none => exact kept
  | some window =>
      cases target.role.gestures with
      | false => exact kept
      | true => exact kept

theorem pointerHit (report : PointerReport) {id : SurfaceIdentity} (inside : Point)
    (target : HitRegion) (live : state.Live id) :
    Forest (state.pointerHit report id inside target).2 := by
  have known := forest.known live
  unfold Windows.pointerHit
  cases report.presses with
  | false =>
      refine (forest.setHover _).emit (.inr ?_)
      rw [setHover_owners]
      exact known
  | true =>
      refine ((forest.pressTarget id report.position target).setHover _).emit (.inr ?_)
      rw [setHover_owners]
      exact (pressTarget_owners id report.position target).symm ▸ known

theorem pointer (report : PointerReport) (hit : SurfaceIdentity → Point → Option HitRegion) :
    Forest (state.pointer report hit).2 := by
  have outcome := state.pointer_outcome report hit
  generalize state.pointer report hit = answer at outcome
  cases outcome with
  | @swallowed _ down _ _ =>
      cases down with
      | true => exact forest
      | false => exact forest.frame rfl rfl rfl rfl rfl
  | cancelled _ _ _ => exact forest.shed (cancelCapture_sheds notices state _)
  | captured _ _ eligible => exact forest.pointerCaptured report hit eligible
  | @dismissed _ _ _ _ button _ _ =>
      have swallowing : Forest
          { state with swallowedButtons := insert button state.swallowedButtons } :=
        forest.frame rfl rfl rfl rfl rfl
      exact swallowing.close _ _
  | missed _ _ _ => exact forest.pointerMissed report
  | met _ _ found =>
      have eligible := (topmostHit_eq_some found).1.1
      exact forest.pointerHit report _ _ (forest.live_of_eligible eligible)

theorem step (operation : Operation) : Forest (windowsStep state operation).2 := by
  cases operation with
  | setPaneFocus focused => exact forest.setPaneFocus focused
  | create id generation options => exact forest.create id generation options
  | publishScene id generation sceneRevision =>
      exact forest.publishScene id generation sceneRevision
  | applyAction owner action viewport => exact forest.applyAction owner action viewport
  | update id generation revision options => exact forest.update id generation revision options
  | requestFocus id => exact forest.ofFocus (state.requestFocus_outcome id)
  | close id reason => exact forest.close id reason
  | revokeOwner owner => exact forest.shed (revokeOwner_sheds notices state owner)
  | takeOverflow owner => exact forest.takeOverflow owner
  | takeEvent owner => exact forest.takeEvent owner
  | capturePointer id position => exact forest.capturePointer id position
  | releasePointer id => exact forest.releasePointer id
  | keyboard event escape => exact forest.keyboard event escape
  | wheel position scroll modifiers hit => exact forest.wheel position scroll modifiers hit
  | pointer report hit => exact forest.pointer report hit
  | refreshHover position hit => exact forest.refreshHover position hit

end Forest

theorem forest_final (inputs : List Operation) :
    Forest (windowsRuns.final Windows.default inputs) :=
  windowsRuns.invariant_final Forest.default (fun _ input forest => forest.step input) inputs

/-- In every state that a run reaches the stack and the parent links are a
forest, the bounded walks are exact and every bound of the source holds. -/
theorem windows_forest (inputs : List Operation) :
    let state := windowsRuns.final Windows.default inputs
    (state.stack.Nodup ∧ ∀ id, id ∈ state.stack ↔ state.Live id) ∧
      (∀ child parent, state.parent? child = some parent →
        state.Live parent ∧ parent.context.session = child.context.session ∧
          [parent, child].Sublist state.stack) ∧
      (∀ id, ¬ Relation.TransGen (fun child parent => state.parent? child = some parent) id id) ∧
      (∀ id target, state.descendant id target = true ↔ Ancestor state.parent? target id) ∧
      (∀ id, state.effectivelyVisible id = true ↔ state.Effective id) ∧
      state.windows.size ≤ 256 ∧
      (∀ owner, state.ownedCount owner ≤ 32) ∧
      state.events.size + state.overflowed.card ≤ 16 ∧
      (∀ owner ∈ state.overflowed, state.events[owner]? = none) ∧
      (∀ id, state.Live id → ∃ queue, state.events[id.context.session]? = some queue) ∧
      (∀ (owner : SessionIdentity) (queue : List WindowEvent),
        state.events[owner]? = some queue →
        queue.length ≤ 256 ∧ queueBytes queue ≤ 128 * 1024) ∧
      state.focusHistory.Nodup ∧ ∀ id ∈ state.focusHistory, state.Live id := by
  intro state
  have forest : Forest state := forest_final inputs
  refine ⟨⟨forest.ordered.nodup, forest.listed⟩, ?_, ?_, forest.descendant_iff,
    forest.effectivelyVisible_iff, ?_, ?_, ?_, forest.disjoint, forest.served, forest.queues,
    forest.history, forest.remembered⟩
  · intro child parent link
    exact ⟨(forest.listed parent).mp (forest.ordered.parent_mem link),
      forest.family child parent link, forest.ordered.below child parent link⟩
  · intro id above
    exact lt_irrefl _ (forest.ordered.rank_lt_of_transGen above)
  · rw [forest.size_eq]
    exact forest.total
  · intro owner
    rw [forest.ownedCount_eq]
    exact forest.perOwner owner
  · rw [← forest.owners_card]
    exact forest.enlisted

end VividProtocol.Overlay

import Mathlib.Tactic

/-!
# Forests listed in order

A partial parent function whose links all point down a list: every parent comes
before its child.  The links are then acyclic, a walk along them is exact once
it has as many rounds as the list has members, and the list can be filtered,
extended and regrouped as long as no child moves below its parent.
-/

set_option autoImplicit false

namespace VividProtocol.Library.OrderedForest

universe u

variable {α : Type u} {parent? parent?' : α → Option α} {order : List α}

/-! ## Ancestors -/

/-- An ancestor is reached by parent links, in any number of steps. -/
def Ancestor (parent? : α → Option α) (ancestor : α) : α → Prop :=
  fun id => Relation.ReflTransGen (fun child parent => parent? child = some parent) id ancestor

theorem Ancestor.refl (id : α) : Ancestor parent? id id := Relation.ReflTransGen.refl

theorem Ancestor.parent {child parent ancestor : α} (link : parent? child = some parent)
    (above : Ancestor parent? ancestor parent) : Ancestor parent? ancestor child :=
  Relation.ReflTransGen.head link above

theorem Ancestor.trans {first second third : α} (lower : Ancestor parent? second third)
    (upper : Ancestor parent? first second) : Ancestor parent? first third :=
  Relation.ReflTransGen.trans lower upper

theorem ancestor_iff {ancestor id : α} :
    Ancestor parent? ancestor id ↔
      id = ancestor ∨ ∃ parent, parent? id = some parent ∧ Ancestor parent? ancestor parent :=
  Relation.ReflTransGen.cases_head_iff

/-- What every link keeps, every ancestor has. -/
theorem Ancestor.keeps {Holds : α → Prop} {ancestor id : α}
    (above : Ancestor parent? ancestor id)
    (link : ∀ child parent, parent? child = some parent → Holds child → Holds parent)
    (holds : Holds id) : Holds ancestor := by
  induction above with
  | refl => exact holds
  | tail _ step ih => exact link _ _ step ih

/-- A walk only looks at the links on its way. -/
theorem Ancestor.congr {ancestor id : α} (above : Ancestor parent? ancestor id)
    (same : ∀ child parent, parent? child = some parent → parent?' child = some parent) :
    Ancestor parent?' ancestor id :=
  Relation.ReflTransGen.mono (fun child parent => same child parent) _ _ above

/-! ## Orders -/

/-- Every link points from a member to an earlier member. -/
structure Ordered (parent? : α → Option α) (order : List α) : Prop where
  nodup : order.Nodup
  below : ∀ child parent, parent? child = some parent → [parent, child].Sublist order

theorem Ordered.child_mem (ordered : Ordered parent? order) {child parent : α}
    (link : parent? child = some parent) : child ∈ order :=
  (ordered.below child parent link).subset (by simp)

theorem Ordered.parent_mem (ordered : Ordered parent? order) {child parent : α}
    (link : parent? child = some parent) : parent ∈ order :=
  (ordered.below child parent link).subset (by simp)

theorem Ordered.ne (ordered : Ordered parent? order) {child parent : α}
    (link : parent? child = some parent) : child ≠ parent := by
  rintro rfl
  have distinct := (ordered.below child child link).nodup ordered.nodup
  simp at distinct

section Rank

variable [DecidableEq α]

theorem idxOf_lt_of_sublist {first second : α} {list : List α} (nodup : list.Nodup)
    (pair : [first, second].Sublist list) : list.idxOf first < list.idxOf second := by
  induction list with
  | nil => cases pair
  | cons head rest ih =>
      obtain ⟨fresh, nodup⟩ := List.nodup_cons.mp nodup
      cases pair with
      | cons _ pair =>
          have firstIn : first ∈ rest := pair.subset (by simp)
          have secondIn : second ∈ rest := pair.subset (by simp)
          have notFirst : head ≠ first := fun same => fresh (same ▸ firstIn)
          have notSecond : head ≠ second := fun same => fresh (same ▸ secondIn)
          rw [List.idxOf_cons_ne _ notFirst, List.idxOf_cons_ne _ notSecond]
          exact Nat.succ_lt_succ (ih nodup pair)
      | cons_cons _ pair =>
          have secondIn : second ∈ rest := pair.subset (by simp)
          have notSecond : first ≠ second := fun same => fresh (same ▸ secondIn)
          rw [List.idxOf_cons_self, List.idxOf_cons_ne _ notSecond]
          exact Nat.succ_pos _

/-- The number of members before one, and zero outside the list. -/
def rank (order : List α) (id : α) : Nat := if id ∈ order then order.idxOf id else 0

theorem Ordered.rank_lt (ordered : Ordered parent? order) {child parent : α}
    (link : parent? child = some parent) : rank order parent < rank order child := by
  unfold rank
  rw [if_pos (ordered.parent_mem link), if_pos (ordered.child_mem link)]
  exact idxOf_lt_of_sublist ordered.nodup (ordered.below child parent link)

theorem rank_lt_of_length {rounds : Nat} (positive : 0 < rounds)
    (short : order.length ≤ rounds) (id : α) : rank order id < rounds := by
  unfold rank
  by_cases inside : id ∈ order
  · rw [if_pos inside]
    have bound := List.idxOf_lt_length_iff.mpr inside
    omega
  · rw [if_neg inside]
    exact positive

theorem Ordered.rank_le_of_ancestor (ordered : Ordered parent? order) {ancestor id : α}
    (above : Ancestor parent? ancestor id) : rank order ancestor ≤ rank order id := by
  induction above with
  | refl => exact le_refl _
  | tail _ link ih => exact le_trans (le_of_lt (ordered.rank_lt link)) ih

/-- No member is its own ancestor by one link or more. -/
theorem Ordered.acyclic (ordered : Ordered parent? order) {child parent : α}
    (link : parent? child = some parent) : ¬ Ancestor parent? child parent := by
  intro above
  have lower := ordered.rank_le_of_ancestor above
  have upper := ordered.rank_lt link
  omega

theorem Ordered.rank_lt_of_transGen (ordered : Ordered parent? order) {ancestor id : α}
    (above : Relation.TransGen (fun child parent => parent? child = some parent) id ancestor) :
    rank order ancestor < rank order id := by
  induction above with
  | single link => exact ordered.rank_lt link
  | tail _ link ih => exact lt_trans (ordered.rank_lt link) ih

/-- The last member of a kind comes after every other one of the kind. -/
theorem getLast?_filter_eq_some {kind : α → Bool} {list : List α} (nodup : list.Nodup) {id : α} :
    (list.filter kind).getLast? = some id ↔
      id ∈ list ∧ kind id = true ∧
        ∀ other ∈ list, kind other = true → other = id ∨ [other, id].Sublist list := by
  have forward : ∀ last, (list.filter kind).getLast? = some last →
      last ∈ list ∧ kind last = true ∧
        ∀ other ∈ list, kind other = true → other = last ∨ [other, last].Sublist list := by
    intro last found
    obtain ⟨earlier, split⟩ := List.getLast?_eq_some_iff.mp found
    have inside : last ∈ list.filter kind := by simp [split]
    refine ⟨(List.mem_filter.mp inside).1, (List.mem_filter.mp inside).2, ?_⟩
    intro other present matched
    have listed : other ∈ earlier ++ [last] := split ▸ List.mem_filter.mpr ⟨present, matched⟩
    rcases List.mem_append.mp listed with before | same
    · right
      have pair := (List.singleton_sublist.mpr before).append (List.Sublist.refl [last])
      rw [← split] at pair
      exact pair.trans List.filter_sublist
    · exact .inl (List.mem_singleton.mp same)
  constructor
  · exact forward id
  · rintro ⟨inside, matched, latest⟩
    cases found : (list.filter kind).getLast? with
    | none =>
        have empty := List.getLast?_eq_none_iff.mp found
        have present : id ∈ list.filter kind := List.mem_filter.mpr ⟨inside, matched⟩
        rw [empty] at present
        cases present
    | some last =>
        obtain ⟨lastIn, lastMatched, lastLatest⟩ := forward last found
        rcases latest last lastIn lastMatched with rfl | after
        · rfl
        rcases lastLatest id inside matched with rfl | before
        · rfl
        have first := idxOf_lt_of_sublist nodup after
        have second := idxOf_lt_of_sublist nodup before
        omega

/-! ## Bounded walks -/

/-- Whether a walk of so many rounds meets a target. -/
def reachesWithin (parent? : α → Option α) : Nat → α → α → Bool
  | 0, _, _ => false
  | rounds + 1, id, target =>
      if id = target then true
      else
        match parent? id with
        | none => false
        | some next => reachesWithin parent? rounds next target

/-- Whether a walk of so many rounds ends, and meets only members that hold. -/
def allWithin (holds : α → Bool) (parent? : α → Option α) : Nat → α → Bool
  | 0, _ => false
  | rounds + 1, id =>
      if ! holds id then false
      else
        match parent? id with
        | none => true
        | some next => allWithin holds parent? rounds next

theorem Ordered.reachesWithin_iff (ordered : Ordered parent? order) {rounds : Nat} {id : α}
    (target : α) (enough : rank order id < rounds) :
    reachesWithin parent? rounds id target = true ↔ Ancestor parent? target id := by
  induction rounds generalizing id with
  | zero => omega
  | succ rounds ih =>
      unfold reachesWithin
      rw [ancestor_iff]
      by_cases here : id = target
      · simp [here]
      rw [if_neg here]
      cases link : parent? id with
      | none => simp [here]
      | some next =>
          have closer := ordered.rank_lt link
          simp only [here, Option.some.injEq, false_or, exists_eq_left']
          exact ih (by omega)

theorem Ordered.allWithin_iff (ordered : Ordered parent? order) {holds : α → Bool}
    {rounds : Nat} {id : α} (enough : rank order id < rounds) :
    allWithin holds parent? rounds id = true ↔
      ∀ ancestor, Ancestor parent? ancestor id → holds ancestor = true := by
  induction rounds generalizing id with
  | zero => omega
  | succ rounds ih =>
      unfold allWithin
      by_cases kept : holds id = true
      · rw [kept]
        cases link : parent? id with
        | none =>
            simp only [Bool.not_true, Bool.false_eq_true, if_false, true_iff]
            intro ancestor above
            rcases ancestor_iff.mp above with rfl | ⟨parent, step, -⟩
            · exact kept
            · rw [link] at step
              cases step
        | some next =>
            have closer := ordered.rank_lt link
            simp only [Bool.not_true, Bool.false_eq_true, if_false]
            rw [ih (by omega)]
            constructor
            · intro above ancestor reached
              rcases ancestor_iff.mp reached with rfl | ⟨parent, step, higher⟩
              · exact kept
              · rw [link] at step
                cases step
                exact above ancestor higher
            · intro above ancestor reached
              exact above ancestor (.parent link reached)
      · rw [Bool.not_eq_true] at kept
        rw [kept]
        simp only [Bool.not_false, if_true, Bool.false_eq_true, false_iff, not_forall]
        exact ⟨id, .refl id, by simp [kept]⟩

end Rank

/-! ## Leaves first -/

/-- A list in which children come before their parents. -/
structure LeafFirst (parent? : α → Option α) (list : List α) : Prop where
  nodup : list.Nodup
  above : ∀ child parent, parent? child = some parent → child ∈ list → parent ∈ list →
    [child, parent].Sublist list

theorem Ordered.leafFirst (ordered : Ordered parent? order) (keep : α → Bool) :
    LeafFirst parent? (order.reverse.filter keep) := by
  refine ⟨(List.nodup_reverse.mpr ordered.nodup).filter keep, ?_⟩
  intro child parent link childIn parentIn
  have pair := (ordered.below child parent link).reverse.filter keep
  have keepChild := (List.mem_filter.mp childIn).2
  have keepParent := (List.mem_filter.mp parentIn).2
  simpa [keepChild, keepParent] using pair

/-- The first of the list has no child in it. -/
theorem LeafFirst.childless {leaf : α} {rest : List α} (first : LeafFirst parent? (leaf :: rest))
    {child : α} (link : parent? child = some leaf) (inside : child ∈ rest) : False := by
  have fresh := (List.nodup_cons.mp first.nodup).1
  have pair := first.above child leaf link (List.mem_cons_of_mem _ inside) List.mem_cons_self
  cases pair with
  | cons _ pair => exact fresh (pair.subset (by simp))
  | cons_cons _ _ => exact fresh inside

theorem LeafFirst.tail {leaf : α} {rest : List α} (first : LeafFirst parent? (leaf :: rest)) :
    LeafFirst parent? rest := by
  obtain ⟨fresh, nodup⟩ := List.nodup_cons.mp first.nodup
  refine ⟨nodup, ?_⟩
  intro child parent link childIn parentIn
  have pair := first.above child parent link (List.mem_cons_of_mem _ childIn)
    (List.mem_cons_of_mem _ parentIn)
  cases pair with
  | cons _ pair => exact pair
  | cons_cons _ _ => exact absurd childIn fresh

/-! ## Reordering -/

theorem Ordered.reorder {order' : List α} (ordered : Ordered parent? order)
    (nodup : order'.Nodup)
    (below : ∀ child parent, parent? child = some parent →
      [parent, child].Sublist order → [parent, child].Sublist order') :
    Ordered parent? order' :=
  ⟨nodup, fun child parent link => below child parent link (ordered.below child parent link)⟩

/-- Members leave together with every link from and to them. -/
theorem Ordered.restrict (ordered : Ordered parent? order) (keep : α → Bool)
    (kept : ∀ child parent, parent?' child = some parent →
      parent? child = some parent ∧ keep child = true ∧ keep parent = true) :
    Ordered parent?' (order.filter keep) := by
  refine ⟨ordered.nodup.filter keep, ?_⟩
  intro child parent link
  obtain ⟨link, keepChild, keepParent⟩ := kept child parent link
  have pair := (ordered.below child parent link).filter keep
  simpa [keepChild, keepParent] using pair

/-- A member is added on top of its parent. -/
theorem Ordered.push (ordered : Ordered parent? order) {id : α} (fresh : id ∉ order)
    (kept : ∀ child parent, parent?' child = some parent →
      parent? child = some parent ∨ child = id ∧ parent ∈ order) :
    Ordered parent?' (order ++ [id]) := by
  refine ⟨List.nodup_append.mpr ⟨ordered.nodup, by simp, ?_⟩, ?_⟩
  · intro member inside other isOther same
    rw [List.mem_singleton.mp isOther] at same
    exact fresh (same ▸ inside)
  · intro child parent link
    rcases kept child parent link with link | ⟨rfl, inside⟩
    · exact (ordered.below child parent link).trans (List.sublist_append_left _ _)
    · exact (List.singleton_sublist.mpr inside).append (List.Sublist.refl [child])

variable {group : α → Bool}

/-- A group is taken out and put back in one piece at a place among the rest. -/
def regroup (group : α → Bool) (index : Nat) (order : List α) : List α :=
  (order.filter fun id => ! group id).take index ++ order.filter group ++
    (order.filter fun id => ! group id).drop index

theorem regroup_perm (index : Nat) (order : List α) : (regroup group index order).Perm order := by
  have parts := List.filter_append_perm group order
  have rest := List.take_append_drop index (order.filter fun id => ! group id)
  unfold regroup
  rw [List.append_assoc]
  refine List.Perm.trans ?_ parts
  refine List.perm_append_comm_assoc _ _ _ |>.trans ?_
  rw [rest]

/-- A group with all its descendants may move to any place above its parents. -/
theorem Ordered.regroup (ordered : Ordered parent? order) (index : Nat)
    (closed : ∀ child parent, parent? child = some parent → group parent = true →
      group child = true)
    (placed : ∀ child parent, parent? child = some parent → group child = true →
      group parent = false → parent ∈ (order.filter fun id => ! group id).take index) :
    Ordered parent? (regroup group index order) := by
  refine ordered.reorder ((regroup_perm index order).nodup_iff.mpr ordered.nodup) ?_
  intro child parent link pair
  unfold OrderedForest.regroup
  cases childIn : group child with
  | true =>
      cases parentIn : group parent with
      | true =>
          have both : [parent, child].Sublist (order.filter group) := by
            simpa [childIn, parentIn] using pair.filter group
          exact (both.trans (List.sublist_append_right _ _)).trans (List.sublist_append_left _ _)
      | false =>
          have above := List.singleton_sublist.mpr (placed child parent link childIn parentIn)
          have inside : child ∈ order.filter group :=
            List.mem_filter.mpr ⟨ordered.child_mem link, childIn⟩
          have both := above.append (List.singleton_sublist.mpr inside)
          exact both.trans (List.sublist_append_left _ _)
  | false =>
      have parentOut : group parent = false := by
        cases parentIn : group parent with
        | true => rw [closed child parent link parentIn] at childIn; cases childIn
        | false => rfl
      have both : [parent, child].Sublist (order.filter fun id => ! group id) := by
        simpa [childIn, parentOut] using pair.filter fun id => ! group id
      rw [← List.take_append_drop index (order.filter fun id => ! group id)] at both
      exact both.trans ((List.sublist_append_left _ _).append (List.Sublist.refl _))

end VividProtocol.Library.OrderedForest

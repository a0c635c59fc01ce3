import Mathlib.Tactic
import VividProtocol.Library.RootedTree
import VividProtocol.Overlay.Wire.Semantics

/-!
# Accepted semantics are trees

The check of a semantic tree looks at one list after another: which indices the
children claim, and how deep a forward pass over the nodes comes.  The two passes
accept exactly the lists whose links span a tree from the first node.
-/

set_option autoImplicit false

namespace VividProtocol.Overlay.Wire

open VividProtocol.Library.Result
open VividProtocol.Library.RootedTree

/-! ## Links -/

/-- The indices of the children, as `validate` converts them. -/
def SemanticNode.links (node : SemanticNode) : List Nat := node.children.map UInt32.toNat

/-- The children of the node at an index. -/
def childrenAt (nodes : List SemanticNode) (index : Nat) : List Nat :=
  nodes[index]?.elim [] SemanticNode.links

theorem childrenAt_zero (node : SemanticNode) (rest : List SemanticNode) :
    childrenAt (node :: rest) 0 = node.links := rfl

theorem childrenAt_succ (node : SemanticNode) (rest : List SemanticNode) (index : Nat) :
    childrenAt (node :: rest) (index + 1) = childrenAt rest index := rfl

theorem range_flatMap_childrenAt (nodes : List SemanticNode) :
    (List.range nodes.length).flatMap (childrenAt nodes) = nodes.flatMap SemanticNode.links := by
  induction nodes with
  | nil => rfl
  | cons node rest ih =>
      rw [List.length_cons, List.range_succ_eq_map, List.flatMap_cons, List.flatMap_map,
        List.flatMap_cons, childrenAt_zero, ← ih]
      rfl

/-- Every child of a node follows it and is within the size. -/
def Follows (size index : Nat) (nodes : List SemanticNode) : Prop :=
  ∀ offset, ∀ child ∈ childrenAt nodes offset, index + offset < child ∧ child < size

theorem follows_cons {size index : Nat} {node : SemanticNode} {rest : List SemanticNode} :
    Follows size index (node :: rest) ↔
      (∀ child ∈ node.links, index < child ∧ child < size) ∧ Follows size (index + 1) rest := by
  unfold Follows
  rw [← Nat.and_forall_add_one]
  simp only [childrenAt_zero, childrenAt_succ, Nat.add_zero, Nat.add_right_comm index 1,
    Nat.add_assoc]

/-! ## Single nodes -/

/-- What `validate` asks of a node by itself. -/
structure SemanticNode.Valid (validRect : Rect → Except InvalidScene Unit)
    (node : SemanticNode) : Prop where
  id : node.id ≠ 0
  bounds : validRect node.bounds = .ok ()
  label : node.label.utf8ByteSize ≤ MAX_SEMANTIC_TEXT_BYTES
  actions : node.actions.length ≤ MAX_SEMANTIC_ACTIONS
  set : ∀ position size, node.set = some (position, size) → 0 < position ∧ position ≤ size

namespace Semantics

variable {validRect : Rect → Except InvalidScene Unit}

theorem set_within {set : Option (UInt16 × UInt16)} :
    ¬ (set.any fun pair =>
        decide (pair.1 = 0) || decide (pair.2 = 0) || decide (pair.2 < pair.1)) = true ↔
      ∀ position size, set = some (position, size) → 0 < position ∧ position ≤ size := by
  cases set with
  | none => simp
  | some pair =>
      obtain ⟨position, size⟩ := pair
      simp only [Option.any_some, Bool.or_eq_true, decide_eq_true_eq, ← UInt16.toNat_inj,
        UInt16.lt_iff_toNat_lt, UInt16.le_iff_toNat_le, UInt16.toNat_zero]
      constructor
      · intro within _ _ same
        cases same
        omega
      · intro within
        have here := within position size rfl
        omega

theorem validateNodes_eq_ok {identities : List UInt64} {nodes : List SemanticNode} :
    validateNodes validRect identities nodes = .ok () ↔
      (∀ node ∈ nodes, node.Valid validRect) ∧ (nodes.map SemanticNode.id).Nodup ∧
        ∀ node ∈ nodes, node.id ∉ identities := by
  induction nodes generalizing identities with
  | nil => simp [validateNodes]
  | cons node rest ih =>
      simp only [validateNodes, bind_eq_ok_iff, ite_error_eq_ok_iff, set_within, ih, not_or,
        Nat.not_lt, List.map_cons, List.nodup_cons, List.forall_mem_cons]
      simp only [List.mem_cons, not_or]
      constructor
      · rintro ⟨⟨id, fresh⟩, _, bounds, label, actions, set, valid, distinct, apart⟩
        refine ⟨⟨⟨id, bounds, label, actions, set⟩, valid⟩, ⟨?_, distinct⟩, fresh,
          fun other among => (apart other among).2⟩
        intro repeated
        obtain ⟨other, among, same⟩ := List.mem_map.mp repeated
        exact (apart other among).1 same
      · rintro ⟨⟨here, valid⟩, ⟨single, distinct⟩, fresh, apart⟩
        refine ⟨⟨here.id, fresh⟩, (), here.bounds, here.label, here.actions, here.set, valid,
          distinct, fun other among => ⟨?_, apart other among⟩⟩
        intro same
        exact single (List.mem_map.mpr ⟨other, among, same⟩)

/-! ## Claimed indices -/

/-- The array marks exactly the indices that are taken. -/
structure Claimed (size : Nat) (taken : List Nat) (claimed : Array Bool) : Prop where
  sized : claimed.size = size
  marks : ∀ index < size, claimed.getD index false = decide (index ∈ taken)

def mark (claimed : Array Bool) (indices : List Nat) : Array Bool :=
  indices.foldl (fun claimed index => claimed.setIfInBounds index true) claimed

variable {size index : Nat} {taken : List Nat} {claimed final : Array Bool}

theorem claimed_start (size : Nat) : Claimed size [] (Array.replicate size false) where
  sized := Array.size_replicate
  marks := by
    intro index within
    rw [Array.getD_eq_getD_getElem?, Array.getElem?_replicate, if_pos within]
    rfl

theorem Claimed.mark (state : Claimed size taken claimed) (indices : List Nat) :
    Claimed size (taken ++ indices) (Semantics.mark claimed indices) := by
  induction indices generalizing taken claimed with
  | nil =>
      rw [List.append_nil]
      exact state
  | cons index rest ih =>
      have next : Claimed size (taken ++ [index]) (claimed.setIfInBounds index true) := by
        refine ⟨by rw [Array.size_setIfInBounds, state.sized], ?_⟩
        intro other within
        have before := state.marks other within
        rw [Array.getD_eq_getD_getElem?] at before ⊢
        rw [Array.getElem?_setIfInBounds, state.sized]
        by_cases same : index = other
        · subst same
          simp [within]
        · simp [same, before, Ne.symm same]
      have marked := ih next
      rw [List.append_assoc, List.singleton_append] at marked
      exact marked

/-- The children of a node are claimed if they follow it and nobody has claimed them. -/
theorem claimChildren_eq_ok {seen : List Nat} {children : List UInt32}
    (state : Claimed size taken claimed) (distinct : taken.Nodup) (known : seen ⊆ taken) :
    claimChildren index seen claimed children = .ok final ↔
      (∀ child ∈ children.map UInt32.toNat, index < child ∧ child < size) ∧
        (taken ++ children.map UInt32.toNat).Nodup ∧
        mark claimed (children.map UInt32.toNat) = final := by
  induction children generalizing seen taken claimed with
  | nil => simp [claimChildren, mark, distinct]
  | cons child rest ih =>
      have free (within : child.toNat < size) :
          ¬ claimed.getD child.toNat false = true ↔ child.toNat ∉ taken := by
        rw [state.marks _ within, decide_eq_true_eq]
      have onward (fresh : child.toNat ∉ taken) :=
        @ih (taken ++ [child.toNat]) (claimed.setIfInBounds child.toNat true)
          (child.toNat :: seen) (state.mark [child.toNat])
          (by simpa [List.nodup_append] using ⟨distinct, fun a among => fun same => fresh (same ▸ among)⟩)
          (by
            intro other among
            rcases List.mem_cons.mp among with rfl | earlier
            · simp
            · exact List.mem_append_left _ (known earlier))
      simp only [claimChildren, ite_error_eq_ok_iff, not_or, Nat.not_le, List.map_cons,
        List.forall_mem_cons, state.sized]
      rw [List.append_cons]
      constructor
      · rintro ⟨⟨later, within, _⟩, unclaimed, rest⟩
        obtain ⟨others, single, same⟩ := (onward ((free within).mp unclaimed)).mp rest
        exact ⟨⟨⟨later, within⟩, others⟩, single, same⟩
      · rintro ⟨⟨⟨later, within⟩, others⟩, single, same⟩
        have fresh : child.toNat ∉ taken := by
          intro already
          have apart := (List.nodup_append.mp (List.Nodup.of_append_left single)).2.2
          exact apart _ already _ (List.mem_singleton_self _) rfl
        exact ⟨⟨later, within, fun already => fresh (known already)⟩, (free within).mpr fresh,
          (onward fresh).mpr ⟨others, single, same⟩⟩

theorem mark_append (claimed : Array Bool) (first second : List Nat) :
    mark claimed (first ++ second) = mark (mark claimed first) second :=
  List.foldl_append

theorem claimNodes_eq_ok {nodes : List SemanticNode} (state : Claimed size taken claimed)
    (distinct : taken.Nodup) :
    claimNodes index claimed nodes = .ok final ↔
      Follows size index nodes ∧ (taken ++ nodes.flatMap SemanticNode.links).Nodup ∧
        mark claimed (nodes.flatMap SemanticNode.links) = final := by
  induction nodes generalizing index taken claimed with
  | nil => simp [claimNodes, mark, distinct, Follows, childrenAt]
  | cons node rest ih =>
      simp only [claimNodes, bind_eq_ok_iff, follows_cons, List.flatMap_cons, mark_append,
        claimChildren_eq_ok state distinct (List.nil_subset _)]
      rw [← List.append_assoc]
      constructor
      · rintro ⟨_, ⟨here, single, rfl⟩, onward⟩
        obtain ⟨others, single', same⟩ := (ih (state.mark node.links) single).mp onward
        exact ⟨⟨here, others⟩, single', same⟩
      · rintro ⟨⟨here, others⟩, single', same⟩
        have single := List.Nodup.of_append_left single'
        exact ⟨_, ⟨here, single, rfl⟩, (ih (state.mark node.links) single).mpr ⟨others, single', same⟩⟩

/-- No index but the first is left over. -/
theorem Claimed.all (state : Claimed size taken claimed) :
    ¬ (claimed.toList.tail.any fun claimed => ! claimed) = true ↔
      ∀ index, 0 < index → index < size → index ∈ taken := by
  rw [List.any_eq_true]
  constructor
  · intro none index positive within
    by_contra free
    have here := state.marks index within
    rw [decide_eq_false free] at here
    refine none ⟨false, List.mem_iff_getElem?.mpr ⟨index - 1, ?_⟩, rfl⟩
    rw [List.getElem?_tail, Nat.sub_add_cancel positive, Array.getElem?_toList]
    have bound : index < claimed.size := by rw [state.sized]; exact within
    rw [Array.getElem?_eq_getElem bound, Option.some.injEq, ← here,
      Array.getD_eq_getD_getElem?, Array.getElem?_eq_getElem bound, Option.getD_some]
  · rintro every ⟨value, among, clear⟩
    obtain ⟨position, found⟩ := List.mem_iff_getElem?.mp among
    rw [List.getElem?_tail, Array.getElem?_toList] at found
    obtain ⟨bound, _⟩ := Array.getElem?_eq_some_iff.mp found
    rw [state.sized] at bound
    have marked := state.marks (position + 1) bound
    rw [decide_eq_true (every (position + 1) (Nat.succ_pos position) bound),
      Array.getD_eq_getD_getElem?, found, Option.getD_some] at marked
    rw [marked] at clear
    cases clear

/-! ## Depths -/

variable {level : Nat → Nat} {depth deepened : Array Nat} {nodes : List SemanticNode}

/-- The array holds the levels of some indices. -/
structure Deepened (level : Nat → Nat) (size : Nat) (known : Nat → Prop) (depth : Array Nat) :
    Prop where
  sized : depth.size = size
  levels : ∀ index < size, known index → depth.getD index 0 = level index

theorem Deepened.set {known : Nat → Prop} (state : Deepened level size known depth)
    (child : Nat) :
    Deepened level size (fun index => known index ∨ index = child)
      (depth.setIfInBounds child (level child)) := by
  refine ⟨by rw [Array.size_setIfInBounds, state.sized], ?_⟩
  intro index within among
  have before := state.levels index within
  rw [Array.getD_eq_getD_getElem?] at before ⊢
  rw [Array.getElem?_setIfInBounds, state.sized]
  by_cases same : child = index
  · subst same
    simp [within]
  · rw [if_neg same]
    exact before (among.resolve_right (Ne.symm same))

theorem Deepened.weaken {known known' : Nat → Prop} (state : Deepened level size known depth)
    (less : ∀ index, known' index → known index) : Deepened level size known' depth :=
  ⟨state.sized, fun index within among => state.levels index within (less index among)⟩

/-- The children of a node whose level is known get theirs, unless one is too deep. -/
theorem deepenChildren_ok {known : Nat → Prop} {children : List UInt32}
    (state : Deepened level size known depth) (within : index < size) (here : known index)
    (below : ∀ child ∈ children.map UInt32.toNat, level child = level index + 1) :
    (∀ deepened, deepenChildren index depth children = .ok deepened →
      Deepened level size (fun other => known other ∨ other ∈ children.map UInt32.toNat) deepened) ∧
    ((∃ deepened, deepenChildren index depth children = .ok deepened) ↔
      ∀ child ∈ children.map UInt32.toNat, level child ≤ MAX_SEMANTIC_DEPTH) := by
  induction children generalizing known depth with
  | nil =>
      refine ⟨?_, by simp [deepenChildren]⟩
      intro deepened done
      cases done
      exact state.weaken fun other among => by simpa using among
  | cons child rest ih =>
      rw [List.map_cons, List.forall_mem_cons] at below
      obtain ⟨first, others⟩ := below
      have found : depth.getD index 0 + 1 = level child.toNat := by
        rw [state.levels index within here, first]
      obtain ⟨kept, deep⟩ := ih (state.set child.toNat) (.inl here) others
      simp only [deepenChildren, found, ite_error_eq_ok_iff, Nat.not_lt, List.map_cons,
        List.forall_mem_cons, exists_and_left, deep]
      refine ⟨?_, trivial⟩
      rintro deepened ⟨_, done⟩
      refine (kept deepened done).weaken ?_
      intro other among
      rw [List.mem_cons, ← or_assoc] at among
      exact among

/-- The pass comes to a node after its parent, so it finds the level of the node. -/
theorem deepenNodes_ok {done : List SemanticNode} (within : done.length + nodes.length ≤ size)
    (state : Deepened level size
      (fun index => index = 0 ∨ index ∈ done.flatMap SemanticNode.links) depth)
    (parents : ∀ index < done.length + nodes.length, index ≠ 0 →
      ∃ parent < index, index ∈ childrenAt (done ++ nodes) parent)
    (below : ∀ index, ∀ child ∈ childrenAt (done ++ nodes) index, level child = level index + 1) :
    (∃ deepened, deepenNodes done.length depth nodes = .ok deepened) ↔
      ∀ child ∈ nodes.flatMap SemanticNode.links, level child ≤ MAX_SEMANTIC_DEPTH := by
  induction nodes generalizing done depth with
  | nil => simp [deepenNodes]
  | cons node rest ih =>
      have here : childrenAt (done ++ node :: rest) done.length = node.links := by
        simp [childrenAt]
      have bound : done.length < size := by
        rw [List.length_cons] at within
        omega
      have known : done.length = 0 ∨ done.length ∈ done.flatMap SemanticNode.links := by
        by_cases top : done.length = 0
        · exact .inl top
        · right
          obtain ⟨parent, earlier, child⟩ := parents done.length (by simp) top
          unfold childrenAt at child
          rw [List.getElem?_append_left earlier, List.getElem?_eq_getElem earlier,
            Option.elim_some] at child
          exact List.mem_flatMap.mpr ⟨_, List.getElem_mem earlier, child⟩
      have links : ∀ child ∈ node.links, level child = level done.length + 1 := by
        rw [← here]
        exact below done.length
      obtain ⟨kept, deep⟩ := deepenChildren_ok state bound known links
      have onward (deepened : Array Nat)
          (ran : deepenChildren done.length depth node.children = .ok deepened) :=
        @ih deepened (done ++ [node]) (by simpa [Nat.add_assoc, Nat.add_comm 1] using within)
          ((kept deepened ran).weaken fun index among => by
            simpa [or_assoc, SemanticNode.links] using among)
          (by simpa [Nat.add_assoc, Nat.add_comm 1] using parents)
          (by simpa using below)
      simp only [deepenNodes, bind_eq_ok_iff, List.flatMap_cons, List.forall_mem_append]
      rw [List.length_append, List.length_singleton] at onward
      constructor
      · rintro ⟨final, deepened, ran, rest⟩
        exact ⟨deep.mp ⟨deepened, ran⟩, (onward deepened ran).mp ⟨final, rest⟩⟩
      · rintro ⟨low, others⟩
        obtain ⟨deepened, ran⟩ := deep.mpr low
        obtain ⟨final, rest⟩ := (onward deepened ran).mpr others
        exact ⟨final, deepened, ran, rest⟩

/-! ## Trees -/

/-- The links span a tree from the first node, and it is within the depth. -/
def Tree (nodes : List SemanticNode) : Prop :=
  Spans (childrenAt nodes) (List.range nodes.length) 0 MAX_SEMANTIC_DEPTH

/-- What `validate` asks of the nodes as a list, but for their links. -/
structure Sized (validRect : Rect → Except InvalidScene Unit) (semantics : Semantics) : Prop where
  published : semantics.sceneRevision ≠ 0
  some : 1 ≤ semantics.nodes.length
  few : semantics.nodes.length ≤ MAX_SEMANTIC_NODES
  each : ∀ node ∈ semantics.nodes, node.Valid validRect
  distinct : (semantics.nodes.map SemanticNode.id).Nodup

theorem childrenAt_within {index child : Nat} (among : child ∈ childrenAt nodes index) :
    index < nodes.length := by
  by_contra beyond
  unfold childrenAt at among
  rw [List.getElem?_eq_none (Nat.not_lt.mp beyond), Option.elim_none] at among
  cases among

/-- A child has a greater index than its parent. -/
def Ordered (nodes : List SemanticNode) : Prop :=
  ∀ index, ∀ child ∈ childrenAt nodes index, index < child

theorem follows_iff :
    Follows nodes.length 0 nodes ↔ Forward (childrenAt nodes) (List.range nodes.length) := by
  constructor
  · intro follows
    constructor
    · intro index _ child among
      exact List.mem_range.mpr (follows index child among).2
    · intro index _ child among
      have later := (follows index child among).1
      rwa [Nat.zero_add] at later
  · intro forward index child among
    have inside := List.mem_range.mpr (childrenAt_within among)
    rw [Nat.zero_add]
    exact ⟨forward.later index inside child among,
      List.mem_range.mp (forward.closed index inside child among)⟩

theorem forward_of_tree (tree : Tree nodes) (ordered : Ordered nodes) :
    Forward (childrenAt nodes) (List.range nodes.length) :=
  ⟨tree.closed, fun index _ => ordered index⟩

/-- The first pass leaves exactly the lists that name every other node once. -/
theorem listed_iff (forward : Forward (childrenAt nodes) (List.range nodes.length)) :
    Listed (childrenAt nodes) (List.range nodes.length) 0 ↔
      (nodes.flatMap SemanticNode.links).Nodup ∧
        ∀ index, 0 < index → index < nodes.length → index ∈ nodes.flatMap SemanticNode.links := by
  rw [← range_flatMap_childrenAt]
  constructor
  · intro listed
    refine ⟨listed.nodup, ?_⟩
    intro index positive within
    exact (listed.others index (List.mem_range.mpr within)).mpr (Nat.ne_of_gt positive)
  · rintro ⟨nodup, every⟩
    refine ⟨nodup, ?_⟩
    intro index within
    constructor
    · intro among
      obtain ⟨parent, inside, child⟩ := List.mem_flatMap.mp among
      exact Nat.ne_of_gt (Nat.lt_of_le_of_lt (Nat.zero_le parent)
        (forward.later parent inside index child))
    · intro other
      exact every index (Nat.pos_of_ne_zero other) (List.mem_range.mp within)

/-- The second pass compares every level with the depth. -/
theorem deepen_ok (some : 1 ≤ nodes.length)
    (forward : Forward (childrenAt nodes) (List.range nodes.length))
    (listed : Listed (childrenAt nodes) (List.range nodes.length) 0) :
    (∃ deepened, deepenNodes 0 (Array.replicate nodes.length 0) nodes = .ok deepened) ↔
      Tree nodes := by
  have inside : 0 ∈ List.range nodes.length := List.mem_range.mpr some
  obtain ⟨level, levels⟩ := listed.exists_levels forward inside
  have start : Deepened level nodes.length
      (fun index => index = 0 ∨ index ∈ ([] : List SemanticNode).flatMap SemanticNode.links)
      (Array.replicate nodes.length 0) := by
    refine ⟨Array.size_replicate, ?_⟩
    rintro index within (rfl | impossible)
    · rw [Array.getD_eq_getD_getElem?, Array.getElem?_replicate, if_pos within, levels.root]
      rfl
    · cases impossible
  have parents : ∀ index < nodes.length, index ≠ 0 →
      ∃ parent < index, index ∈ childrenAt nodes parent := by
    intro index within other
    obtain ⟨parent, among, child⟩ := List.mem_flatMap.mp
      ((listed.others index (List.mem_range.mpr within)).mpr other)
    exact ⟨parent, forward.later parent among index child, child⟩
  have below : ∀ index, ∀ child ∈ childrenAt nodes index, level child = level index + 1 :=
    fun index child among =>
      levels.below index (List.mem_range.mpr (childrenAt_within among)) child among
  have pass := @deepenNodes_ok nodes.length level (Array.replicate nodes.length 0) nodes []
    (by simp) start (by simpa using parents) (by simpa using below)
  have low : (∀ index ∈ List.range nodes.length, level index ≤ MAX_SEMANTIC_DEPTH) ↔
      ∀ child ∈ nodes.flatMap SemanticNode.links, level child ≤ MAX_SEMANTIC_DEPTH := by
    rw [← range_flatMap_childrenAt]
    constructor
    · intro each child among
      obtain ⟨parent, inside, child⟩ := List.mem_flatMap.mp among
      exact each _ (forward.closed parent inside _ child)
    · intro each index within
      by_cases top : index = 0
      · rw [top, levels.root]
        exact Nat.zero_le _
      · exact each index ((listed.others index within).mpr top)
  rw [List.length_nil] at pass
  rw [pass, ← low, ← levels.shallow_iff listed forward inside]
  constructor
  · intro shallow
    exact listed.spans forward inside shallow
  · intro tree
    exact tree.shallow

/-- A tree of semantics is accepted exactly if its list is sized, its links lead
on and they span a tree. -/
theorem validate_eq_ok {semantics : Semantics} :
    semantics.validate validRect = .ok () ↔
      semantics.Sized validRect ∧ Ordered semantics.nodes ∧ Tree semantics.nodes := by
  have state := claimed_start semantics.nodes.length
  simp only [validate, ite_error_eq_ok_iff, check_bind_eq_ok_iff, validateNodes_eq_ok, not_or,
    Nat.not_lt]
  simp only [bind_eq_ok_iff, ite_error_eq_ok_iff, claimNodes_eq_ok state List.nodup_nil,
    List.nil_append]
  have nonempty : semantics.nodes ≠ [] ↔ 1 ≤ semantics.nodes.length :=
    List.length_pos_iff.symm
  constructor
  · rintro ⟨published, ⟨some, few⟩, ⟨each, distinct, _⟩, _, ⟨follows, nodup, rfl⟩, all,
      deepened, ran, _⟩
    have forward := follows_iff.mp follows
    have marked := state.mark (semantics.nodes.flatMap SemanticNode.links)
    rw [List.nil_append] at marked
    have listed := (listed_iff forward).mpr ⟨nodup, marked.all.mp all⟩
    refine ⟨⟨published, nonempty.mp some, few, each, distinct⟩, ?_,
      (deepen_ok (nonempty.mp some) forward listed).mp ⟨deepened, ran⟩⟩
    intro index child among
    exact forward.later index (List.mem_range.mpr (childrenAt_within among)) child among
  · rintro ⟨sized, ordered, tree⟩
    have forward := forward_of_tree tree ordered
    have listed := tree.listed List.nodup_range
    obtain ⟨nodup, every⟩ := (listed_iff forward).mp listed
    have marked := state.mark (semantics.nodes.flatMap SemanticNode.links)
    rw [List.nil_append] at marked
    obtain ⟨deepened, ran⟩ := (deepen_ok sized.some forward listed).mpr tree
    exact ⟨sized.published, ⟨nonempty.mpr sized.some, sized.few⟩,
      ⟨sized.each, sized.distinct, fun _ _ => List.not_mem_nil⟩, _,
      ⟨follows_iff.mpr forward, nodup, rfl⟩, marked.all.mpr every, deepened, ran, trivial⟩

end Semantics

/-- Accepted semantics are a tree.  The links of an accepted list span a tree from
its first node, and a walk from there comes to every node once, in whichever order
it takes the pending ones, and ends.  A sized list whose links lead on and span a
tree is accepted. -/
theorem semantics_tree (semantics : Semantics) :
    (semantics.validate Rect.validate = .ok () ↔
      semantics.Sized Rect.validate ∧ Semantics.Ordered semantics.nodes ∧
        Semantics.Tree semantics.nodes) ∧
    (semantics.validate Rect.validate = .ok () →
      ∀ walk, Walk.From (childrenAt semantics.nodes) 0 walk →
        walk.visited.length ≤ semantics.nodes.length ∧
        (walk.pending = [] ↔ walk.visited.length = semantics.nodes.length) ∧
        (walk.pending = [] → walk.visited.Perm (List.range semantics.nodes.length)) ∧
        ∃ final, Relation.ReflTransGen (Walk.Step (childrenAt semantics.nodes)) walk final ∧
          final.pending = []) := by
  refine ⟨Semantics.validate_eq_ok, ?_⟩
  intro accepted walk walked
  obtain ⟨_, _, tree⟩ := Semantics.validate_eq_ok.mp accepted
  obtain ⟨few, finished, covered⟩ := walked.exact tree List.nodup_range
  rw [List.length_range] at few finished
  exact ⟨few, finished, covered, walked.ends tree List.nodup_range⟩

/-- A node at the origin. -/
def sampleNode (id : UInt64) (children : List UInt32) : SemanticNode where
  id := id
  role := .group
  bounds := ⟨⟨Scalar.ZERO, Scalar.ZERO⟩, Scalar.ONE, Scalar.ONE⟩
  label := ""
  numeric := none
  level := none
  set := none
  toggled := none
  disabled := false
  actions := []
  children := children

def sampleTree : Semantics := ⟨1, [sampleNode 5 [2, 1], sampleNode 6 [], sampleNode 7 [3],
  sampleNode 8 []]⟩

theorem semantics_tree_four :
    Semantics.Tree sampleTree.nodes ∧ [0, 2, 1, 3].Perm (List.range sampleTree.nodes.length) := by
  have accepted : sampleTree.validate Rect.validate = .ok () := by decide +kernel
  have walked : Walk.From (childrenAt sampleTree.nodes) 0 ⟨[0, 2, 1, 3], []⟩ := by
    have first : Walk.From (childrenAt sampleTree.nodes) 0 ⟨[0], [2, 1]⟩ :=
      Relation.ReflTransGen.refl.tail ⟨0, [], .refl _, rfl, .refl _⟩
    have second := first.tail (c := ⟨[0, 2], [1, 3]⟩) ⟨2, [1], .refl _, rfl, .refl _⟩
    have third := second.tail (c := ⟨[0, 2, 1], [3]⟩) ⟨1, [3], .refl _, rfl, .refl _⟩
    exact third.tail ⟨3, [], .refl _, rfl, .refl _⟩
  obtain ⟨decided, walks⟩ := semantics_tree sampleTree
  exact ⟨(decided.mp accepted).2.2, (walks accepted _ walked).2.2.1 rfl⟩

end VividProtocol.Overlay.Wire

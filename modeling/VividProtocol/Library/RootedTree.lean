import Mathlib.Tactic

/-!
# Trees given by lists of children

Every vertex lists its children, and a link is a position in such a list, so a
child that is listed twice is two links.  The links span a tree if exactly one
path of links leads from the root to each vertex.  Where every link leads on, the
lists themselves show whether they do; and whichever pending vertex a walk takes
next, it comes to each vertex of a tree once.
-/

set_option autoImplicit false

namespace VividProtocol.Library.RootedTree

universe u

variable {α : Type u} {children : α → List α} {order : List α} {root : α} {height : Nat}

/-! ## Paths -/

/-- Where a path ends that takes a position of the list of children at a time. -/
def follow (children : α → List α) : α → List Nat → Option α
  | vertex, [] => some vertex
  | vertex, position :: rest =>
      (children vertex)[position]?.bind fun child => follow children child rest

/-- The vertices on a path, as far as it leads. -/
def trail (children : α → List α) : α → List Nat → List α
  | vertex, [] => [vertex]
  | vertex, position :: rest =>
      vertex :: (children vertex)[position]?.elim [] fun child => trail children child rest

theorem follow_append (start : α) (first second : List Nat) :
    follow children start (first ++ second) =
      (follow children start first).bind fun vertex => follow children vertex second := by
  induction first generalizing start with
  | nil => rfl
  | cons position rest ih =>
      simp only [List.cons_append, follow, Option.bind_assoc, ih]

theorem follow_snoc {start child : α} {links : List Nat} {position : Nat} :
    follow children start (links ++ [position]) = some child ↔
      ∃ vertex, follow children start links = some vertex ∧
        (children vertex)[position]? = some child := by
  rw [follow_append, Option.bind_eq_some_iff]
  simp [follow]

theorem mem_of_follow (closed : ∀ vertex ∈ order, ∀ child ∈ children vertex, child ∈ order)
    {start vertex : α} {links : List Nat} (inside : start ∈ order)
    (reached : follow children start links = some vertex) : vertex ∈ order := by
  induction links generalizing start with
  | nil =>
      cases reached
      exact inside
  | cons position rest ih =>
      obtain ⟨child, link, onward⟩ := Option.bind_eq_some_iff.mp reached
      exact ih (closed start inside child (List.mem_of_getElem? link)) onward

/-! ## Trees -/

/-- The links span a tree over the vertices, and no path is longer than its height. -/
structure Spans (children : α → List α) (order : List α) (root : α) (height : Nat) : Prop where
  root_mem : root ∈ order
  closed : ∀ vertex ∈ order, ∀ child ∈ children vertex, child ∈ order
  reached : ∀ vertex ∈ order, ∃! links, follow children root links = some vertex
  simple : ∀ links vertex, follow children root links = some vertex →
    (trail children root links).Nodup
  shallow : ∀ links vertex, follow children root links = some vertex → links.length ≤ height

/-- Every vertex but the root is a child in one place, and the root is none. -/
structure Listed (children : α → List α) (order : List α) (root : α) : Prop where
  nodup : (order.flatMap children).Nodup
  others : ∀ vertex ∈ order, vertex ∈ order.flatMap children ↔ vertex ≠ root

namespace Listed

/-- A vertex is the child of one other, at one position. -/
theorem single (listed : Listed children order root) {first second child : α}
    {position position' : Nat} (firstIn : first ∈ order) (secondIn : second ∈ order)
    (link : (children first)[position]? = some child)
    (link' : (children second)[position']? = some child) :
    first = second ∧ position = position' := by
  obtain ⟨each, apart⟩ := List.nodup_flatMap.mp listed.nodup
  have symmetric : Std.Symm (Function.onFun List.Disjoint children) :=
    ⟨fun _ _ disjoint => disjoint.symm⟩
  have same : first = second := by
    by_contra different
    exact apart.forall firstIn secondIn different (List.mem_of_getElem? link)
      (List.mem_of_getElem? link')
  subst same
  obtain ⟨bound, _⟩ := List.getElem?_eq_some_iff.mp link
  exact ⟨rfl, (List.getElem?_inj bound (each first firstIn)).mp (link.trans link'.symm)⟩

theorem root_childless (listed : Listed children order root) (inside : root ∈ order)
    {vertex : α} (among : vertex ∈ order) : root ∉ children vertex := by
  intro child
  exact (listed.others root inside).mp (List.mem_flatMap.mpr ⟨vertex, among, child⟩) rfl

/-- Two paths that end at one vertex are one, from their ends backwards. -/
theorem follow_unique (listed : Listed children order root) (inside : root ∈ order)
    (closed : ∀ vertex ∈ order, ∀ child ∈ children vertex, child ∈ order)
    {first second : List Nat} {vertex : α} (reached : follow children root first = some vertex)
    (reached' : follow children root second = some vertex) : first = second := by
  have off (links : List Nat) (position : Nat) :
      follow children root (links ++ [position]) ≠ some root := by
    intro around
    obtain ⟨parent, onward, link⟩ := follow_snoc.mp around
    exact listed.root_childless inside (mem_of_follow closed inside onward)
      (List.mem_of_getElem? link)
  induction first using List.reverseRecOn generalizing second vertex with
  | nil =>
      cases reached
      rcases List.eq_nil_or_concat second with rfl | ⟨links, position, rfl⟩
      · rfl
      · rw [List.concat_eq_append] at reached'
        exact absurd reached' (off links position)
  | append_singleton first position ih =>
      rcases List.eq_nil_or_concat second with rfl | ⟨second, position', rfl⟩
      · cases reached'
        exact absurd reached (off first position)
      · rw [List.concat_eq_append] at reached' ⊢
        obtain ⟨parent, onward, link⟩ := follow_snoc.mp reached
        obtain ⟨parent', onward', link'⟩ := follow_snoc.mp reached'
        obtain ⟨same, same'⟩ := listed.single (mem_of_follow closed inside onward)
          (mem_of_follow closed inside onward') link link'
        subst same
        rw [ih onward onward', same']

end Listed

/-! ## Links that lead on -/

section Forward

variable [Preorder α]

/-- Every link leads from a vertex to a later one. -/
structure Forward (children : α → List α) (order : List α) : Prop where
  closed : ∀ vertex ∈ order, ∀ child ∈ children vertex, child ∈ order
  later : ∀ vertex ∈ order, ∀ child ∈ children vertex, vertex < child

/-- A path only goes up. -/
theorem Forward.trail_sorted (forward : Forward children order) {start : α}
    (inside : start ∈ order) (links : List Nat) :
    (trail children start links).Pairwise (· < ·) ∧
      ∀ vertex ∈ trail children start links, start ≤ vertex := by
  induction links generalizing start with
  | nil => simp [trail]
  | cons position rest ih =>
      unfold trail
      cases link : (children start)[position]? with
      | none => simp
      | some child =>
          have among := List.mem_of_getElem? link
          have above := forward.later start inside child among
          obtain ⟨sorted, atLeast⟩ := ih (forward.closed start inside child among)
          rw [Option.elim_some]
          constructor
          · refine List.pairwise_cons.mpr ⟨?_, sorted⟩
            intro vertex on
            exact lt_of_lt_of_le above (atLeast vertex on)
          · intro vertex on
            rcases List.mem_cons.mp on with rfl | later
            · exact le_refl vertex
            · exact le_of_lt (lt_of_lt_of_le above (atLeast vertex later))

theorem Forward.trail_nodup (forward : Forward children order) {start : α}
    (inside : start ∈ order) (links : List Nat) : (trail children start links).Nodup :=
  (forward.trail_sorted inside links).1.imp fun below => ne_of_lt below

/-- Every vertex is found from its parent's path. -/
theorem Listed.reached [WellFoundedLT α] (listed : Listed children order root)
    (forward : Forward children order) (vertex : α) (inside : vertex ∈ order) :
    ∃ links, follow children root links = some vertex := by
  induction vertex using WellFoundedLT.induction with
  | ind vertex ih =>
      by_cases top : vertex = root
      · exact ⟨[], by rw [top, follow]⟩
      · obtain ⟨parent, among, child⟩ := List.mem_flatMap.mp ((listed.others vertex inside).mpr top)
        obtain ⟨links, onward⟩ := ih parent (forward.later parent among vertex child) among
        obtain ⟨position, link⟩ := List.getElem?_of_mem child
        exact ⟨links ++ [position], follow_snoc.mpr ⟨parent, onward, link⟩⟩

/-- Lists in which each vertex but the root stands once span a tree. -/
theorem Listed.spans [WellFoundedLT α] (listed : Listed children order root)
    (forward : Forward children order) (inside : root ∈ order)
    (shallow : ∀ links vertex, follow children root links = some vertex → links.length ≤ height) :
    Spans children order root height where
  root_mem := inside
  closed := forward.closed
  reached := by
    intro vertex among
    obtain ⟨links, onward⟩ := listed.reached forward vertex among
    refine ⟨links, onward, ?_⟩
    intro others same
    exact listed.follow_unique inside forward.closed same onward
  simple := fun links _ _ => forward.trail_nodup inside links
  shallow := shallow

end Forward

/-- In a tree each vertex but the root stands once in the lists. -/
theorem Spans.listed (spans : Spans children order root height) (distinct : order.Nodup) :
    Listed children order root := by
  -- Two links to one vertex would be the ends of two paths to it.
  have single : ∀ first ∈ order, ∀ second ∈ order,
      ∀ (position position' : Nat) (child : α), (children first)[position]? = some child →
        (children second)[position']? = some child → first = second ∧ position = position' := by
    intro first firstIn second secondIn position position' child link link'
    obtain ⟨links, onward, _⟩ := spans.reached first firstIn
    obtain ⟨links', onward', _⟩ := spans.reached second secondIn
    have among := spans.closed first firstIn child (List.mem_of_getElem? link)
    have same := (spans.reached child among).unique (follow_snoc.mpr ⟨first, onward, link⟩)
      (follow_snoc.mpr ⟨second, onward', link'⟩)
    obtain ⟨rfl, last⟩ := List.append_inj' same rfl
    rw [onward, Option.some.injEq] at onward'
    exact ⟨onward', List.singleton_inj.mp last⟩
  constructor
  · refine List.nodup_flatMap.mpr ⟨?_, ?_⟩
    · intro vertex inside
      refine List.nodup_iff_getElem?_ne_getElem?.mpr ?_
      intro position position' below bound same
      obtain ⟨child, link⟩ : ∃ child, (children vertex)[position']? = some child :=
        ⟨_, List.getElem?_eq_getElem bound⟩
      have equal := (single vertex inside vertex inside position position' child
        (same.trans link) link).2
      omega
    · refine distinct.pairwise_of_forall_ne ?_
      intro first firstIn second secondIn different child left right
      obtain ⟨position, link⟩ := List.getElem?_of_mem left
      obtain ⟨position', link'⟩ := List.getElem?_of_mem right
      exact different (single first firstIn second secondIn position position' child link link').1
  · intro vertex inside
    constructor
    · rintro child rfl
      obtain ⟨parent, among, child⟩ := List.mem_flatMap.mp child
      obtain ⟨position, link⟩ := List.getElem?_of_mem child
      obtain ⟨links, onward, _⟩ := spans.reached parent among
      have same := (spans.reached vertex inside).unique
        (follow_snoc.mpr ⟨parent, onward, link⟩) (show follow children vertex [] = some vertex from rfl)
      simp at same
    · intro other
      obtain ⟨links, onward, _⟩ := spans.reached vertex inside
      rcases List.eq_nil_or_concat links with rfl | ⟨links, position, rfl⟩
      · cases onward
        exact absurd rfl other
      · rw [List.concat_eq_append] at onward
        obtain ⟨parent, onward, link⟩ := follow_snoc.mp onward
        exact List.mem_flatMap.mpr ⟨parent, mem_of_follow spans.closed spans.root_mem onward,
          List.mem_of_getElem? link⟩

/-! ## Levels -/

/-- The levels of the vertices are the lengths of the paths to them. -/
structure Levels (children : α → List α) (order : List α) (root : α) (level : α → Nat) :
    Prop where
  root : level root = 0
  below : ∀ vertex ∈ order, ∀ child ∈ children vertex, level child = level vertex + 1

theorem Levels.length {level : α → Nat} (levels : Levels children order root level)
    (inside : root ∈ order)
    (closed : ∀ vertex ∈ order, ∀ child ∈ children vertex, child ∈ order)
    {links : List Nat} {vertex : α} (reached : follow children root links = some vertex) :
    links.length = level vertex := by
  induction links using List.reverseRecOn generalizing vertex with
  | nil =>
      cases reached
      exact levels.root.symm
  | append_singleton links position ih =>
      obtain ⟨parent, onward, link⟩ := follow_snoc.mp reached
      rw [levels.below parent (mem_of_follow closed inside onward) vertex
        (List.mem_of_getElem? link), List.length_append, List.length_singleton, ih onward]

theorem Listed.exists_levels [Preorder α] [WellFoundedLT α] (listed : Listed children order root)
    (forward : Forward children order) (inside : root ∈ order) :
    ∃ level, Levels children order root level := by
  classical
  let level (vertex : α) : Nat :=
    if found : ∃ links, follow children root links = some vertex then found.choose.length else 0
  have length {links : List Nat} {vertex : α}
      (reached : follow children root links = some vertex) : level vertex = links.length := by
    have found : ∃ links, follow children root links = some vertex := ⟨links, reached⟩
    rw [show level vertex = found.choose.length from dif_pos found,
      listed.follow_unique inside forward.closed found.choose_spec reached]
  refine ⟨level, @length [] root rfl, ?_⟩
  intro vertex among child below
  obtain ⟨links, onward⟩ := listed.reached forward vertex among
  obtain ⟨position, link⟩ := List.getElem?_of_mem below
  rw [length onward, length (follow_snoc.mpr ⟨vertex, onward, link⟩), List.length_append,
    List.length_singleton]

/-- A tree is no higher than its levels. -/
theorem Levels.shallow_iff [Preorder α] [WellFoundedLT α] {level : α → Nat}
    (levels : Levels children order root level) (listed : Listed children order root)
    (forward : Forward children order) (inside : root ∈ order) :
    (∀ links vertex, follow children root links = some vertex → links.length ≤ height) ↔
      ∀ vertex ∈ order, level vertex ≤ height := by
  constructor
  · intro shallow vertex among
    obtain ⟨links, onward⟩ := listed.reached forward vertex among
    rw [← levels.length inside forward.closed onward]
    exact shallow links vertex onward
  · intro low links vertex onward
    rw [levels.length inside forward.closed onward]
    exact low vertex (mem_of_follow forward.closed inside onward)

/-! ## Walks -/

/-- The vertices that a walk has visited, in order, and those it is still to visit. -/
structure Walk (α : Type u) where
  visited : List α
  pending : List α

namespace Walk

/-- A walk visits one of the pending vertices and puts its children in its place. -/
def Step (children : α → List α) (before after : Walk α) : Prop :=
  ∃ vertex others, before.pending.Perm (vertex :: others) ∧
    after.visited = before.visited ++ [vertex] ∧ after.pending.Perm (others ++ children vertex)

/-- The walks from a root. -/
def From (children : α → List α) (root : α) (walk : Walk α) : Prop :=
  Relation.ReflTransGen (Step children) ⟨[], [root]⟩ walk

def met (walk : Walk α) : List α := walk.visited ++ walk.pending

theorem exists_step {before : Walk α} (children : α → List α) (more : before.pending ≠ []) :
    ∃ after, Step children before after := by
  obtain ⟨vertex, others, pending⟩ := List.exists_cons_of_ne_nil more
  exact ⟨⟨before.visited ++ [vertex], others ++ children vertex⟩, vertex, others,
    List.Perm.of_eq pending, rfl, List.Perm.refl _⟩

theorem Step.met {before after : Walk α} (step : Step children before after) :
    ∃ vertex ∈ before.pending, after.visited = before.visited ++ [vertex] ∧
      after.met.Perm (before.met ++ children vertex) := by
  obtain ⟨vertex, others, pending, visited, grown⟩ := step
  refine ⟨vertex, pending.mem_iff.mpr List.mem_cons_self, visited, ?_⟩
  unfold Walk.met
  rw [visited, List.append_assoc, List.append_assoc]
  refine List.Perm.append_left before.visited ?_
  have swapped : (vertex :: (others ++ children vertex)).Perm
      (before.pending ++ children vertex) := (pending.symm.append_right (children vertex))
  exact (grown.cons vertex).trans swapped

/-- A walk has met every vertex at most once, and with a vertex all its children. -/
structure Sound (children : α → List α) (order : List α) (root : α) (walk : Walk α) : Prop where
  nodup : walk.met.Nodup
  inside : ∀ vertex ∈ walk.met, vertex ∈ order
  start : root ∈ walk.met
  below : ∀ vertex ∈ walk.visited, ∀ child ∈ children vertex, child ∈ walk.met
  origin : ∀ vertex ∈ walk.met, vertex = root ∨
    ∃ parent ∈ walk.visited, vertex ∈ children parent

theorem sound_start (inside : root ∈ order) : Sound children order root ⟨[], [root]⟩ where
  nodup := List.nodup_singleton root
  inside := by simpa [met] using inside
  start := by simp [met]
  below := by simp
  origin := by simp [met]

theorem Sound.step {before after : Walk α} (sound : Sound children order root before)
    (listed : Listed children order root)
    (closed : ∀ vertex ∈ order, ∀ child ∈ children vertex, child ∈ order)
    (step : Step children before after) : Sound children order root after := by
  obtain ⟨vertex, pending, visited, grown⟩ := step.met
  have among : vertex ∈ order := sound.inside vertex (List.mem_append_right _ pending)
  have unvisited : vertex ∉ before.visited := fun already =>
    (List.nodup_append.mp sound.nodup).2.2 vertex already vertex pending rfl
  have fresh : ∀ child ∈ children vertex, child ∉ before.met := by
    intro child below already
    rcases sound.origin child already with rfl | ⟨parent, earlier, among'⟩
    · exact listed.root_childless (sound.inside child already) among below
    · obtain ⟨position, link⟩ := List.getElem?_of_mem below
      obtain ⟨position', link'⟩ := List.getElem?_of_mem among'
      have same := (listed.single among
        (sound.inside parent (List.mem_append_left _ earlier)) link link').1
      exact unvisited (same ▸ earlier)
  constructor
  · refine grown.nodup_iff.mpr (List.nodup_append.mpr ⟨sound.nodup, ?_, ?_⟩)
    · exact (List.nodup_flatMap.mp listed.nodup).1 vertex among
    · rintro child already _ below rfl
      exact fresh child below already
  · intro child found
    rcases List.mem_append.mp (grown.mem_iff.mp found) with already | below
    · exact sound.inside child already
    · exact closed vertex among child below
  · exact grown.mem_iff.mpr (List.mem_append_left _ sound.start)
  · intro parent earlier child below
    rw [visited] at earlier
    refine grown.mem_iff.mpr (List.mem_append.mpr ?_)
    rcases List.mem_append.mp earlier with earlier | here
    · exact .inl (sound.below parent earlier child below)
    · rw [List.mem_singleton.mp here] at below
      exact .inr below
  · intro child found
    rw [visited]
    rcases List.mem_append.mp (grown.mem_iff.mp found) with already | below
    · refine (sound.origin child already).imp_right ?_
      rintro ⟨parent, earlier, below⟩
      exact ⟨parent, List.mem_append_left _ earlier, below⟩
    · exact .inr ⟨vertex, List.mem_append_right _ (List.mem_singleton_self vertex), below⟩

theorem From.sound {walk : Walk α} (walked : From children root walk)
    (spans : Spans children order root height) (distinct : order.Nodup) :
    Sound children order root walk := by
  have listed := spans.listed distinct
  induction walked with
  | refl => exact sound_start spans.root_mem
  | tail _ step ih => exact ih.step listed spans.closed step

/-- A walk that has nothing left to visit has come down every path. -/
theorem Sound.covers {walk : Walk α} (sound : Sound children order root walk)
    (finished : walk.pending = []) {links : List Nat} {vertex : α}
    (reached : follow children root links = some vertex) : vertex ∈ walk.visited := by
  have all : walk.met = walk.visited := by rw [met, finished, List.append_nil]
  induction links using List.reverseRecOn generalizing vertex with
  | nil =>
      cases reached
      exact all ▸ sound.start
  | append_singleton links position ih =>
      obtain ⟨parent, onward, link⟩ := follow_snoc.mp reached
      exact all ▸ sound.below parent (ih onward) vertex (List.mem_of_getElem? link)

/-- A walk visits no vertex twice, ends when it has visited as many as there are,
and has then visited each. -/
theorem From.exact {walk : Walk α} (walked : From children root walk)
    (spans : Spans children order root height) (distinct : order.Nodup) :
    walk.visited.length ≤ order.length ∧
      (walk.pending = [] ↔ walk.visited.length = order.length) ∧
      (walk.pending = [] → walk.visited.Perm order) := by
  have sound := walked.sound spans distinct
  have fresh : walk.visited.Nodup := sound.nodup.of_append_left
  have some : walk.visited ⊆ order :=
    fun vertex visited => sound.inside vertex (List.mem_append_left _ visited)
  have covered : walk.pending = [] → walk.visited.Perm order := by
    intro finished
    refine (List.perm_ext_iff_of_nodup fresh distinct).mpr fun vertex => ⟨@some vertex, ?_⟩
    intro inside
    obtain ⟨links, reached, _⟩ := spans.reached vertex inside
    exact sound.covers finished reached
  refine ⟨(fresh.subperm some).length_le, ⟨fun finished => (covered finished).length_eq, ?_⟩,
    covered⟩
  intro full
  have every := (fresh.subperm some).perm_of_length_le (le_of_eq full.symm)
  refine List.eq_nil_iff_forall_not_mem.mpr ?_
  intro vertex pending
  have visited : vertex ∈ walk.visited :=
    every.mem_iff.mpr (sound.inside vertex (List.mem_append_right _ pending))
  exact (List.nodup_append.mp sound.nodup).2.2 vertex visited vertex pending rfl

/-- Every walk of a tree can be brought to its end. -/
theorem From.ends {walk : Walk α} (walked : From children root walk)
    (spans : Spans children order root height) (distinct : order.Nodup) :
    ∃ final, Relation.ReflTransGen (Step children) walk final ∧ final.pending = [] := by
  -- Each step visits one more vertex, and there are only so many.
  generalize left : order.length - walk.visited.length = rounds
  induction rounds generalizing walk with
  | zero =>
      obtain ⟨few, finished, _⟩ := walked.exact spans distinct
      exact ⟨walk, .refl, finished.mpr (by omega)⟩
  | succ rounds ih =>
      by_cases finished : walk.pending = []
      · exact ⟨walk, .refl, finished⟩
      · obtain ⟨next, step⟩ := exists_step children finished
        obtain ⟨_, _, visited, _⟩ := step.met
        have fewer : order.length - next.visited.length = rounds := by
          rw [visited, List.length_append, List.length_singleton]
          omega
        obtain ⟨final, onward, finished⟩ := ih (walked.tail step) fewer
        exact ⟨final, onward.head step, finished⟩

end Walk

end VividProtocol.Library.RootedTree

import Mathlib.Tactic
import VividProtocol.Retained.Effect

/-!
# Contexts do not interfere

A buffered mutation names only nodes of the context whose transaction it is in,
so a commit reads and writes the nodes of one context.  What two contexts share
is the revision counter, and they can only be told apart by the last value it
has left.
-/

set_option autoImplicit false

namespace VividProtocol.Retained

open Std VividProtocol.Library VividProtocol.Library.Result VividProtocol.Library.Transition

/-! ## Mutations of one context -/

/-- Two node maps hold the same nodes of a context. -/
def AgreeOn (contextId : UInt64) (left right : NodeMap) : Prop :=
  ∀ key : ScopedKey, key.1 = contextId → left[key]? = right[key]?

/-- Two node maps hold the same nodes of every other context. -/
def AgreeOff (contextId : UInt64) (left right : NodeMap) : Prop :=
  ∀ key : ScopedKey, key.1 ≠ contextId → left[key]? = right[key]?

def OwnedBy (contextId : UInt64) (mutations : List Mutation) : Prop :=
  ∀ mutation ∈ mutations, mutation.owner = contextId

variable {contextId : UInt64} {left right candidate : NodeMap}

theorem AgreeOn.contains (agree : AgreeOn contextId left right) (key : ScopedKey)
    (owned : key.1 = contextId) : left.contains key = right.contains key := by
  rw [ExtTreeMap.contains_eq_isSome_getElem?, ExtTreeMap.contains_eq_isSome_getElem?,
    agree key owned]

theorem AgreeOn.insert (agree : AgreeOn contextId left right) (key : ScopedKey)
    (node : SceneNode) : AgreeOn contextId (left.insert key node) (right.insert key node) := by
  intro probe owned
  simp only [OrderedMap.lookup_insert, agree probe owned]

theorem AgreeOn.erase (agree : AgreeOn contextId left right) (key : ScopedKey) :
    AgreeOn contextId (left.erase key) (right.erase key) := by
  intro probe owned
  simp only [OrderedMap.lookup_erase, agree probe owned]

/-- The same mutation meets the same answer on maps that agree on its context. -/
theorem applyTo_agree {mutation : Mutation} (owned : mutation.owner = contextId)
    (agree : AgreeOn contextId left right) :
    (∃ error, mutation.applyTo left = .error error ∧
        mutation.applyTo right = .error error) ∨
      ∃ after after', mutation.applyTo left = .ok after ∧
        mutation.applyTo right = .ok after' ∧ AgreeOn contextId after after' := by
  cases mutation with
  | create node =>
      have same := agree.contains node.key owned
      by_cases found : right.contains node.key
      · exact Or.inl ⟨_, by simp [Mutation.applyTo, same, found]; rfl,
          by simp [Mutation.applyTo, found]⟩
      · exact Or.inr ⟨_, _, by simp [Mutation.applyTo, same, found]; rfl,
          by simp [Mutation.applyTo, found], agree.insert _ node⟩
  | update node =>
      have same := agree.contains node.key owned
      by_cases found : right.contains node.key
      · exact Or.inr ⟨_, _, by simp [Mutation.applyTo, same, found]; rfl,
          by simp [Mutation.applyTo, found], agree.insert _ node⟩
      · exact Or.inl ⟨_, by simp [Mutation.applyTo, same, found]; rfl,
          by simp [Mutation.applyTo, found]⟩
  | delete owner nodeId =>
      have same := agree.contains (owner, nodeId) owned
      by_cases found : right.contains (owner, nodeId)
      · exact Or.inr ⟨_, _, by simp [Mutation.applyTo, same, found]; rfl,
          by simp [Mutation.applyTo, found], agree.erase _⟩
      · exact Or.inl ⟨_, by simp [Mutation.applyTo, same, found]; rfl,
          by simp [Mutation.applyTo, found]⟩

theorem applyMutations_agree {mutations : List Mutation}
    (owned : OwnedBy contextId mutations) (agree : AgreeOn contextId left right) :
    (∃ error, applyMutations left mutations = .error error ∧
        applyMutations right mutations = .error error) ∨
      ∃ after after', applyMutations left mutations = .ok after ∧
        applyMutations right mutations = .ok after' ∧ AgreeOn contextId after after' := by
  induction mutations generalizing left right with
  | nil => exact Or.inr ⟨left, right, rfl, rfl, agree⟩
  | cons mutation rest ih =>
      have head := owned mutation (by simp)
      have tail : OwnedBy contextId rest := fun other inside =>
        owned other (List.mem_cons_of_mem _ inside)
      rcases applyTo_agree head agree with
        ⟨error, first, second⟩ | ⟨after, after', first, second, still⟩
      · exact Or.inl ⟨error, by simp [applyMutations, first], by simp [applyMutations, second]⟩
      · simpa [applyMutations, first, second] using ih tail still

theorem applyTo_agreeOff {mutation : Mutation} (owned : mutation.owner = contextId)
    (applied : mutation.applyTo left = .ok candidate) :
    AgreeOff contextId candidate left := by
  intro key other
  cases mutation with
  | create node =>
      obtain ⟨-, same⟩ := ite_error_eq_ok_iff.mp applied
      cases same
      rw [OrderedMap.lookup_insert, if_neg]
      rintro rfl
      exact other owned
  | update node =>
      by_cases found : left.contains node.key
      · simp only [Mutation.applyTo, found, if_true, Except.ok.injEq] at applied
        rw [← applied, OrderedMap.lookup_insert, if_neg]
        rintro rfl
        exact other owned
      · simp [Mutation.applyTo, found] at applied
  | delete owner nodeId =>
      by_cases found : left.contains (owner, nodeId)
      · simp only [Mutation.applyTo, found, if_true, Except.ok.injEq] at applied
        rw [← applied, OrderedMap.lookup_erase, if_neg]
        rintro rfl
        exact other owned
      · simp [Mutation.applyTo, found] at applied

theorem applyMutations_agreeOff {mutations : List Mutation}
    (owned : OwnedBy contextId mutations)
    (applied : applyMutations left mutations = .ok candidate) :
    AgreeOff contextId candidate left := by
  induction mutations generalizing left with
  | nil =>
      cases applied
      exact fun key other => rfl
  | cons mutation rest ih =>
      obtain ⟨middle, first, remaining⟩ := bind_eq_ok_iff.mp applied
      have tail : OwnedBy contextId rest := fun later inside =>
        owned later (List.mem_cons_of_mem _ inside)
      intro key other
      rw [ih tail remaining key other, applyTo_agreeOff (owned mutation (by simp)) first key other]

/-! ## Buffered mutations stay owned -/

structure Separated (scene : Scene) : Prop where
  nodes : ∀ (key : ScopedKey) node, scene.nodes[key]? = some node → node.key = key
  transactions : ∀ (key : ScopedKey) mutations, scene.transactions[key]? = some mutations →
    OwnedBy key.1 mutations

theorem applyTo_keyed {mutation : Mutation} (applied : mutation.applyTo left = .ok candidate)
    (keyed : ∀ (key : ScopedKey) node, left[key]? = some node → node.key = key)
    (key : ScopedKey) (node : SceneNode) (found : candidate[key]? = some node) :
    node.key = key := by
  have inserted (added : SceneNode) (lookup : (left.insert added.key added)[key]? = some node) :
      node.key = key := by
    rw [OrderedMap.lookup_insert] at lookup
    split_ifs at lookup with named
    · cases lookup
      exact named
    · exact keyed key node lookup
  cases mutation with
  | create added =>
      obtain ⟨-, same⟩ := ite_error_eq_ok_iff.mp applied
      cases same
      exact inserted added found
  | update added =>
      by_cases present : left.contains added.key
      · simp only [Mutation.applyTo, present, if_true, Except.ok.injEq] at applied
        rw [← applied] at found
        exact inserted added found
      · simp [Mutation.applyTo, present] at applied
  | delete owner nodeId =>
      by_cases present : left.contains (owner, nodeId)
      · simp only [Mutation.applyTo, present, if_true, Except.ok.injEq] at applied
        rw [← applied, OrderedMap.lookup_erase] at found
        split_ifs at found with named
        exact keyed key node found
      · simp [Mutation.applyTo, present] at applied

theorem applyMutations_keyed {mutations : List Mutation}
    (applied : applyMutations left mutations = .ok candidate)
    (keyed : ∀ (key : ScopedKey) node, left[key]? = some node → node.key = key) :
    ∀ (key : ScopedKey) node, candidate[key]? = some node → node.key = key := by
  induction mutations generalizing left with
  | nil =>
      cases applied
      exact keyed
  | cons mutation rest ih =>
      obtain ⟨middle, first, remaining⟩ := bind_eq_ok_iff.mp applied
      exact ih remaining (applyTo_keyed first keyed)

theorem lookup_filter_eq_some {keeps : ScopedKey → SceneNode → Bool} {key : ScopedKey}
    {node : SceneNode} (found : (left.filter keeps)[key]? = some node) :
    left[key]? = some node := by
  rw [ExtTreeMap.getElem?_filter'] at found
  exact (Option.filter_eq_some_iff.mp found).1

variable {before after : Scene} {input : SceneInput} {output : SceneOutput}

theorem SceneEffect.preserves_separated (separated : Separated before)
    (effect : SceneEffect before input output after) : Separated after := by
  have erased (gone key : ScopedKey) (mutations : List Mutation)
      (found : (before.transactions.erase gone)[key]? = some mutations) :
      OwnedBy key.1 mutations := by
    rw [OrderedMap.lookup_erase] at found
    split_ifs at found
    exact separated.transactions key mutations found
  cases effect with
  | refused input error => exact separated
  | began contextId transactionId fresh =>
      refine ⟨separated.nodes, ?_⟩
      intro key mutations found
      rw [OrderedMap.lookup_insert] at found
      split_ifs at found
      · cases found
        simp [OwnedBy]
      · exact separated.transactions key mutations found
  | buffered input owner mutation mutations asked owned found =>
      refine ⟨separated.nodes, ?_⟩
      intro key kept lookup
      rw [OrderedMap.lookup_insert] at lookup
      split_ifs at lookup with named
      · cases lookup
        subst named
        exact forall_snoc (separated.transactions owner mutations found) owned
      · exact separated.transactions key kept lookup
  | aborted contextId transactionId live => exact ⟨separated.nodes, erased _⟩
  | declined input error => exact separated
  | committed contextId transactionId generation revision mutations candidate next found
      applied advanced =>
      exact ⟨applyMutations_keyed applied separated.nodes, erased _⟩
  | cleaned surfaceContextId surfaceId retained removed revision kept counted advanced =>
      subst kept
      exact ⟨fun key node found => separated.nodes key node (lookup_filter_eq_some found),
        separated.transactions⟩
  | exhausted surfaceContextId surfaceId retained error kept full =>
      subst kept
      exact ⟨fun key node found => separated.nodes key node (lookup_filter_eq_some found),
        separated.transactions⟩

theorem separated_reachable {scene : Scene} {session : SessionIdentity}
    {generation : TargetGeneration} (fresh : Scene.new session generation = .ok scene)
    (inputs : List SceneInput) : Separated (sceneMachine.final scene inputs) := by
  apply sceneMachine.invariant_final
  · obtain ⟨target, -, fresh⟩ := bind_eq_ok_iff.mp fresh
    cases fresh
    exact ⟨by simp, by simp⟩
  · intro state input separated
    exact (sceneStep_effect state input).preserves_separated separated

/-! ## Committing in either order -/

namespace Scene

/-- A commit without an expected scene revision. -/
def commitAt (scene : Scene) (key : ScopedKey) (generation : TargetGeneration) :
    Except MessageError SceneRevision × Scene :=
  scene.commitTransaction key.1 key.2 generation none

/-- The outcome of that commit, without the revision it returns. -/
def verdictOf (scene : Scene) (key : ScopedKey) (generation : TargetGeneration) :
    Except MessageError Unit :=
  (scene.commitAt key generation).1.map fun _ => ()

end Scene

/-- What a commit of a live transaction does. -/
theorem commitAt_live (scene : Scene) {key : ScopedKey} {mutations : List Mutation}
    (live : scene.transactions[key]? = some mutations) (generation : TargetGeneration) :
    scene.commitAt key generation =
      commit scene
        (if generation ≠ scene.targetGeneration then
          .error (invalidValue "COMMIT_TXN" 2 "uses a stale target generation")
        else do
          let candidate ← applyMutations scene.nodes mutations
          let next ← orInvalid "COMMIT_TXN" 0 "exhausted scene revision"
            scene.revision.advance
          .ok (next, { scene with
            nodes := candidate
            revision := next
            transactions := scene.transactions.erase key })) := by
  unfold Scene.commitAt Scene.commitTransaction
  simp [live]

theorem commitAt_cases (scene : Scene) {key : ScopedKey} {mutations : List Mutation}
    (live : scene.transactions[key]? = some mutations) (generation : TargetGeneration) :
    (∃ error, scene.commitAt key generation = (.error error, scene)) ∨
      ∃ candidate next, applyMutations scene.nodes mutations = .ok candidate ∧
        next.toNat = scene.revision.toNat + 1 ∧
        scene.commitAt key generation = (.ok next, { scene with
          nodes := candidate
          revision := next
          transactions := scene.transactions.erase key }) := by
  rw [commitAt_live scene live]
  rcases commit_cases scene _ with ⟨error, -, ends⟩ | ⟨next, after, accepted, ends⟩
  · exact Or.inl ⟨error, ends⟩
  · obtain ⟨-, accepted⟩ := ite_error_eq_ok_iff.mp accepted
    obtain ⟨candidate, applied, accepted⟩ := bind_eq_ok_iff.mp accepted
    obtain ⟨advanced, moved, accepted⟩ := bind_eq_ok_iff.mp accepted
    cases accepted
    exact Or.inr ⟨candidate, next, applied,
      Counter.advance_eq_ok.mp (orInvalid_eq_ok.mp moved), ends⟩

theorem commitAt_agreeOff {scene : Scene} {key : ScopedKey} {mutations : List Mutation}
    (separated : Separated scene) (live : scene.transactions[key]? = some mutations)
    (generation : TargetGeneration) :
    AgreeOff key.1 (scene.commitAt key generation).2.nodes scene.nodes := by
  rcases commitAt_cases scene live generation with
    ⟨error, ends⟩ | ⟨candidate, next, applied, -, ends⟩
  · rw [ends]
    exact fun probe other => rfl
  · rw [ends]
    exact applyMutations_agreeOff (separated.transactions key mutations live) applied

/-- One revision is left, and either commit alone would take it. -/
def ContendForLast (scene : Scene) (first second : ScopedKey)
    (generation generation' : TargetGeneration) : Prop :=
  scene.revision.toNat + 2 = 2 ^ 64 ∧ scene.verdictOf first generation = .ok () ∧
    scene.verdictOf second generation' = .ok ()

theorem ContendForLast.symm {scene : Scene} {first second : ScopedKey}
    {generation generation' : TargetGeneration}
    (contend : ContendForLast scene first second generation generation') :
    ContendForLast scene second first generation' generation :=
  ⟨contend.1, contend.2.2, contend.2.1⟩

/-- A commit made after another context's commit ends as it would have before. -/
theorem commitAt_after {scene : Scene} {key other : ScopedKey}
    {generation generation' : TargetGeneration} {mutations mutations' : List Mutation}
    (separated : Separated scene) (distinct : key.1 ≠ other.1)
    (live : scene.transactions[key]? = some mutations)
    (liveOther : scene.transactions[other]? = some mutations')
    (room : ¬ ContendForLast scene key other generation generation') :
    let later := (scene.commitAt other generation').2
    later.verdictOf key generation = scene.verdictOf key generation ∧
      AgreeOn key.1 (later.commitAt key generation).2.nodes
        (scene.commitAt key generation).2.nodes ∧
      AgreeOff key.1 (later.commitAt key generation).2.nodes later.nodes := by
  rcases commitAt_cases scene liveOther generation' with
    ⟨error, ends⟩ | ⟨candidate, next, applied, advanced, ends⟩
  · rw [ends]
    exact ⟨rfl, fun probe owned => rfl, commitAt_agreeOff separated live generation⟩
  · have otherOk : scene.verdictOf other generation' = .ok () := by
      simp [Scene.verdictOf, ends, Except.map]
    have owned := separated.transactions key mutations live
    have frame := applyMutations_agreeOff (separated.transactions other mutations' liveOther) applied
    have agree : AgreeOn key.1 candidate scene.nodes := fun probe same =>
      frame probe (by rw [same]; exact distinct)
    have moved : scene.revision.advance = .ok next := Counter.advance_eq_ok.mpr advanced
    rw [ends]
    have liveLater : (scene.transactions.erase other)[key]? = some mutations := by
      rw [OrderedMap.lookup_erase, if_neg, live]
      rintro rfl
      exact distinct rfl
    simp only [Scene.verdictOf]
    rw [commitAt_live scene live, commitAt_live { scene with
      nodes := candidate
      revision := next
      transactions := scene.transactions.erase other } liveLater]
    by_cases stale : generation ≠ scene.targetGeneration
    · simp only [if_pos stale, commit, Except.map]
      exact ⟨trivial, agree, fun probe _ => rfl⟩
    · simp only [if_neg stale]
      rcases applyMutations_agree owned agree with
        ⟨error, first, second⟩ | ⟨after, after', first, second, still⟩
      · simp only [first, second, error_bind, commit, Except.map]
        exact ⟨trivial, agree, fun probe _ => rfl⟩
      · simp only [first, second, ok_bind, moved, orInvalid]
        cases again : next.advance with
        | error reason =>
            have full := Counter.advance_eq_error again
            refine absurd ⟨by omega, ?_, otherOk⟩ room
            simp [Scene.verdictOf, commitAt_live scene live, stale, second, moved, orInvalid, commit,
              Except.map]
        | ok last =>
            simp only [ok_bind, commit, Except.map]
            exact ⟨trivial, still, applyMutations_agreeOff owned first⟩

/-- The two commits end alike in either order. -/
structure Commute (scene : Scene) (first second : ScopedKey)
    (generation generation' : TargetGeneration) : Prop where
  answersFirst : (scene.commitAt second generation').2.verdictOf first generation =
    scene.verdictOf first generation
  answersSecond : (scene.commitAt first generation).2.verdictOf second generation' =
    scene.verdictOf second generation'
  nodes : ((scene.commitAt first generation).2.commitAt second generation').2.nodes =
    ((scene.commitAt second generation').2.commitAt first generation).2.nodes

def Live (scene : Scene) (key : ScopedKey) : Prop :=
  scene.transactions.contains key = true

instance (scene : Scene) (key : ScopedKey) : Decidable (Live scene key) :=
  inferInstanceAs (Decidable (_ = true))

theorem Live.mutations {scene : Scene} {key : ScopedKey} (live : Live scene key) :
    ∃ mutations, scene.transactions[key]? = some mutations := by
  unfold Live at live
  rw [ExtTreeMap.contains_eq_isSome_getElem?] at live
  exact Option.isSome_iff_exists.mp live

theorem Separated.commute {scene : Scene} {first second : ScopedKey}
    {generation generation' : TargetGeneration} (separated : Separated scene)
    (distinct : first.1 ≠ second.1) (live : Live scene first) (live' : Live scene second)
    (room : ¬ ContendForLast scene first second generation generation') :
    Commute scene first second generation generation' := by
  obtain ⟨mutations, found⟩ := live.mutations
  obtain ⟨mutations', found'⟩ := live'.mutations
  obtain ⟨verdict, on, off⟩ := commitAt_after separated distinct found found' room
  obtain ⟨verdict', on', off'⟩ := commitAt_after separated distinct.symm found' found
    fun contend => room contend.symm
  have frame := commitAt_agreeOff separated found generation
  have frame' := commitAt_agreeOff separated found' generation'
  refine ⟨verdict, verdict', ExtTreeMap.ext_getElem? fun key => ?_⟩
  by_cases mine : key.1 = first.1
  · rw [on key mine, off' key (by rw [mine]; exact distinct)]
  · rw [off key mine]
    by_cases yours : key.1 = second.1
    · rw [on' key yours]
    · rw [off' key yours, frame key mine, frame' key yours]

/-- The commit made first takes the last revision; the other one is then refused and
changes nothing. -/
structure TakesLast (scene : Scene) (first second : ScopedKey)
    (generation generation' : TargetGeneration) : Prop where
  taken : scene.verdictOf first generation = .ok ()
  refused : (scene.commitAt first generation).2.commitAt second generation' =
    (.error (invalidValue "COMMIT_TXN" 0 "exhausted scene revision"),
      (scene.commitAt first generation).2)

theorem verdictOf_eq_ok {scene : Scene} {key : ScopedKey} {mutations : List Mutation}
    {generation : TargetGeneration} (live : scene.transactions[key]? = some mutations)
    (succeeds : scene.verdictOf key generation = .ok ()) :
    generation = scene.targetGeneration ∧
      ∃ candidate next, applyMutations scene.nodes mutations = .ok candidate ∧
        next.toNat = scene.revision.toNat + 1 ∧
        scene.commitAt key generation = (.ok next, { scene with
          nodes := candidate
          revision := next
          transactions := scene.transactions.erase key }) := by
  constructor
  · by_contra stale
    rw [Scene.verdictOf, commitAt_live scene live, if_pos stale] at succeeds
    cases succeeds
  · rcases commitAt_cases scene live generation with ⟨error, ends⟩ | committed
    · rw [Scene.verdictOf, ends] at succeeds
      cases succeeds
    · exact committed

/-- Whichever of two commits that contend for the last revision is made first takes it. -/
theorem Separated.takesLast {scene : Scene} {first second : ScopedKey}
    {generation generation' : TargetGeneration} (separated : Separated scene)
    (distinct : first.1 ≠ second.1) (live : Live scene first) (live' : Live scene second)
    (contend : ContendForLast scene first second generation generation') :
    TakesLast scene first second generation generation' := by
  obtain ⟨left, firstOk, secondOk⟩ := contend
  obtain ⟨mutations, found⟩ := live.mutations
  obtain ⟨mutations', found'⟩ := live'.mutations
  obtain ⟨-, candidate, next, applied, advanced, ends⟩ := verdictOf_eq_ok found firstOk
  obtain ⟨target, candidate', next', applied', -, -⟩ := verdictOf_eq_ok found' secondOk
  refine ⟨firstOk, ?_⟩
  have frame := applyMutations_agreeOff (separated.transactions first mutations found) applied
  have agree : AgreeOn second.1 candidate scene.nodes := fun probe same =>
    frame probe (by rw [same]; exact distinct.symm)
  have liveLater : (scene.transactions.erase first)[second]? = some mutations' := by
    rw [OrderedMap.lookup_erase, if_neg, found']
    rintro rfl
    exact distinct rfl
  have exhausted : ∃ reason, next.advance = .error reason := by
    cases moved : next.advance with
    | error reason => exact ⟨reason, rfl⟩
    | ok last =>
        have beyond := Counter.advance_eq_ok.mp moved
        have bound : last.toNat < 2 ^ 64 := last.value.toNat_lt
        omega
  obtain ⟨reason, full⟩ := exhausted
  -- The second context's mutations still apply, so the revision is what refuses.
  rcases applyMutations_agree (separated.transactions second mutations' found') agree with
    ⟨error, -, fails⟩ | ⟨after, after', again, -, -⟩
  · rw [applied'] at fails
    cases fails
  · rw [ends, commitAt_live { scene with
      nodes := candidate
      revision := next
      transactions := scene.transactions.erase first } liveLater, if_neg (not_not.mpr target)]
    simp only [again, ok_bind, full, orInvalid, error_bind, commit]

/-- Where two commits contend for the last revision, the order decides. -/
theorem TakesLast.not_commute {scene : Scene} {first second : ScopedKey}
    {generation generation' : TargetGeneration}
    (takes : TakesLast scene first second generation generation')
    (succeeds : scene.verdictOf second generation' = .ok ()) :
    ¬ Commute scene first second generation generation' := by
  intro commute
  have answer := commute.answersSecond
  rw [succeeds, Scene.verdictOf, takes.refused] at answer
  cases answer

/-! ## What one operation leaves alone -/

/-- The context an operation is made with. -/
def SceneInput.context? : SceneInput → Option UInt64
  | .begin contextId _ => some contextId
  | .create contextId _ _ => some contextId
  | .update contextId _ _ => some contextId
  | .delete contextId _ _ => some contextId
  | .abort contextId _ => some contextId
  | .commit contextId _ _ _ => some contextId
  | .removeSurfaceReferences _ _ => none

structure IsolationLaw (past : List SceneEvent) (event : SceneEvent) : Prop where
  owner : ∀ (key : ScopedKey) node, event.before.nodes[key]? = some node → node.key = key
  foreign : ∀ contextId, event.input.context? = some contextId →
    AgreeOff contextId event.after.nodes event.before.nodes
  cleanup : ∀ surfaceContextId surfaceId,
    event.input = .removeSurfaceReferences surfaceContextId surfaceId →
    ∀ key : ScopedKey, event.after.nodes[key]? = event.before.nodes[key]? ∨
      event.after.nodes[key]? = none ∧ ∃ node, event.before.nodes[key]? = some node ∧
        node.surfaceContextId = surfaceContextId ∧ node.surfaceId = surfaceId

theorem lookup_cleanup (nodes : NodeMap) (surfaceContextId surfaceId : UInt64)
    (key : ScopedKey) :
    let retained := nodes.filter fun _ node => !node.shows surfaceContextId surfaceId
    retained[key]? = nodes[key]? ∨
      retained[key]? = none ∧ ∃ node, nodes[key]? = some node ∧
        node.surfaceContextId = surfaceContextId ∧ node.surfaceId = surfaceId := by
  simp only [ExtTreeMap.getElem?_filter']
  cases found : nodes[key]? with
  | none => exact Or.inl rfl
  | some node =>
      by_cases shown : node.shows surfaceContextId surfaceId
      · refine Or.inr ⟨by simp [shown], node, rfl, ?_⟩
        simpa [SceneNode.shows] using shown
      · exact Or.inl (by simp [shown])

theorem SceneEffect.isolation {past : List SceneEvent} (separated : Separated before)
    (effect : SceneEffect before input output after) :
    IsolationLaw past ⟨before, input, output, after⟩ := by
  refine ⟨separated.nodes, ?_, ?_⟩
  · intro contextId made key other
    cases effect with
    | refused input error => rfl
    | began contextId transactionId fresh => rfl
    | buffered input owner mutation mutations asked owned found => rfl
    | aborted contextId transactionId live => rfl
    | declined input error => rfl
    | committed contextId transactionId generation revision mutations candidate next found
        applied advanced =>
        cases made
        exact applyMutations_agreeOff (separated.transactions _ mutations found) applied key other
    | cleaned surfaceContextId surfaceId retained removed revision kept counted advanced =>
        cases made
    | exhausted surfaceContextId surfaceId retained error kept full => cases made
  · intro surfaceContextId surfaceId asked key
    cases effect with
    | refused input error => exact Or.inl rfl
    | began contextId transactionId fresh => exact Or.inl rfl
    | buffered input owner mutation mutations accepted owned found => exact Or.inl rfl
    | aborted contextId transactionId live => exact Or.inl rfl
    | declined input error => exact Or.inl rfl
    | committed contextId transactionId generation revision mutations candidate next found
        applied advanced => cases asked
    | cleaned _ _ retained removed revision kept counted advanced =>
        cases asked
        subst kept
        exact lookup_cleanup before.nodes surfaceContextId surfaceId key
    | exhausted _ _ retained error kept full =>
        cases asked
        subst kept
        exact lookup_cleanup before.nodes surfaceContextId surfaceId key

/-! ## The last revision -/

/-- Commits empty transactions, then leaves two contexts with one open each. -/
def exhaust : Nat → List SceneInput
  | 0 => [.begin 2 1, .begin 3 1]
  | rounds + 1 => .begin 2 1 :: .commit 2 1 .one none :: exhaust rounds

theorem begin_fresh (scene : Scene) (contextId transactionId : UInt64)
    (context : contextId ≠ 0) (transaction : transactionId ≠ 0)
    (fresh : scene.transactions[(contextId, transactionId)]? = none) :
    scene.begin contextId transactionId = (.ok (), { scene with
      transactions := scene.transactions.insert (contextId, transactionId) [] }) := by
  have absent : scene.transactions.contains (contextId, transactionId) = false := by
    rw [ExtTreeMap.contains_eq_isSome_getElem?, fresh]
    rfl
  simp [Scene.begin, requireNonzero, context, transaction, absent, commit]

/-- An empty transaction commits while a revision is left. -/
theorem commit_empty (scene : Scene) (key : ScopedKey) (generation : TargetGeneration)
    (next : SceneRevision) (live : scene.transactions[key]? = some [])
    (target : scene.targetGeneration = generation)
    (moved : scene.revision.advance = .ok next) :
    scene.commitAt key generation = (.ok next, { scene with
      revision := next
      transactions := scene.transactions.erase key }) := by
  rw [commitAt_live scene live]
  simp [target, applyMutations, moved, orInvalid, commit]

theorem erase_insert_empty (key : ScopedKey) (mutations : List Mutation) :
    ((∅ : TransactionMap).insert key mutations).erase key = ∅ := by
  apply ExtTreeMap.ext_getElem?
  intro probe
  rw [OrderedMap.lookup_erase, OrderedMap.lookup_insert]
  split_ifs <;> simp

theorem advance_of_room {label : String} (counter : Counter label)
    (fits : counter.toNat + 1 < 2 ^ 64) : ∃ next, counter.advance = .ok next := by
  cases moved : counter.advance with
  | error reason =>
      have full := Counter.advance_eq_error moved
      omega
  | ok next => exact ⟨next, rfl⟩

/-- One round of `exhaust` spends one revision. -/
theorem spend_round {scene : Scene} (closed : scene.transactions = ∅)
    (target : scene.targetGeneration = .one) (fits : scene.revision.toNat + 1 < 2 ^ 64) :
    let spent := sceneMachine.final scene [.begin 2 1, .commit 2 1 .one none]
    spent.revision.toNat = scene.revision.toNat + 1 ∧ spent.targetGeneration = .one ∧
      spent.transactions = ∅ := by
  obtain ⟨next, moved⟩ := advance_of_room scene.revision fits
  have begun := begin_fresh scene 2 1
    (by decide) (by decide) (by simp [closed])
  have committed := commit_empty (scene.begin 2 1).2 (2, 1) .one next (by simp [begun]) (by rw [begun]; exact target)
    (by rw [begun]; exact moved)
  rw [begun] at committed
  have final : sceneMachine.final scene [.begin 2 1, .commit 2 1 .one none] =
      ((scene.begin 2 1).2.commitAt (2, 1) .one).2 := rfl
  rw [final, begun, committed]
  refine ⟨Counter.advance_eq_ok.mp moved, target, ?_⟩
  simp only [closed, erase_insert_empty]

theorem exhaust_final (rounds : Nat) {scene : Scene} (closed : scene.transactions = ∅)
    (target : scene.targetGeneration = .one)
    (fits : scene.revision.toNat + rounds < 2 ^ 64) :
    let last := sceneMachine.final scene (exhaust rounds)
    last.revision.toNat = scene.revision.toNat + rounds ∧ last.targetGeneration = .one ∧
      last.transactions[((2, 1) : ScopedKey)]? = some [] ∧
      last.transactions[((3, 1) : ScopedKey)]? = some [] := by
  induction rounds generalizing scene with
  | zero =>
      have first := begin_fresh scene 2 1
        (by decide) (by decide) (by simp [closed])
      have second := begin_fresh (scene.begin 2 1).2 3 1 (by decide) (by decide)
        (by simp [first, closed])
      have final : sceneMachine.final scene (exhaust 0) = ((scene.begin 2 1).2.begin 3 1).2 := rfl
      rw [final, second, first]
      refine ⟨rfl, target, ?_, ?_⟩
      · rw [OrderedMap.lookup_insert, if_neg (by decide), OrderedMap.lookup_insert, if_pos rfl]
      · rw [OrderedMap.lookup_insert, if_pos rfl]
  | succ rounds ih =>
      obtain ⟨spent, targetKept, closedAgain⟩ := spend_round closed target (by omega)
      obtain ⟨revision, more⟩ := ih closedAgain targetKept (by omega)
      refine ⟨?_, more⟩
      have total : (sceneMachine.final scene (exhaust (rounds + 1))).revision.toNat =
        (sceneMachine.final (sceneMachine.final scene
          [.begin 2 1, .commit 2 1 .one none]) (exhaust rounds)).revision.toNat := rfl
      rw [total, revision, spent]
      omega

/-- Then one revision is left, and both contexts would take it. -/
theorem exhausted_contend (rounds : Nat) (full : rounds + 2 = 2 ^ 64) {scene : Scene}
    (closed : scene.transactions = ∅) (target : scene.targetGeneration = .one)
    (start : scene.revision = .zero) :
    let last := sceneMachine.final scene (exhaust rounds)
    Live last (2, 1) ∧ Live last (3, 1) ∧ ContendForLast last (2, 1) (3, 1) .one .one := by
  have zero : scene.revision.toNat = 0 := by
    rw [start]
    rfl
  obtain ⟨revision, generation, first, second⟩ := exhaust_final rounds closed target (by omega)
  revert revision generation first second
  generalize sceneMachine.final scene (exhaust rounds) = last
  intro revision generation first second
  obtain ⟨next, moved⟩ := advance_of_room last.revision (by omega)
  have live : Live last (2, 1) := by
    unfold Live
    rw [ExtTreeMap.contains_eq_isSome_getElem?, first]
    rfl
  have live' : Live last (3, 1) := by
    unfold Live
    rw [ExtTreeMap.contains_eq_isSome_getElem?, second]
    rfl
  have firstOk := commit_empty last (2, 1) .one next first generation moved
  have secondOk := commit_empty last (3, 1) .one next second generation moved
  refine ⟨live, live', by omega, ?_, ?_⟩
  · simp [Scene.verdictOf, firstOk, Except.map]
  · simp [Scene.verdictOf, secondOk, Except.map]

/-! ## Every run -/

/-- Contexts do not interfere through the scene, except for its last revision: of two
commits that contend for it, the one made first takes it and the other is refused. -/
theorem scene_contexts_isolated {scene : Scene} (session : SessionIdentity)
    (generation : TargetGeneration) (fresh : Scene.new session generation = .ok scene)
    (inputs : List SceneInput) :
    (∀ first second generation generation', first.1 ≠ second.1 →
      Live (sceneMachine.final scene inputs) first →
      Live (sceneMachine.final scene inputs) second →
      (¬ ContendForLast (sceneMachine.final scene inputs) first second generation generation' →
        Commute (sceneMachine.final scene inputs) first second generation generation') ∧
      (ContendForLast (sceneMachine.final scene inputs) first second generation generation' →
        TakesLast (sceneMachine.final scene inputs) first second generation generation' ∧
          TakesLast (sceneMachine.final scene inputs) second first generation' generation)) ∧
    Always IsolationLaw (sceneMachine.history scene inputs) := by
  have separated := separated_reachable fresh inputs
  constructor
  · intro first second generation generation' distinct live live'
    constructor
    · exact separated.commute distinct live live'
    · intro contend
      exact ⟨separated.takesLast distinct live live' contend,
        separated.takesLast distinct.symm live' live contend.symm⟩
  · refine sceneMachine.always_history ?_ inputs
    intro earlier input
    exact (sceneStep_effect _ input).isolation (separated_reachable fresh earlier)

/-- A node of a context that shows surface 4 of the same context. -/
def sampleNode (contextId : UInt64) : SceneNode where
  owningContextId := contextId
  nodeId := 5
  surfaceContextId := contextId
  surfaceId := 4
  geometry := []
  fit := .contain
  linearSampling := true
  zIndex := 0
  visible := true
  opacity := 65535
  clip := none

/-- Two contexts create a node of the same ID; one of them moves it again. -/
def samplePair : List SceneInput :=
  [.begin 2 1, .create 2 1 (sampleNode 2), .begin 3 1, .create 3 1 (sampleNode 3),
    .update 2 1 { sampleNode 2 with zIndex := 7 }]

/-- Two contexts with a node each to commit, and two that contend for the last revision. -/
theorem scene_contexts_isolated_open_pair :
    let session : SessionIdentity := ⟨⟨Vector.replicate 16 1⟩, 1⟩
    let scene : Scene := ⟨session, .zero, .one, ∅, ∅⟩
    let last := sceneMachine.final scene (exhaust (2 ^ 64 - 2))
    Commute (sceneMachine.final scene samplePair) (2, 1) (3, 1) .one .one ∧
      Always IsolationLaw (sceneMachine.history scene samplePair) ∧
      TakesLast last (2, 1) (3, 1) .one .one ∧ TakesLast last (3, 1) (2, 1) .one .one := by
  have isolated := scene_contexts_isolated ⟨⟨Vector.replicate 16 1⟩, 1⟩ .one rfl
  obtain ⟨live, live', contend⟩ := @exhausted_contend (2 ^ 64 - 2) (by norm_num)
    ⟨⟨⟨Vector.replicate 16 1⟩, 1⟩, .zero, .one, ∅, ∅⟩ rfl rfl rfl
  refine ⟨((isolated samplePair).1 (2, 1) (3, 1) .one .one (by decide) (by decide)
    (by decide)).1 ?_, (isolated samplePair).2,
    ((isolated (exhaust (2 ^ 64 - 2))).1 (2, 1) (3, 1) .one .one (by decide) live live').2 contend⟩
  exact fun few => absurd few.1 (by decide)

/-- After `2 ^ 64 - 2` commits one revision is left, and whichever of two
contexts commits first gets it. -/
theorem last_revision_distinguishes :
    Scene.new ⟨⟨Vector.replicate 16 1⟩, 1⟩ .one =
        .ok ⟨⟨⟨Vector.replicate 16 1⟩, 1⟩, .zero, .one, ∅, ∅⟩ ∧
      let last := sceneMachine.final ⟨⟨⟨Vector.replicate 16 1⟩, 1⟩, .zero, .one, ∅, ∅⟩
        (exhaust (2 ^ 64 - 2))
      Live last (2, 1) ∧ Live last (3, 1) ∧ ¬ Commute last (2, 1) (3, 1) .one .one := by
  obtain ⟨live, live', contend⟩ := @exhausted_contend (2 ^ 64 - 2) (by norm_num)
    ⟨⟨⟨Vector.replicate 16 1⟩, 1⟩, .zero, .one, ∅, ∅⟩ rfl rfl rfl
  have separated := @separated_reachable _ ⟨⟨Vector.replicate 16 1⟩, 1⟩ .one rfl
    (exhaust (2 ^ 64 - 2))
  exact ⟨rfl, live, live',
    (separated.takesLast (by decide) live live' contend).not_commute contend.2.2⟩

end VividProtocol.Retained

import Mathlib.Tactic
import VividProtocol.Retained.Scene

/-!
# What one scene request does

`SceneEffect` lists every way a request can be answered, with the scene it
leaves.  A buffered mutation is owned by the context whose transaction it is
in.
-/

set_option autoImplicit false

namespace VividProtocol.Retained

open Std VividProtocol.Library VividProtocol.Library.Result VividProtocol.Library.Transition

/-- The mutation a request asks to buffer, and the transaction it names. -/
def SceneInput.mutation? : SceneInput → Option (ScopedKey × Mutation)
  | .create contextId transactionId node => some ((contextId, transactionId), .create node)
  | .update contextId transactionId node => some ((contextId, transactionId), .update node)
  | .delete contextId transactionId nodeId =>
      some ((contextId, transactionId), .delete contextId nodeId)
  | _ => none

/-- The context whose node a mutation names. -/
def Mutation.owner : Mutation → UInt64
  | .create node => node.owningContextId
  | .update node => node.owningContextId
  | .delete contextId _ => contextId

/-- All that one request can do to the scene. -/
inductive SceneEffect (before : Scene) : SceneInput → SceneOutput → Scene → Prop where
  | refused (input : SceneInput) (error : MessageError) :
      SceneEffect before input (.done (.error error)) before
  | began (contextId transactionId : UInt64)
      (fresh : before.transactions[(contextId, transactionId)]? = none) :
      SceneEffect before (.begin contextId transactionId) (.done (.ok ()))
        { before with
          transactions := before.transactions.insert (contextId, transactionId) [] }
  | buffered (input : SceneInput) (key : ScopedKey) (mutation : Mutation)
      (mutations : List Mutation) (asked : input.mutation? = some (key, mutation))
      (owned : mutation.owner = key.1)
      (found : before.transactions[key]? = some mutations) :
      SceneEffect before input (.done (.ok ()))
        { before with
          transactions := before.transactions.insert key (mutations ++ [mutation]) }
  | aborted (contextId transactionId : UInt64) (live : Bool) :
      SceneEffect before (.abort contextId transactionId) (.aborted live)
        { before with
          transactions := before.transactions.erase (contextId, transactionId) }
  | declined (input : SceneInput) (error : MessageError) :
      SceneEffect before input (.committed (.error error)) before
  | committed (contextId transactionId : UInt64) (generation : TargetGeneration)
      (revision : Option SceneRevision) (mutations : List Mutation)
      (candidate : NodeMap) (next : SceneRevision)
      (found : before.transactions[(contextId, transactionId)]? = some mutations)
      (applied : applyMutations before.nodes mutations = .ok candidate)
      (advanced : next.toNat = before.revision.toNat + 1) :
      SceneEffect before (.commit contextId transactionId generation revision)
        (.committed (.ok next))
        { before with
          nodes := candidate
          revision := next
          transactions := before.transactions.erase (contextId, transactionId) }
  | cleaned (surfaceContextId surfaceId : UInt64) (retained : NodeMap)
      (removed : Nat) (revision : SceneRevision)
      (kept : retained =
        before.nodes.filter fun _ node => !node.shows surfaceContextId surfaceId)
      (counted : removed + retained.size = before.nodes.size)
      (advanced : revision.toNat =
        before.revision.toNat + (if removed = 0 then 0 else 1)) :
      SceneEffect before (.removeSurfaceReferences surfaceContextId surfaceId)
        (.removed (.ok removed))
        { before with nodes := retained, revision := revision }
  | exhausted (surfaceContextId surfaceId : UInt64) (retained : NodeMap)
      (error : MessageError)
      (kept : retained =
        before.nodes.filter fun _ node => !node.shows surfaceContextId surfaceId)
      (full : before.revision.toNat + 1 = 2 ^ 64) :
      SceneEffect before (.removeSurfaceReferences surfaceContextId surfaceId)
        (.removed (.error error))
        { before with nodes := retained }

variable (scene : Scene)

theorem begin_effect (contextId transactionId : UInt64) :
    SceneEffect scene (.begin contextId transactionId)
      (.done (scene.begin contextId transactionId).1)
      (scene.begin contextId transactionId).2 := by
  unfold Scene.begin
  rcases commit_cases scene _ with ⟨error, -, ends⟩ | ⟨_, next, accepted, ends⟩
  · rw [ends]
    exact .refused _ error
  · rw [ends]
    obtain ⟨fresh, same⟩ := ite_error_eq_ok_iff.mp
      (requireNonzero_bind_ok (requireNonzero_bind_ok accepted))
    cases same
    refine .began contextId transactionId ?_
    simpa using fresh

theorem buffer_effect {input : SceneInput} {contextId transactionId : UInt64}
    {mutation : Mutation} {next : Scene}
    (asked : input.mutation? = some ((contextId, transactionId), mutation))
    (owned : mutation.owner = contextId)
    (accepted : scene.buffer contextId transactionId mutation = .ok ((), next)) :
    SceneEffect scene input (.done (.ok ())) next := by
  unfold Scene.buffer at accepted
  cases found : scene.transactions[(contextId, transactionId)]? with
  | none =>
      rw [found] at accepted
      cases accepted
  | some mutations =>
      rw [found] at accepted
      cases accepted
      exact .buffered input _ mutation mutations asked owned found

theorem create_effect (contextId transactionId : UInt64) (node : SceneNode) :
    SceneEffect scene (.create contextId transactionId node)
      (.done (scene.create contextId transactionId node).1)
      (scene.create contextId transactionId node).2 := by
  unfold Scene.create
  rcases commit_cases scene _ with ⟨error, -, ends⟩ | ⟨_, next, accepted, ends⟩
  · rw [ends]
    exact .refused _ error
  · rw [ends]
    obtain ⟨owned, accepted⟩ := ite_error_eq_ok_iff.mp accepted
    exact buffer_effect scene rfl (not_not.mp owned) accepted

theorem update_effect (contextId transactionId : UInt64) (node : SceneNode) :
    SceneEffect scene (.update contextId transactionId node)
      (.done (scene.update contextId transactionId node).1)
      (scene.update contextId transactionId node).2 := by
  unfold Scene.update
  rcases commit_cases scene _ with ⟨error, -, ends⟩ | ⟨_, next, accepted, ends⟩
  · rw [ends]
    exact .refused _ error
  · rw [ends]
    obtain ⟨owned, accepted⟩ := ite_error_eq_ok_iff.mp accepted
    exact buffer_effect scene rfl (not_not.mp owned) accepted

theorem delete_effect (contextId transactionId nodeId : UInt64) :
    SceneEffect scene (.delete contextId transactionId nodeId)
      (.done (scene.delete contextId transactionId nodeId).1)
      (scene.delete contextId transactionId nodeId).2 := by
  unfold Scene.delete
  rcases commit_cases scene _ with ⟨error, -, ends⟩ | ⟨_, next, accepted, ends⟩
  · rw [ends]
    exact .refused _ error
  · rw [ends]
    exact buffer_effect scene rfl rfl (requireNonzero_bind_ok accepted)

theorem commitTransaction_effect (contextId transactionId : UInt64)
    (generation : TargetGeneration) (revision : Option SceneRevision) :
    SceneEffect scene (.commit contextId transactionId generation revision)
      (.committed (scene.commitTransaction contextId transactionId generation revision).1)
      (scene.commitTransaction contextId transactionId generation revision).2 := by
  unfold Scene.commitTransaction
  rcases commit_cases scene _ with ⟨error, -, ends⟩ | ⟨next, after, accepted, ends⟩
  · rw [ends]
    exact .declined _ error
  · rw [ends]
    obtain ⟨-, accepted⟩ := ite_error_eq_ok_iff.mp accepted
    obtain ⟨-, accepted⟩ := ite_error_eq_ok_iff.mp accepted
    cases found : scene.transactions[(contextId, transactionId)]? with
    | none =>
        rw [found] at accepted
        cases accepted
    | some mutations =>
        rw [found] at accepted
        obtain ⟨candidate, applied, accepted⟩ := bind_eq_ok_iff.mp accepted
        obtain ⟨advanced, moved, accepted⟩ := bind_eq_ok_iff.mp accepted
        cases accepted
        exact .committed contextId transactionId generation revision mutations candidate
          next found applied (Counter.advance_eq_ok.mp (orInvalid_eq_ok.mp moved))

theorem removeSurfaceReferences_effect (surfaceContextId surfaceId : UInt64) :
    SceneEffect scene (.removeSurfaceReferences surfaceContextId surfaceId)
      (.removed (scene.removeSurfaceReferences surfaceContextId surfaceId).1)
      (scene.removeSurfaceReferences surfaceContextId surfaceId).2 := by
  have smaller : (scene.nodes.filter fun _ node =>
      !node.shows surfaceContextId surfaceId).size ≤ scene.nodes.size :=
    ExtTreeMap.size_filter_le_size
  unfold Scene.removeSurfaceReferences
  simp only
  split_ifs with some_removed
  · cases moved : scene.revision.advance with
    | error reason =>
        refine .exhausted surfaceContextId surfaceId _ _ rfl ?_
        exact Counter.advance_eq_error moved
    | ok revision =>
        refine .cleaned surfaceContextId surfaceId _ _ revision rfl (by omega) ?_
        rw [if_neg some_removed]
        exact Counter.advance_eq_ok.mp moved
  · refine .cleaned surfaceContextId surfaceId _ _ scene.revision rfl (by omega) ?_
    rw [if_pos (not_not.mp some_removed), add_zero]

theorem sceneStep_effect (input : SceneInput) :
    SceneEffect scene input (sceneStep scene input).1 (sceneStep scene input).2 := by
  cases input with
  | begin contextId transactionId => exact begin_effect scene contextId transactionId
  | create contextId transactionId node => exact create_effect scene contextId transactionId node
  | update contextId transactionId node => exact update_effect scene contextId transactionId node
  | delete contextId transactionId nodeId =>
      exact delete_effect scene contextId transactionId nodeId
  | abort contextId transactionId => exact .aborted contextId transactionId _
  | commit contextId transactionId generation revision =>
      exact commitTransaction_effect scene contextId transactionId generation revision
  | removeSurfaceReferences surfaceContextId surfaceId =>
      exact removeSurfaceReferences_effect scene surfaceContextId surfaceId

end VividProtocol.Retained

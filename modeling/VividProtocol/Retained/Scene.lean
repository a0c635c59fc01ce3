import Mathlib.Tactic
import VividProtocol.Identity
import VividProtocol.Messages
import VividProtocol.Library.Result
import VividProtocol.Library.Transition

/-!
# The retained scene

`Scene` of `scene.rs`: nodes keyed by owning context and node ID, and the live
transactions of every context with the mutations they have buffered.  A commit
works on a copy of the nodes; a surface cleanup writes the nodes before its
revision is advanced.
-/

set_option autoImplicit false

namespace VividProtocol.Retained

open VividProtocol.Library VividProtocol.Library.Result VividProtocol.Library.Transition

inductive Fit where
  | fill
  | contain
  | cover
  | none
  deriving Repr, DecidableEq

structure SceneNode where
  owningContextId : UInt64
  nodeId : UInt64
  surfaceContextId : UInt64
  surfaceId : UInt64
  geometry : PayloadMap
  fit : Fit
  linearSampling : Bool
  zIndex : Int64
  visible : Bool
  opacity : UInt16
  clip : Option PayloadMap

/-- A map key `(context_id, id)`. -/
abbrev ScopedKey := UInt64 × UInt64

abbrev NodeMap := OrderedMap ScopedKey SceneNode

inductive Mutation where
  | create (node : SceneNode)
  | update (node : SceneNode)
  | delete (contextId nodeId : UInt64)

abbrev TransactionMap := OrderedMap ScopedKey (List Mutation)

structure Scene where
  session : SessionIdentity
  revision : SceneRevision
  targetGeneration : TargetGeneration
  nodes : NodeMap
  transactions : TransactionMap

def SceneNode.key (node : SceneNode) : ScopedKey := (node.owningContextId, node.nodeId)

/-- One round of the loop of `Scene::commit`, on the candidate. -/
def Mutation.applyTo (candidate : NodeMap) : Mutation → Except MessageError NodeMap
  | .create node =>
      if candidate.contains node.key then
        .error (invalidValue "CREATE_NODE" 1 "duplicates a complete node identity")
      else .ok (candidate.insert node.key node)
  | .update node =>
      if candidate.contains node.key then .ok (candidate.insert node.key node)
      else .error (invalidValue "UPDATE_NODE" 1 "does not name an existing node")
  | .delete contextId nodeId =>
      if candidate.contains (contextId, nodeId) then
        .ok (candidate.erase (contextId, nodeId))
      else .error (invalidValue "DELETE_NODE" 1 "does not name an existing node")

def applyMutations (candidate : NodeMap) : List Mutation → Except MessageError NodeMap
  | [] => .ok candidate
  | mutation :: rest => do
      let candidate ← mutation.applyTo candidate
      applyMutations candidate rest

/-- The node is drawn from the surface. -/
def SceneNode.shows (node : SceneNode) (surfaceContextId surfaceId : UInt64) : Bool :=
  node.surfaceContextId = surfaceContextId && node.surfaceId = surfaceId

namespace Scene

def new (session : SessionIdentity) (targetGeneration : TargetGeneration) :
    Except MessageError Scene := do
  let targetGeneration ← orInvalid "scene" 1 "target generation must be nonzero"
    targetGeneration.requireNonzero
  return {
    session := session
    revision := .zero
    targetGeneration := targetGeneration
    nodes := ∅
    transactions := ∅ }

def begin (scene : Scene) (contextId transactionId : UInt64) :
    Except MessageError Unit × Scene :=
  commit scene do
    let _ ← requireNonzero "BEGIN_TXN" 0 contextId
    let _ ← requireNonzero "BEGIN_TXN" 1 transactionId
    if scene.transactions.contains (contextId, transactionId) then
      .error (invalidValue "BEGIN_TXN" 1 "duplicates a live transaction ID in this context")
    else
      .ok ((), { scene with
        transactions := scene.transactions.insert (contextId, transactionId) [] })

/-- `transaction_mut(..)?.mutations.push(mutation)`. -/
def buffer (scene : Scene) (contextId transactionId : UInt64) (mutation : Mutation) :
    Except MessageError (Unit × Scene) :=
  match scene.transactions[(contextId, transactionId)]? with
  | none => .error (invalidValue "transaction" 1 "does not exist")
  | some mutations =>
      .ok ((), { scene with
        transactions :=
          scene.transactions.insert (contextId, transactionId) (mutations ++ [mutation]) })

def create (scene : Scene) (contextId transactionId : UInt64) (node : SceneNode) :
    Except MessageError Unit × Scene :=
  commit scene
    (if node.owningContextId ≠ contextId then
      .error (invalidValue "CREATE_NODE" 0 "does not match transaction ownership")
    else scene.buffer contextId transactionId (.create node))

def update (scene : Scene) (contextId transactionId : UInt64) (node : SceneNode) :
    Except MessageError Unit × Scene :=
  commit scene
    (if node.owningContextId ≠ contextId then
      .error (invalidValue "UPDATE_NODE" 0 "does not match transaction ownership")
    else scene.buffer contextId transactionId (.update node))

def delete (scene : Scene) (contextId transactionId nodeId : UInt64) :
    Except MessageError Unit × Scene :=
  commit scene do
    let _ ← requireNonzero "DELETE_NODE" 1 nodeId
    scene.buffer contextId transactionId (.delete contextId nodeId)

def abort (scene : Scene) (contextId transactionId : UInt64) : Bool × Scene :=
  (scene.transactions.contains (contextId, transactionId),
    { scene with transactions := scene.transactions.erase (contextId, transactionId) })

/-- `Scene::commit`. -/
def commitTransaction (scene : Scene) (contextId transactionId : UInt64)
    (expectedTargetGeneration : TargetGeneration)
    (expectedSceneRevision : Option SceneRevision) :
    Except MessageError SceneRevision × Scene :=
  commit scene
    (if expectedTargetGeneration ≠ scene.targetGeneration then
      .error (invalidValue "COMMIT_TXN" 2 "uses a stale target generation")
    else if expectedSceneRevision.any (· ≠ scene.revision) then
      .error (invalidValue "COMMIT_TXN" 0 "uses a stale scene revision")
    else
      match scene.transactions[(contextId, transactionId)]? with
      | none => .error (invalidValue "COMMIT_TXN" 1 "does not name a live transaction")
      | some mutations => do
          let candidate ← applyMutations scene.nodes mutations
          let next ← orInvalid "COMMIT_TXN" 0 "exhausted scene revision"
            scene.revision.advance
          .ok (next, { scene with
            nodes := candidate
            revision := next
            transactions := scene.transactions.erase (contextId, transactionId) }))

def removeSurfaceReferences (scene : Scene) (surfaceContextId surfaceId : UInt64) :
    Except MessageError Nat × Scene :=
  let retained :=
    scene.nodes.filter fun _ node => !node.shows surfaceContextId surfaceId
  let removed := scene.nodes.size - retained.size
  -- The nodes are gone whether or not the revision can move.
  let cleaned := { scene with nodes := retained }
  if removed ≠ 0 then
    match scene.revision.advance with
    | .error _ => (.error (invalidValue "scene cleanup" 0 "exhausted scene revision"), cleaned)
    | .ok revision => (.ok removed, { cleaned with revision := revision })
  else (.ok removed, cleaned)

end Scene

/-! ## Runs -/

inductive SceneInput where
  | begin (contextId transactionId : UInt64)
  | create (contextId transactionId : UInt64) (node : SceneNode)
  | update (contextId transactionId : UInt64) (node : SceneNode)
  | delete (contextId transactionId nodeId : UInt64)
  | abort (contextId transactionId : UInt64)
  | commit (contextId transactionId : UInt64)
      (expectedTargetGeneration : TargetGeneration)
      (expectedSceneRevision : Option SceneRevision)
  | removeSurfaceReferences (surfaceContextId surfaceId : UInt64)

inductive SceneOutput where
  | done (result : Except MessageError Unit)
  | aborted (live : Bool)
  | committed (result : Except MessageError SceneRevision)
  | removed (result : Except MessageError Nat)

def sceneStep (scene : Scene) : SceneInput → SceneOutput × Scene
  | .begin contextId transactionId =>
      let (result, next) := scene.begin contextId transactionId
      (.done result, next)
  | .create contextId transactionId node =>
      let (result, next) := scene.create contextId transactionId node
      (.done result, next)
  | .update contextId transactionId node =>
      let (result, next) := scene.update contextId transactionId node
      (.done result, next)
  | .delete contextId transactionId nodeId =>
      let (result, next) := scene.delete contextId transactionId nodeId
      (.done result, next)
  | .abort contextId transactionId =>
      let (live, next) := scene.abort contextId transactionId
      (.aborted live, next)
  | .commit contextId transactionId generation revision =>
      let (result, next) := scene.commitTransaction contextId transactionId generation revision
      (.committed result, next)
  | .removeSurfaceReferences surfaceContextId surfaceId =>
      let (result, next) := scene.removeSurfaceReferences surfaceContextId surfaceId
      (.removed result, next)

def sceneMachine : Machine Scene SceneInput SceneOutput := ⟨sceneStep⟩

abbrev SceneEvent := Event Scene SceneInput SceneOutput

end VividProtocol.Retained

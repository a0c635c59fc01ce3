import Mathlib.Tactic
import VividProtocol.Retained.Effect

/-!
# Serial transactions

The scene buffers the mutations of any number of open transactions.  Its nodes
are those of a serial store that runs whole transactions one at a time, in
commit order: the `schedule` is read off the requests and their answers alone,
and `SerialLedger` ties it to what the scene has buffered.
-/

set_option autoImplicit false

namespace VividProtocol.Retained

open Std VividProtocol.Library VividProtocol.Library.Result VividProtocol.Library.Transition

/-! ## The serial store -/

/-- What a mutation that passed its check does to the nodes. -/
def Mutation.effect (nodes : NodeMap) : Mutation → NodeMap
  | .create node => nodes.insert node.key node
  | .update node => nodes.insert node.key node
  | .delete contextId nodeId => nodes.erase (contextId, nodeId)

inductive SerialStep where
  | transaction (mutations : List Mutation)
  | cleanup (surfaceContextId surfaceId : UInt64)

def SerialStep.apply (nodes : NodeMap) : SerialStep → NodeMap
  | .transaction mutations => mutations.foldl Mutation.effect nodes
  | .cleanup surfaceContextId surfaceId =>
      nodes.filter fun _ node => !node.shows surfaceContextId surfaceId

/-- The nodes after a serial schedule, from the empty scene. -/
def replay (steps : List SerialStep) : NodeMap := steps.foldl SerialStep.apply ∅

/-! ## The schedule of a history -/

def Begins (key : ScopedKey) (event : SceneEvent) : Prop :=
  event.input = .begin key.1 key.2 ∧ event.output = .done (.ok ())

def Aborts (key : ScopedKey) (event : SceneEvent) : Prop :=
  event.input = .abort key.1 key.2 ∧ ∃ live, event.output = .aborted live

def Commits (key : ScopedKey) (event : SceneEvent) : Prop :=
  (∃ generation revision, event.input = .commit key.1 key.2 generation revision) ∧
    ∃ next, event.output = .committed (.ok next)

/-- The mutations accepted for a transaction so far. -/
def record (key : ScopedKey) (recorded : List Mutation) (event : SceneEvent) :
    List Mutation :=
  match event.input, event.output with
  | .begin contextId transactionId, .done (.ok ()) =>
      if (contextId, transactionId) = key then [] else recorded
  | input, .done (.ok ()) =>
      match input.mutation? with
      | some (owner, mutation) => if owner = key then recorded ++ [mutation] else recorded
      | none => recorded
  | _, _ => recorded

/-- The mutations accepted for a key since its latest begin. -/
def recorded (key : ScopedKey) (history : List SceneEvent) : List Mutation :=
  history.foldl (record key) []

def serialStep (past : List SceneEvent) (event : SceneEvent) : List SerialStep :=
  match event.input, event.output with
  | .commit contextId transactionId _ _, .committed (.ok _) =>
      [.transaction (recorded (contextId, transactionId) past)]
  | .removeSurfaceReferences surfaceContextId surfaceId, .removed _ =>
      [.cleanup surfaceContextId surfaceId]
  | _, _ => []

/-- One whole transaction for each successful commit, in commit order, and the
cleanups where they ran. -/
def schedule : List SceneEvent → List SceneEvent → List SerialStep
  | _, [] => []
  | past, event :: rest => serialStep past event ++ schedule (past ++ [event]) rest

theorem schedule_snoc (past entries : List SceneEvent) (event : SceneEvent) :
    schedule past (entries ++ [event]) =
      schedule past entries ++ serialStep (past ++ entries) event := by
  induction entries generalizing past with
  | nil => simp [schedule]
  | cons head rest ih => simp [schedule, ih (past ++ [head])]

theorem replay_snoc (steps more : List SerialStep) :
    replay (steps ++ more) = more.foldl SerialStep.apply (replay steps) := by
  simp [replay]

theorem recorded_snoc (key : ScopedKey) (past : List SceneEvent) (event : SceneEvent) :
    recorded key (past ++ [event]) = record key (recorded key past) event := by
  simp [recorded]

/-! ## The ledger -/

theorem applyTo_eq_ok {nodes candidate : NodeMap} {mutation : Mutation}
    (applied : mutation.applyTo nodes = .ok candidate) :
    candidate = mutation.effect nodes := by
  cases mutation with
  | create node =>
      obtain ⟨-, applied⟩ := ite_error_eq_ok_iff.mp applied
      exact (Except.ok.inj applied).symm
  | update node =>
      by_cases found : nodes.contains node.key
      · simp only [Mutation.applyTo, found, if_true] at applied
        exact (Except.ok.inj applied).symm
      · simp [Mutation.applyTo, found] at applied
  | delete contextId nodeId =>
      by_cases found : nodes.contains (contextId, nodeId)
      · simp only [Mutation.applyTo, found, if_true] at applied
        exact (Except.ok.inj applied).symm
      · simp [Mutation.applyTo, found] at applied

theorem applyMutations_eq_ok {nodes candidate : NodeMap} {mutations : List Mutation}
    (applied : applyMutations nodes mutations = .ok candidate) :
    candidate = mutations.foldl Mutation.effect nodes := by
  induction mutations generalizing nodes with
  | nil => exact (Except.ok.inj applied).symm
  | cons mutation rest ih =>
      obtain ⟨middle, first, remaining⟩ := bind_eq_ok_iff.mp applied
      rw [List.foldl_cons, ← applyTo_eq_ok first]
      exact ih remaining

/-- The transaction was begun, neither committed nor aborted since, and what was
accepted for it is what is buffered. -/
def Opened (key : ScopedKey) (past : List SceneEvent) (mutations : List Mutation) : Prop :=
  ∃ began since, Latest (Begins key) past began since ∧
    (∀ between ∈ since, ¬ Aborts key between ∧ ¬ Commits key between) ∧
    recorded key past = mutations

structure SerialLedger (past : List SceneEvent) (scene : Scene) : Prop where
  nodes : scene.nodes = replay (schedule [] past)
  opened : ∀ key mutations, scene.transactions[key]? = some mutations →
    Opened key past mutations

variable {past : List SceneEvent} {before after : Scene} {input : SceneInput}
  {output : SceneOutput}

theorem Opened.snoc {key : ScopedKey} {mutations grown : List Mutation} {event : SceneEvent}
    (opened : Opened key past mutations) (begun : ¬ Begins key event)
    (aborted : ¬ Aborts key event) (committed : ¬ Commits key event)
    (grows : record key mutations event = grown) :
    Opened key (past ++ [event]) grown := by
  obtain ⟨began, since, latest, quiet, same⟩ := opened
  refine ⟨began, since ++ [event], latest.snoc begun,
    forall_snoc quiet ⟨aborted, committed⟩, ?_⟩
  rw [recorded_snoc, same, grows]

/-- A request that neither begins, ends nor extends any transaction. -/
theorem SerialLedger.idle_opened (ledger : SerialLedger past before)
    (same : after.transactions = before.transactions)
    (silent : output ≠ .done (.ok ())) (unaborted : ∀ live, output ≠ .aborted live)
    (uncommitted : ∀ next, output ≠ .committed (.ok next)) (key : ScopedKey)
    (mutations : List Mutation) (found : after.transactions[key]? = some mutations) :
    Opened key (past ++ [⟨before, input, output, after⟩]) mutations := by
  rw [same] at found
  refine (ledger.opened key mutations found).snoc ?_ ?_ ?_ ?_
  · rintro ⟨-, answer⟩
    exact silent answer
  · rintro ⟨-, live, answer⟩
    exact unaborted live answer
  · rintro ⟨-, next, answer⟩
    exact uncommitted next answer
  · cases output with
    | done result =>
        cases result with
        | error error => cases input <;> rfl
        | ok value => exact absurd rfl silent
    | aborted live => cases input <;> rfl
    | committed result => cases input <;> rfl
    | removed result => cases input <;> rfl

theorem begins_of_mutation {owner : ScopedKey} {mutation : Mutation}
    (asked : input.mutation? = some (owner, mutation)) (key : ScopedKey)
    (output : SceneOutput) : ¬ Begins key ⟨before, input, output, after⟩ := by
  rintro ⟨same, -⟩
  simp only at same
  rw [same] at asked
  cases asked

theorem record_buffered (before after : Scene) (key : ScopedKey) {owner : ScopedKey} {mutation : Mutation}
    (asked : input.mutation? = some (owner, mutation)) (recorded : List Mutation) :
    record key recorded ⟨before, input, .done (.ok ()), after⟩ =
      if owner = key then recorded ++ [mutation] else recorded := by
  cases input with
  | begin contextId transactionId => cases asked
  | create contextId transactionId node =>
      cases asked
      rfl
  | update contextId transactionId node =>
      cases asked
      rfl
  | delete contextId transactionId nodeId =>
      cases asked
      rfl
  | abort contextId transactionId => cases asked
  | commit contextId transactionId generation revision => cases asked
  | removeSurfaceReferences surfaceContextId surfaceId => cases asked

theorem SerialLedger.snoc (ledger : SerialLedger past before)
    (effect : SceneEffect before input output after) :
    SerialLedger (past ++ [⟨before, input, output, after⟩]) after := by
  cases effect with
  | refused input error =>
      constructor
      · rw [schedule_snoc, replay_snoc, ← ledger.nodes]
        cases input <;> rfl
      · exact ledger.idle_opened rfl nofun nofun nofun
  | began contextId transactionId fresh =>
      constructor
      · rw [schedule_snoc, replay_snoc, ← ledger.nodes]
        rfl
      · intro key mutations found
        rw [OrderedMap.lookup_insert] at found
        split_ifs at found with named
        · cases found
          subst named
          refine ⟨_, [], latest_snoc_self past ⟨rfl, rfl⟩, by simp, ?_⟩
          rw [recorded_snoc]
          simp [record]
        · refine (ledger.opened key mutations found).snoc ?_ ?_ ?_ ?_
          · rintro ⟨same, -⟩
            cases same
            exact named rfl
          · exact fun aborted => nomatch aborted.2
          · exact fun committed => nomatch committed.2
          · simp [record, named]
  | buffered input owner mutation mutations asked owned found =>
      constructor
      · rw [schedule_snoc, replay_snoc, ← ledger.nodes]
        cases input <;> rfl
      · intro key kept lookup
        have grows := record_buffered before { before with
          transactions := before.transactions.insert owner (mutations ++ [mutation]) }
          key asked
        rw [OrderedMap.lookup_insert] at lookup
        split_ifs at lookup with named
        · cases lookup
          subst named
          refine (ledger.opened owner mutations found).snoc (begins_of_mutation asked _ _)
            (by nofun) (by nofun) ?_
          rw [grows, if_pos rfl]
        · refine (ledger.opened key kept lookup).snoc (begins_of_mutation asked _ _)
            (by nofun) (by nofun) ?_
          rw [grows, if_neg named]
  | aborted contextId transactionId live =>
      constructor
      · rw [schedule_snoc, replay_snoc, ← ledger.nodes]
        rfl
      · intro key kept lookup
        rw [OrderedMap.lookup_erase] at lookup
        split_ifs at lookup with named
        refine (ledger.opened key kept lookup).snoc (by nofun) ?_ (by nofun) rfl
        rintro ⟨same, -⟩
        cases same
        exact named rfl
  | declined input error =>
      constructor
      · rw [schedule_snoc, replay_snoc, ← ledger.nodes]
        cases input <;> rfl
      · exact ledger.idle_opened rfl nofun nofun nofun
  | committed contextId transactionId generation revision mutations candidate next found
      applied advanced =>
      constructor
      · obtain ⟨began, since, -, -, same⟩ := ledger.opened _ mutations found
        rw [schedule_snoc, replay_snoc, ← ledger.nodes]
        simp only [serialStep, List.nil_append, List.foldl_cons, List.foldl_nil,
          SerialStep.apply, same]
        exact applyMutations_eq_ok applied
      · intro key kept lookup
        rw [OrderedMap.lookup_erase] at lookup
        split_ifs at lookup with named
        refine (ledger.opened key kept lookup).snoc (by nofun) (by nofun) ?_ rfl
        rintro ⟨⟨_, _, same⟩, -⟩
        cases same
        exact named rfl
  | cleaned surfaceContextId surfaceId retained removed revision kept counted advanced =>
      constructor
      · rw [schedule_snoc, replay_snoc, ← ledger.nodes, kept]
        rfl
      · exact ledger.idle_opened rfl nofun nofun nofun
  | exhausted surfaceContextId surfaceId retained error kept full =>
      constructor
      · rw [schedule_snoc, replay_snoc, ← ledger.nodes, kept]
        rfl
      · exact ledger.idle_opened rfl nofun nofun nofun

theorem serialLedger_reachable {scene : Scene} {session : SessionIdentity}
    {generation : TargetGeneration} (fresh : Scene.new session generation = .ok scene)
    (inputs : List SceneInput) :
    SerialLedger (sceneMachine.history scene inputs) (sceneMachine.final scene inputs) := by
  apply sceneMachine.history_induction
  · obtain ⟨target, -, fresh⟩ := bind_eq_ok_iff.mp fresh
    cases fresh
    constructor
    · rfl
    · simp
  · intro past state input ledger
    exact ledger.snoc (sceneStep_effect state input)

/-! ## The law of one request -/

/-- The law of one answer, given every answer before it. -/
structure SerialLaw (past : List SceneEvent) (event : SceneEvent) : Prop where
  refused : ∀ contextId transactionId generation revision error,
    event.input = .commit contextId transactionId generation revision →
    event.output = .committed (.error error) → event.after = event.before
  committed : ∀ key next, Commits key event → event.output = .committed (.ok next) →
    next.toNat = event.before.revision.toNat + 1 ∧ event.after.revision = next ∧
      ∃ began since, Latest (Begins key) past began since ∧
        ∀ between ∈ since, ¬ Aborts key between ∧ ¬ Commits key between
  cleaned : ∀ surfaceContextId surfaceId removed,
    event.input = .removeSurfaceReferences surfaceContextId surfaceId →
    event.output = .removed (.ok removed) →
      removed + event.after.nodes.size = event.before.nodes.size ∧
        event.after.revision.toNat =
          event.before.revision.toNat + (if removed = 0 then 0 else 1)
  exhausted : ∀ surfaceContextId surfaceId error,
    event.input = .removeSurfaceReferences surfaceContextId surfaceId →
    event.output = .removed (.error error) →
      event.before.revision.toNat + 1 = 2 ^ 64 ∧
        event.after.revision = event.before.revision
  steady : (∀ key, ¬ Commits key event) →
    (∀ surfaceContextId surfaceId,
      event.input ≠ .removeSurfaceReferences surfaceContextId surfaceId) →
    event.after.nodes = event.before.nodes ∧ event.after.revision = event.before.revision
  target : event.after.targetGeneration = event.before.targetGeneration

/-- An answer that neither commits nor removes obeys the law where the tree stays. -/
theorem SerialLaw.of_still {past : List SceneEvent} {event : SceneEvent}
    (uncommitted : ∀ answer, event.output ≠ .committed answer)
    (unremoved : ∀ answer, event.output ≠ .removed answer)
    (nodes : event.after.nodes = event.before.nodes)
    (revision : event.after.revision = event.before.revision)
    (target : event.after.targetGeneration = event.before.targetGeneration) :
    SerialLaw past event where
  refused _ _ _ _ _ _ answer := absurd answer (uncommitted _)
  committed _ _ _ answer := absurd answer (uncommitted _)
  cleaned _ _ _ _ answer := absurd answer (unremoved _)
  exhausted _ _ _ _ answer := absurd answer (unremoved _)
  steady _ _ := ⟨nodes, revision⟩
  target := target

theorem SerialLedger.law (ledger : SerialLedger past before)
    (effect : SceneEffect before input output after) :
    SerialLaw past ⟨before, input, output, after⟩ := by
  cases effect with
  | refused input error => exact .of_still nofun nofun rfl rfl rfl
  | began contextId transactionId fresh => exact .of_still nofun nofun rfl rfl rfl
  | buffered input owner mutation mutations asked owned found =>
      exact .of_still nofun nofun rfl rfl rfl
  | aborted contextId transactionId live => exact .of_still nofun nofun rfl rfl rfl
  | declined input error =>
      refine ⟨fun _ _ _ _ _ _ _ => rfl, ?_, ?_, ?_, fun _ _ => ⟨rfl, rfl⟩, rfl⟩
      · intro _ _ _ answer
        cases answer
      · intro _ _ _ _ answer
        cases answer
      · intro _ _ _ _ answer
        cases answer
  | committed contextId transactionId generation revision mutations candidate next found
      applied advanced =>
      refine ⟨?_, ?_, ?_, ?_, ?_, rfl⟩
      · intro _ _ _ _ _ _ answer
        cases answer
      · intro key answer committed same
        obtain ⟨⟨_, _, named⟩, -⟩ := committed
        cases named
        cases same
        obtain ⟨began, since, latest, quiet, -⟩ := ledger.opened _ mutations found
        exact ⟨advanced, rfl, began, since, latest, quiet⟩
      · intro _ _ _ _ answer
        cases answer
      · intro _ _ _ _ answer
        cases answer
      · intro uncommitted
        exact absurd ⟨⟨_, _, rfl⟩, _, rfl⟩ (uncommitted (contextId, transactionId))
  | cleaned surfaceContextId surfaceId retained removed revision kept counted advanced =>
      refine ⟨?_, ?_, ?_, ?_, ?_, rfl⟩
      · intro _ _ _ _ _ _ answer
        cases answer
      · intro _ _ _ answer
        cases answer
      · intro _ _ answer _ same
        cases same
        exact ⟨counted, advanced⟩
      · intro _ _ _ _ answer
        cases answer
      · intro _ other
        exact absurd rfl (other surfaceContextId surfaceId)
  | exhausted surfaceContextId surfaceId retained error kept full =>
      refine ⟨?_, ?_, ?_, fun _ _ _ _ _ => ⟨full, rfl⟩, ?_, rfl⟩
      · intro _ _ _ _ _ _ answer
        cases answer
      · intro _ _ _ answer
        cases answer
      · intro _ _ _ _ answer
        cases answer
      intro _ other
      exact absurd rfl (other surfaceContextId surfaceId)

/-- Scene transactions are atomic and serial. -/
theorem scene_transactions_serial {scene : Scene} (session : SessionIdentity)
    (generation : TargetGeneration) (fresh : Scene.new session generation = .ok scene)
    (inputs : List SceneInput) :
    (sceneMachine.final scene inputs).nodes =
        replay (schedule [] (sceneMachine.history scene inputs)) ∧
      Always SerialLaw (sceneMachine.history scene inputs) := by
  constructor
  · exact (serialLedger_reachable fresh inputs).nodes
  · refine sceneMachine.always_history ?_ inputs
    intro earlier input
    exact (serialLedger_reachable fresh earlier).law (sceneStep_effect _ input)

/-- Two contexts interleave; the second create of node 7 makes one commit fail. -/
theorem scene_transactions_serial_interleaved :
    let session : SessionIdentity := ⟨⟨Vector.replicate 16 1⟩, 1⟩
    let node (owner : UInt64) : SceneNode :=
      ⟨owner, 7, owner, 9, [], .contain, true, 0, true, 65535, none⟩
    let scene : Scene := ⟨session, .zero, .one, ∅, ∅⟩
    let inputs : List SceneInput :=
      [.begin 2 1, .begin 3 1, .create 2 1 (node 2), .create 3 1 (node 3),
        .create 2 1 (node 2), .commit 2 1 .one none, .commit 3 1 .one none, .abort 2 1,
        .removeSurfaceReferences 3 9]
    (sceneMachine.final scene inputs).nodes =
        replay (schedule [] (sceneMachine.history scene inputs)) ∧
      Always SerialLaw (sceneMachine.history scene inputs) :=
  scene_transactions_serial ⟨⟨Vector.replicate 16 1⟩, 1⟩ .one rfl _

end VividProtocol.Retained

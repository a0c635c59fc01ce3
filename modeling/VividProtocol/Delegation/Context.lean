import Mathlib.Tactic
import VividProtocol.Identity
import VividProtocol.Messages
import VividProtocol.Delegation.Ledger

/-!
# Delegating contexts

`ContextState` of `context.rs`: a context reserves the contracts of its
children from its own.  The ledger is written before the revision is advanced,
so once the revision is exhausted a refused call may have moved it.
-/

set_option autoImplicit false

namespace VividProtocol.Delegation

open VividProtocol.Library.Result VividProtocol.Library.Transition

def OP_DELEGATE : UInt64 := (1 : UInt64) <<< 5
def OP_KNOWN_MASK : UInt64 := ((1 : UInt64) <<< 7) - 1

structure ContextDefinition where
  contextId : UInt64
  parentContextId : UInt64
  operationClasses : UInt64
  label : String
  lifetimeUs : UInt64
  requestedContract : ResourceContract
  deriving Repr, DecidableEq

inductive ContextLifecycle where
  | active
  | expired
  | revoked
  | closed
  deriving Repr, DecidableEq

structure ContextState where
  identity : ContextIdentity
  parentContextId : Option UInt64
  operationClasses : UInt64
  revision : ContextRevision
  contract : ResourceContract
  reservations : ReservationLedger
  lifecycle : ContextLifecycle
  deriving Repr, DecidableEq

def resourceError (error : ResourceError) : MessageError := .cbor error.display

namespace ContextState

def root (session : SessionIdentity) (contextId operationClasses : UInt64)
    (contract : ResourceContract) : Except MessageError ContextState := do
  let identity ← orInvalid "root context" 1 "has a zero context ID"
    (session.toContext contextId)
  if operationClasses &&& ~~~OP_KNOWN_MASK ≠ 0 then
    .error (invalidValue "root context" 2 "has unknown operation-class bits")
  else
    return {
      identity := identity
      parentContextId := none
      operationClasses := operationClasses
      revision := .one
      contract := contract
      reservations := .new contract
      lifecycle := .active }

def contextId (context : ContextState) : UInt64 := context.identity.contextId

def advanceRevision (context : ContextState) : Except MessageError Unit × ContextState :=
  match context.revision.advance with
  | .error _ => (.error (invalidValue "context" 0 "exhausted its revision"), context)
  | .ok revision => (.ok (), { context with revision := revision })

def reserveChild (context : ContextState) (definition : ContextDefinition)
    (policy : ResourceContract) :
    Except MessageError (UInt64 × ResourceContract) × ContextState :=
  if context.lifecycle ≠ .active ∨ definition.parentContextId ≠ context.contextId ∨
      context.operationClasses &&& OP_DELEGATE = 0 then
    (.error (invalidValue "CREATE_CONTEXT" 1 "is outside active delegation authority"), context)
  else
    let classes := definition.operationClasses &&& context.operationClasses
    match context.reservations.reserve definition.requestedContract policy with
    | (.error error, reservations) =>
        (.error (resourceError error), { context with reservations := reservations })
    | (.ok contract, reservations) =>
        match { context with reservations := reservations }.advanceRevision with
        | (.error error, next) => (.error error, next)
        | (.ok (), next) => (.ok (classes, contract), next)

def releaseChild (context : ContextState) (contract : ResourceContract) :
    Except MessageError Unit × ContextState :=
  match context.reservations.release contract with
  | (.error error, reservations) =>
      (.error (resourceError error), { context with reservations := reservations })
  | (.ok (), reservations) => { context with reservations := reservations }.advanceRevision

def revoke (context : ContextState) : Except MessageError Unit × ContextState :=
  if context.lifecycle ≠ .active then
    (.error (invalidValue "REVOKE_CONTEXT" 0 "context is not active"), context)
  else { context with lifecycle := .revoked }.advanceRevision

end ContextState

/-! ## Runs -/

inductive ContextInput where
  | reserveChild (definition : ContextDefinition) (policy : ResourceContract)
  | releaseChild (contract : ResourceContract)
  | revoke
  deriving Repr, DecidableEq

inductive ContextOutput where
  | reserved (result : Except MessageError (UInt64 × ResourceContract))
  | done (result : Except MessageError Unit)

def contextStep (context : ContextState) : ContextInput → ContextOutput × ContextState
  | .reserveChild definition policy =>
      let (result, next) := context.reserveChild definition policy
      (.reserved result, next)
  | .releaseChild contract =>
      let (result, next) := context.releaseChild contract
      (.done result, next)
  | .revoke =>
      let (result, next) := context.revoke
      (.done result, next)

def contextMachine : Machine ContextState ContextInput ContextOutput := ⟨contextStep⟩

abbrev ContextEvent := Event ContextState ContextInput ContextOutput

/-- The children's contracts after one more event. -/
def adopt (held : List ResourceContract) (event : ContextEvent) : List ResourceContract :=
  match event.input, event.output with
  | .reserveChild _ _, .reserved (.ok (_, granted)) => held ++ [granted]
  | .releaseChild contract, .done (.ok ()) => held.erase contract
  | _, _ => held

/-- The contracts of the children that were reserved and not yet released. -/
def children (history : List ContextEvent) : List ResourceContract :=
  history.foldl adopt []

theorem children_snoc (past : List ContextEvent) (event : ContextEvent) :
    children (past ++ [event]) = adopt (children past) event := by
  simp [children]

/-- Only a child's contract is released. -/
def ReleasesChildren (history : List ContextEvent) : Prop :=
  Always (fun past event => ∀ contract, event.input = .releaseChild contract →
    contract ∈ children past) history

/-- The revision has no successor. -/
def ContextState.Exhausted (context : ContextState) : Prop :=
  context.revision.toNat + 1 = 2 ^ 64

theorem advanceRevision_cases (context : ContextState) :
    (context.Exhausted ∧ ∃ error, context.advanceRevision = (.error error, context)) ∨
      (¬ context.Exhausted ∧ ∃ revision,
        context.advanceRevision = (.ok (), { context with revision := revision })) := by
  unfold ContextState.advanceRevision ContextState.Exhausted
  cases moved : context.revision.advance with
  | error reason => exact Or.inl ⟨Counter.advance_eq_error moved, _, rfl⟩
  | ok revision =>
      have advanced := Counter.advance_eq_ok.mp moved
      have bound : revision.toNat < 2 ^ 64 := revision.value.toNat_lt
      exact Or.inr ⟨by omega, revision, rfl⟩

/-- `after` differs from `before` only in ways that a refusal allows: the ledger
moves only where the revision is exhausted. -/
structure Refused (before after : ContextState) : Prop where
  classes : after.operationClasses = before.operationClasses
  revision : after.revision = before.revision
  reservations : before.Exhausted ∨ after.reservations = before.reservations

/-- What one call does to the context. -/
inductive ContextEffect (before : ContextState) :
    ContextInput → ContextOutput → ContextState → Prop where
  | unreserved (definition : ContextDefinition) (policy : ResourceContract)
      (error : MessageError) (after : ContextState) (refused : Refused before after) :
      ContextEffect before (.reserveChild definition policy) (.reserved (.error error)) after
  | reserved (definition : ContextDefinition) (policy granted : ResourceContract)
      (reservations : ReservationLedger) (revision : ContextRevision)
      (live : ¬ before.Exhausted)
      (cut : before.reservations.reserve definition.requestedContract policy =
        (.ok granted, reservations)) :
      ContextEffect before (.reserveChild definition policy)
        (.reserved (.ok (definition.operationClasses &&& before.operationClasses, granted)))
        { before with reservations := reservations, revision := revision }
  | failed (input : ContextInput) (error : MessageError) (after : ContextState)
      (refused : Refused before after) : ContextEffect before input (.done (.error error)) after
  | released (contract : ResourceContract) (reservations : ReservationLedger)
      (revision : ContextRevision) (live : ¬ before.Exhausted)
      (freed : before.reservations.release contract = (.ok (), reservations)) :
      ContextEffect before (.releaseChild contract) (.done (.ok ()))
        { before with reservations := reservations, revision := revision }
  | revoked (revision : ContextRevision) (live : ¬ before.Exhausted) :
      ContextEffect before .revoke (.done (.ok ()))
        { before with lifecycle := .revoked, revision := revision }

theorem reserveChild_effect (context : ContextState) (definition : ContextDefinition)
    (policy : ResourceContract) :
    ContextEffect context (.reserveChild definition policy)
      (.reserved (context.reserveChild definition policy).1)
      (context.reserveChild definition policy).2 := by
  unfold ContextState.reserveChild
  split
  · exact .unreserved definition policy _ _ ⟨rfl, rfl, Or.inr rfl⟩
  · cases cut : context.reservations.reserve definition.requestedContract policy with
    | mk result reservations =>
        cases result with
        | error error =>
            have same := reserve_error cut
            exact .unreserved definition policy _ _ ⟨rfl, rfl, Or.inr same⟩
        | ok granted =>
            rcases advanceRevision_cases { context with reservations := reservations } with
              ⟨exhausted, error, ends⟩ | ⟨live, revision, ends⟩
            · simp only [ends]
              exact .unreserved definition policy error _ ⟨rfl, rfl, Or.inl exhausted⟩
            · simp only [ends]
              exact .reserved definition policy granted reservations revision live cut

theorem releaseChild_effect (context : ContextState) (contract : ResourceContract) :
    ContextEffect context (.releaseChild contract)
      (.done (context.releaseChild contract).1) (context.releaseChild contract).2 := by
  unfold ContextState.releaseChild
  cases freed : context.reservations.release contract with
  | mk result reservations =>
      cases result with
      | error error =>
          have same : reservations = context.reservations := by
            have kept := @release_error context.reservations contract error
            rw [freed] at kept
            exact kept rfl
          exact .failed _ _ _ ⟨rfl, rfl, Or.inr same⟩
      | ok granted =>
          rcases advanceRevision_cases { context with reservations := reservations } with
            ⟨exhausted, error, ends⟩ | ⟨live, revision, ends⟩
          · simp only [ends]
            exact .failed _ error _ ⟨rfl, rfl, Or.inl exhausted⟩
          · simp only [ends]
            exact .released contract reservations revision live freed

theorem revoke_effect (context : ContextState) :
    ContextEffect context .revoke (.done context.revoke.1) context.revoke.2 := by
  unfold ContextState.revoke
  split
  · exact .failed _ _ _ ⟨rfl, rfl, Or.inr rfl⟩
  · rcases advanceRevision_cases { context with lifecycle := .revoked } with
      ⟨exhausted, error, ends⟩ | ⟨live, revision, ends⟩
    · rw [ends]
      exact .failed _ error _ ⟨rfl, rfl, Or.inr rfl⟩
    · rw [ends]
      exact .revoked revision live

theorem contextStep_effect (context : ContextState) (input : ContextInput) :
    ContextEffect context input (contextStep context input).1 (contextStep context input).2 := by
  cases input with
  | reserveChild definition policy => exact reserveChild_effect context definition policy
  | releaseChild contract => exact releaseChild_effect context contract
  | revoke => exact revoke_effect context

/-! ## The children of a context -/

/-- The law of one call: a child gets no class and no resource its parent has
not got. -/
structure ChildLaw (past : List ContextEvent) (event : ContextEvent) : Prop where
  classes : ∀ classes granted, event.output = .reserved (.ok (classes, granted)) →
    classes &&& event.before.operationClasses = classes
  granted : ∀ definition policy classes granted,
    event.input = .reserveChild definition policy →
    event.output = .reserved (.ok (classes, granted)) →
    Within granted definition.requestedContract ∧ Within granted policy ∧
      Within granted event.before.reservations.available

/-- What the children hold stays within the parent's contract, and is what its
ledger has reserved as long as its revision can still move. -/
structure Family (contract : ResourceContract) (classes : UInt64)
    (held : List ResourceContract) (context : ContextState) : Prop where
  classes : context.operationClasses = classes
  bounded : ∀ i : Fin RESOURCE_COUNT, total held i ≤ (contract.values.get i).toNat
  exact : ¬ context.Exhausted → Conserved contract held context.reservations

variable {contract : ResourceContract} {classes : UInt64} {held : List ResourceContract}
  {context : ContextState}

theorem family_root {session : SessionIdentity} {contextId classes : UInt64}
    (fresh : ContextState.root session contextId classes contract = .ok context) :
    Family contract classes [] context := by
  obtain ⟨identity, -, fresh⟩ := bind_eq_ok_iff.mp fresh
  obtain ⟨-, fresh⟩ := ite_error_eq_ok_iff.mp fresh
  cases fresh
  have conserved := conserved_new contract
  exact ⟨rfl, conserved.covered, fun _ => conserved⟩

/-- A refusal keeps the children, whatever it did to an exhausted context. -/
theorem Family.refused (family : Family contract classes held context)
    {after : ContextState} (refused : Refused context after) :
    Family contract classes held after := by
  refine ⟨refused.classes.trans family.classes, family.bounded, ?_⟩
  intro live
  have before : ¬ context.Exhausted := by
    unfold ContextState.Exhausted at live ⊢
    rwa [refused.revision] at live
  rw [refused.reservations.resolve_left before]
  exact family.exact before

theorem Family.snoc {after : ContextState} {input : ContextInput} {output : ContextOutput}
    (family : Family contract classes held context)
    (owned : ∀ given, input = .releaseChild given → given ∈ held)
    (effect : ContextEffect context input output after) :
    Family contract classes (adopt held ⟨context, input, output, after⟩) after := by
  cases effect with
  | unreserved definition policy error after refused => exact family.refused refused
  | reserved definition policy granted reservations revision live cut =>
      obtain ⟨given, ledger, answer, -, -, -, conserved⟩ :=
        (family.exact live).reserve definition.requestedContract policy
      rw [cut] at answer
      cases answer
      exact ⟨family.classes, conserved.covered, fun _ => conserved⟩
  | failed input error after refused =>
      cases input <;> exact family.refused refused
  | released given reservations revision live freed =>
      obtain ⟨ledger, answer, conserved⟩ := (family.exact live).release (owned given rfl)
      rw [freed] at answer
      cases answer
      exact ⟨family.classes, conserved.covered, fun _ => conserved⟩
  | revoked revision live =>
      exact ⟨family.classes, family.bounded, fun _ => family.exact live⟩

theorem and_and_self (asked allowed : UInt64) : asked &&& allowed &&& allowed = asked &&& allowed := by
  rw [UInt64.and_assoc, UInt64.and_self]

theorem Family.law {after : ContextState} {input : ContextInput} {output : ContextOutput}
    (family : Family contract classes held context)
    (effect : ContextEffect context input output after) (past : List ContextEvent) :
    ChildLaw past ⟨context, input, output, after⟩ := by
  cases effect with
  | unreserved definition policy error after refused => exact ⟨by nofun, by nofun⟩
  | reserved definition policy granted reservations revision live cut =>
      obtain ⟨given, ledger, answer, within, allowed, available, -⟩ :=
        (family.exact live).reserve definition.requestedContract policy
      rw [cut] at answer
      cases answer
      constructor
      · intro _ _ answered
        cases answered
        exact and_and_self _ _
      · intro _ _ _ _ asked answered
        cases asked
        cases answered
        exact ⟨within, allowed, available⟩
  | failed input error after refused => exact ⟨by nofun, by nofun⟩
  | released given reservations revision live freed => exact ⟨by nofun, by nofun⟩
  | revoked revision live => exact ⟨by nofun, by nofun⟩

theorem family_run {root : ContextState} (fresh : Family contract classes [] root)
    (inputs : List ContextInput)
    (owned : ReleasesChildren (contextMachine.history root inputs)) :
    Family contract classes (children (contextMachine.history root inputs))
      (contextMachine.final root inputs) := by
  induction inputs using List.reverseRecOn with
  | nil => exact fresh
  | append_singleton inputs input ih =>
      rw [Machine.history_snoc] at owned ⊢
      rw [Machine.final_snoc, children_snoc]
      exact (ih owned.left).snoc owned.last (contextStep_effect _ input)

/-- Delegated resources never exceed the parent. -/
theorem delegated_resources_conserved (capacity : ResourceContract) (inputs : List LedgerInput)
    (disciplined : Disciplined (ledgerMachine.history (.new capacity) inputs))
    (session : SessionIdentity) (contextId classes : UInt64) (contract : ResourceContract)
    (root : ContextState) (fresh : ContextState.root session contextId classes contract = .ok root)
    (calls : List ContextInput)
    (owned : ReleasesChildren (contextMachine.history root calls)) :
    let held := outstanding (ledgerMachine.history (.new capacity) inputs)
    let ledger := ledgerMachine.final (.new capacity) inputs
    let family := children (contextMachine.history root calls)
    let parent := contextMachine.final root calls
    (∀ i : Fin RESOURCE_COUNT,
        total held i + (ledger.available.values.get i).toNat = (capacity.values.get i).toNat ∧
          (ledger.reserved.get i).toNat ≤ (capacity.values.get i).toNat) ∧
      Always GrantLaw (ledgerMachine.history (.new capacity) inputs) ∧
      (∀ given error, (ledger.release given).1 = .error error →
        (ledger.release given).2 = ledger) ∧
      (∀ order : List ResourceContract, order.Perm held →
        (∀ event ∈ ledgerMachine.history ledger (order.map .release),
            event.output = .released (.ok ())) ∧
          (ledgerMachine.final ledger (order.map .release)).available = capacity) ∧
      (∀ i : Fin RESOURCE_COUNT, total family i ≤ (contract.values.get i).toNat) ∧
      (¬ parent.Exhausted → ∀ i : Fin RESOURCE_COUNT,
        total family i + (parent.reservations.available.values.get i).toNat =
          (contract.values.get i).toNat) ∧
      parent.operationClasses = classes ∧
      Always ChildLaw (contextMachine.history root calls) := by
  have conserved := conserved_run capacity inputs disciplined
  have kept := family_run (family_root fresh) calls owned
  refine ⟨?_, grantLaw_run capacity inputs disciplined, fun given error => release_error,
    fun order whole => conserved.restore whole, kept.bounded,
    fun live i => (kept.exact live).exact i, kept.classes, ?_⟩
  · intro i
    have covered := conserved.covered i
    rw [← conserved.reserved i] at covered
    exact ⟨conserved.exact i, covered⟩
  · intro past event future cut
    obtain ⟨first, call, second, rfl, rfl, rfl, -⟩ := contextMachine.history_event cut
    rw [cut] at owned
    exact (family_run (family_root fresh) first owned.left).law
      (contextStep_effect _ call) _

/-- Two children share four surfaces, and the first is released. -/
theorem delegated_resources_conserved_siblings :
    let four := ResourceContract.denied.set .surfaces 4
    let three := ResourceContract.denied.set .surfaces 3
    let inputs : List LedgerInput :=
      [.reserve three four, .reserve three four, .release three]
    let root : ContextState :=
      ⟨⟨⟨⟨Vector.replicate 16 1⟩, 1⟩, 1⟩, none, OP_DELEGATE, .one, four, .new four, .active⟩
    let calls : List ContextInput :=
      [.reserveChild ⟨2, 1, 0, "", 0, three⟩ four, .releaseChild three]
    (∀ i : Fin RESOURCE_COUNT,
        total (outstanding (ledgerMachine.history (.new four) inputs)) i +
            ((ledgerMachine.final (.new four) inputs).available.values.get i).toNat =
          (four.values.get i).toNat) ∧
      ∀ i : Fin RESOURCE_COUNT,
        total (children (contextMachine.history root calls)) i ≤ (four.values.get i).toNat := by
  intro four three inputs root calls
  have disciplined : Disciplined (ledgerMachine.history (.new four) inputs) := by
    refine ((always_nil _).snoc ?_ |>.snoc ?_).snoc ?_
    · intro contract asked
      cases asked
    · intro contract asked
      cases asked
    · intro contract asked
      cases asked
      decide +kernel
  have owned : ReleasesChildren (contextMachine.history root calls) := by
    refine ((always_nil _).snoc ?_).snoc ?_
    · intro contract asked
      cases asked
    · intro contract asked
      cases asked
      decide +kernel
  have conserved := delegated_resources_conserved four inputs disciplined
    ⟨⟨Vector.replicate 16 1⟩, 1⟩ 1 OP_DELEGATE four root rfl calls owned
  exact ⟨fun i => (conserved.1 i).1, conserved.2.2.2.2.1⟩

end VividProtocol.Delegation

import Mathlib.Tactic
import VividProtocol.Library.Transition
import VividProtocol.FileDrop.Agreement

/-!
# The file-drop gate

`FileDropGate` of `file_drop.rs`: the consent state of one producer.  A binding
of a new epoch gets a grant of a new generation, the same binding again gets
the same grant, and every grant can be read by the peer.
-/

set_option autoImplicit false

namespace VividProtocol.FileDrop

open VividProtocol.Wire
open VividProtocol.Library.Result
open VividProtocol.Library.Transition

inductive FileDropBindingOutcome where
  | disabled
  | enabled (grant : FileDropGrant)
  | denied (grant : FileDropGrant)
  | exactRetry (grant : FileDropGrant)
  deriving Repr, DecidableEq

structure FileDropGate where
  latest : Option FileDropBinding := none
  generation : FileDropGrantGeneration := .zero
  current : Option FileDropGrant := none
  lastResult : Option FileDropGrant := none
  deriving Repr, DecidableEq

namespace FileDropBinding

/-- The result of a disabled binding. -/
def disabledGrant (binding : FileDropBinding) : FileDropGrant :=
  { producerEpoch := binding.producerEpoch
    grantGeneration := .zero
    contextId := binding.contextId
    surfaceId := binding.surfaceId
    surfaceGeneration := binding.surfaceGeneration
    state := .disabled
    destination := none
    maximumFileBytes := 0
    maximumPendingOffers := 0
    maximumActiveTransfers := 0
    maximumRecordBody := 0
    acceptanceTimeoutUs := 0
    idleTimeoutUs := 0
    reason := 0 }

def grant (binding : FileDropBinding) (generation : FileDropGrantGeneration) (allow : Bool) :
    FileDropGrant :=
  { producerEpoch := binding.producerEpoch
    grantGeneration := generation
    contextId := binding.contextId
    surfaceId := binding.surfaceId
    surfaceGeneration := binding.surfaceGeneration
    state := if allow then .enabled else .denied
    destination := binding.destination
    maximumFileBytes := binding.maximumFileBytes
    maximumPendingOffers := binding.maximumPendingOffers
    maximumActiveTransfers := binding.maximumActiveTransfers
    maximumRecordBody := binding.maximumRecordBody
    acceptanceTimeoutUs := binding.acceptanceTimeoutUs
    idleTimeoutUs := binding.idleTimeoutUs
    reason := 0 }

end FileDropBinding

/-- The answer of `apply`; there is none where its `expect` panics. -/
abbrev GateAnswer := Option (Except MessageError FileDropBindingOutcome)

namespace FileDropGate

/-- The part of `apply` after the look at the latest binding. -/
def applyFresh (gate : FileDropGate) (binding : FileDropBinding) (allow : Bool) :
    GateAnswer × FileDropGate :=
  if binding.disabled then
    (some (.ok .disabled),
      { gate with
        latest := some binding
        current := none
        lastResult := some binding.disabledGrant })
  else
    match gate.generation.advance with
    | .error _ =>
        (some (.error (invalidValue "FILE_DROP_BOUND" 1 "grant generation exhausted")), gate)
    | .ok generation =>
        let grant := binding.grant generation allow
        (some (.ok (if allow then .enabled grant else .denied grant)),
          { latest := some binding
            generation := generation
            current := if allow then some grant else none
            lastResult := some grant })

def apply (gate : FileDropGate) (binding : FileDropBinding) (allow : Bool) :
    GateAnswer × FileDropGate :=
  match binding.validate binding.surfaceId with
  | .error error => (some (.error error), gate)
  | .ok () =>
      match gate.latest with
      | none => gate.applyFresh binding allow
      | some previous =>
          if binding.producerEpoch < previous.producerEpoch then
            (some (.error (invalidValue "SET_FILE_DROP_BINDING" 0 "moves the epoch backward")),
              gate)
          else if binding.producerEpoch = previous.producerEpoch then
            if binding = previous then
              (gate.lastResult.map fun result => .ok (.exactRetry result), gate)
            else
              (some (.error (invalidValue "SET_FILE_DROP_BINDING" 0
                "reuses an epoch with different bytes")), gate)
          else gate.applyFresh binding allow

end FileDropGate

structure GateInput where
  binding : FileDropBinding
  allow : Bool

def gateMachine : Machine FileDropGate GateInput GateAnswer where
  step gate input := gate.apply input.binding input.allow

abbrev GateEvent := Event FileDropGate GateInput GateAnswer

/-! ## What a binding is granted -/

section Grants

variable {binding : FileDropBinding} {done : Unit}

theorem validateBindingLimits_eq_ok {pending active acceptance idle : UInt64} {body : UInt32}
    {schema : String} :
    validateBindingLimits pending active body acceptance idle schema = .ok done ↔
      ¬ (pending = 0 ∨ MAX_PENDING_FILE_DROPS < pending ∨ active = 0 ∨
          MAX_ACTIVE_FILE_TRANSFERS < active ∨ pending < active) ∧
        ¬ (body ≤ UInt32.ofNat FILE_DATA_PREFIX_SIZE ∨ HARD_MAX_RECORD_BODY < body) ∧
        (MIN_FILE_DROP_DEADLINE_US ≤ acceptance ∧ acceptance ≤ MAX_FILE_DROP_DEADLINE_US) ∧
        MIN_FILE_DROP_DEADLINE_US ≤ idle ∧ idle ≤ MAX_FILE_DROP_DEADLINE_US := by
  unfold validateBindingLimits validateRecordBody
  simp only [ite_error_eq_ok_iff, check_bind_eq_ok_iff, validateDeadline_eq_ok, and_true]

/-- The peer reads the grant as it was. -/
def Readable (grant : FileDropGrant) : Prop :=
  FileDropGrant.decode grant.surfaceId (.map grant.payload) = .ok grant

theorem readable_iff {grant : FileDropGrant} : Readable grant ↔ grant.Proper := by
  unfold Readable
  rw [FileDropGrant.decode_eq_ok]
  constructor
  · intro read
    exact read.2.2.2
  · intro proper
    exact ⟨holds_self grant.payload_distinct, rfl, trivial, proper⟩

theorem validate_self_eq_ok :
    binding.validate binding.surfaceId = .ok done ↔
      binding.producerEpoch ≠ .zero ∧
        (if binding.disabled then binding.validateDisabled else binding.validateEnabled) =
          .ok done := by
  unfold FileDropBinding.validate
  rw [check_bind_eq_ok_iff, requireCounter_eq_ok, validateHeaderObject_self, ok_bind]

theorem disabledGrant_readable (valid : binding.validate binding.surfaceId = .ok ())
    (disabled : binding.disabled = true) : Readable binding.disabledGrant := by
  obtain ⟨epoch, valid⟩ := validate_self_eq_ok.mp valid
  rw [if_pos disabled] at valid
  unfold FileDropBinding.validateDisabled at valid
  simp only [bind_eq_ok_iff, requireNonzero_eq_ok, ite_error_eq_ok_iff, Bool.not_eq_true,
    mismatchedScope_eq_false] at valid
  obtain ⟨_, ⟨context, _⟩, scope, _⟩ := valid
  exact readable_iff.mpr
    { producerEpoch := epoch
      contextId := context
      scope := scope
      generation := by simp [FileDropBinding.disabledGrant]
      limited := fun live => absurd rfl live
      bare := fun _ => ⟨rfl, rfl, rfl, rfl, rfl, rfl, rfl⟩ }

theorem grant_readable (valid : binding.validate binding.surfaceId = .ok ())
    (live : binding.disabled = false) {generation : FileDropGrantGeneration}
    (nonzero : generation ≠ .zero) (allow : Bool) :
    Readable (binding.grant generation allow) := by
  obtain ⟨epoch, valid⟩ := validate_self_eq_ok.mp valid
  have state : (binding.grant generation allow).state ≠ .disabled := by
    cases allow <;> simp [FileDropBinding.grant]
  rw [if_neg (by simp [live])] at valid
  unfold FileDropBinding.validateEnabled at valid
  simp only [bind_eq_ok_iff, requireNonzero_eq_ok, ite_error_eq_ok_iff, validateScope_eq_ok,
    validateBindingLimits_eq_ok] at valid
  obtain ⟨_, ⟨context, _⟩, _, scope, present, limits⟩ := valid
  have named : binding.destination ≠ none := by simpa using mt Or.inl present
  exact readable_iff.mpr
    { producerEpoch := epoch
      contextId := context
      scope := scope
      generation := iff_of_false nonzero state
      limited := fun _ =>
        { destination := named
          maximumFileBytes := mt Or.inr present
          limits := validateBindingLimits_eq_ok.mpr limits }
      bare := fun same => absurd same state }

end Grants

/-! ## One binding -/

/-- A binding of a later epoch than the latest one. -/
def Newer (gate : FileDropGate) (binding : FileDropBinding) : Prop :=
  ∀ previous, gate.latest = some previous →
    previous.producerEpoch.toNat < binding.producerEpoch.toNat

section Step

variable {gate : FileDropGate} {binding : FileDropBinding} {allow : Bool}

/-- What a binding that is taken over writes. -/
structure Bound (gate : FileDropGate) (binding : FileDropBinding) (allow : Bool)
    (outcome : FileDropBindingOutcome) (after : FileDropGate) : Prop where
  valid : binding.validate binding.surfaceId = .ok ()
  newer : Newer gate binding
  latest : after.latest = some binding
  written : (outcome = .disabled ∧ binding.disabled = true ∧ after.generation = gate.generation ∧
      after.current = none ∧ after.lastResult = some binding.disabledGrant) ∨
    ∃ generation, generation.toNat = gate.generation.toNat + 1 ∧ binding.disabled = false ∧
      outcome = (if allow then .enabled (binding.grant generation allow)
        else .denied (binding.grant generation allow)) ∧
      after.generation = generation ∧
      after.current = (if allow then some (binding.grant generation allow) else none) ∧
      after.lastResult = some (binding.grant generation allow)

theorem applyFresh_cases (valid : binding.validate binding.surfaceId = .ok ())
    (newer : Newer gate binding) :
    (∃ error, gate.applyFresh binding allow = (some (.error error), gate)) ∨
      ∃ outcome after, gate.applyFresh binding allow = (some (.ok outcome), after) ∧
        Bound gate binding allow outcome after := by
  unfold FileDropGate.applyFresh
  by_cases disabled : binding.disabled = true
  · rw [if_pos disabled]
    exact Or.inr ⟨_, _, rfl, valid, newer, rfl, Or.inl ⟨rfl, disabled, rfl, rfl, rfl⟩⟩
  · rw [if_neg disabled]
    cases advanced : gate.generation.advance with
    | error reason => exact Or.inl ⟨_, rfl⟩
    | ok generation =>
        have next := Counter.advance_eq_ok.mp advanced
        have live := Bool.not_eq_true _ |>.mp disabled
        exact Or.inr ⟨_, _, rfl, valid, newer, rfl,
          Or.inr ⟨generation, next, live, rfl, rfl, rfl, rfl⟩⟩

/-- A binding is refused, is the latest one again, or is newer and taken over. -/
theorem apply_cases (gate : FileDropGate) (binding : FileDropBinding) (allow : Bool) :
    (∃ error, gate.apply binding allow = (some (.error error), gate)) ∨
      (gate.latest = some binding ∧ gate.apply binding allow =
        (gate.lastResult.map fun result => .ok (.exactRetry result), gate)) ∨
      ∃ outcome after, gate.apply binding allow = (some (.ok outcome), after) ∧
        Bound gate binding allow outcome after := by
  unfold FileDropGate.apply
  cases valid : binding.validate binding.surfaceId with
  | error error => exact Or.inl ⟨error, rfl⟩
  | ok done =>
      cases held : gate.latest with
      | none =>
          have newer : Newer gate binding := by
            intro previous same
            rw [held] at same
            cases same
          exact (applyFresh_cases valid newer).imp_right Or.inr
      | some previous =>
          by_cases backward : binding.producerEpoch < previous.producerEpoch
          · exact Or.inl ⟨_, if_pos backward⟩
          · dsimp only
            rw [if_neg backward]
            by_cases same : binding.producerEpoch = previous.producerEpoch
            · rw [if_pos same]
              by_cases again : binding = previous
              · rw [if_pos again, again]
                exact Or.inr (Or.inl ⟨rfl, rfl⟩)
              · rw [if_neg again]
                exact Or.inl ⟨_, rfl⟩
            · rw [if_neg same]
              have newer : Newer gate binding := by
                intro other found
                rw [held] at found
                cases found
                have below := mt Counter.lt_iff_toNat.mpr backward
                have apart := mt Counter.toNat_inj.mp same
                omega
              exact (applyFresh_cases valid newer).imp_right Or.inr

theorem apply_latest (held : gate.latest = some binding)
    (valid : binding.validate binding.surfaceId = .ok ()) :
    gate.apply binding allow =
      (gate.lastResult.map fun result => .ok (.exactRetry result), gate) := by
  have level : ¬ binding.producerEpoch < binding.producerEpoch := by
    rw [Counter.lt_iff_toNat]
    exact lt_irrefl _
  unfold FileDropGate.apply
  rw [valid, held]
  dsimp only
  rw [if_neg level, if_pos rfl, if_pos rfl]

/-- A lower epoch, or the latest epoch with another field changed. -/
def Outdated (gate : FileDropGate) (binding : FileDropBinding) : Prop :=
  ∃ previous, gate.latest = some previous ∧
    (binding.producerEpoch.toNat < previous.producerEpoch.toNat ∨
      binding.producerEpoch = previous.producerEpoch ∧ binding ≠ previous)

theorem apply_outdated (outdated : Outdated gate binding) :
    ∃ error, gate.apply binding allow = (some (.error error), gate) := by
  obtain ⟨previous, held, either⟩ := outdated
  rcases apply_cases gate binding allow with refused | ⟨again, _⟩ | ⟨outcome, after, _, bound⟩
  · exact refused
  · rw [held] at again
    cases again
    rcases either with below | ⟨_, differs⟩
    · exact absurd below (lt_irrefl _)
    · exact absurd rfl differs
  · have later := bound.newer previous held
    rcases either with below | ⟨same, _⟩
    · omega
    · rw [same] at later
      exact absurd later (lt_irrefl _)

end Step

/-! ## Runs -/

/-- The grant that an event issues. -/
def issued (event : GateEvent) : Option FileDropGrant :=
  match event.output with
  | some (.ok (.enabled grant)) => some grant
  | some (.ok (.denied grant)) => some grant
  | _ => none

/-- The outcome of an event that is no error and no retry. -/
def decided (event : GateEvent) : Option FileDropBindingOutcome :=
  match event.output with
  | some (.ok (.exactRetry _)) => none
  | some (.ok outcome) => some outcome
  | _ => none

/-- The grant an outcome stands for; a disabled one is the binding's own. -/
def FileDropBindingOutcome.result (binding : FileDropBinding) :
    FileDropBindingOutcome → FileDropGrant
  | .disabled => binding.disabledGrant
  | .enabled grant => grant
  | .denied grant => grant
  | .exactRetry grant => grant

/-- The first outcome of a binding in a history, all before it being refusals. -/
structure FirstOutcome (events : List GateEvent) (binding : FileDropBinding)
    (outcome : FileDropBindingOutcome) : Prop where
  found : ∃ before event after, events = before ++ event :: after ∧
    event.input.binding = binding ∧ event.output = some (.ok outcome) ∧
    ∀ earlier ∈ before, earlier.input.binding = binding →
      ∃ error, earlier.output = some (.error error)

theorem FirstOutcome.snoc {events : List GateEvent} {binding : FileDropBinding}
    {outcome : FileDropBindingOutcome} (first : FirstOutcome events binding outcome)
    (event : GateEvent) : FirstOutcome (events ++ [event]) binding outcome := by
  obtain ⟨before, found, after, split, named, answered, refused⟩ := first.found
  refine ⟨before, found, after ++ [event], ?_, named, answered, refused⟩
  rw [split, List.append_assoc, List.cons_append]

/-- What the gate remembers of its history. -/
structure Remembers (events : List GateEvent) (gate : FileDropGate) : Prop where
  increasing : (events.filterMap issued).Pairwise fun first second =>
    first.grantGeneration.toNat < second.grantGeneration.toNat
  bounded : ∀ grant ∈ events.filterMap issued,
    grant.grantGeneration.toNat ≤ gate.generation.toNat
  current : ∀ grant, gate.current = some grant ↔
    (events.filterMap decided).getLast? = some (.enabled grant)
  latest : ∀ binding, gate.latest = some binding →
    binding.validate binding.surfaceId = .ok () ∧
      ∃ outcome, gate.lastResult = some (outcome.result binding) ∧
        FirstOutcome events binding outcome
  accepted : ∀ event ∈ events, (∃ error, event.output = some (.error error)) ∨
    ∃ binding, gate.latest = some binding ∧
      event.input.binding.producerEpoch.toNat ≤ binding.producerEpoch.toNat
  stored : ∀ grant, gate.current = some grant ∨ gate.lastResult = some grant → Readable grant

section Runs

variable {events : List GateEvent} {gate : FileDropGate} {input : GateInput}

theorem remembers_nil : Remembers [] {} where
  increasing := List.Pairwise.nil
  bounded := by simp
  current := by simp
  latest := by simp
  accepted := by simp
  stored := by simp

/-- An event that answers without effect is no grant and no decision. -/
theorem Remembers.unchanged (remembers : Remembers events gate) {event : GateEvent}
    (noGrant : issued event = none) (noDecision : decided event = none)
    (answered : (∃ error, event.output = some (.error error)) ∨
      gate.latest = some event.input.binding) :
    Remembers (events ++ [event]) gate where
  increasing := by
    rw [List.filterMap_append, List.filterMap_cons_none noGrant, List.filterMap_nil,
      List.append_nil]
    exact remembers.increasing
  bounded := by
    rw [List.filterMap_append, List.filterMap_cons_none noGrant, List.filterMap_nil,
      List.append_nil]
    exact remembers.bounded
  current := by
    rw [List.filterMap_append, List.filterMap_cons_none noDecision, List.filterMap_nil,
      List.append_nil]
    exact remembers.current
  latest := by
    intro binding held
    obtain ⟨valid, outcome, result, first⟩ := remembers.latest binding held
    exact ⟨valid, outcome, result, first.snoc event⟩
  accepted := by
    refine forall_snoc remembers.accepted ?_
    refine answered.imp_right fun held => ?_
    exact ⟨event.input.binding, held, le_rfl⟩
  stored := remembers.stored

theorem Bound.issues {binding : FileDropBinding} {allow : Bool} {outcome : FileDropBindingOutcome}
    {after : FileDropGate} (bound : Bound gate binding allow outcome after) {event : GateEvent}
    (answered : event.output = some (.ok outcome)) :
    issued event = none ∧ after.generation = gate.generation ∨
      ∃ grant, issued event = some grant ∧ grant.grantGeneration = after.generation ∧
        after.generation.toNat = gate.generation.toNat + 1 := by
  unfold issued
  rw [answered]
  rcases bound.written with ⟨same, _, kept, _⟩ | ⟨generation, next, _, same, moved, _⟩
  · rw [same]
    exact Or.inl ⟨rfl, kept⟩
  · rw [same, moved]
    cases allow
    · exact Or.inr ⟨_, rfl, rfl, next⟩
    · exact Or.inr ⟨_, rfl, rfl, next⟩

theorem Bound.decides {binding : FileDropBinding} {allow : Bool} {outcome : FileDropBindingOutcome}
    {after : FileDropGate} (bound : Bound gate binding allow outcome after) {event : GateEvent}
    (answered : event.output = some (.ok outcome)) :
    decided event = some outcome ∧ (∀ grant, after.current = some grant ↔ outcome = .enabled grant) ∧
      after.lastResult = some (outcome.result binding) := by
  unfold decided
  rw [answered]
  rcases bound.written with ⟨same, _, _, none, result⟩ | ⟨generation, _, _, same, _, some, result⟩
  · rw [same, none, result]
    exact ⟨rfl, by simp, rfl⟩
  · rw [same, some, result]
    cases allow
    · exact ⟨rfl, by simp, rfl⟩
    · exact ⟨rfl, by simp, rfl⟩

theorem Bound.readable {binding : FileDropBinding} {allow : Bool} {outcome : FileDropBindingOutcome}
    {after : FileDropGate} (bound : Bound gate binding allow outcome after) :
    Readable (outcome.result binding) := by
  rcases bound.written with ⟨same, disabled, _⟩ | ⟨generation, next, live, same, _⟩
  · rw [same]
    exact disabledGrant_readable bound.valid disabled
  · have nonzero : generation ≠ .zero := by
      intro zero
      rw [zero] at next
      exact absurd next (Nat.succ_ne_zero _).symm
    have readable := grant_readable bound.valid live nonzero allow
    rw [same]
    cases allow
    · exact readable
    · exact readable

theorem Remembers.bound (remembers : Remembers events gate) {after : FileDropGate}
    {event : GateEvent} {outcome : FileDropBindingOutcome}
    (answered : event.output = some (.ok outcome))
    (bound : Bound gate event.input.binding event.input.allow outcome after) :
    Remembers (events ++ [event]) after := by
  obtain ⟨decides, current, result⟩ := bound.decides answered
  have readable := bound.readable
  -- Every answered binding so far is of an earlier epoch.
  have earlier : ∀ other ∈ events, (∃ error, other.output = some (.error error)) ∨
      other.input.binding.producerEpoch.toNat < event.input.binding.producerEpoch.toNat := by
    intro other among
    refine (remembers.accepted other among).imp_right fun held => ?_
    obtain ⟨previous, latest, below⟩ := held
    exact lt_of_le_of_lt below (bound.newer previous latest)
  have grants : ∀ grant ∈ events.filterMap issued,
      grant.grantGeneration.toNat ≤ gate.generation.toNat := remembers.bounded
  constructor
  · rw [List.filterMap_append, List.pairwise_append]
    refine ⟨remembers.increasing, ?_, ?_⟩
    · rcases bound.issues answered with ⟨none, _⟩ | ⟨grant, some, _⟩
      · simp [none]
      · simp [some]
    · intro first among second new
      rcases bound.issues answered with ⟨none, _⟩ | ⟨grant, some, moved, next⟩
      · simp [none] at new
      · have known := grants first among
        have same : second = grant := by simpa [some] using new
        rw [same, moved]
        omega
  · intro grant among
    rw [List.filterMap_append, List.mem_append] at among
    rcases bound.issues answered with ⟨none, kept⟩ | ⟨other, some, moved, next⟩
    · rcases among with old | new
      · rw [kept]
        exact grants grant old
      · simp [none] at new
    · rcases among with old | new
      · have known := grants grant old
        omega
      · have same : grant = other := by simpa [some] using new
        rw [same, moved]
  · intro grant
    rw [List.filterMap_append, List.filterMap_cons_some decides, List.filterMap_nil,
      List.getLast?_concat, Option.some.injEq]
    exact current grant
  · intro binding held
    rw [bound.latest, Option.some.injEq] at held
    rw [← held]
    refine ⟨bound.valid, outcome, result, ⟨events, event, [], rfl, rfl, answered, ?_⟩⟩
    intro other among same
    rcases earlier other among with refused | below
    · exact refused
    · rw [same] at below
      exact absurd below (lt_irrefl _)
  · refine forall_snoc ?_ (Or.inr ⟨_, bound.latest, le_rfl⟩)
    intro other among
    refine (earlier other among).imp_right fun below => ?_
    exact ⟨_, bound.latest, le_of_lt below⟩
  · intro grant held
    rcases held with held | held
    · have same := (current grant).mp held
      rw [same] at readable
      exact readable
    · rw [result, Option.some.injEq] at held
      rw [← held]
      exact readable

theorem remembers_step (remembers : Remembers events gate) (input : GateInput) :
    Remembers (events ++ [gateMachine.event gate input]) (gateMachine.step gate input).2 := by
  have answer : gateMachine.step gate input = gate.apply input.binding input.allow := rfl
  rcases apply_cases gate input.binding input.allow with
    ⟨error, refused⟩ | ⟨latest, again⟩ | ⟨outcome, after, taken, bound⟩
  · have output : (gateMachine.event gate input).output = some (.error error) :=
      congrArg Prod.fst refused
    rw [answer, refused]
    refine remembers.unchanged ?_ ?_ (Or.inl ⟨error, output⟩)
    · rw [issued, output]
    · rw [decided, output]
  · obtain ⟨_, first, result, _⟩ := remembers.latest _ latest
    rw [result] at again
    have output : (gateMachine.event gate input).output =
        some (.ok (.exactRetry (first.result input.binding))) := congrArg Prod.fst again
    rw [answer, again]
    refine remembers.unchanged ?_ ?_ (Or.inr latest)
    · rw [issued, output]
    · rw [decided, output]
  · have output : (gateMachine.event gate input).output = some (.ok outcome) :=
      congrArg Prod.fst taken
    rw [answer, taken]
    exact remembers.bound output bound

theorem remembers_run (inputs : List GateInput) :
    Remembers (gateMachine.history {} inputs) (gateMachine.final {} inputs) :=
  gateMachine.history_induction remembers_nil
    (fun _ _ input remembers => remembers_step remembers input) inputs

end Runs

/-- The law of one answer. -/
structure AnswerLaw (event : GateEvent) : Prop where
  answered : event.output ≠ none
  refused : ∀ error, event.output = some (.error error) → event.after = event.before
  readable : ∀ outcome, event.output = some (.ok outcome) →
    Readable (outcome.result event.input.binding)

theorem answerLaw_event {events : List GateEvent} {gate : FileDropGate}
    (remembers : Remembers events gate) (input : GateInput) :
    AnswerLaw (gateMachine.event gate input) := by
  have answer : gateMachine.event gate input = ⟨gate, input, (gate.apply input.binding
    input.allow).1, (gate.apply input.binding input.allow).2⟩ := rfl
  rw [answer]
  rcases apply_cases gate input.binding input.allow with
    ⟨error, refused⟩ | ⟨latest, again⟩ | ⟨outcome, after, taken, bound⟩
  · rw [refused]
    exact ⟨by simp, fun _ _ => rfl, by simp⟩
  · obtain ⟨_, first, result, _⟩ := remembers.latest _ latest
    have readable := remembers.stored _ (Or.inr result)
    rw [again, result]
    refine ⟨by simp, by simp, ?_⟩
    intro outcome same
    cases same
    exact readable
  · have readable := bound.readable
    rw [taken]
    refine ⟨by simp, by simp, ?_⟩
    intro other same
    cases same
    exact readable

/-- Grants are of rising generations, current only while the last decision enabled
them, repeated unchanged for the latest binding and refused for an outdated one,
and the peer can read every one of them. -/
theorem file_drop_grants_safe (inputs : List GateInput) :
    let events := gateMachine.history {} inputs
    let gate := gateMachine.final {} inputs
    ((events.filterMap issued).Pairwise fun first second =>
      first.grantGeneration < second.grantGeneration) ∧
      (∀ grant, gate.current = some grant ↔
        (events.filterMap decided).getLast? = some (.enabled grant)) ∧
      (∀ binding, gate.latest = some binding → ∃ outcome, FirstOutcome events binding outcome ∧
        ∀ allow, gate.apply binding allow =
          (some (.ok (.exactRetry (outcome.result binding))), gate)) ∧
      (∀ binding allow, Outdated gate binding →
        ∃ error, gate.apply binding allow = (some (.error error), gate)) ∧
      (∀ event ∈ events, AnswerLaw event) ∧
      ∀ grant, gate.current = some grant ∨ gate.lastResult = some grant → Readable grant := by
  have remembers := remembers_run inputs
  refine ⟨?_, remembers.current, ?_, fun _ _ => apply_outdated, ?_, remembers.stored⟩
  · exact remembers.increasing.imp fun below => Counter.lt_iff_toNat.mpr below
  · intro binding held
    obtain ⟨valid, outcome, result, first⟩ := remembers.latest binding held
    refine ⟨outcome, first, fun allow => ?_⟩
    rw [apply_latest held valid, result]
    rfl
  · intro event inside
    obtain ⟨past, future, cut⟩ := List.append_of_mem inside
    obtain ⟨before, input, _, _, _, same, _⟩ := gateMachine.history_event cut
    rw [same]
    exact answerLaw_event (remembers_run before) input

def shellBinding : FileDropBinding :=
  { producerEpoch := .one
    contextId := 2
    surfaceId := 0
    surfaceGeneration := .zero
    destination := some .shellCwd
    maximumFileBytes := 1000000
    maximumPendingOffers := 4
    maximumActiveTransfers := 2
    maximumRecordBody := 65536
    acceptanceTimeoutUs := 30000000
    idleTimeoutUs := 30000000 }

def atEpoch (epoch : UInt64) : FileDropBinding := { shellBinding with producerEpoch := ⟨epoch⟩ }

/-- A binding that asks for nothing. -/
def withdrawal (epoch : UInt64) : FileDropBinding :=
  { atEpoch epoch with
    destination := none
    maximumFileBytes := 0
    maximumPendingOffers := 0
    maximumActiveTransfers := 0
    maximumRecordBody := 0
    acceptanceTimeoutUs := 0
    idleTimeoutUs := 0 }

/-- Bindings that are allowed, denied, disabled, allowed again and outdated. -/
def sampleBindings : List GateInput :=
  [⟨atEpoch 1, true⟩, ⟨atEpoch 2, false⟩, ⟨withdrawal 3, true⟩, ⟨atEpoch 4, true⟩,
    ⟨atEpoch 2, true⟩]

/-- Of three grants the last is current, also where it is asked for again without
consent, and an outdated binding is refused. -/
theorem file_drop_grants_safe_renewed :
    let gate := gateMachine.final {} sampleBindings
    ((gateMachine.history {} sampleBindings).filterMap issued =
        [(atEpoch 1).grant ⟨1⟩ true, (atEpoch 2).grant ⟨2⟩ false, (atEpoch 4).grant ⟨3⟩ true] ∧
      gate.current = some ((atEpoch 4).grant ⟨3⟩ true)) ∧
      (∃ outcome, ∀ allow, gate.apply (atEpoch 4) allow =
        (some (.ok (.exactRetry (FileDropBindingOutcome.result (atEpoch 4) outcome))), gate)) ∧
      (∃ error, gate.apply (withdrawal 3) true = (some (.error error), gate)) ∧
      Readable ((atEpoch 4).grant ⟨3⟩ true) := by
  obtain ⟨_, _, again, outdated, _, stored⟩ := file_drop_grants_safe sampleBindings
  obtain ⟨outcome, _, same⟩ := again (atEpoch 4) rfl
  exact ⟨⟨rfl, rfl⟩, ⟨outcome, same⟩,
    outdated (withdrawal 3) true ⟨atEpoch 4, rfl, .inl (by decide)⟩, stored _ (.inl rfl)⟩

end VividProtocol.FileDrop

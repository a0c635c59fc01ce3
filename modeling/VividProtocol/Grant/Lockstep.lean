import Mathlib.Tactic
import VividProtocol.Grant.Control
import VividProtocol.Grant.Generation
import VividProtocol.Input.Payload
import VividProtocol.Library.Replica

/-!
# The presenter's grant and the producer's gate

A presenter and a producer joined by an ordered control queue and by renewals
that may be late, lost or out of order.  The control messages still on the way
lead the producer's gate to the presenter's, clocks aside.
-/

set_option autoImplicit false

namespace VividProtocol.Grant

open VividProtocol.Input
open VividProtocol.Library.Replica
open VividProtocol.Library.Result
open VividProtocol.Library.Transition

/-! ## The joined machine -/

/-- A renewal on its way, with the tuple of the grant it renews. -/
structure RenewalMessage where
  binding : InputTuple
  renewal : Renewal
  deriving Repr, DecidableEq

structure Link where
  presenter : InputGrant
  producer : InputGate
  control : List ControlMessage
  renewals : List RenewalMessage

def Link.start : Link :=
  { presenter := .new
    producer := .default
    control := []
    renewals := [] }

inductive LinkInput where
  | present (operation : GrantOperation)
  | deliver (now : Monotonic)
  | renewalArrives (index : Nat) (receivedAt : Monotonic)
  | renewalLost (index : Nat)

inductive LinkAnswer where
  | presented (answer : GrantAnswer)
  | received (message : ControlMessage) (outcome : GateOutcome)
  | renewed (outcome : GateOutcome)
  | idle

def renewalMessage (after : InputGrant) : GrantAnswer → Option RenewalMessage
  | .renewed (some renewal) =>
      after.gate.active.map fun active => { binding := active.binding, renewal := renewal }
  | _ => none

def linkStep (link : Link) : LinkInput → LinkAnswer × Link
  | .present operation =>
      let (answer, presenter) := grantStep link.presenter operation
      (.presented answer,
        { link with
          presenter := presenter
          control := link.control ++ (control presenter operation answer).toList
          renewals := link.renewals ++ (renewalMessage presenter answer).toList })
  | .deliver now =>
      match link.control with
      | [] => (.idle, link)
      | message :: pending =>
          let (outcome, producer) := receive link.producer now message
          (.received message outcome, { link with producer := producer, control := pending })
  | .renewalArrives index receivedAt =>
      match link.renewals[index]? with
      | none => (.idle, link)
      | some message =>
          let (outcome, producer) :=
            gateStep link.producer
              (.renew message.binding message.renewal.sequence message.renewal.watchdogUs
                receivedAt)
          (.renewed outcome,
            { link with
              producer := producer
              renewals := link.renewals.eraseIdx index })
  | .renewalLost index => (.idle, { link with renewals := link.renewals.eraseIdx index })

def linkRuns : Machine Link LinkInput LinkAnswer := { step := linkStep }

abbrev LinkEvent := Event Link LinkInput LinkAnswer

/-- A control message is processed at a reading far from overflow. -/
def LinkInput.FarReading : LinkInput → Prop
  | .deliver now => Far now
  | _ => True

def LinkInput.delivers : LinkInput → Bool
  | .deliver _ => true
  | _ => false

/-- The grant of a gate, as both parties name it. -/
def grant? (gate : InputGate) : Option (InputTuple × UInt64) :=
  gate.active.map fun active => (active.binding, active.effectiveClasses)

/-! ## The control queue leads the producer to the presenter -/

theorem grant?_untimed (gate : InputGate) : grant? (untimed gate) = grant? gate := by
  unfold grant? untimed
  rw [Option.map_map]
  rfl

def InStep (link : Link) : Prop :=
  Leads Conveys (untimed link.producer) link.control (untimed link.presenter.gate)

/-- The producer has `count` messages to go to the gate `mark`. -/
def Owes (link : Link) (count : Nat) (mark : InputGate) : Prop :=
  Midway Conveys (untimed link.producer) link.control count mark
    (untimed link.presenter.gate)

variable {link : Link} {count : Nat} {mark : InputGate}

/-- What one input does to the two gates and the queue between them. -/
inductive LinkEffect (link : Link) : LinkInput → LinkAnswer → Link → Prop where
  | sent {operation : GrantOperation} {answer : GrantAnswer} {message : ControlMessage}
      {after : Link} (same : after.producer = link.producer)
      (queued : after.control = link.control ++ [message])
      (conveys : Conveys (untimed link.presenter.gate) message
        (untimed after.presenter.gate)) :
      LinkEffect link (.present operation) (.presented answer) after
  | quiet {input : LinkInput} {answer : LinkAnswer} {after : Link}
      (waiting : input.delivers = true → link.control = [])
      (told : ∀ message outcome, answer ≠ .received message outcome)
      (producer : untimed after.producer = untimed link.producer)
      (queued : after.control = link.control)
      (presenter : untimed after.presenter.gate = untimed link.presenter.gate) :
      LinkEffect link input answer after
  | delivered {now : Monotonic} {message : ControlMessage} {pending : List ControlMessage}
      (queued : link.control = message :: pending) :
      LinkEffect link (.deliver now)
        (.received message (receive link.producer now message).1)
        { link with
          producer := (receive link.producer now message).2
          control := pending }

theorem linkStep_effect (link : Link) (input : LinkInput) :
    LinkEffect link input (linkStep link input).1 (linkStep link input).2 := by
  cases input with
  | present operation =>
      have reported := grantStep_reported link.presenter operation
      unfold linkStep
      dsimp only
      cases sent : control (grantStep link.presenter operation).2 operation
          (grantStep link.presenter operation).1 with
      | none =>
          rw [sent] at reported
          refine .quiet ?_ ?_ rfl (List.append_nil _) reported
          · intro impossible
            cases impossible
          · intro message outcome impossible
            cases impossible
      | some message =>
          rw [sent] at reported
          exact .sent rfl rfl reported
  | deliver now =>
      unfold linkStep
      dsimp only
      cases queued : link.control with
      | nil =>
          refine .quiet (fun _ => queued) ?_ rfl rfl rfl
          intro message outcome impossible
          cases impossible
      | cons message pending => exact .delivered queued
  | renewalArrives index receivedAt =>
      unfold linkStep
      dsimp only
      cases link.renewals[index]? with
      | none =>
          refine .quiet ?_ ?_ rfl rfl rfl
          · intro impossible
            cases impossible
          · intro message outcome impossible
            cases impossible
      | some message =>
          refine .quiet ?_ ?_ (renew_untimed _ _ _ _) rfl rfl
          · intro impossible
            cases impossible
          · intro message outcome impossible
            cases impossible
  | renewalLost index =>
      refine .quiet ?_ ?_ rfl rfl rfl
      · intro impossible
        cases impossible
      · intro message outcome impossible
        cases impossible

variable {input : LinkInput} {answer : LinkAnswer} {after : Link}

theorem InStep.step (inStep : InStep link) (effect : LinkEffect link input answer after)
    (far : input.FarReading) : InStep after := by
  unfold InStep at inStep ⊢
  cases effect with
  | sent same queued conveys =>
      rw [same, queued]
      exact inStep.snoc conveys
  | quiet waiting told producer queued presenter =>
      rw [producer, queued, presenter]
      exact inStep
  | delivered queued =>
      rw [queued] at inStep
      obtain ⟨next, first, rest⟩ := inStep.uncons
      rw [(receive_conveys first far).1]
      exact rest

theorem Owes.step (owes : Owes link count mark) (effect : LinkEffect link input answer after)
    (far : input.FarReading) (quiet : input.delivers = false) : Owes after count mark := by
  unfold Owes at owes ⊢
  cases effect with
  | sent same queued conveys =>
      rw [same, queued]
      exact owes.snoc conveys
  | quiet waiting told producer queued presenter =>
      rw [producer, queued, presenter]
      exact owes
  | delivered queued => cases quiet

theorem Owes.deliver (owes : Owes link (count + 1) mark)
    (effect : LinkEffect link input answer after) (far : input.FarReading)
    (delivers : input.delivers = true) : Owes after count mark := by
  unfold Owes at owes ⊢
  cases effect with
  | sent same queued conveys => cases delivers
  | quiet waiting told producer queued presenter =>
      exact absurd (waiting delivers) owes.pending_ne_nil
  | delivered queued =>
      rw [queued] at owes
      obtain ⟨next, first, rest⟩ := owes.uncons
      rw [(receive_conveys first far).1]
      exact rest

/-! ## Runs -/

def AllFar (inputs : List LinkInput) : Prop := ∀ input ∈ inputs, input.FarReading

theorem inStep_reachable (inputs : List LinkInput) (far : AllFar inputs) :
    InStep (linkRuns.final .start inputs) := by
  induction inputs using List.reverseRecOn with
  | nil => exact .level _
  | append_singleton inputs input ih =>
      rw [linkRuns.final_snoc]
      apply (ih fun other inside => far other (List.mem_append_left _ inside)).step
        (linkStep_effect _ input)
      exact far input (by simp)

/-- Of the messages a producer owes, as many are left as were not delivered. -/
theorem Owes.final (inputs : List LinkInput) (far : AllFar inputs)
    (owes : Owes link (inputs.countP LinkInput.delivers) mark) :
    Owes (linkRuns.final link inputs) 0 mark := by
  induction inputs generalizing link with
  | nil => exact owes
  | cons input rest ih =>
      have farRest : AllFar rest := fun other inside => far other (List.mem_cons_of_mem _ inside)
      have farInput := far input List.mem_cons_self
      apply ih farRest
      by_cases delivers : input.delivers = true
      · rw [List.countP_cons_of_pos delivers] at owes
        exact owes.deliver (linkStep_effect link input) farInput delivers
      · rw [List.countP_cons_of_neg delivers] at owes
        exact owes.step (linkStep_effect link input) farInput (Bool.eq_false_iff.mpr delivers)

/-- A revocation's payload names the generation that the producer's gate reaches. -/
def NamesGeneration (event : LinkEvent) : Prop :=
  ∀ payload outcome, event.output = .received (.revoked payload) outcome →
    ∃ generation : GrantGeneration, outcome = .revoked (.ok generation) ∧
      payload.lookup 1 = some (.unsigned generation.value)

theorem namesGeneration (inputs : List LinkInput) (far : AllFar inputs) :
    ∀ event ∈ linkRuns.history .start inputs, NamesGeneration event := by
  intro event inside payload outcome told
  obtain ⟨past, future, split⟩ := List.append_of_mem inside
  obtain ⟨first, input, second, rfl, -, rfl, -⟩ := linkRuns.history_event split
  have inStep := inStep_reachable first fun other within =>
    far other (List.mem_append_left _ within)
  have farInput := far input (by simp)
  have effect := linkStep_effect (linkRuns.final .start first) input
  rw [show (linkStep _ input).1 = _ from told] at effect
  generalize (linkStep (linkRuns.final .start first) input).2 = after at effect
  cases effect with
  | quiet waiting silent producer queued presenter => exact absurd rfl (silent _ _)
  | delivered queued =>
      unfold InStep at inStep
      rw [queued] at inStep
      obtain ⟨next, conveys, -⟩ := inStep.uncons
      exact (receive_conveys conveys farInput).2 payload rfl

/-! ## Tags -/

/-- The tuple of an active grant names a context, a surface and a generation. -/
def NamesSurface (grant : InputGrant) : Prop :=
  ∀ active, grant.gate.active = some active → active.binding.Named

theorem named_of_validate {binding : InputBinding} (generation : GrantGeneration)
    (valid : binding.validate binding.surfaceId = .ok ()) (asked : binding.disabled = false) :
    (InputGate.tuple binding generation).Named := by
  unfold InputBinding.validate at valid
  obtain ⟨epoch, -, valid⟩ := bind_eq_ok_iff.mp valid
  obtain ⟨object, -, valid⟩ := bind_eq_ok_iff.mp valid
  rw [ite_error_eq_ok_iff, asked, if_neg (by simp)] at valid
  obtain ⟨-, valid⟩ := valid
  obtain ⟨contextId, context, valid⟩ := bind_eq_ok_iff.mp valid
  obtain ⟨surfaceId, surface, valid⟩ := bind_eq_ok_iff.mp valid
  obtain ⟨surfaceGeneration, counted, -⟩ := bind_eq_ok_iff.mp valid
  rw [orInvalid_eq_ok, Counter.requireNonzero, ite_error_eq_ok_iff] at counted
  exact ⟨(requireNonzero_eq_ok.mp context).1, (requireNonzero_eq_ok.mp surface).1, counted.1⟩

theorem GrantEffect.namesSurface {grant after : InputGrant} {operation : GrantOperation}
    {answer : GrantAnswer} (effect : GrantEffect grant operation answer after)
    (names : NamesSurface grant) : NamesSurface after := by
  unfold NamesSurface at names ⊢
  cases effect with
  | refused error => exact names
  | retried asked same => exact names
  | disabledRetried asked same => exact names
  | disabled asked accepted =>
      intro active held
      cases held
  | denied asked accepted reason =>
      intro active held
      cases held
  | enabled asked accepted eligible =>
      intro active held
      cases held
      exact named_of_validate _ accepted.valid asked
  | revocationRefused reason => exact names
  | revoked reason held next =>
      intro active held
      cases held
  | renewalRefused now kept => exact names
  | renewed held next due early =>
      intro active isActive
      cases isActive
      have named := names _ held
      exact named

theorem namesSurface_reachable (inputs : List LinkInput) :
    NamesSurface (linkRuns.final .start inputs).presenter := by
  have initial : NamesSurface Link.start.presenter := by
    intro active held
    cases held
  refine @Machine.invariant_final _ _ _ linkRuns (fun link => NamesSurface link.presenter) _
    initial ?_ inputs
  intro link input names
  cases input with
  | present operation => exact (grantStep_effect link.presenter operation).namesSurface names
  | deliver now =>
      unfold linkRuns linkStep
      dsimp only
      cases link.control with
      | nil => exact names
      | cons message pending => exact names
  | renewalArrives index receivedAt =>
      unfold linkRuns linkStep
      dsimp only
      cases link.renewals[index]? with
      | none => exact names
      | some message => exact names
  | renewalLost index => exact names

theorem tag_eq_some {grant : InputGrant} {classes : UInt64} {tag : PayloadMap} :
    grant.tag classes = some tag ↔ ∃ active, grant.gate.active = some active ∧
      active.effectiveClasses &&& classes ≠ 0 ∧ tag = active.binding.payloadPrefix := by
  unfold InputGrant.tag
  cases held : grant.gate.active with
  | none => simp
  | some active =>
      dsimp only
      by_cases kept : active.effectiveClasses &&& classes = 0
      · rw [if_pos kept]
        simp [kept]
      · rw [if_neg kept, Option.some.injEq]
        constructor
        · intro same
          exact ⟨active, rfl, kept, same.symm⟩
        · rintro ⟨other, same, -, tagged⟩
          cases same
          exact tagged.symm

/-- A gate that holds an event's grant refuses it only past the deadline. -/
theorem authorize_granted {gate : InputGate} {held : ActiveGrant} {event : InputEvent}
    (active : gate.active = some held) (granted : held.effectiveClasses &&& event.class ≠ 0)
    (now : Monotonic) :
    gate.authorize (event.withBinding held.binding) held.binding.surfaceGeneration now =
        .ok () ↔ now < held.watchdogDeadline := by
  have binding : (event.withBinding held.binding).binding = held.binding := by
    cases event <;> rfl
  have kind : (event.withBinding held.binding).class = event.class := by
    cases event <;> rfl
  unfold InputGate.authorize
  rw [active]
  dsimp only
  rw [binding, kind, if_neg (by simp), if_neg (by simp)]
  by_cases late : held.watchdogDeadline ≤ now
  · rw [if_pos late]
    rw [Monotonic.le_iff_toNat] at late
    rw [Monotonic.lt_iff_toNat]
    constructor
    · intro impossible
      cases impossible
    · intro early
      omega
  · rw [if_neg late, if_neg granted]
    rw [Monotonic.le_iff_toNat] at late
    rw [Monotonic.lt_iff_toNat]
    exact ⟨fun _ => by omega, fun _ => rfl⟩

/-- Where nothing is owed the producer holds the marked grant. -/
theorem Owes.holds {active : ActiveGrant} {gate : InputGate} (owes : Owes link 0 (untimed gate))
    (isActive : gate.active = some active) :
    ∃ held, link.producer.active = some held ∧ held.binding = active.binding ∧
      held.effectiveClasses = active.effectiveClasses := by
  have same : untimed link.producer = untimed gate := owes.eq_of_zero
  have granted := congrArg grant? same
  rw [grant?_untimed, grant?_untimed] at granted
  unfold grant? at granted
  rw [isActive] at granted
  obtain ⟨held, isHeld, pair⟩ := Option.map_eq_some_iff.mp granted
  exact ⟨held, isHeld, congrArg Prod.fst pair, congrArg Prod.snd pair⟩

/-- Presenter and producer agree on the grant whenever no control message is
pending, every revocation names the generation the producer reaches, and an
event tagged by the presenter is read back whole and authorized, up to the
producer's deadline, once the messages sent before the tag are processed. -/
theorem grant_lockstep (inputs : List LinkInput) (far : AllFar inputs) :
    ((linkRuns.final .start inputs).control = [] →
      grant? (linkRuns.final .start inputs).producer =
        grant? (linkRuns.final .start inputs).presenter.gate) ∧
    (∀ event ∈ linkRuns.history .start inputs, NamesGeneration event) ∧
    ∀ (event : InputEvent) (tag : PayloadMap) (width height : UInt64),
      event.Legal width height →
      (linkRuns.final .start inputs).presenter.tag event.class = some tag →
      ∃ active, (linkRuns.final .start inputs).presenter.gate.active = some active ∧
        InputEvent.decode event.recordType active.binding.surfaceId
            (.map (eventPayload tag event)) width height =
          some (.ok (event.withBinding active.binding)) ∧
        ∀ more, AllFar more →
          more.countP LinkInput.delivers = (linkRuns.final .start inputs).control.length →
          ∃ held,
            (linkRuns.final (linkRuns.final .start inputs) more).producer.active = some held ∧
            held.binding = active.binding ∧
            ∀ now,
              (linkRuns.final (linkRuns.final .start inputs) more).producer.authorize
                  (event.withBinding active.binding) active.binding.surfaceGeneration now =
                .ok () ↔
              now < held.watchdogDeadline := by
  have inStep := inStep_reachable inputs far
  refine ⟨?_, namesGeneration inputs far, ?_⟩
  · intro drained
    unfold InStep at inStep
    rw [drained] at inStep
    rw [← grant?_untimed, inStep.eq_of_nil, grant?_untimed]
  · intro event tag width height legal tagged
    obtain ⟨active, isActive, granted, rfl⟩ := tag_eq_some.mp tagged
    have named := namesSurface_reachable inputs active isActive
    refine ⟨active, isActive, decode_eventPayload named legal, ?_⟩
    intro more farMore processed
    have owes := inStep.midway
    rw [← processed] at owes
    obtain ⟨held, isHeld, binding, classes⟩ := (Owes.final more farMore owes).holds isActive
    refine ⟨held, isHeld, binding, ?_⟩
    rw [← binding]
    apply authorize_granted isHeld
    rw [classes]
    exact granted

/-- An enable at one second, told to the producer at once. -/
def enabledLink : List LinkInput :=
  [.present (.apply enablingBinding fullEligibility { micros := 1000000 }),
    .deliver { micros := 1000000 }]

theorem allFar_enabledLink : AllFar enabledLink := by
  intro input inside
  rcases List.mem_cons.mp inside with rfl | inside
  · trivial
  · rw [List.mem_singleton.mp inside]
    unfold LinkInput.FarReading Far
    decide

def keyTuple : InputTuple :=
  { producerEpoch := .one
    grantGeneration := .one
    contextId := 1
    surfaceId := 2
    surfaceGeneration := .one }

def keyEvent : InputEvent := .key keyTuple 4 true

theorem grant_lockstep_enabled :
    grant? (linkRuns.final .start enabledLink).producer =
        grant? (linkRuns.final .start enabledLink).presenter.gate ∧
      ∃ active, (linkRuns.final .start enabledLink).presenter.gate.active = some active ∧
        InputEvent.decode KEY_INPUT active.binding.surfaceId
            (.map (eventPayload keyTuple.payloadPrefix keyEvent)) 0 0 =
          some (.ok (keyEvent.withBinding active.binding)) ∧
        ∃ held, (linkRuns.final .start enabledLink).producer.active = some held ∧
          ∀ now, (linkRuns.final .start enabledLink).producer.authorize
              (keyEvent.withBinding active.binding) active.binding.surfaceGeneration now =
            .ok () ↔ now < held.watchdogDeadline := by
  have lockstep := grant_lockstep enabledLink allFar_enabledLink
  refine ⟨lockstep.1 rfl, ?_⟩
  have legal : keyEvent.Legal 0 0 := by
    unfold keyEvent InputEvent.Legal
    decide
  obtain ⟨active, isActive, decoded, authorized⟩ :=
    lockstep.2.2 keyEvent keyTuple.payloadPrefix 0 0 legal rfl
  obtain ⟨held, isHeld, -, exact⟩ := authorized [] (by intro input inside; cases inside) rfl
  exact ⟨active, isActive, decoded, held, isHeld, exact⟩

/-- The renewal of 2.5 seconds is lost on its way. -/
def lostRenewal : List LinkInput :=
  enabledLink ++ [.present (.dueRenewal { micros := 2500000 }), .renewalLost 0]

/-- A renewal that is lost lets the producer's watchdog end a grant that the
presenter, renewed and with nothing pending, still tags events with. -/
theorem lost_renewal_expires :
    (linkRuns.final .start lostRenewal).control = [] ∧
      (linkRuns.final .start lostRenewal).presenter.watchdogExpired { micros := 3200000 } =
        false ∧
      (linkRuns.final .start lostRenewal).presenter.tag keyEvent.class =
        some keyTuple.payloadPrefix ∧
      (linkRuns.final .start lostRenewal).producer.authorize keyEvent
          keyTuple.surfaceGeneration { micros := 3200000 } =
        .error .watchdogExpired := by
  refine ⟨rfl, ?_, rfl, ?_⟩
  · decide
  · rfl

end VividProtocol.Grant

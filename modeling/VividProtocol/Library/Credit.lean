import Mathlib.Tactic
import VividProtocol.Library.Replica
import VividProtocol.Library.Transition

/-!
# Credit at both ends of a link

A meter admits records against a credit that only grows.  The sender and the
receiver of a link keep a copy each.  Records travel in order; the receiver
raises its own copy and tells the sender, and what it tells may arrive late,
twice, in any order or not at all.  What the sender admits the receiver admits
when it arrives, because the receiver's copy, once it has taken in what is on
the way, covers the sender's.
-/

set_option autoImplicit false

namespace VividProtocol.Library.Credit

open VividProtocol.Library.Replica VividProtocol.Library.Transition

variable {Flow Record Update Failure : Type}

structure Meter (Flow Record Update Failure : Type) where
  admitRecord : Flow → Record → Except Failure Unit × Flow
  raise : Flow → Update → Flow

namespace Meter

variable (meter : Meter Flow Record Update Failure)

/-- One admitted record. -/
def Admits (flow : Flow) (record : Record) (after : Flow) : Prop :=
  meter.admitRecord flow record = (.ok (), after)

/-- A raise that changes nothing any more. -/
def Absorbs (flow : Flow) (update : Update) : Prop := meter.raise flow update = flow

/-- `Covers above below`: the flows stand at one point and `above` has at least
the credit of `below`. -/
structure Lawful (Covers : Flow → Flow → Prop) : Prop where
  refl : ∀ flow, Covers flow flow
  admitRecord : ∀ {above below after record}, Covers above below → meter.Admits below record after →
    ∃ next, meter.Admits above record next ∧ Covers next after
  raise : ∀ {above below} update, Covers above below → Covers (meter.raise above update) below
  absorb : ∀ {above below update}, Covers above below → meter.Absorbs above update →
    Covers above (meter.raise below update)
  commute : ∀ {flow after record} update, meter.Admits flow record after →
    meter.Admits (meter.raise flow update) record (meter.raise after update)
  twice : ∀ flow update, meter.Absorbs (meter.raise flow update) update
  swap : ∀ flow first second,
    meter.raise (meter.raise flow first) second = meter.raise (meter.raise flow second) first

variable {meter} {Covers : Flow → Flow → Prop}

theorem Admits.functional {flow first second : Flow} {record : Record}
    (once : meter.Admits flow record first) (again : meter.Admits flow record second) :
    first = second := by
  unfold Admits at once again
  rw [once] at again
  exact (Prod.mk.inj again).2

theorem Lawful.absorbs_raise (lawful : meter.Lawful Covers) {flow : Flow} {update : Update}
    (absorbs : meter.Absorbs flow update) (other : Update) :
    meter.Absorbs (meter.raise flow other) update := by
  unfold Absorbs at absorbs ⊢
  rw [lawful.swap, absorbs]

theorem Lawful.absorbs_admit (lawful : meter.Lawful Covers) {flow after : Flow}
    {record : Record} {update : Update} (absorbs : meter.Absorbs flow update)
    (admits : meter.Admits flow record after) : meter.Absorbs after update := by
  have raised := lawful.commute update admits
  unfold Absorbs at absorbs
  rw [absorbs] at raised
  exact raised.functional admits

end Meter

/-! ## Meters with a place and a limit -/

/-- A flow is a place and a limit.  An admitted record moves the place and leaves
the limit; a raise joins the limit with an amount and leaves the place; and what a
limit allows a larger one allows. -/
structure Accounts {Place : Type} (meter : Meter Flow Record Update Failure)
    (place : Flow → Place) (limit : Flow → Nat × Nat) (amount : Update → Nat × Nat)
    (Allows : Place → Record → Nat × Nat → Prop) (moved : Place → Record → Place) : Prop where
  determined : ∀ {flow other}, place flow = place other → limit flow = limit other →
    flow = other
  admits : ∀ {flow record after}, meter.Admits flow record after →
    Allows (place flow) record (limit flow) ∧ place after = moved (place flow) record ∧
      limit after = limit flow
  enabled : ∀ {flow record}, Allows (place flow) record (limit flow) →
    ∃ after, meter.Admits flow record after
  more : ∀ {here record low high}, Allows here record low → low ≤ high → Allows here record high
  raised : ∀ flow update, place (meter.raise flow update) = place flow ∧
    limit (meter.raise flow update) = limit flow ⊔ amount update

/-- One place, and a limit at least as large. -/
structure Exceeds {Place : Type} (place : Flow → Place) (limit : Flow → Nat × Nat)
    (above below : Flow) : Prop where
  place : place above = place below
  limit : limit below ≤ limit above

section Accounts

variable {Place : Type} {meter : Meter Flow Record Update Failure} {place : Flow → Place}
  {limit : Flow → Nat × Nat} {amount : Update → Nat × Nat}
  {Allows : Place → Record → Nat × Nat → Prop} {moved : Place → Record → Place}

theorem Accounts.absorbs_iff (accounts : Accounts meter place limit amount Allows moved)
    {flow : Flow} {update : Update} :
    meter.Absorbs flow update ↔ amount update ≤ limit flow := by
  obtain ⟨stays, grows⟩ := accounts.raised flow update
  unfold Meter.Absorbs
  constructor
  · intro same
    rw [same] at grows
    exact sup_eq_left.mp grows.symm
  · intro below
    exact accounts.determined stays (grows.trans (sup_eq_left.mpr below))

theorem Accounts.lawful (accounts : Accounts meter place limit amount Allows moved) :
    meter.Lawful (Exceeds place limit) where
  refl flow := ⟨rfl, le_rfl⟩
  admitRecord := by
    intro above below after record exceeds admits
    obtain ⟨allows, moves, kept⟩ := accounts.admits admits
    rw [← exceeds.place] at allows moves
    obtain ⟨next, taken⟩ := accounts.enabled (accounts.more allows exceeds.limit)
    obtain ⟨-, same, stays⟩ := accounts.admits taken
    refine ⟨next, taken, same.trans moves.symm, ?_⟩
    rw [kept, stays]
    exact exceeds.limit
  raise := by
    intro above below update exceeds
    obtain ⟨stays, grows⟩ := accounts.raised above update
    refine ⟨stays.trans exceeds.place, ?_⟩
    rw [grows]
    exact le_sup_of_le_left exceeds.limit
  absorb := by
    intro above below update exceeds absorbs
    obtain ⟨stays, grows⟩ := accounts.raised below update
    refine ⟨exceeds.place.trans stays.symm, ?_⟩
    rw [grows]
    exact sup_le exceeds.limit (accounts.absorbs_iff.mp absorbs)
  commute := by
    intro flow after record update admits
    obtain ⟨allows, moves, kept⟩ := accounts.admits admits
    obtain ⟨stays, grows⟩ := accounts.raised flow update
    obtain ⟨staysAfter, growsAfter⟩ := accounts.raised after update
    have wider : Allows (place (meter.raise flow update)) record
        (limit (meter.raise flow update)) := by
      rw [stays, grows]
      exact accounts.more allows le_sup_left
    obtain ⟨next, taken⟩ := accounts.enabled wider
    obtain ⟨-, reaches, holds⟩ := accounts.admits taken
    have same : next = meter.raise after update := by
      apply accounts.determined
      · rw [reaches, stays, staysAfter, moves]
      · rw [holds, grows, growsAfter, kept]
    rw [← same]
    exact taken
  twice := by
    intro flow update
    rw [accounts.absorbs_iff, (accounts.raised flow update).2]
    exact le_sup_right
  swap := by
    intro flow first second
    apply accounts.determined
    · simp only [(accounts.raised _ _).1]
    · simp only [(accounts.raised _ _).2]
      exact sup_right_comm _ _ _

end Accounts

/-! ## The link -/

/-- Both copies, the records on the way, and every update that was ever told. -/
structure Link (Flow Record Update : Type) where
  sender : Flow
  receiver : Flow
  records : List Record
  updates : List Update

def Link.level (flow : Flow) : Link Flow Record Update :=
  { sender := flow, receiver := flow, records := [], updates := [] }

inductive Move (Record Update : Type) where
  | offer (record : Record)
  | arrive
  | raise (update : Update)
  | tell (index : Nat)

inductive Reply (Failure : Type) where
  | offered (result : Except Failure Unit)
  | arrived (result : Except Failure Unit)
  | quiet

variable (meter : Meter Flow Record Update Failure)

/-- An update may be told any number of times, and what the sender admits goes on
the way. -/
def linkStep (link : Link Flow Record Update) :
    Move Record Update → Reply Failure × Link Flow Record Update
  | .offer record =>
      match meter.admitRecord link.sender record with
      | (.error failure, sender) => (.offered (.error failure), { link with sender := sender })
      | (.ok (), sender) =>
          (.offered (.ok ()),
            { link with sender := sender, records := link.records ++ [record] })
  | .arrive =>
      match link.records with
      | [] => (.quiet, link)
      | record :: rest =>
          let (result, receiver) := meter.admitRecord link.receiver record
          (.arrived result, { link with receiver := receiver, records := rest })
  | .raise update =>
      (.quiet,
        { link with
          receiver := meter.raise link.receiver update
          updates := link.updates ++ [update] })
  | .tell index =>
      match link.updates[index]? with
      | none => (.quiet, link)
      | some update => (.quiet, { link with sender := meter.raise link.sender update })

def linkMachine : Machine (Link Flow Record Update) (Move Record Update) (Reply Failure) :=
  ⟨linkStep meter⟩

variable {meter} {Covers : Flow → Flow → Prop} {link : Link Flow Record Update}

/-- A meter that changes nothing when it refuses. -/
def Meter.Atomic (meter : Meter Flow Record Update Failure) : Prop :=
  ∀ flow record failure after, meter.admitRecord flow record = (.error failure, after) → after = flow

/-- Past what is on the way the receiver covers the sender, and it absorbs every
update it has told. -/
structure Ahead (meter : Meter Flow Record Update Failure) (Covers : Flow → Flow → Prop)
    (link : Link Flow Record Update) : Prop where
  reaches : ∃ ahead, Leads meter.Admits link.receiver link.records ahead ∧
    Covers ahead link.sender
  absorbed : ∀ update ∈ link.updates, meter.Absorbs link.receiver update

theorem leads_raise (lawful : meter.Lawful Covers) {receiver ahead : Flow}
    {records : List Record} (leads : Leads meter.Admits receiver records ahead)
    (update : Update) :
    Leads meter.Admits (meter.raise receiver update) records (meter.raise ahead update) := by
  induction leads with
  | level flow => exact .level _
  | behind first rest ih => exact .behind (lawful.commute update first) ih

theorem leads_absorbs (lawful : meter.Lawful Covers) {receiver ahead : Flow}
    {records : List Record} {update : Update}
    (leads : Leads meter.Admits receiver records ahead)
    (absorbs : meter.Absorbs receiver update) : meter.Absorbs ahead update := by
  induction leads with
  | level flow => exact absorbs
  | behind first rest ih => exact ih (lawful.absorbs_admit absorbs first)

theorem ahead_level (lawful : meter.Lawful Covers) (flow : Flow) :
    Ahead meter Covers (Link.level flow) :=
  ⟨⟨flow, .level flow, lawful.refl flow⟩, by simp [Link.level]⟩

theorem Ahead.arrives (ahead : Ahead meter Covers link) {record : Record}
    {rest : List Record} (waiting : link.records = record :: rest) :
    ∃ next, meter.Admits link.receiver record next := by
  obtain ⟨reached, leads, -⟩ := ahead.reaches
  rw [waiting] at leads
  obtain ⟨next, admits, -⟩ := leads.uncons
  exact ⟨next, admits⟩

theorem Ahead.step (lawful : meter.Lawful Covers) (atomic : meter.Atomic)
    (ahead : Ahead meter Covers link) (move : Move Record Update) :
    Ahead meter Covers (linkStep meter link move).2 := by
  obtain ⟨reached, leads, covers⟩ := ahead.reaches
  cases move with
  | offer record =>
      cases answer : meter.admitRecord link.sender record with
      | mk result sender =>
          cases result with
          | error failure =>
              have same := atomic _ _ _ _ answer
              subst same
              simp only [linkStep, answer]
              exact ahead
          | ok done =>
              obtain ⟨next, admits, still⟩ := lawful.admitRecord covers answer
              simp only [linkStep, answer]
              exact ⟨⟨next, leads.snoc admits, still⟩, ahead.absorbed⟩
  | arrive =>
      cases waiting : link.records with
      | nil =>
          simp only [linkStep, waiting]
          exact ahead
      | cons record rest =>
          rw [waiting] at leads
          obtain ⟨next, admits, later⟩ := leads.uncons
          have answer : meter.admitRecord link.receiver record = (.ok (), next) := admits
          simp only [linkStep, waiting, answer]
          exact ⟨⟨reached, later, covers⟩,
            fun update told => lawful.absorbs_admit (ahead.absorbed update told) admits⟩
  | raise update =>
      refine ⟨⟨_, leads_raise lawful leads update, lawful.raise update covers⟩, ?_⟩
      intro other told
      rcases List.mem_append.mp told with before | last
      · exact lawful.absorbs_raise (ahead.absorbed other before) update
      · rw [List.mem_singleton.mp last]
        exact lawful.twice link.receiver update
  | tell index =>
      cases found : link.updates[index]? with
      | none =>
          simp only [linkStep, found]
          exact ahead
      | some update =>
          have told := List.mem_of_getElem? found
          have absorbs := leads_absorbs lawful leads (ahead.absorbed update told)
          simp only [linkStep, found]
          exact ⟨⟨reached, leads, lawful.absorb covers absorbs⟩, ahead.absorbed⟩

theorem ahead_run (lawful : meter.Lawful Covers) (atomic : meter.Atomic) (flow : Flow)
    (moves : List (Move Record Update)) :
    Ahead meter Covers ((linkMachine meter).final (Link.level flow) moves) :=
  (linkMachine meter).invariant_final (ahead_level lawful flow)
    (fun _ move ahead => ahead.step lawful atomic move) moves

/-- What the sender admitted is never refused. -/
theorem arrived_ok (lawful : meter.Lawful Covers) (atomic : meter.Atomic) (flow : Flow)
    (moves : List (Move Record Update)) (move : Move Record Update)
    {result : Except Failure Unit}
    (arrived : ((linkMachine meter).event
      ((linkMachine meter).final (Link.level flow) moves) move).output = .arrived result) :
    result = .ok () := by
  have ahead := ahead_run lawful atomic flow moves
  change (linkStep meter ((linkMachine meter).final (Link.level flow) moves) move).1 =
    .arrived result at arrived
  generalize (linkMachine meter).final (Link.level flow) moves = link at ahead arrived
  cases move with
  | offer record =>
      cases answer : meter.admitRecord link.sender record with
      | mk outcome sender => cases outcome <;> simp [linkStep, answer] at arrived
  | arrive =>
      cases waiting : link.records with
      | nil => simp [linkStep, waiting] at arrived
      | cons record rest =>
          obtain ⟨next, admits⟩ := ahead.arrives waiting
          unfold Meter.Admits at admits
          simp only [linkStep, waiting, admits, Reply.arrived.injEq] at arrived
          exact arrived.symm
  | raise update => simp [linkStep] at arrived
  | tell index =>
      cases found : link.updates[index]? <;> simp [linkStep, found] at arrived

/-! ## What every flow of a link keeps -/

/-- A law of admitting and raising is a law of both ends of a link. -/
theorem both_ends {Keeps : Flow → Flow → Prop} (refl : ∀ flow, Keeps flow flow)
    (admitRecord : ∀ flow record, Keeps flow (meter.admitRecord flow record).2)
    (raise : ∀ flow update, Keeps flow (meter.raise flow update))
    (link : Link Flow Record Update) (move : Move Record Update) :
    Keeps link.sender (linkStep meter link move).2.sender ∧
      Keeps link.receiver (linkStep meter link move).2.receiver := by
  cases move with
  | offer record =>
      have kept := admitRecord link.sender record
      cases answer : meter.admitRecord link.sender record with
      | mk outcome sender =>
          rw [answer] at kept
          cases outcome <;> simp only [linkStep, answer] <;> exact ⟨kept, refl _⟩
  | arrive =>
      cases waiting : link.records with
      | nil =>
          simp only [linkStep, waiting]
          exact ⟨refl _, refl _⟩
      | cons record rest =>
          simp only [linkStep, waiting]
          exact ⟨refl _, admitRecord link.receiver record⟩
  | raise update => exact ⟨refl _, raise link.receiver update⟩
  | tell index =>
      cases found : link.updates[index]? with
      | none =>
          simp only [linkStep, found]
          exact ⟨refl _, refl _⟩
      | some update =>
          simp only [linkStep, found]
          exact ⟨raise link.sender update, refl _⟩

/-- So is an invariant. -/
theorem both_ends_hold {Holds : Flow → Prop}
    (admitRecord : ∀ flow record, Holds flow → Holds (meter.admitRecord flow record).2)
    (raise : ∀ flow update, Holds flow → Holds (meter.raise flow update))
    {flow : Flow} (initial : Holds flow) (moves : List (Move Record Update)) :
    let link := (linkMachine meter).final (Link.level flow) moves
    Holds link.sender ∧ Holds link.receiver := by
  have step := @both_ends Flow Record Update Failure meter
    (fun before after => Holds before → Holds after) (fun _ => id) admitRecord raise
  exact @Machine.invariant_final _ _ _ (linkMachine meter)
    (fun link => Holds link.sender ∧ Holds link.receiver) (Link.level flow) ⟨initial, initial⟩
    (fun link move held => ⟨(step link move).1 held.1, (step link move).2 held.2⟩) moves

/-! ## What the counters say -/

section Counters

variable {sent limit : Flow → Nat × Nat} {cost : Record → Nat × Nat}

/-- An admitted record is charged within the limit, and a raise only adds to it. -/
structure Metering (meter : Meter Flow Record Update Failure) (sent limit : Flow → Nat × Nat)
    (cost : Record → Nat × Nat) : Prop where
  charged : ∀ {flow record after}, meter.Admits flow record after →
    sent after = sent flow + cost record ∧ limit after = limit flow ∧ sent after ≤ limit flow
  raised : ∀ flow update, sent (meter.raise flow update) = sent flow ∧
    limit flow ≤ limit (meter.raise flow update)

/-- The two ends of a link agree in every run that starts from equal flows. -/
structure Agreed (meter : Meter Flow Record Update Failure) (sent limit : Flow → Nat × Nat)
    (cost : Record → Nat × Nat) (flow : Flow) (moves : List (Move Record Update)) : Prop where
  arrived : ∀ event ∈ (linkMachine meter).history (Link.level flow) moves,
    ∀ result, event.output = .arrived result → result = .ok ()
  grows : ∀ event ∈ (linkMachine meter).history (Link.level flow) moves,
    limit event.before.sender ≤ limit event.after.sender ∧
      limit event.before.receiver ≤ limit event.after.receiver
  offered : ∀ event ∈ (linkMachine meter).history (Link.level flow) moves,
    ∀ record, event.input = .offer record → event.output = .offered (.ok ()) →
      sent event.after.sender = sent event.before.sender + cost record
  received : ∀ event ∈ (linkMachine meter).history (Link.level flow) moves,
    ∀ record rest, event.input = .arrive → event.before.records = record :: rest →
      sent event.after.receiver = sent event.before.receiver + cost record
  refused : ∀ event ∈ (linkMachine meter).history (Link.level flow) moves,
    ∀ failure, event.output = .offered (.error failure) → event.after = event.before
  bounded : sent flow ≤ limit flow →
    sent ((linkMachine meter).final (Link.level flow) moves).sender ≤
        limit ((linkMachine meter).final (Link.level flow) moves).sender ∧
      sent ((linkMachine meter).final (Link.level flow) moves).receiver ≤
        limit ((linkMachine meter).final (Link.level flow) moves).receiver

theorem Metering.limit_admit (metering : Metering meter sent limit cost)
    (atomic : meter.Atomic) (flow : Flow) (record : Record) :
    limit flow ≤ limit (meter.admitRecord flow record).2 := by
  cases answer : meter.admitRecord flow record with
  | mk result after =>
      cases result with
      | error failure => rw [atomic _ _ _ _ answer]
      | ok done => exact (metering.charged answer).2.1.ge

theorem Metering.within_admit (metering : Metering meter sent limit cost)
    (atomic : meter.Atomic) (flow : Flow) (record : Record) (within : sent flow ≤ limit flow) :
    sent (meter.admitRecord flow record).2 ≤ limit (meter.admitRecord flow record).2 := by
  cases answer : meter.admitRecord flow record with
  | mk result after =>
      cases result with
      | error failure =>
          rw [atomic _ _ _ _ answer]
          exact within
      | ok done =>
          obtain ⟨-, kept, bounded⟩ := metering.charged answer
          rw [kept]
          exact bounded

theorem Metering.within_raise (metering : Metering meter sent limit cost) (flow : Flow)
    (update : Update) (within : sent flow ≤ limit flow) :
    sent (meter.raise flow update) ≤ limit (meter.raise flow update) := by
  obtain ⟨same, more⟩ := metering.raised flow update
  rw [same]
  exact le_trans within more

theorem offer_cases (atomic : meter.Atomic) (link : Link Flow Record Update) (record : Record) :
    (∃ sender, meter.Admits link.sender record sender ∧
        linkStep meter link (.offer record) =
          (.offered (.ok ()),
            { link with sender := sender, records := link.records ++ [record] })) ∨
      ∃ failure, linkStep meter link (.offer record) = (.offered (.error failure), link) := by
  cases answer : meter.admitRecord link.sender record with
  | mk result sender =>
      cases result with
      | error failure =>
          have same := atomic _ _ _ _ answer
          subst same
          exact Or.inr ⟨failure, by simp only [linkStep, answer]⟩
      | ok done => exact Or.inl ⟨sender, answer, by simp only [linkStep, answer]⟩

theorem agreed (lawful : meter.Lawful Covers) (atomic : meter.Atomic)
    (metering : Metering meter sent limit cost) (flow : Flow)
    (moves : List (Move Record Update)) : Agreed meter sent limit cost flow moves := by
  -- Each event is one move, made after the moves before it.
  have made {event} (inside : event ∈ (linkMachine meter).history (Link.level flow) moves) :
      ∃ before move, event = (linkMachine meter).event
        ((linkMachine meter).final (Link.level flow) before) move := by
    obtain ⟨past, future, cut⟩ := List.append_of_mem inside
    obtain ⟨before, move, -, -, -, same, -⟩ := (linkMachine meter).history_event cut
    exact ⟨before, move, same⟩
  refine ⟨?_, ?_, ?_, ?_, ?_, ?_⟩
  · intro event inside result output
    obtain ⟨before, move, rfl⟩ := made inside
    exact arrived_ok lawful atomic flow before move output
  · intro event inside
    obtain ⟨before, move, rfl⟩ := made inside
    exact @both_ends _ _ _ _ meter (fun before after => limit before ≤ limit after)
      (fun _ => le_rfl) (metering.limit_admit atomic)
      (fun flow update => (metering.raised flow update).2) _ move
  · intro event inside record asked accepted
    obtain ⟨before, move, rfl⟩ := made inside
    cases asked
    rcases offer_cases atomic ((linkMachine meter).final (Link.level flow) before) record with
      ⟨sender, admits, ends⟩ | ⟨failure, ends⟩
    · have after := congrArg (fun answer => answer.2.sender) ends
      exact (congrArg sent after).trans (metering.charged admits).1
    · have refused := (congrArg Prod.fst ends).symm.trans accepted
      cases refused
  · intro event inside record rest asked waiting
    obtain ⟨before, move, rfl⟩ := made inside
    cases asked
    obtain ⟨next, admits⟩ := (ahead_run lawful atomic flow before).arrives waiting
    have charged := (metering.charged admits).1
    have after : (linkStep meter ((linkMachine meter).final (Link.level flow) before)
        .arrive).2.receiver = next := by
      have held : ((linkMachine meter).final (Link.level flow) before).records =
        record :: rest := waiting
      unfold Meter.Admits at admits
      simp only [linkStep, held, admits]
    exact (congrArg sent after).trans charged
  · intro event inside failure output
    obtain ⟨before, move, rfl⟩ := made inside
    change (linkStep meter ((linkMachine meter).final (Link.level flow) before) move).1 =
      .offered (.error failure) at output
    show (linkStep meter ((linkMachine meter).final (Link.level flow) before) move).2 = _
    generalize (linkMachine meter).final (Link.level flow) before = link at output ⊢
    cases move with
    | offer record =>
        rcases offer_cases atomic link record with ⟨sender, admits, ends⟩ | ⟨other, ends⟩
        · rw [ends] at output
          cases output
        · rw [ends]
          rfl
    | arrive =>
        cases waiting : link.records <;> simp [linkStep, waiting] at output
    | raise update => simp [linkStep] at output
    | tell index =>
        cases found : link.updates[index]? <;> simp [linkStep, found] at output
  · intro within
    exact both_ends_hold (metering.within_admit atomic) metering.within_raise within moves

end Counters

end VividProtocol.Library.Credit

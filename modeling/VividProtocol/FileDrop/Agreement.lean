import Mathlib.Tactic
import VividProtocol.FileDrop.Records

/-!
# Agreement of the file-drop records

Each decoder reads exactly the payloads that hold the fields of a record, if the
record passes its checks.  The encoders that carry a tuple do not check it, and
the encoders of a grant and of an acceptance check nothing.
-/

set_option autoImplicit false

namespace VividProtocol.FileDrop

open VividProtocol.Wire
open VividProtocol.Library.Result
open VividProtocol.Library.Codec
open VividProtocol.Library.Association

/-! ## Payloads and their fields -/

/-- The payload has the fields of a record and no other keys. -/
def Holds (payload : Cbor.Value) (fields : PayloadMap) : Prop :=
  ∃ entries, payload = .map entries ∧ (∀ entry ∈ entries, entry.1 ∈ fields.map Prod.fst) ∧
    ∀ field ∈ fields, entries.lookup field.1 = some field.2

theorem holds_self {fields : PayloadMap} (distinct : (fields.map Prod.fst).Nodup) :
    Holds (.map fields) fields :=
  ⟨fields, rfl, fun _ among => List.mem_map_of_mem among, fun _ among =>
    lookup_of_mem distinct among⟩

/-! ## Checks -/

section Checks

variable {schema : String} {key : UInt64} {done : Unit}

theorem counter_requireNonzero_eq_ok {label : String} {counter result : Counter label} :
    counter.requireNonzero = .ok result ↔ counter ≠ .zero ∧ counter = result := by
  unfold Counter.requireNonzero
  rw [ite_error_eq_ok_iff, Except.ok.injEq]
  refine and_congr_left fun _ => not_congr ?_
  constructor
  · intro zero
    exact congrArg Counter.mk zero
  · intro zero
    exact congrArg Counter.value zero

theorem requireCounter_eq_ok {label : String} {counter : Counter label} :
    requireCounter schema key counter = .ok done ↔ counter ≠ .zero := by
  unfold requireCounter
  simp only [bind_eq_ok_iff, orInvalid_eq_ok, counter_requireNonzero_eq_ok]
  constructor
  · intro checked
    obtain ⟨_, ⟨nonzero, _⟩, _⟩ := checked
    exact nonzero
  · intro nonzero
    exact ⟨counter, ⟨nonzero, rfl⟩, trivial⟩

/-- A surface generation goes with a surface. -/
def Scoped (surfaceId : UInt64) (surfaceGeneration : SurfaceGeneration) : Prop :=
  surfaceId = 0 ↔ surfaceGeneration = .zero

theorem mismatchedScope_eq_false {surfaceId : UInt64} {surfaceGeneration : SurfaceGeneration} :
    mismatchedScope surfaceId surfaceGeneration = false ↔ Scoped surfaceId surfaceGeneration := by
  have succeeds : surfaceGeneration.requireNonzero.toBool = true ↔ surfaceGeneration ≠ .zero := by
    by_cases zero : surfaceGeneration = .zero
    · rw [zero]
      simp [Counter.requireNonzero, Counter.zero, Except.toBool]
    · have passed := counter_requireNonzero_eq_ok.mpr ⟨zero, rfl⟩
      rw [passed]
      simp [zero, Except.toBool]
  unfold mismatchedScope Scoped
  by_cases wide : surfaceId = 0
  · simp [wide]
  · simp [wide, succeeds]

theorem validateScope_eq_ok {surfaceId : UInt64} {surfaceGeneration : SurfaceGeneration}
    {wide narrow : String} :
    validateScope schema key surfaceId surfaceGeneration wide narrow = .ok done ↔
      Scoped surfaceId surfaceGeneration := by
  unfold validateScope Scoped
  by_cases whole : surfaceId = 0
  · rw [if_pos whole, ite_error_eq_ok_iff]
    simp [whole]
  · rw [if_neg whole]
    simp only [bind_eq_ok_iff, orInvalid_eq_ok, counter_requireNonzero_eq_ok, whole, false_iff]
    constructor
    · intro checked
      obtain ⟨_, ⟨nonzero, _⟩, _⟩ := checked
      exact nonzero
    · intro nonzero
      exact ⟨surfaceGeneration, ⟨nonzero, rfl⟩, trivial⟩

theorem validateDeadline_eq_ok {timeout : UInt64} :
    validateDeadline schema key timeout = .ok done ↔
      MIN_FILE_DROP_DEADLINE_US ≤ timeout ∧ timeout ≤ MAX_FILE_DROP_DEADLINE_US := by
  unfold validateDeadline
  rw [ite_error_eq_ok_iff]
  simp

end Checks

/-! ## Codes -/

section Codes

variable {value key : UInt64} {map : StrictMap}

theorem FileDropDestination.tryFrom_eq_ok {destination : FileDropDestination} :
    tryFrom value = .ok destination ↔ value = destination.toWord := by
  constructor
  · intro read
    unfold tryFrom at read
    split_ifs at read <;> cases read <;> assumption
  · intro same
    rw [same]
    cases destination <;> rfl

theorem FileDropBindingState.tryFrom_eq_ok {state : FileDropBindingState} :
    tryFrom value = .ok state ↔ value = state.toWord := by
  constructor
  · intro read
    unfold tryFrom at read
    split_ifs at read <;> cases read <;> assumption
  · intro same
    rw [same]
    cases state <;> rfl

theorem FileDropState.tryFrom_eq_ok {state : FileDropState} :
    tryFrom value = .ok state ↔ value = state.toWord := by
  constructor
  · intro read
    unfold tryFrom at read
    split_ifs at read <;> cases read <;> assumption
  · intro same
    rw [same]
    cases state <;> rfl

theorem FileResultCode.tryFrom_eq_ok {result : FileResultCode} :
    tryFrom value = .ok result ↔ value = result.toWord := by
  constructor
  · intro read
    unfold tryFrom at read
    split_ifs at read <;> cases read <;> assumption
  · intro same
    rw [same]
    cases result <;> rfl

theorem requiredDestination_eq_ok {destination : Option FileDropDestination} :
    requiredDestination map key = .ok destination ↔
      map.entries.lookup key = some (.unsigned (destinationWord destination)) := by
  unfold requiredDestination
  simp only [bind_eq_ok_iff, StrictMap.requiredU64_iff]
  constructor
  · intro read
    obtain ⟨word, held, named⟩ := read
    rw [held]
    by_cases zero : word = 0
    · rw [if_pos zero] at named
      cases named
      rw [zero]
      rfl
    · rw [if_neg zero] at named
      obtain ⟨code, known, same⟩ := bind_eq_ok_iff.mp named
      cases same
      rw [FileDropDestination.tryFrom_eq_ok.mp known]
      rfl
  · intro held
    refine ⟨_, held, ?_⟩
    cases destination with
    | none => rfl
    | some code =>
        have nonzero : code.toWord ≠ 0 := by cases code <;> decide
        rw [destinationWord, if_neg nonzero, FileDropDestination.tryFrom_eq_ok.mpr rfl, ok_bind]

theorem requiredResult_eq_ok {result : Option FileResultCode} :
    requiredResult map key = .ok result ↔
      map.entries.lookup key = some (.unsigned (resultWord result)) := by
  unfold requiredResult
  simp only [bind_eq_ok_iff, StrictMap.requiredU64_iff]
  constructor
  · intro read
    obtain ⟨word, held, named⟩ := read
    rw [held]
    by_cases absent : word = noResult
    · rw [if_pos absent] at named
      cases named
      rw [absent]
      rfl
    · rw [if_neg absent] at named
      obtain ⟨code, known, same⟩ := bind_eq_ok_iff.mp named
      cases same
      rw [FileResultCode.tryFrom_eq_ok.mp known]
      rfl
  · intro held
    refine ⟨_, held, ?_⟩
    cases result with
    | none => rfl
    | some code =>
        have present : code.toWord ≠ noResult := by cases code <;> decide
        rw [resultWord, if_neg present, FileResultCode.tryFrom_eq_ok.mpr rfl, ok_bind]

end Codes

/-! ## The tuple -/

/-- What `decode` checks of a tuple. -/
structure FileDropTuple.Proper (tuple : FileDropTuple) : Prop where
  producerEpoch : tuple.producerEpoch ≠ .zero
  grantGeneration : tuple.grantGeneration ≠ .zero
  contextId : tuple.contextId ≠ 0
  scope : Scoped tuple.surfaceId tuple.surfaceGeneration
  dropId : tuple.dropId ≠ 0

theorem FileDropTuple.decode_eq_ok {schema : String} {map : StrictMap} {tuple : FileDropTuple} :
    FileDropTuple.decode schema map = .ok tuple ↔
      (∀ field ∈ tuple.payload, map.entries.lookup field.1 = some field.2) ∧ tuple.Proper := by
  unfold FileDropTuple.decode
  simp only [bind_eq_ok_iff, StrictMap.requiredU64_iff, requireNonzero_eq_ok,
    requireCounter_eq_ok, validateScope_eq_ok, payload, List.forall_mem_cons]
  constructor
  · intro read
    obtain ⟨_, epoch, _, grant, _, context, _, ⟨contextId, same⟩, _, surface, _, generation, _,
      drop, _, ⟨dropId, same'⟩, _, producerEpoch, _, grantGeneration, _, scope, built⟩ := read
    cases same
    cases same'
    cases built
    exact ⟨⟨epoch, grant, context, surface, generation, drop, nofun⟩,
      producerEpoch, grantGeneration, contextId, scope, dropId⟩
  · intro read
    obtain ⟨⟨epoch, grant, context, surface, generation, drop, _⟩, proper⟩ := read
    exact ⟨_, epoch, _, grant, _, context, _, ⟨proper.contextId, rfl⟩, _, surface, _, generation,
      _, drop, _, ⟨proper.dropId, rfl⟩, (), proper.producerEpoch, (), proper.grantGeneration, (),
      proper.scope, rfl⟩

/-! ## Bindings and grants -/

/-- A decoder that reads the fields of a record and checks at least what was sent. -/
theorem settles_of_decode {Record : Type} {header : Record → UInt64} {fields : Record → PayloadMap}
    {encode : Record → Except MessageError PayloadMap}
    {decode : UInt64 → Cbor.Value → Except MessageError Record} {Sent Proper : Record → Prop}
    (distinct : ∀ record, ((fields record).map Prod.fst).Nodup)
    (writes : ∀ {record : Record} {written : PayloadMap},
      encode record = .ok written ↔ Sent record ∧ fields record = written)
    (reads : ∀ {above : UInt64} {payload : Cbor.Value} {record : Record},
      decode above payload = .ok record ↔
        Holds payload (fields record) ∧ above = header record ∧ Sent record ∧ Proper record) :
    Settles header Cbor.Value.map encode decode Proper := by
  refine Settles.of_reads writes ?_ ?_
  · intro record
    rw [reads]
    constructor
    · intro read
      exact read.2.2
    · intro sent
      exact ⟨holds_self (distinct record), rfl, sent⟩
  · intro above message record accepted
    exact (reads.mp accepted).2

section Records

variable {above : UInt64} {payload : Cbor.Value} {written : PayloadMap} {done : Unit}

namespace FileDropBinding

variable {binding : FileDropBinding}

theorem fields_distinct (binding : FileDropBinding) : (binding.fields.map Prod.fst).Nodup := by
  simp only [fields, List.map_cons, List.map_nil]
  decide

theorem validate_eq_ok :
    binding.validate above = .ok done ↔
      above = binding.surfaceId ∧ binding.validate binding.surfaceId = .ok () := by
  unfold validate
  simp only [check_bind_eq_ok_iff, validateHeaderObject_eq_ok, true_and]
  constructor
  · intro valid
    exact ⟨valid.2.1, valid.1, valid.2.2⟩
  · intro valid
    exact ⟨valid.2.1, valid.1, valid.2.2⟩

theorem payload_eq_ok :
    binding.payload = .ok written ↔
      binding.validate binding.surfaceId = .ok () ∧ binding.fields = written := by
  simp only [FileDropBinding.payload, check_bind_eq_ok_iff, Except.ok.injEq]

theorem decode_eq_ok :
    decode above payload = .ok binding ↔
      Holds payload binding.fields ∧ above = binding.surfaceId ∧
        binding.validate binding.surfaceId = .ok () ∧ True := by
  rw [and_true, ← @validate_eq_ok above ()]
  unfold decode Holds
  simp only [bind_eq_ok_iff, StrictMap.new_eq_ok, StrictMap.requiredU64_iff,
    StrictMap.requiredU32_eq_ok, requiredDestination_eq_ok, fields, List.forall_mem_cons,
    List.map_cons, List.map_nil]
  constructor
  · intro read
    obtain ⟨map, ⟨_, carried, known⟩, _, four, _, zero, _, one, _, two, _, three, _, five, _, six,
      _, seven, _, eight, _, nine, _, ten, _, valid, built⟩ := read
    cases built
    exact ⟨⟨map.entries, carried, known, zero, one, two, three, four, five, six, seven, eight,
      nine, ten, nofun⟩, valid⟩
  · intro read
    obtain ⟨⟨entries, carried, known, zero, one, two, three, four, five, six, seven, eight, nine,
      ten, _⟩, valid⟩ := read
    exact ⟨⟨"SET_FILE_DROP_BINDING", entries⟩, ⟨rfl, carried, known⟩, _, four, _, zero, _, one, _,
      two, _, three, _, five, _, six, _, seven, _, eight, _, nine, _, ten, (), valid, rfl⟩

theorem settles : Settles surfaceId Cbor.Value.map FileDropBinding.payload decode fun _ => True :=
  settles_of_decode fields_distinct payload_eq_ok decode_eq_ok

end FileDropBinding

namespace FileDropGrant

variable {grant : FileDropGrant}

/-- The limits of a grant that is not disabled. -/
structure Limited (grant : FileDropGrant) : Prop where
  destination : grant.destination ≠ none
  maximumFileBytes : grant.maximumFileBytes ≠ 0
  limits : validateBindingLimits grant.maximumPendingOffers grant.maximumActiveTransfers
    grant.maximumRecordBody grant.acceptanceTimeoutUs grant.idleTimeoutUs "FILE_DROP_BOUND" = .ok ()

/-- A disabled grant keeps nothing. -/
structure Bare (grant : FileDropGrant) : Prop where
  destination : grant.destination = none
  maximumFileBytes : grant.maximumFileBytes = 0
  maximumPendingOffers : grant.maximumPendingOffers = 0
  maximumActiveTransfers : grant.maximumActiveTransfers = 0
  maximumRecordBody : grant.maximumRecordBody = 0
  acceptanceTimeoutUs : grant.acceptanceTimeoutUs = 0
  idleTimeoutUs : grant.idleTimeoutUs = 0

/-- A grant is disabled exactly if it has no generation, and has limits otherwise. -/
structure Proper (grant : FileDropGrant) : Prop where
  producerEpoch : grant.producerEpoch ≠ .zero
  contextId : grant.contextId ≠ 0
  scope : Scoped grant.surfaceId grant.surfaceGeneration
  generation : grant.grantGeneration = .zero ↔ grant.state = .disabled
  limited : grant.state ≠ .disabled → grant.Limited
  bare : grant.state = .disabled → grant.Bare

theorem payload_distinct (grant : FileDropGrant) : (grant.payload.map Prod.fst).Nodup := by
  simp only [FileDropGrant.payload, List.map_cons, List.map_nil]
  decide

theorem checkLive_eq_ok :
    grant.checkLive = .ok done ↔
      grant.grantGeneration ≠ .zero ∧ grant.contextId ≠ 0 ∧ grant.Limited := by
  unfold checkLive
  simp only [bind_eq_ok_iff, requireCounter_eq_ok, requireNonzero_eq_ok, ite_error_eq_ok_iff,
    exists_const]
  constructor
  · intro checked
    obtain ⟨generation, _, ⟨context, _⟩, some, limits⟩ := checked
    exact ⟨generation, context, by simpa using mt Or.inl some, mt Or.inr some, limits⟩
  · intro checked
    obtain ⟨generation, context, limited⟩ := checked
    refine ⟨generation, _, ⟨context, rfl⟩, ?_, limited.limits⟩
    have named := limited.destination
    have sized := limited.maximumFileBytes
    simp [named, sized]

theorem checkDisabled_eq_ok :
    grant.checkDisabled = .ok done ↔
      grant.grantGeneration = .zero ∧ grant.contextId ≠ 0 ∧ grant.Bare := by
  unfold checkDisabled
  simp only [bind_eq_ok_iff, requireNonzero_eq_ok, ite_error_eq_ok_iff, not_or, not_not,
    Bool.not_eq_true, Option.isSome_eq_false_iff, Option.isNone_iff_eq_none]
  constructor
  · intro checked
    obtain ⟨_, ⟨context, _⟩, ⟨generation, destination, bytes, pending, active, body, acceptance,
      idle⟩, _⟩ := checked
    exact ⟨generation, context, destination, bytes, pending, active, body, acceptance, idle⟩
  · intro checked
    obtain ⟨generation, context, bare⟩ := checked
    exact ⟨_, ⟨context, rfl⟩, ⟨generation, bare.destination, bare.maximumFileBytes,
      bare.maximumPendingOffers, bare.maximumActiveTransfers, bare.maximumRecordBody,
      bare.acceptanceTimeoutUs, bare.idleTimeoutUs⟩, trivial⟩

theorem check_eq_ok :
    grant.check above = .ok done ↔ above = grant.surfaceId ∧ grant.Proper := by
  unfold check
  simp only [bind_eq_ok_iff, validateHeaderObject_eq_ok, requireCounter_eq_ok,
    ite_error_eq_ok_iff, Bool.not_eq_true, mismatchedScope_eq_false, exists_const]
  refine and_congr_right fun _ => ?_
  by_cases disabled : grant.state = .disabled
  · rw [if_neg (not_not_intro disabled), checkDisabled_eq_ok]
    constructor
    · intro checked
      obtain ⟨epoch, scope, generation, context, bare⟩ := checked
      exact ⟨epoch, context, scope, by simp [generation, disabled], absurd disabled, fun _ => bare⟩
    · intro proper
      exact ⟨proper.producerEpoch, proper.scope, proper.generation.mpr disabled,
        proper.contextId, proper.bare disabled⟩
  · rw [if_pos disabled, checkLive_eq_ok]
    constructor
    · intro checked
      obtain ⟨epoch, scope, generation, context, limited⟩ := checked
      exact ⟨epoch, context, scope, by simp [generation, disabled], fun _ => limited,
        fun same => absurd same disabled⟩
    · intro proper
      exact ⟨proper.producerEpoch, proper.scope, mt proper.generation.mp disabled,
        proper.contextId, proper.limited disabled⟩

theorem decode_eq_ok :
    decode above payload = .ok grant ↔
      Holds payload grant.payload ∧ above = grant.surfaceId ∧ True ∧ grant.Proper := by
  have both : (above = grant.surfaceId ∧ True ∧ grant.Proper) ↔ grant.check above = .ok () := by
    rw [check_eq_ok, true_and]
  rw [both]
  unfold decode Holds
  simp only [bind_eq_ok_iff, StrictMap.new_eq_ok, StrictMap.requiredU64_iff,
    StrictMap.requiredU32_eq_ok, requiredDestination_eq_ok, FileDropBindingState.tryFrom_eq_ok,
    FileDropGrant.payload, List.forall_mem_cons, List.map_cons, List.map_nil]
  constructor
  · intro read
    obtain ⟨map, ⟨_, carried, known⟩, _, six, _, zero, _, one, _, two, _, three, _, four, _, five,
      _, code, _, seven, _, eight, _, nine, _, ten, _, eleven, _, twelve, _, thirteen, _, valid,
      built⟩ := read
    cases code
    cases built
    exact ⟨⟨map.entries, carried, known, zero, one, two, three, four, five, six, seven, eight,
      nine, ten, eleven, twelve, thirteen, nofun⟩, valid⟩
  · intro read
    obtain ⟨⟨entries, carried, known, zero, one, two, three, four, five, six, seven, eight, nine,
      ten, eleven, twelve, thirteen, _⟩, valid⟩ := read
    exact ⟨⟨"FILE_DROP_BOUND", entries⟩, ⟨rfl, carried, known⟩, _, six, _, zero, _, one, _, two,
      _, three, _, four, _, five, _, rfl, _, seven, _, eight, _, nine, _, ten, _, eleven, _,
      twelve, _, thirteen, (), valid, rfl⟩

theorem settles :
    Settles surfaceId Cbor.Value.map (fun grant => .ok grant.payload) decode Proper :=
  settles_of_decode payload_distinct (by simp) decode_eq_ok

end FileDropGrant

/-! ## Offers and their answers -/

namespace FileDropOffer

variable {offer : FileDropOffer}

theorem fields_distinct (offer : FileDropOffer) : (offer.fields.map Prod.fst).Nodup := by
  simp only [fields, FileDropTuple.payload, List.cons_append, List.nil_append, List.map_cons,
    List.map_nil]
  decide

theorem payload_eq_ok :
    offer.payload = .ok written ↔
      validateSuggestedName offer.suggestedName = .ok () ∧ offer.fields = written := by
  simp only [FileDropOffer.payload, check_bind_eq_ok_iff, Except.ok.injEq]

theorem decode_eq_ok :
    decode above payload = .ok offer ↔
      Holds payload offer.fields ∧ above = offer.binding.dropId ∧
        validateSuggestedName offer.suggestedName = .ok () ∧ offer.binding.Proper := by
  unfold decode Holds
  simp only [bind_eq_ok_iff, StrictMap.new_eq_ok, FileDropTuple.decode_eq_ok,
    StrictMap.requiredText_eq_ok, StrictMap.requiredU64_iff, validateHeaderObject_eq_ok, fields,
    List.forall_mem_append, List.forall_mem_cons]
  constructor
  · intro read
    obtain ⟨map, ⟨_, carried, known⟩, _, ⟨tuple, proper⟩, _, six, _, seven, _, same, _, named,
      built⟩ := read
    cases built
    exact ⟨⟨map.entries, carried, known, tuple, six, seven, nofun⟩, same, named, proper⟩
  · intro read
    obtain ⟨⟨entries, carried, known, tuple, six, seven, _⟩, same, named, proper⟩ := read
    exact ⟨⟨"FILE_DROP_OFFER", entries⟩, ⟨rfl, carried, known⟩, _, ⟨tuple, proper⟩, _, six, _,
      seven, (), same, (), named, rfl⟩

theorem settles :
    Settles (fun offer => offer.binding.dropId) Cbor.Value.map FileDropOffer.payload decode
      fun offer => offer.binding.Proper :=
  settles_of_decode fields_distinct payload_eq_ok decode_eq_ok

end FileDropOffer

namespace AcceptFileDrop

variable {accept : AcceptFileDrop}

theorem fields_distinct (accept : AcceptFileDrop) : (accept.fields.map Prod.fst).Nodup := by
  simp only [fields, FileDropTuple.payload, List.cons_append, List.nil_append, List.map_cons,
    List.map_nil]
  decide

theorem validate_eq_ok :
    accept.validate above = .ok done ↔
      above = accept.binding.dropId ∧ accept.validate accept.binding.dropId = .ok () := by
  unfold validate
  simp only [check_bind_eq_ok_iff, validateHeaderObject_eq_ok, true_and]

theorem payload_eq_ok :
    accept.payload = .ok written ↔
      accept.validate accept.binding.dropId = .ok () ∧ accept.fields = written := by
  simp only [AcceptFileDrop.payload, check_bind_eq_ok_iff, Except.ok.injEq]

theorem decode_eq_ok :
    decode above payload = .ok accept ↔
      Holds payload accept.fields ∧ above = accept.binding.dropId ∧
        accept.validate accept.binding.dropId = .ok () ∧ accept.binding.Proper := by
  rw [← and_assoc (a := above = _), ← @validate_eq_ok above ()]
  unfold decode Holds
  simp only [bind_eq_ok_iff, StrictMap.new_eq_ok, FileDropTuple.decode_eq_ok,
    StrictMap.requiredU64_iff, StrictMap.requiredU32_eq_ok, fields, List.forall_mem_append,
    List.forall_mem_cons]
  constructor
  · intro read
    obtain ⟨map, ⟨_, carried, known⟩, _, ⟨tuple, proper⟩, _, six, _, seven, _, eight, _, nine, _,
      ten, _, valid, built⟩ := read
    cases built
    exact ⟨⟨map.entries, carried, known, tuple, six, seven, eight, nine, ten, nofun⟩, valid,
      proper⟩
  · intro read
    obtain ⟨⟨entries, carried, known, tuple, six, seven, eight, nine, ten, _⟩, valid, proper⟩ :=
      read
    exact ⟨⟨"ACCEPT_FILE_DROP", entries⟩, ⟨rfl, carried, known⟩, _, ⟨tuple, proper⟩, _, six, _,
      seven, _, eight, _, nine, _, ten, (), valid, rfl⟩

theorem settles :
    Settles (fun accept => accept.binding.dropId) Cbor.Value.map AcceptFileDrop.payload decode
      fun accept => accept.binding.Proper :=
  settles_of_decode fields_distinct payload_eq_ok decode_eq_ok

end AcceptFileDrop

namespace FileDropAccepted

variable {accepted : FileDropAccepted}

/-- What `decode` checks of an acceptance. -/
structure Proper (accepted : FileDropAccepted) : Prop where
  dropId : accepted.dropId ≠ 0
  transferId : accepted.transferId ≠ 0
  transferGeneration : accepted.transferGeneration ≠ .zero
  openTimeoutUs : MIN_FILE_DROP_DEADLINE_US ≤ accepted.openTimeoutUs ∧
    accepted.openTimeoutUs ≤ MAX_FILE_DROP_DEADLINE_US

theorem payload_distinct (accepted : FileDropAccepted) :
    (accepted.payload.map Prod.fst).Nodup := by
  simp only [FileDropAccepted.payload, List.map_cons, List.map_nil]
  decide

theorem decode_eq_ok :
    decode above payload = .ok accepted ↔
      Holds payload accepted.payload ∧ above = accepted.dropId ∧ True ∧ accepted.Proper := by
  unfold decode Holds
  simp only [bind_eq_ok_iff, StrictMap.new_eq_ok, StrictMap.requiredU64_iff,
    requireNonzero_eq_ok, validateHeaderObject_eq_ok, requireCounter_eq_ok,
    validateDeadline_eq_ok, FileDropAccepted.payload, List.forall_mem_cons, List.map_cons,
    List.map_nil]
  constructor
  · intro read
    obtain ⟨map, ⟨_, carried, known⟩, _, zero, _, ⟨drop, word⟩, _, one, _, ⟨transfer, word'⟩, _,
      two, _, three, _, same, _, generation, _, timely, built⟩ := read
    cases word
    cases word'
    cases built
    exact ⟨⟨map.entries, carried, known, zero, one, two, three, nofun⟩, same, trivial, drop,
      transfer, generation, timely⟩
  · intro read
    obtain ⟨⟨entries, carried, known, zero, one, two, three, _⟩, same, _, proper⟩ := read
    exact ⟨⟨"FILE_DROP_ACCEPTED", entries⟩, ⟨rfl, carried, known⟩, _, zero, _, ⟨proper.dropId, rfl⟩,
      _, one, _, ⟨proper.transferId, rfl⟩, _, two, _, three, (), same, (),
      proper.transferGeneration, (), proper.openTimeoutUs, rfl⟩

theorem settles :
    Settles dropId Cbor.Value.map (fun accepted => .ok accepted.payload) decode Proper :=
  settles_of_decode payload_distinct (by simp) decode_eq_ok

end FileDropAccepted

namespace CancelFileDrop

variable {cancel : CancelFileDrop} {schema : String}

theorem fields_distinct (cancel : CancelFileDrop) : (cancel.fields.map Prod.fst).Nodup := by
  simp only [fields, FileDropTuple.payload, List.cons_append, List.nil_append, List.map_cons,
    List.map_nil]
  decide

theorem checkReason_eq_ok {reason : UInt64} :
    checkReason schema reason = .ok done ↔ ¬ 7 < reason := by
  unfold checkReason
  rw [ite_error_eq_ok_iff]
  simp

theorem payload_eq_ok :
    cancel.payload = .ok written ↔ ¬ 7 < cancel.reason ∧ cancel.fields = written := by
  simp only [CancelFileDrop.payload, check_bind_eq_ok_iff, checkReason_eq_ok, Except.ok.injEq]

theorem decode_eq_ok :
    decode schema above payload = .ok cancel ↔
      Holds payload cancel.fields ∧ above = cancel.binding.dropId ∧ ¬ 7 < cancel.reason ∧
        cancel.binding.Proper := by
  unfold decode Holds
  simp only [bind_eq_ok_iff, StrictMap.new_eq_ok, FileDropTuple.decode_eq_ok,
    StrictMap.requiredU64_iff, validateHeaderObject_eq_ok, checkReason_eq_ok, fields,
    List.forall_mem_append, List.forall_mem_cons]
  constructor
  · intro read
    obtain ⟨map, ⟨_, carried, known⟩, _, ⟨tuple, proper⟩, _, six, _, same, _, registered,
      built⟩ := read
    cases built
    exact ⟨⟨map.entries, carried, known, tuple, six, nofun⟩, same, registered, proper⟩
  · intro read
    obtain ⟨⟨entries, carried, known, tuple, six, _⟩, same, registered, proper⟩ := read
    exact ⟨⟨schema, entries⟩, ⟨rfl, carried, known⟩, _, ⟨tuple, proper⟩, _, six, (), same, (),
      registered, rfl⟩

theorem settles (schema : String) :
    Settles (fun cancel => cancel.binding.dropId) Cbor.Value.map CancelFileDrop.payload
      (decode schema) fun cancel => cancel.binding.Proper :=
  settles_of_decode fields_distinct payload_eq_ok decode_eq_ok

end CancelFileDrop

/-! ## Advances -/

namespace AdvanceFileTransfer

variable {advance : AdvanceFileTransfer}

theorem fields_distinct (advance : AdvanceFileTransfer) : (advance.fields.map Prod.fst).Nodup := by
  simp only [fields, List.map_cons, List.map_nil]
  decide

theorem validate_eq_ok :
    advance.validate above = .ok done ↔
      above = advance.transferId ∧ advance.validate advance.transferId = .ok () := by
  unfold validate
  simp only [check_bind_eq_ok_iff, validateHeaderObject_eq_ok, true_and]

theorem payload_eq_ok :
    advance.payload = .ok written ↔
      advance.validate advance.transferId = .ok () ∧ advance.fields = written := by
  simp only [AdvanceFileTransfer.payload, check_bind_eq_ok_iff, Except.ok.injEq]

theorem decode_eq_ok :
    decode above payload = .ok advance ↔
      Holds payload advance.fields ∧ above = advance.transferId ∧
        advance.validate advance.transferId = .ok () ∧ True := by
  rw [and_true, ← @validate_eq_ok above ()]
  unfold decode Holds
  simp only [bind_eq_ok_iff, StrictMap.new_eq_ok, StrictMap.requiredU64_iff, fields,
    List.forall_mem_cons, List.map_cons, List.map_nil]
  constructor
  · intro read
    obtain ⟨map, ⟨_, carried, known⟩, _, zero, _, one, _, two, _, three, _, four, _, five, _, six,
      _, seven, _, eight, _, valid, built⟩ := read
    cases built
    exact ⟨⟨map.entries, carried, known, zero, one, two, three, four, five, six, seven, eight,
      nofun⟩, valid⟩
  · intro read
    obtain ⟨⟨entries, carried, known, zero, one, two, three, four, five, six, seven, eight, _⟩,
      valid⟩ := read
    exact ⟨⟨"ADVANCE_FILE_TRANSFER", entries⟩, ⟨rfl, carried, known⟩, _, zero, _, one, _, two, _,
      three, _, four, _, five, _, six, _, seven, _, eight, (), valid, rfl⟩

theorem settles :
    Settles transferId Cbor.Value.map AdvanceFileTransfer.payload decode fun _ => True :=
  settles_of_decode fields_distinct payload_eq_ok decode_eq_ok

end AdvanceFileTransfer

namespace FileTransferAdvanced

variable {advanced : FileTransferAdvanced}

/-- The fields that the encoder writes. -/
def fields (advanced : FileTransferAdvanced) : PayloadMap :=
  [(0, .unsigned advanced.transferId),
    (1, .unsigned advanced.generation.value),
    (2, .unsigned advanced.committedOffset),
    (3, .unsigned advanced.openTimeoutUs)]

theorem fields_distinct (advanced : FileTransferAdvanced) :
    (advanced.fields.map Prod.fst).Nodup := by
  simp only [fields, List.map_cons, List.map_nil]
  decide

/-- What both sides check. -/
structure Valid (advanced : FileTransferAdvanced) : Prop where
  transferId : advanced.transferId ≠ 0
  generation : advanced.generation ≠ .zero
  openTimeoutUs : MIN_FILE_DROP_DEADLINE_US ≤ advanced.openTimeoutUs ∧
    advanced.openTimeoutUs ≤ MAX_FILE_DROP_DEADLINE_US

theorem payload_eq_ok :
    advanced.payload = .ok written ↔ advanced.Valid ∧ advanced.fields = written := by
  simp only [FileTransferAdvanced.payload, bind_eq_ok_iff, requireNonzero_eq_ok,
    requireCounter_eq_ok, validateDeadline_eq_ok, Except.ok.injEq]
  constructor
  · intro sent
    obtain ⟨_, ⟨transfer, _⟩, _, generation, _, timely, same⟩ := sent
    exact ⟨⟨transfer, generation, timely⟩, same⟩
  · intro sent
    obtain ⟨valid, same⟩ := sent
    exact ⟨_, ⟨valid.transferId, rfl⟩, (), valid.generation, (), valid.openTimeoutUs, same⟩

theorem decode_eq_ok :
    decode above payload = .ok advanced ↔
      Holds payload advanced.fields ∧ above = advanced.transferId ∧ advanced.Valid ∧ True := by
  unfold decode Holds
  simp only [bind_eq_ok_iff, StrictMap.new_eq_ok, StrictMap.requiredU64_iff, payload_eq_ok,
    validateHeaderObject_eq_ok]
  constructor
  · intro read
    obtain ⟨map, ⟨_, carried, known⟩, _, zero, _, one, _, two, _, three, _, ⟨valid, _⟩, _, same,
      built⟩ := read
    cases built
    refine ⟨⟨map.entries, carried, known, ?_⟩, same, valid, trivial⟩
    simp only [fields, List.forall_mem_cons]
    exact ⟨zero, one, two, three, nofun⟩
  · intro read
    obtain ⟨⟨entries, carried, known, held⟩, same, valid, _⟩ := read
    simp only [fields, List.forall_mem_cons] at held
    obtain ⟨zero, one, two, three, _⟩ := held
    exact ⟨⟨"FILE_TRANSFER_ADVANCED", entries⟩, ⟨rfl, carried, known⟩, _, zero, _, one, _, two, _,
      three, _, ⟨valid, rfl⟩, (), same, rfl⟩

theorem settles :
    Settles transferId Cbor.Value.map FileTransferAdvanced.payload decode fun _ => True :=
  settles_of_decode fields_distinct payload_eq_ok decode_eq_ok

end FileTransferAdvanced

/-! ## Queries and status -/

namespace QueryFileDrop

variable {query : QueryFileDrop}

theorem payload_eq_ok :
    query.payload = .ok written ↔ query.dropId ≠ 0 ∧ [(0, .unsigned query.dropId)] = written := by
  simp only [QueryFileDrop.payload, bind_eq_ok_iff, requireNonzero_eq_ok, Except.ok.injEq]
  constructor
  · intro sent
    obtain ⟨_, ⟨drop, _⟩, same⟩ := sent
    exact ⟨drop, same⟩
  · intro sent
    exact ⟨_, ⟨sent.1, rfl⟩, sent.2⟩

theorem decode_eq_ok :
    decode above payload = .ok query ↔
      Holds payload [(0, .unsigned query.dropId)] ∧ above = query.dropId ∧ query.dropId ≠ 0 ∧
        True := by
  unfold decode Holds
  simp only [bind_eq_ok_iff, StrictMap.new_eq_ok, StrictMap.requiredU64_iff,
    requireNonzero_eq_ok, validateHeaderObject_eq_ok, List.forall_mem_cons, List.map_cons,
    List.map_nil]
  constructor
  · intro read
    obtain ⟨map, ⟨_, carried, known⟩, _, zero, _, ⟨drop, word⟩, _, same, built⟩ := read
    cases word
    cases built
    exact ⟨⟨map.entries, carried, known, zero, nofun⟩, same, drop, trivial⟩
  · intro read
    obtain ⟨⟨entries, carried, known, zero, _⟩, same, drop, _⟩ := read
    exact ⟨⟨"QUERY_FILE_DROP", entries⟩, ⟨rfl, carried, known⟩, _, zero, _, ⟨drop, rfl⟩, (), same,
      rfl⟩

theorem settles : Settles dropId Cbor.Value.map QueryFileDrop.payload decode fun _ => True :=
  settles_of_decode (by simp) payload_eq_ok decode_eq_ok

end QueryFileDrop

namespace FileDropStatus

variable {status : FileDropStatus}

theorem fields_distinct (status : FileDropStatus) : (status.fields.map Prod.fst).Nodup := by
  simp only [fields, List.map_cons, List.map_nil]
  decide

/-- What both sides check. -/
structure Valid (status : FileDropStatus) : Prop where
  dropId : status.dropId ≠ 0
  transfer : status.checkTransfer = .ok ()
  result : status.checkResult = .ok ()
  finalName : ¬ (status.state ≠ .committed ∧ status.finalName ≠ "")

theorem payload_eq_ok :
    status.payload = .ok written ↔ status.Valid ∧ status.fields = written := by
  unfold FileDropStatus.payload
  simp only [bind_eq_ok_iff, requireNonzero_eq_ok, ite_error_eq_ok_iff, Except.ok.injEq]
  constructor
  · intro sent
    obtain ⟨_, ⟨drop, _⟩, _, transfer, _, result, name, same⟩ := sent
    exact ⟨⟨drop, transfer, result, name⟩, same⟩
  · intro sent
    obtain ⟨valid, same⟩ := sent
    exact ⟨_, ⟨valid.dropId, rfl⟩, (), valid.transfer, (), valid.result, valid.finalName, same⟩

theorem decode_eq_ok :
    decode above payload = .ok status ↔
      Holds payload status.fields ∧ above = status.dropId ∧ status.Valid ∧ True := by
  unfold decode Holds
  simp only [bind_eq_ok_iff, StrictMap.new_eq_ok, StrictMap.requiredU64_iff,
    StrictMap.requiredText_eq_ok, requiredResult_eq_ok, FileDropState.tryFrom_eq_ok,
    payload_eq_ok, validateHeaderObject_eq_ok]
  constructor
  · intro read
    obtain ⟨map, ⟨_, carried, known⟩, _, five, _, zero, _, one, _, code, _, two, _, three, _, four,
      _, six, _, ⟨valid, _⟩, _, same, built⟩ := read
    cases code
    cases built
    refine ⟨⟨map.entries, carried, known, ?_⟩, same, valid, trivial⟩
    simp only [fields, List.forall_mem_cons]
    exact ⟨zero, one, two, three, four, five, six, nofun⟩
  · intro read
    obtain ⟨⟨entries, carried, known, held⟩, same, valid, _⟩ := read
    simp only [fields, List.forall_mem_cons] at held
    obtain ⟨zero, one, two, three, four, five, six, _⟩ := held
    exact ⟨⟨"FILE_DROP_STATUS", entries⟩, ⟨rfl, carried, known⟩, _, five, _, zero, _, one, _, rfl,
      _, two, _, three, _, four, _, six, _, ⟨valid, rfl⟩, (), same, rfl⟩

theorem settles : Settles dropId Cbor.Value.map FileDropStatus.payload decode fun _ => True :=
  settles_of_decode fields_distinct payload_eq_ok decode_eq_ok

end FileDropStatus

end Records

/-! ## All control records -/

/-- The control records; a cancellation is read under the schema of the caller. -/
inductive FileDropRecord where
  | binding
  | grant
  | offer
  | accept
  | accepted
  | cancel (schema : String)
  | advance
  | advanced
  | query
  | status
  deriving Repr, DecidableEq

namespace FileDropRecord

abbrev Record : FileDropRecord → Type
  | binding => FileDropBinding
  | grant => FileDropGrant
  | offer => FileDropOffer
  | accept => AcceptFileDrop
  | accepted => FileDropAccepted
  | cancel _ => CancelFileDrop
  | advance => AdvanceFileTransfer
  | advanced => FileTransferAdvanced
  | query => QueryFileDrop
  | status => FileDropStatus

/-- The object ID in the header of a record. -/
def object : (kind : FileDropRecord) → kind.Record → UInt64
  | binding, record => record.surfaceId
  | grant, record => record.surfaceId
  | offer, record => record.binding.dropId
  | accept, record => record.binding.dropId
  | accepted, record => record.dropId
  | cancel _, record => record.binding.dropId
  | advance, record => record.transferId
  | advanced, record => record.transferId
  | query, record => record.dropId
  | status, record => record.dropId

def payload : (kind : FileDropRecord) → kind.Record → Except MessageError PayloadMap
  | binding => FileDropBinding.payload
  | grant => fun record => .ok record.payload
  | offer => FileDropOffer.payload
  | accept => AcceptFileDrop.payload
  | accepted => fun record => .ok record.payload
  | cancel _ => CancelFileDrop.payload
  | advance => AdvanceFileTransfer.payload
  | advanced => FileTransferAdvanced.payload
  | query => QueryFileDrop.payload
  | status => FileDropStatus.payload

def decode : (kind : FileDropRecord) → UInt64 → Cbor.Value → Except MessageError kind.Record
  | binding => FileDropBinding.decode
  | grant => FileDropGrant.decode
  | offer => FileDropOffer.decode
  | accept => AcceptFileDrop.decode
  | accepted => FileDropAccepted.decode
  | cancel schema => CancelFileDrop.decode schema
  | advance => AdvanceFileTransfer.decode
  | advanced => FileTransferAdvanced.decode
  | query => QueryFileDrop.decode
  | status => FileDropStatus.decode

/-- What the encoder of a record leaves to its decoder. -/
def Proper : (kind : FileDropRecord) → kind.Record → Prop
  | binding => fun _ => True
  | grant => FileDropGrant.Proper
  | offer => fun record => record.binding.Proper
  | accept => fun record => record.binding.Proper
  | accepted => FileDropAccepted.Proper
  | cancel _ => fun record => record.binding.Proper
  | advance => fun _ => True
  | advanced => fun _ => True
  | query => fun _ => True
  | status => fun _ => True

theorem settles (kind : FileDropRecord) :
    Settles kind.object Cbor.Value.map kind.payload kind.decode kind.Proper := by
  cases kind with
  | binding => exact FileDropBinding.settles
  | grant => exact FileDropGrant.settles
  | offer => exact FileDropOffer.settles
  | accept => exact AcceptFileDrop.settles
  | accepted => exact FileDropAccepted.settles
  | cancel schema => exact CancelFileDrop.settles schema
  | advance => exact AdvanceFileTransfer.settles
  | advanced => exact FileTransferAdvanced.settles
  | query => exact QueryFileDrop.settles
  | status => exact FileDropStatus.settles

end FileDropRecord

/-- A record that is written is read back exactly if its tuple, grant or acceptance
is one that the decoder lets pass, and a record that is read can be written and
is read as itself. -/
theorem file_drop_records_agree_iff (kind : FileDropRecord) (record : kind.Record) :
    (∀ written : PayloadMap, kind.payload record = .ok written →
        (kind.decode (kind.object record) (.map written) = .ok record ↔ kind.Proper record)) ∧
      ∀ (above : UInt64) (map : PayloadMap), kind.decode above (.map map) = .ok record →
        above = kind.object record ∧ ∃ written, kind.payload record = .ok written ∧
          kind.decode above (.map written) = .ok record := by
  constructor
  · intro written sent
    exact kind.settles.readsBack sent
  · intro above map accepted
    exact kind.settles.admits accepted

/-- An offer to a surface. -/
def surfaceOffer : FileDropOffer :=
  { binding :=
      { producerEpoch := .one
        grantGeneration := .one
        contextId := 2
        surfaceId := 5
        surfaceGeneration := .one
        dropId := 3 }
    suggestedName := "notes"
    declaredLength := 1 }

theorem file_drop_records_agree_iff_surface :
    FileDropOffer.decode 3 (.map surfaceOffer.fields) = .ok surfaceOffer ∧
      ∃ written, FileDropOffer.payload surfaceOffer = .ok written ∧
        FileDropOffer.decode 3 (.map written) = .ok surfaceOffer := by
  have agree := file_drop_records_agree_iff .offer surfaceOffer
  have proper : surfaceOffer.binding.Proper :=
    ⟨by decide, by decide, by decide, by unfold Scoped; decide, by decide⟩
  have read := (agree.1 surfaceOffer.fields rfl).mpr proper
  exact ⟨read, (agree.2 3 _ read).2⟩

/-- An offer of epoch zero, which is written and not read. -/
def unboundOffer : FileDropOffer :=
  { binding :=
      { producerEpoch := .zero
        grantGeneration := .one
        contextId := 2
        surfaceId := 0
        surfaceGeneration := .zero
        dropId := 3 }
    suggestedName := "notes"
    declaredLength := 1 }

theorem file_drop_records_not_agree :
    FileDropOffer.payload unboundOffer = .ok unboundOffer.fields ∧
      FileDropOffer.decode 3 (.map unboundOffer.fields) =
        .error (.invalidValue "FILE_DROP_OFFER" 0 "must be nonzero") :=
  ⟨rfl, rfl⟩

end VividProtocol.FileDrop

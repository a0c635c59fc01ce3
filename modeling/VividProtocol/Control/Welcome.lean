import Mathlib.Tactic
import VividProtocol.Control.Hello
import VividProtocol.Control.Contract

/-!
# WELCOME

The authentication and the record `Welcome` of `messages.rs`, with its payload
in both forms.  Sender and receiver make the same checks; the target descriptor
is written in its normal form.
-/

set_option autoImplicit false

namespace VividProtocol

open VividProtocol.Cbor
open VividProtocol.Registry
open VividProtocol.Wire
open VividProtocol.Library.Result
open VividProtocol.Library.Association

/-! ## Authentication -/

structure WelcomeAuthentication where
  kind : UInt64
  confirmation : Bytes 32
  leaseState : UInt64
  activationAttemptStatus : UInt64
  deriving Repr, DecidableEq

namespace WelcomeAuthentication

def validate (authentication : WelcomeAuthentication) : Except MessageError Unit :=
  if AUTHENTICATION_RESUME < authentication.kind then
    .error (invalidValue "WELCOME authentication" 0 "is not a registered authentication kind")
  else if 1 < authentication.activationAttemptStatus then
    .error (invalidValue "WELCOME authentication" 3 "is not fresh or replayed")
  else if (authentication.kind = AUTHENTICATION_ROOT ∧ authentication.leaseState ≠ 0) ∨
      (authentication.kind ≠ AUTHENTICATION_ROOT ∧
        ¬ (1 ≤ authentication.leaseState ∧ authentication.leaseState ≤ 7)) then
    .error (invalidValue "WELCOME authentication" 2
      "is not a valid lease state for this authentication kind")
  else .ok ()

/-- The entries of an authentication, with or without its confirmation. -/
def toEntries (omitConfirmation : Bool) (authentication : WelcomeAuthentication) : PayloadMap :=
  [(0, .unsigned authentication.kind)] ++
  (if omitConfirmation then [] else [(1, .bytes authentication.confirmation.toList)]) ++
  [(2, .unsigned authentication.leaseState),
    (3, .unsigned authentication.activationAttemptStatus)]

def toValue (authentication : WelcomeAuthentication) (omitConfirmation : Bool) : Value :=
  .map (authentication.toEntries omitConfirmation)

/-- `from_value`. -/
def ofValue (value : Value) : Except MessageError WelcomeAuthentication := do
  let map ← StrictMap.new "WELCOME authentication" value [0, 1, 2, 3]
  let kind ← map.requiredU64 0
  let confirmation ← map.requiredFixedBytes 1 32
  let leaseState ← map.requiredU64 2
  let activationAttemptStatus ← map.requiredU64 3
  let authentication : WelcomeAuthentication :=
    { kind := kind
      confirmation := confirmation
      leaseState := leaseState
      activationAttemptStatus := activationAttemptStatus }
  authentication.validate
  .ok authentication

def withoutConfirmation (authentication : WelcomeAuthentication) : WelcomeAuthentication :=
  { authentication with confirmation := Vector.replicate 32 0 }

variable {authentication : WelcomeAuthentication} {entries : PayloadMap}

theorem toEntries_norm (omitConfirmation : Bool) (authentication : WelcomeAuthentication) :
    Value.normEntries (authentication.toEntries omitConfirmation) =
      authentication.toEntries omitConfirmation := by
  cases omitConfirmation <;> rfl

theorem ofValue_toValue (valid : authentication.validate = .ok ()) :
    ofValue (authentication.toValue false) = .ok authentication := by
  unfold ofValue toValue
  simp only [bind_eq_ok_iff, StrictMap.new_eq_ok, StrictMap.requiredU64_iff,
    StrictMap.requiredFixedBytes_eq_ok]
  exact ⟨⟨_, _⟩, ⟨rfl, rfl, by simp⟩, _, rfl, _, rfl, _, rfl, _, rfl, (), valid, rfl⟩

theorem eq_toEntries_of_ofValue (sorted : (entries.map Prod.fst).Pairwise (· < ·))
    (read : ofValue (.map entries) = .ok authentication) :
    entries = authentication.toEntries false := by
  unfold ofValue at read
  simp only [bind_eq_ok_iff, StrictMap.new_eq_ok, StrictMap.requiredU64_iff,
    StrictMap.requiredFixedBytes_eq_ok, Value.map.injEq] at read
  obtain ⟨map, ⟨_, same, only⟩, kind, zero, confirmation, one, lease, two, status, three, _, _,
    built⟩ := read
  rw [← same] at only zero one two three
  cases built
  rw [← StrictMap.assemble_sorted sorted (by decide) only]
  simp [toEntries, zero, one, two, three]

theorem toEntries_eq_iff {first second : WelcomeAuthentication} :
    first.toEntries true = second.toEntries true ↔
      first.withoutConfirmation = second.withoutConfirmation := by
  simp [toEntries, withoutConfirmation]

end WelcomeAuthentication

/-! ## The record -/

structure Welcome where
  sessionId : UInt64
  sessionTag : Bytes 16
  rootContextId : UInt64
  targetGeneration : UInt64
  targetProfile : String
  targetDescriptor : PayloadMap
  acceptedProfiles : List String
  maximumControlBody : UInt32
  serverNonce : Bytes 32
  authentication : WelcomeAuthentication
  sessionRevision : UInt64
  sceneRevision : UInt64
  resourceContract : ResourceContract
  establishmentState : UInt64
  resumeGeneration : UInt64
  extensions : PayloadMap
  deriving Repr

namespace Welcome

/-- The vector limits that `vector-scene-v1` brings with it. -/
def checkVectorLimits (welcome : Welcome) : Except MessageError Unit :=
  if VECTOR_SCENE ∈ welcome.acceptedProfiles then
    match welcome.extensions.lookup 15 with
    | none => .error (invalidValue "WELCOME" 15 "vector-scene-v1 requires negotiated limits")
    | some limits => do
        let _ ← orInvalid "WELCOME" 15 "invalid vector limits" (Drawing.Limits.ofValue limits)
        .ok ()
  else .ok ()

def validate (welcome : Welcome) : Except MessageError Unit := do
  welcome.authentication.validate
  let _ ← requireNonzero "WELCOME" 0 welcome.sessionId
  let _ ← requireNonzero "WELCOME" 2 welcome.rootContextId
  let _ ← requireNonzero "WELCOME" 3 welcome.targetGeneration
  validateProfiles "WELCOME" 6 welcome.acceptedProfiles
  welcome.checkVectorLimits
  if CORE_CONTROL ∉ welcome.acceptedProfiles ∨
      welcome.targetProfile ∉ welcome.acceptedProfiles then
    .error (invalidValue "WELCOME" 6 "does not contain the core and target profiles")
  else if welcome.maximumControlBody = 0 ∨ HARD_MAX_RECORD_BODY < welcome.maximumControlBody then
    .error (invalidValue "WELCOME" 7 "is outside the legal body range")
  else if 1 < welcome.establishmentState then
    .error (invalidValue "WELCOME" 13 "is not new or resumed")
  else if welcome.establishmentState = 0 ∧ welcome.authentication.kind = AUTHENTICATION_ROOT ∧
      welcome.resumeGeneration ≠ 0 then
    .error (invalidValue "WELCOME" 14 "must be zero for a non-resumable root session")
  else if welcome.extensions.any fun extension => decide (extension.1 ≤ 14) then
    .error (invalidValue "WELCOME extensions" 0 "overlap a registered field")
  else validateSortedMap "WELCOME extensions" welcome.extensions

/-- The fields of the payload, with or without the confirmation. -/
def fields (welcome : Welcome) (omitConfirmation : Bool) : PayloadMap :=
  [(0, .unsigned welcome.sessionId), (1, .bytes welcome.sessionTag.toList),
    (2, .unsigned welcome.rootContextId), (3, .unsigned welcome.targetGeneration),
    (4, .text welcome.targetProfile), (5, .map welcome.targetDescriptor),
    (6, textArray welcome.acceptedProfiles), (7, .unsigned welcome.maximumControlBody.toUInt64),
    (8, .bytes welcome.serverNonce.toList), (9, welcome.authentication.toValue omitConfirmation),
    (10, .unsigned welcome.sessionRevision), (11, .unsigned welcome.sceneRevision),
    (12, welcome.resourceContract.toValue), (13, .unsigned welcome.establishmentState),
    (14, .unsigned welcome.resumeGeneration)] ++
  welcome.extensions

/-- `payload_value_inner`, without the constructor of the map. -/
def payloadInner (welcome : Welcome) (omitConfirmation : Bool) : Except MessageError PayloadMap := do
  welcome.validate
  .ok (welcome.fields omitConfirmation)

def unconfirmedPayload (welcome : Welcome) : Except MessageError (List UInt8) := do
  let payload ← welcome.payloadInner true
  orEncodeError (Cbor.encode (.map payload))

def encode (welcome : Welcome) (requestId : UInt64) : Except MessageError (List UInt8) := do
  let payload ← welcome.payloadInner false
  let envelope := Envelope.new requestId payload
  envelope.validateRequest
  envelope.encode

/-- `map_err` of a resource error. -/
def orContractError {α : Type} : Except ResourceError α → Except MessageError α
  | .ok value => .ok value
  | .error error => .error (.cbor error.display)

/-- The record inside the payload of an envelope. -/
def ofPayload (payload : PayloadMap) : Except MessageError Welcome := do
  let map ← StrictMap.preserving "WELCOME" (.map payload) 14
  let contract ← orContractError (ResourceContract.ofValue (← map.required 12))
  let sessionId ← map.requiredU64 0
  let sessionTag ← map.requiredFixedBytes 1 16
  let rootContextId ← map.requiredU64 2
  let targetGeneration ← map.requiredU64 3
  let targetProfile ← map.requiredText 4
  let targetDescriptor ← map.requiredMap 5
  let acceptedProfiles ← map.requiredTextArray 6
  let maximumControlBody ← map.requiredU32 7
  let serverNonce ← map.requiredFixedBytes 8 32
  let authentication ← WelcomeAuthentication.ofValue (← map.required 9)
  let sessionRevision ← map.requiredU64 10
  let sceneRevision ← map.requiredU64 11
  let establishmentState ← map.requiredU64 13
  let resumeGeneration ← map.requiredU64 14
  let welcome : Welcome :=
    { sessionId := sessionId
      sessionTag := sessionTag
      rootContextId := rootContextId
      targetGeneration := targetGeneration
      targetProfile := targetProfile
      targetDescriptor := targetDescriptor
      acceptedProfiles := acceptedProfiles
      maximumControlBody := maximumControlBody
      serverNonce := serverNonce
      authentication := authentication
      sessionRevision := sessionRevision
      sceneRevision := sceneRevision
      resourceContract := contract
      establishmentState := establishmentState
      resumeGeneration := resumeGeneration
      extensions := map.extensionsAfter 14 }
  welcome.validate
  .ok welcome

def decode (body : List UInt8) : Except MessageError (UInt64 × Welcome) := do
  let envelope ← decodeControl body
  envelope.validateRequest
  let welcome ← ofPayload envelope.payload
  .ok (envelope.requestId, welcome)

/-! ## Reading the record -/

variable {welcome : Welcome} {payload : PayloadMap}

/-- The target descriptor has nothing for the encoder to change. -/
def DescriptorNormal (welcome : Welcome) : Prop :=
  ∀ entry ∈ welcome.targetDescriptor, entry.2.norm = entry.2

/-- The record with its target descriptor in normal form. -/
def norm (welcome : Welcome) : Welcome :=
  { welcome with targetDescriptor := Value.normEntries welcome.targetDescriptor }

theorem contract_norm (contract : ResourceContract) : contract.toValue.norm = contract.toValue := by
  unfold ResourceContract.toValue
  rw [Value.norm]
  refine congrArg Value.map (Value.normEntries_eq_self ?_)
  intro entry among
  obtain ⟨_, same⟩ := ResourceContract.mem_toEntries.mp among
  rw [same]
  rfl

theorem fields_norm (omitConfirmation : Bool)
    (normal : ∀ extension ∈ welcome.extensions, extension.2.norm = extension.2) :
    Value.normEntries (welcome.fields omitConfirmation) = welcome.norm.fields omitConfirmation := by
  have extensions : welcome.extensions.map (fun entry => (entry.1, entry.2.norm)) =
      welcome.extensions := by
    rw [← Value.normEntries_eq, Value.normEntries_eq_self normal]
  have confirmation : (welcome.authentication.toValue omitConfirmation).norm =
      welcome.authentication.toValue omitConfirmation := by
    unfold WelcomeAuthentication.toValue
    rw [Value.norm, WelcomeAuthentication.toEntries_norm]
  rw [Value.normEntries_eq]
  simp [fields, norm, extensions, textArray_norm, contract_norm, confirmation, Value.norm]

theorem norm_eq_self : welcome.norm = welcome ↔ welcome.DescriptorNormal := by
  constructor
  · intro same
    exact Value.norm_of_normEntries (congrArg Welcome.targetDescriptor same)
  · intro normal
    rw [norm, Value.normEntries_eq_self normal]

theorem extensions_of_validate {done : Unit} (valid : welcome.validate = .ok done) :
    ∀ extension ∈ welcome.extensions, 14 < extension.1 := by
  unfold validate at valid
  simp only [bind_eq_ok_iff, ite_error_eq_ok_iff, List.any_eq_true, decide_eq_true_eq,
    not_exists, not_and, UInt64.not_le] at valid
  obtain ⟨_, _, _, _, _, _, _, _, _, _, _, _, _, _, _, _, after, _⟩ := valid
  exact after

theorem authentication_of_validate {done : Unit} (valid : welcome.validate = .ok done) :
    welcome.authentication.validate = .ok () := by
  obtain ⟨_, checked, _⟩ := bind_eq_ok_iff.mp valid
  exact checked

theorem orContractError_eq_ok {α : Type} {result : Except ResourceError α} {value : α} :
    orContractError result = .ok value ↔ result = .ok value := by
  cases result <;> simp [orContractError]

/-- What the entries of a payload say of the record. -/
structure ReadFrom (payload : PayloadMap) (welcome : Welcome) : Prop where
  complete : ∀ key ≤ 14, key ∈ payload.map Prod.fst
  sessionId : payload.lookup 0 = some (.unsigned welcome.sessionId)
  sessionTag : payload.lookup 1 = some (.bytes welcome.sessionTag.toList)
  rootContextId : payload.lookup 2 = some (.unsigned welcome.rootContextId)
  targetGeneration : payload.lookup 3 = some (.unsigned welcome.targetGeneration)
  targetProfile : payload.lookup 4 = some (.text welcome.targetProfile)
  targetDescriptor : payload.lookup 5 = some (.map welcome.targetDescriptor)
  acceptedProfiles : payload.lookup 6 = some (textArray welcome.acceptedProfiles)
  maximumControlBody : payload.lookup 7 = some (.unsigned welcome.maximumControlBody.toUInt64)
  serverNonce : payload.lookup 8 = some (.bytes welcome.serverNonce.toList)
  authentication : ∃ value, payload.lookup 9 = some value ∧
    WelcomeAuthentication.ofValue value = .ok welcome.authentication
  sessionRevision : payload.lookup 10 = some (.unsigned welcome.sessionRevision)
  sceneRevision : payload.lookup 11 = some (.unsigned welcome.sceneRevision)
  resourceContract : ∃ value, payload.lookup 12 = some value ∧
    ResourceContract.ofValue value = .ok welcome.resourceContract
  establishmentState : payload.lookup 13 = some (.unsigned welcome.establishmentState)
  resumeGeneration : payload.lookup 14 = some (.unsigned welcome.resumeGeneration)
  extensions : payload.filter (fun entry => decide (14 < entry.1)) = welcome.extensions
  valid : welcome.validate = .ok ()

theorem ofPayload_eq_ok : ofPayload payload = .ok welcome ↔ ReadFrom payload welcome := by
  unfold ofPayload
  simp only [bind_eq_ok_iff, StrictMap.preserving_eq_ok, StrictMap.requiredText_eq_ok,
    StrictMap.requiredTextArray_eq_ok, StrictMap.requiredU32_eq_ok, StrictMap.requiredU64_iff,
    StrictMap.requiredFixedBytes_eq_ok, StrictMap.required_iff, StrictMap.requiredMap_eq_ok,
    StrictMap.extensionsAfter, orContractError_eq_ok, Value.map.injEq, Except.ok.injEq]
  constructor
  · intro read
    obtain ⟨map, ⟨_, same, complete⟩, contractValue, twelve, contract, contractRead, _, zero, _,
      one, _, two, _, three, _, four, _, five, _, six, _, seven, _, eight, authenticationValue,
      nine, authentication, authenticationRead, _, ten, _, eleven, _, thirteen, _, fourteen,
      _, valid, built⟩ := read
    rw [same, ← built]
    exact
      { complete := complete
        sessionId := zero
        sessionTag := one
        rootContextId := two
        targetGeneration := three
        targetProfile := four
        targetDescriptor := five
        acceptedProfiles := six
        maximumControlBody := seven
        serverNonce := eight
        authentication := ⟨authenticationValue, nine, authenticationRead⟩
        sessionRevision := ten
        sceneRevision := eleven
        resourceContract := ⟨contractValue, twelve, contractRead⟩
        establishmentState := thirteen
        resumeGeneration := fourteen
        extensions := rfl
        valid := valid }
  · intro read
    obtain ⟨contract, twelve, contractRead⟩ := read.resourceContract
    obtain ⟨authentication, nine, authenticationRead⟩ := read.authentication
    refine ⟨⟨"WELCOME", payload⟩, ⟨rfl, rfl, read.complete⟩, contract, twelve, _, contractRead, _,
      read.sessionId, _, read.sessionTag, _, read.rootContextId, _, read.targetGeneration, _,
      read.targetProfile, _, read.targetDescriptor, _, read.acceptedProfiles, _,
      read.maximumControlBody, _, read.serverNonce, authentication, nine, _, authenticationRead, _,
      read.sessionRevision, _, read.sceneRevision, _, read.establishmentState, _, read.resumeGeneration, (), ?_, ?_⟩
    · rw [read.extensions]
      exact read.valid
    · rw [read.extensions]

theorem key_upTo (key : UInt64) :
    key ∈ [(0 : UInt64), 1, 2, 3, 4, 5, 6, 7, 8, 9, 10, 11, 12, 13, 14] ↔ key ≤ 14 := by
  simp only [List.mem_cons, List.not_mem_nil, or_false, ← UInt64.toNat_inj,
    UInt64.le_iff_toNat_le, UInt64.reduceToNat]
  omega

/-- A valid record is read from its own fields. -/
theorem ofPayload_fields (valid : welcome.validate = .ok ()) :
    ofPayload (welcome.fields false) = .ok welcome := by
  refine ofPayload_eq_ok.mpr
    { complete := ?_
      sessionId := rfl
      sessionTag := rfl
      rootContextId := rfl
      targetGeneration := rfl
      targetProfile := rfl
      targetDescriptor := rfl
      acceptedProfiles := rfl
      maximumControlBody := rfl
      serverNonce := rfl
      authentication :=
        ⟨_, rfl, WelcomeAuthentication.ofValue_toValue (authentication_of_validate valid)⟩
      sessionRevision := rfl
      sceneRevision := rfl
      resourceContract := ⟨_, rfl, ResourceContract.ofValue_toValue _⟩
      establishmentState := rfl
      resumeGeneration := rfl
      extensions := StrictMap.filter_extensions key_upTo (extensions_of_validate valid)
      valid := valid }
  intro key below
  rw [fields, List.map_append]
  exact List.mem_append_left _ ((key_upTo key).mpr below)

/-- The fields of a record are the payload it was read from. -/
theorem fields_of_ofPayload {levels : Nat} (fits : (Value.map payload).Fits (levels + 2))
    (read : ReadFrom payload welcome) : welcome.fields false = payload := by
  have sortedMap : ∀ {entries : PayloadMap} {levels : Nat}, (Value.map entries).Fits (levels + 1) →
      (entries.map Prod.fst).Pairwise (· < ·) := by
    intro entries levels fits
    rw [← unsorted_eq_false, ← unsortedKeys_eq]
    exact fits.2.1
  obtain ⟨authentication, nine, authenticationRead⟩ := read.authentication
  obtain ⟨contract, twelve, contractRead⟩ := read.resourceContract
  have authenticationFits := fits.2.2 _ (mem_of_lookup nine)
  have contractFits := fits.2.2 _ (mem_of_lookup twelve)
  have authenticationSame : authentication = welcome.authentication.toValue false := by
    cases authentication with
    | map entries =>
        exact congrArg Value.map
          (WelcomeAuthentication.eq_toEntries_of_ofValue (sortedMap authenticationFits)
            authenticationRead)
    | _ => cases authenticationRead
  have contractSame : contract = welcome.resourceContract.toValue := by
    cases contract with
    | map entries =>
        exact congrArg Value.map
          (ResourceContract.eq_toEntries_of_ofValue (sortedMap contractFits) contractRead)
    | _ => cases contractRead
  rw [authenticationSame] at nine
  rw [contractSame] at twelve
  rw [← StrictMap.assemble_known (sortedMap fits) (by decide) key_upTo, read.extensions]
  simp [fields, read.sessionId, read.sessionTag, read.rootContextId, read.targetGeneration,
    read.targetProfile, read.targetDescriptor, read.acceptedProfiles, read.maximumControlBody,
    read.serverNonce, nine, read.sessionRevision, read.sceneRevision, twelve,
    read.establishmentState, read.resumeGeneration]

/-! ## Through the envelope -/

theorem encode_eq_ok {requestId : UInt64} {body : List UInt8} :
    welcome.encode requestId = .ok body ↔
      welcome.validate = .ok () ∧ requestId ≠ 0 ∧
        (Envelope.new requestId (welcome.fields false)).encode = .ok body := by
  simp only [encode, payloadInner, bind_eq_ok_iff, Envelope.validateRequest_eq_ok,
    Except.ok.injEq]
  constructor
  · intro written
    obtain ⟨_, ⟨_, valid, rfl⟩, _, nonzero, encoded⟩ := written
    exact ⟨valid, nonzero, encoded⟩
  · intro given
    obtain ⟨valid, nonzero, encoded⟩ := given
    exact ⟨_, ⟨(), valid, rfl⟩, (), nonzero, encoded⟩

theorem decode_eq_ok {requestId : UInt64} {body : List UInt8} :
    decode body = .ok (requestId, welcome) ↔
      ∃ envelope, decodeControl body = .ok envelope ∧ envelope.requestId = requestId ∧
        requestId ≠ 0 ∧ ofPayload envelope.payload = .ok welcome := by
  simp only [decode, bind_eq_ok_iff, Envelope.validateRequest_eq_ok, Except.ok.injEq,
    Prod.mk.injEq]
  constructor
  · intro read
    obtain ⟨envelope, opened, _, nonzero, other, accepted, same, rfl⟩ := read
    rw [same] at nonzero
    exact ⟨envelope, opened, same, nonzero, accepted⟩
  · intro given
    obtain ⟨envelope, opened, same, nonzero, accepted⟩ := given
    rw [← same] at nonzero
    exact ⟨envelope, opened, (), nonzero, welcome, accepted, same, rfl⟩

/-- What the sender writes is read with the descriptor in normal form. -/
theorem decode_of_encode {requestId : UInt64} {body : List UInt8}
    (normal : ∀ extension ∈ welcome.extensions, extension.2.norm = extension.2)
    (written : welcome.encode requestId = .ok body) :
    decode body = .ok (requestId, welcome.norm) := by
  obtain ⟨valid, nonzero, encoded⟩ := encode_eq_ok.mp written
  have opened := Envelope.decode_of_encode encoded fun _ among => nomatch among
  refine decode_eq_ok.mpr ⟨_, opened, rfl, nonzero, ?_⟩
  change ofPayload (Value.normEntries (welcome.fields false)) = _
  rw [fields_norm false normal]
  exact ofPayload_fields (valid : welcome.norm.validate = .ok ())

/-- What the receiver accepts is written again and read as itself. -/
theorem encode_of_decode {requestId : UInt64} {body : List UInt8}
    (read : decode body = .ok (requestId, welcome)) :
    ∃ again, welcome.encode requestId = .ok again ∧ decode again = .ok (requestId, welcome) := by
  obtain ⟨envelope, opened, _, nonzero, accepted⟩ := decode_eq_ok.mp read
  have fits : (Value.map envelope.payload).Fits (14 + 2) := payload_fits opened
  have from_ := ofPayload_eq_ok.mp accepted
  rw [← fields_of_ofPayload fits from_] at fits
  obtain ⟨again, encoded⟩ := Envelope.encode_new requestId fits
  refine ⟨again, encode_eq_ok.mpr ⟨from_.valid, nonzero, encoded⟩, ?_⟩
  have normal := Value.map.inj (Value.Fits.norm fits)
  exact decode_eq_ok.mpr ⟨_, Envelope.decode_new encoded normal, rfl, nonzero,
    ofPayload_fields from_.valid⟩

/-! ## The payload that is confirmed -/

def withoutConfirmation (welcome : Welcome) : Welcome :=
  { welcome with authentication := welcome.authentication.withoutConfirmation }

theorem contract_inj {first second : ResourceContract} :
    first.toValue = second.toValue ↔ first = second := by
  constructor
  · intro same
    have read := ResourceContract.ofValue_toValue first
    rw [same, ResourceContract.ofValue_toValue, Except.ok.injEq] at read
    exact read.symm
  · intro same
    rw [same]

theorem fields_eq_iff {first second : Welcome} :
    first.fields true = second.fields true ↔
      first.withoutConfirmation = second.withoutConfirmation := by
  simp [fields, withoutConfirmation, textArray_inj, WelcomeAuthentication.toValue,
    WelcomeAuthentication.toEntries_eq_iff, Vector.toList_inj, UInt32.toUInt64_inj,
    contract_inj]

theorem unconfirmedPayload_eq_ok {bytes : List UInt8} :
    welcome.unconfirmedPayload = .ok bytes ↔
      welcome.validate = .ok () ∧ Cbor.encode (.map (welcome.fields true)) = .ok bytes := by
  simp only [unconfirmedPayload, payloadInner, bind_eq_ok_iff, orEncodeError_eq_ok,
    Except.ok.injEq]
  constructor
  · intro written
    obtain ⟨_, ⟨_, valid, rfl⟩, encoded⟩ := written
    exact ⟨valid, encoded⟩
  · intro given
    exact ⟨_, ⟨(), given.1, rfl⟩, given.2⟩

/-- The confirmation has no part in the payload. -/
theorem unconfirmedPayload_withoutConfirmation (welcome : Welcome) :
    welcome.withoutConfirmation.unconfirmedPayload = welcome.unconfirmedPayload := by
  have same : welcome.withoutConfirmation.fields true = welcome.fields true := by
    rw [fields_eq_iff]
    rfl
  unfold unconfirmedPayload payloadInner
  rw [same]
  rfl

/-- Two payloads are one only if the records differ in their confirmations at
most, up to the form of their descriptors. -/
theorem unconfirmedPayload_injective {first second : Welcome} {bytes : List UInt8}
    (firstNormal : ∀ extension ∈ first.extensions, extension.2.norm = extension.2)
    (secondNormal : ∀ extension ∈ second.extensions, extension.2.norm = extension.2)
    (one : first.unconfirmedPayload = .ok bytes) (two : second.unconfirmedPayload = .ok bytes) :
    first.norm.withoutConfirmation = second.norm.withoutConfirmation := by
  have firstRead := Cbor.decode_of_encode (unconfirmedPayload_eq_ok.mp one).2
  have secondRead := Cbor.decode_of_encode (unconfirmedPayload_eq_ok.mp two).2
  rw [firstRead, Except.ok.injEq, Value.norm, Value.norm, Value.map.injEq,
    fields_norm true firstNormal, fields_norm true secondNormal] at secondRead
  exact fields_eq_iff.mp secondRead

end Welcome

end VividProtocol

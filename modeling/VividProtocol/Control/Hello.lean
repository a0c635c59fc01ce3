import Mathlib.Tactic
import VividProtocol.Control.Registry
import VividProtocol.Control.Envelope
import VividProtocol.Wire.Record

/-!
# HELLO

The authentication and the record `Hello` of `messages.rs`, with its payload in
both forms.  The receiver checks the IDs of an authentication, the sender does
not; otherwise both accept the same records.
-/

set_option autoImplicit false

namespace VividProtocol

open VividProtocol.Cbor
open VividProtocol.Registry
open VividProtocol.Wire
open VividProtocol.Library.Result
open VividProtocol.Library.Association

def AUTHENTICATION_ROOT : UInt64 := 0
def AUTHENTICATION_LEASE_ACTIVATION : UInt64 := 1
def AUTHENTICATION_RESUME : UInt64 := 2

/-! ## Authentication -/

inductive HelloAuthentication where
  | root (proof : Bytes 32)
  | leaseActivation (contextId leaseId : UInt64) (activationSecret : Bytes 32)
      (attemptId : Bytes 16) (proofOfPossession : Option (List UInt8))
  | resume (contextId leaseId sessionId resumeGeneration : UInt64) (attemptId : Bytes 16)
      (proof : Bytes 32)
  deriving Repr, DecidableEq

namespace HelloAuthentication

/-- The entries of an authentication, with or without its proof. -/
def toEntries (omitProof : Bool) : HelloAuthentication → PayloadMap
  | .root proof =>
      [(0, .unsigned AUTHENTICATION_ROOT)] ++
        if omitProof then [] else [(1, .bytes proof.toList)]
  | .leaseActivation contextId leaseId activationSecret attemptId proofOfPossession =>
      [(0, .unsigned AUTHENTICATION_LEASE_ACTIVATION), (1, .unsigned contextId),
        (2, .unsigned leaseId), (3, .bytes activationSecret.toList),
        (4, .bytes attemptId.toList)] ++
        entry 5 (proofOfPossession.map .bytes)
  | .resume contextId leaseId sessionId resumeGeneration attemptId proof =>
      [(0, .unsigned AUTHENTICATION_RESUME), (1, .unsigned contextId), (2, .unsigned leaseId),
        (3, .unsigned sessionId), (4, .unsigned resumeGeneration),
        (5, .bytes attemptId.toList)] ++
        if omitProof then [] else [(6, .bytes proof.toList)]

def toValue (authentication : HelloAuthentication) (omitProof : Bool) : Value :=
  .map (authentication.toEntries omitProof)

def rootOfValue (value : Value) : Except MessageError HelloAuthentication := do
  let map ← StrictMap.new "root authentication" value [0, 1]
  let proof ← map.requiredFixedBytes 1 32
  .ok (.root proof)

def leaseActivationOfValue (value : Value) : Except MessageError HelloAuthentication := do
  let schema := "lease activation authentication"
  let map ← StrictMap.new schema value [0, 1, 2, 3, 4, 5]
  let contextId ← requireNonzero schema 1 (← map.requiredU64 1)
  let leaseId ← requireNonzero schema 2 (← map.requiredU64 2)
  let activationSecret ← map.requiredFixedBytes 3 32
  let attemptId ← map.requiredFixedBytes 4 16
  let proofOfPossession ← map.optionalBytes 5
  .ok (.leaseActivation contextId leaseId activationSecret attemptId proofOfPossession)

def resumeOfValue (value : Value) : Except MessageError HelloAuthentication := do
  let schema := "resume authentication"
  let map ← StrictMap.new schema value [0, 1, 2, 3, 4, 5, 6]
  let contextId ← requireNonzero schema 1 (← map.requiredU64 1)
  let leaseId ← requireNonzero schema 2 (← map.requiredU64 2)
  let sessionId ← requireNonzero schema 3 (← map.requiredU64 3)
  let resumeGeneration ← map.requiredU64 4
  let attemptId ← map.requiredFixedBytes 5 16
  let proof ← map.requiredFixedBytes 6 32
  .ok (.resume contextId leaseId sessionId resumeGeneration attemptId proof)

/-- `from_value`. -/
def ofValue (value : Value) : Except MessageError HelloAuthentication := do
  let map ← StrictMap.new "HELLO authentication" value [0, 1, 2, 3, 4, 5, 6]
  let kind ← map.requiredU64 0
  if kind = AUTHENTICATION_ROOT then rootOfValue value
  else if kind = AUTHENTICATION_LEASE_ACTIVATION then leaseActivationOfValue value
  else if kind = AUTHENTICATION_RESUME then resumeOfValue value
  else .error (invalidValue "HELLO authentication" 0 "is not a registered authentication kind")

/-- The IDs that a receiver wants nonzero. -/
def Named : HelloAuthentication → Prop
  | .root _ => True
  | .leaseActivation contextId leaseId _ _ _ => contextId ≠ 0 ∧ leaseId ≠ 0
  | .resume contextId leaseId sessionId _ _ _ => contextId ≠ 0 ∧ leaseId ≠ 0 ∧ sessionId ≠ 0

/-- The authentication without its proof. -/
def withoutProof : HelloAuthentication → HelloAuthentication
  | .root _ => .root (Vector.replicate 32 0)
  | .leaseActivation contextId leaseId activationSecret attemptId proofOfPossession =>
      .leaseActivation contextId leaseId activationSecret attemptId proofOfPossession
  | .resume contextId leaseId sessionId resumeGeneration attemptId _ =>
      .resume contextId leaseId sessionId resumeGeneration attemptId (Vector.replicate 32 0)

end HelloAuthentication

/-! ## The record -/

structure Hello where
  producerName : String
  producerVersion : String
  requiredProfiles : List String
  optionalProfiles : List String
  maximumControlBody : UInt32
  clientNonce : Bytes 32
  authentication : HelloAuthentication
  targetProfile : String
  extensions : PayloadMap
  deriving Repr

namespace Hello

/-- The loop over the required profiles. -/
def checkRequired (offered : List String) : List String → Except MessageError Unit
  | [] => .ok ()
  | profile :: rest =>
      match prerequisites profile with
      | none => .error (invalidValue "HELLO" 2 "contains an unknown required profile")
      | some required =>
          if required.any fun prerequisite => ! offered.contains prerequisite then
            .error (invalidValue "HELLO" 2 "is not prerequisite-closed")
          else checkRequired offered rest

/-- The loop over the optional profiles, of which some may be unknown. -/
def checkOptional (offered : List String) : List String → Except MessageError Unit
  | [] => .ok ()
  | profile :: rest =>
      match prerequisites profile with
      | none => checkOptional offered rest
      | some required =>
          if required.any fun prerequisite => ! offered.contains prerequisite then
            .error (invalidValue "HELLO" 3 "is not prerequisite-closed")
          else checkOptional offered rest

def validate (hello : Hello) : Except MessageError Unit := do
  boundedText "HELLO" 0 hello.producerName 256
  boundedText "HELLO" 1 hello.producerVersion 128
  validateSortedProfiles "HELLO" 2 hello.requiredProfiles
  validateSortedProfiles "HELLO" 3 hello.optionalProfiles
  if hello.requiredProfiles.any fun profile => hello.optionalProfiles.contains profile then
    .error (invalidValue "HELLO" 3 "overlaps the required profile list")
  else if CORE_CONTROL ∉ hello.requiredProfiles ∨
      hello.targetProfile ∉ hello.requiredProfiles then
    .error (invalidValue "HELLO" 2 "must require the core and selected target profiles")
  else do
    let offered := hello.requiredProfiles ++ hello.optionalProfiles
    checkRequired offered hello.requiredProfiles
    checkOptional offered hello.optionalProfiles
    if hello.maximumControlBody = 0 ∨ HARD_MAX_RECORD_BODY < hello.maximumControlBody then
      .error (invalidValue "HELLO" 4 "is outside the legal body range")
    else if hello.extensions.any fun extension => decide (extension.1 ≤ 7) then
      .error (invalidValue "HELLO extensions" 0 "overlap a registered field")
    else validateSortedMap "HELLO extensions" hello.extensions

/-- The fields of the payload, with or without the proof. -/
def fields (hello : Hello) (omitProof : Bool) : PayloadMap :=
  [(0, .text hello.producerName), (1, .text hello.producerVersion),
    (2, textArray hello.requiredProfiles), (3, textArray hello.optionalProfiles),
    (4, .unsigned hello.maximumControlBody.toUInt64), (5, .bytes hello.clientNonce.toList),
    (6, hello.authentication.toValue omitProof), (7, .text hello.targetProfile)] ++
  hello.extensions

/-- `payload_value_inner`, without the constructor of the map. -/
def payloadInner (hello : Hello) (omitProof : Bool) : Except MessageError PayloadMap := do
  hello.validate
  .ok (hello.fields omitProof)

def authlessPayload (hello : Hello) : Except MessageError (List UInt8) := do
  let payload ← hello.payloadInner true
  orEncodeError (Cbor.encode (.map payload))

def encode (hello : Hello) (requestId : UInt64) : Except MessageError (List UInt8) := do
  let payload ← hello.payloadInner false
  let envelope := Envelope.new requestId payload
  envelope.validateRequest
  envelope.encode

/-- The record inside the payload of an envelope. -/
def ofPayload (payload : PayloadMap) : Except MessageError Hello := do
  let map ← StrictMap.preserving "HELLO" (.map payload) 7
  let producerName ← map.requiredText 0
  let producerVersion ← map.requiredText 1
  let requiredProfiles ← map.requiredTextArray 2
  let optionalProfiles ← map.requiredTextArray 3
  let maximumControlBody ← map.requiredU32 4
  let clientNonce ← map.requiredFixedBytes 5 32
  let authentication ← HelloAuthentication.ofValue (← map.required 6)
  let targetProfile ← map.requiredText 7
  let hello : Hello :=
    { producerName := producerName
      producerVersion := producerVersion
      requiredProfiles := requiredProfiles
      optionalProfiles := optionalProfiles
      maximumControlBody := maximumControlBody
      clientNonce := clientNonce
      authentication := authentication
      targetProfile := targetProfile
      extensions := map.extensionsAfter 7 }
  hello.validate
  .ok hello

def decode (body : List UInt8) : Except MessageError (UInt64 × Hello) := do
  let envelope ← decodeControl body
  envelope.validateRequest
  let hello ← ofPayload envelope.payload
  .ok (envelope.requestId, hello)

end Hello

/-! ## Reading an authentication -/

namespace HelloAuthentication

variable {entries : PayloadMap} {authentication : HelloAuthentication}

theorem eq_toEntries_of_rootOfValue (sorted : (entries.map Prod.fst).Pairwise (· < ·))
    (kind : entries.lookup 0 = some (.unsigned AUTHENTICATION_ROOT))
    (read : rootOfValue (.map entries) = .ok authentication) :
    authentication.Named ∧ entries = authentication.toEntries false := by
  unfold rootOfValue at read
  simp only [bind_eq_ok_iff, StrictMap.new_eq_ok, StrictMap.requiredFixedBytes_eq_ok,
    Value.map.injEq] at read
  obtain ⟨map, ⟨_, same, only⟩, proof, one, built⟩ := read
  rw [← same] at only one
  cases built
  refine ⟨trivial, ?_⟩
  rw [← StrictMap.assemble_sorted sorted (by decide) only]
  simp [toEntries, kind, one]

theorem eq_toEntries_of_leaseActivationOfValue (sorted : (entries.map Prod.fst).Pairwise (· < ·))
    (kind : entries.lookup 0 = some (.unsigned AUTHENTICATION_LEASE_ACTIVATION))
    (read : leaseActivationOfValue (.map entries) = .ok authentication) :
    authentication.Named ∧ entries = authentication.toEntries false := by
  unfold leaseActivationOfValue at read
  simp only [bind_eq_ok_iff, StrictMap.new_eq_ok, StrictMap.requiredFixedBytes_eq_ok,
    StrictMap.requiredU64_iff, StrictMap.optionalBytes_eq_ok, requireNonzero_eq_ok,
    Value.map.injEq] at read
  obtain ⟨map, ⟨_, same, only⟩, contextId, one, _, ⟨context, rfl⟩, leaseId, two, _, ⟨lease, rfl⟩,
    secret, three, attempt, four, possession, five, built⟩ := read
  rw [← same] at only one two three four five
  cases built
  refine ⟨⟨context, lease⟩, ?_⟩
  rw [← StrictMap.assemble_sorted sorted (by decide) only]
  simp [toEntries, kind, one, two, three, four, five]

theorem eq_toEntries_of_resumeOfValue (sorted : (entries.map Prod.fst).Pairwise (· < ·))
    (kind : entries.lookup 0 = some (.unsigned AUTHENTICATION_RESUME))
    (read : resumeOfValue (.map entries) = .ok authentication) :
    authentication.Named ∧ entries = authentication.toEntries false := by
  unfold resumeOfValue at read
  simp only [bind_eq_ok_iff, StrictMap.new_eq_ok, StrictMap.requiredFixedBytes_eq_ok,
    StrictMap.requiredU64_iff, requireNonzero_eq_ok, Value.map.injEq] at read
  obtain ⟨map, ⟨_, same, only⟩, contextId, one, _, ⟨context, rfl⟩, leaseId, two, _, ⟨lease, rfl⟩,
    sessionId, three, _, ⟨session, rfl⟩, generation, four, attempt, five, proof, six, built⟩ := read
  rw [← same] at only one two three four five six
  cases built
  refine ⟨⟨context, lease, session⟩, ?_⟩
  rw [← StrictMap.assemble_sorted sorted (by decide) only]
  simp [toEntries, kind, one, two, three, four, five, six]

/-- What the receiver accepts has its IDs and is written again as it was. -/
theorem eq_toEntries_of_ofValue (sorted : (entries.map Prod.fst).Pairwise (· < ·))
    (read : ofValue (.map entries) = .ok authentication) :
    authentication.Named ∧ entries = authentication.toEntries false := by
  unfold ofValue at read
  simp only [bind_eq_ok_iff, StrictMap.new_eq_ok, StrictMap.requiredU64_iff,
    Value.map.injEq] at read
  obtain ⟨map, ⟨_, same, _⟩, kind, held, branch⟩ := read
  rw [← same] at held
  split_ifs at branch with root activation resume
  · rw [root] at held
    exact eq_toEntries_of_rootOfValue sorted held branch
  · rw [activation] at held
    exact eq_toEntries_of_leaseActivationOfValue sorted held branch
  · rw [resume] at held
    exact eq_toEntries_of_resumeOfValue sorted held branch

theorem toEntries_sorted (authentication : HelloAuthentication) (omitProof : Bool) :
    ((authentication.toEntries omitProof).map Prod.fst).Pairwise (· < ·) := by
  cases authentication with
  | root proof => cases omitProof <;> simp [toEntries]
  | leaseActivation contextId leaseId secret attempt possession =>
      cases possession <;> simp [toEntries]
  | resume contextId leaseId sessionId generation attempt proof =>
      cases omitProof <;> simp [toEntries]

/-- A receiver reads what is written if it has its IDs. -/
theorem ofValue_toValue (named : authentication.Named) :
    ofValue (authentication.toValue false) = .ok authentication := by
  unfold ofValue toValue
  simp only [bind_eq_ok_iff, StrictMap.new_eq_ok, StrictMap.requiredU64_iff]
  cases authentication with
  | root proof =>
      refine ⟨⟨_, _⟩, ⟨rfl, rfl, by simp⟩, AUTHENTICATION_ROOT, rfl, ?_⟩
      rw [if_pos rfl]
      simp only [rootOfValue, bind_eq_ok_iff, StrictMap.new_eq_ok,
        StrictMap.requiredFixedBytes_eq_ok]
      exact ⟨⟨_, _⟩, ⟨rfl, rfl, by simp⟩, proof, rfl, rfl⟩
  | leaseActivation contextId leaseId secret attempt possession =>
      obtain ⟨context, lease⟩ := named
      have held : ∀ keys : List UInt64, [0, 1, 2, 3, 4, 5] ⊆ keys →
          ∀ entry ∈ toEntries false (.leaseActivation contextId leaseId secret attempt possession),
            entry.1 ∈ keys := by
        intro keys covers entry among
        refine covers ?_
        cases possession <;> simp [toEntries] at among ⊢ <;> grind
      refine ⟨⟨_, _⟩, ⟨rfl, rfl, held _ (by simp)⟩, AUTHENTICATION_LEASE_ACTIVATION, rfl, ?_⟩
      rw [if_neg (by decide), if_pos rfl]
      simp only [leaseActivationOfValue, bind_eq_ok_iff, StrictMap.new_eq_ok,
        StrictMap.requiredFixedBytes_eq_ok, StrictMap.requiredU64_iff,
        StrictMap.optionalBytes_eq_ok, requireNonzero_eq_ok]
      refine ⟨⟨_, _⟩, ⟨rfl, rfl, held _ (by simp)⟩, contextId, rfl, _, ⟨context, rfl⟩, leaseId, rfl,
        _, ⟨lease, rfl⟩, secret, rfl, attempt, rfl, possession, ?_, rfl⟩
      cases possession <;> rfl
  | resume contextId leaseId sessionId generation attempt proof =>
      obtain ⟨context, lease, session⟩ := named
      refine ⟨⟨_, _⟩, ⟨rfl, rfl, by simp⟩, AUTHENTICATION_RESUME, rfl, ?_⟩
      rw [if_neg (by decide), if_neg (by decide), if_pos rfl]
      simp only [resumeOfValue, bind_eq_ok_iff, StrictMap.new_eq_ok,
        StrictMap.requiredFixedBytes_eq_ok, StrictMap.requiredU64_iff, requireNonzero_eq_ok]
      exact ⟨⟨_, _⟩, ⟨rfl, rfl, by simp⟩, contextId, rfl, _, ⟨context, rfl⟩, leaseId, rfl,
        _, ⟨lease, rfl⟩, sessionId, rfl, _, ⟨session, rfl⟩, generation, rfl, attempt, rfl, proof, rfl,
        rfl⟩

/-- Without their proofs, authentications are written alike only if they are alike. -/
theorem toEntries_eq_iff {first second : HelloAuthentication} :
    first.toEntries true = second.toEntries true ↔ first.withoutProof = second.withoutProof := by
  cases first with
  | root proof =>
      cases second <;>
        simp [toEntries, withoutProof, AUTHENTICATION_ROOT, AUTHENTICATION_LEASE_ACTIVATION,
          AUTHENTICATION_RESUME]
  | leaseActivation contextId leaseId secret attempt possession =>
      cases second with
      | leaseActivation otherContext otherLease otherSecret otherAttempt other =>
          cases possession <;> cases other <;>
            simp [toEntries, withoutProof, Vector.toList_inj]
      | _ =>
          simp [toEntries, withoutProof, AUTHENTICATION_ROOT, AUTHENTICATION_LEASE_ACTIVATION,
            AUTHENTICATION_RESUME]
  | resume contextId leaseId sessionId generation attempt proof =>
      cases second <;>
        simp [toEntries, withoutProof, AUTHENTICATION_ROOT, AUTHENTICATION_LEASE_ACTIVATION,
          AUTHENTICATION_RESUME, Vector.toList_inj]

theorem toValue_norm (authentication : HelloAuthentication) (omitProof : Bool) :
    (authentication.toValue omitProof).norm = authentication.toValue omitProof := by
  unfold toValue
  rw [Value.norm]
  refine congrArg Value.map (Value.normEntries_eq_self ?_)
  intro entry among
  cases authentication with
  | root proof =>
      cases omitProof <;> simp [toEntries] at among <;> grind [Value.norm]
  | leaseActivation contextId leaseId secret attempt possession =>
      cases possession <;> simp [toEntries] at among <;> grind [Value.norm]
  | resume contextId leaseId sessionId generation attempt proof =>
      cases omitProof <;> simp [toEntries] at among <;> grind [Value.norm]

end HelloAuthentication

theorem textArray_norm (values : List String) : (textArray values).norm = textArray values := by
  unfold textArray
  rw [Value.norm, Value.normItems_eq, List.map_map]
  rfl

theorem textArray_inj {first second : List String} :
    textArray first = textArray second ↔ first = second := by
  unfold textArray
  rw [Value.array.injEq]
  exact List.map_inj_right fun _ _ same => Value.text.inj same

/-! ## Reading the record -/

namespace Hello

variable {hello : Hello} {payload : PayloadMap}

theorem fields_norm (omitProof : Bool)
    (normal : ∀ extension ∈ hello.extensions, extension.2.norm = extension.2) :
    Value.normEntries (hello.fields omitProof) = hello.fields omitProof := by
  refine Value.normEntries_eq_self ?_
  intro entry among
  rcases List.mem_append.mp among with known | extension
  · simp only [List.mem_cons, List.not_mem_nil, or_false] at known
    rcases known with same | same | same | same | same | same | same | same <;> rw [same]
    · rfl
    · rfl
    · exact textArray_norm _
    · exact textArray_norm _
    · rfl
    · rfl
    · exact HelloAuthentication.toValue_norm _ _
    · rfl
  · exact normal entry extension

/-- The extensions of a valid record come after its fields, in order. -/
theorem extensions_of_validate {done : Unit} (valid : hello.validate = .ok done) :
    (∀ extension ∈ hello.extensions, 7 < extension.1) ∧
      (hello.extensions.map Prod.fst).Pairwise (· < ·) := by
  unfold validate at valid
  simp only [bind_eq_ok_iff, ite_error_eq_ok_iff, validateSortedMap_eq_ok, List.any_eq_true,
    decide_eq_true_eq, not_exists, not_and, UInt64.not_le] at valid
  obtain ⟨_, _, _, _, _, _, _, _, _, _, _, _, _, _, _, after, sorted⟩ := valid
  exact ⟨after, sorted⟩

theorem ofPayload_eq_ok :
    ofPayload payload = .ok hello ↔
      (∀ key ≤ 7, key ∈ payload.map Prod.fst) ∧
      payload.lookup 0 = some (.text hello.producerName) ∧
      payload.lookup 1 = some (.text hello.producerVersion) ∧
      payload.lookup 2 = some (textArray hello.requiredProfiles) ∧
      payload.lookup 3 = some (textArray hello.optionalProfiles) ∧
      payload.lookup 4 = some (.unsigned hello.maximumControlBody.toUInt64) ∧
      payload.lookup 5 = some (.bytes hello.clientNonce.toList) ∧
      (∃ value, payload.lookup 6 = some value ∧
        HelloAuthentication.ofValue value = .ok hello.authentication) ∧
      payload.lookup 7 = some (.text hello.targetProfile) ∧
      payload.filter (fun entry => decide (7 < entry.1)) = hello.extensions ∧
      hello.validate = .ok () := by
  unfold ofPayload
  simp only [bind_eq_ok_iff, StrictMap.preserving_eq_ok, StrictMap.requiredText_eq_ok,
    StrictMap.requiredTextArray_eq_ok, StrictMap.requiredU32_eq_ok,
    StrictMap.requiredFixedBytes_eq_ok, StrictMap.required_iff, StrictMap.extensionsAfter,
    Value.map.injEq, Except.ok.injEq]
  constructor
  · intro read
    obtain ⟨map, ⟨_, same, complete⟩, name, zero, version, one, required, two, optional, three,
      body, four, nonce, five, value, six, authentication, read, target, seven, _, valid, built⟩ :=
      read
    rw [same]
    rw [← built]
    exact ⟨complete, zero, one, two, three, four, five, ⟨value, six, read⟩, seven, rfl, valid⟩
  · intro read
    obtain ⟨complete, zero, one, two, three, four, five, ⟨value, six, read⟩, seven, rest, valid⟩ :=
      read
    refine ⟨⟨"HELLO", payload⟩, ⟨rfl, rfl, complete⟩, _, zero, _, one, _, two, _, three, _, four,
      _, five, value, six, _, read, _, seven, (), ?_, ?_⟩
    · rw [rest]
      exact valid
    · rw [rest]

theorem key_upTo (key : UInt64) : key ∈ [(0 : UInt64), 1, 2, 3, 4, 5, 6, 7] ↔ key ≤ 7 := by
  simp only [List.mem_cons, List.not_mem_nil, or_false, ← UInt64.toNat_inj,
    UInt64.le_iff_toNat_le, UInt64.reduceToNat]
  omega

/-- A valid record with its IDs is read from its own fields. -/
theorem ofPayload_fields (valid : hello.validate = .ok ())
    (named : hello.authentication.Named) : ofPayload (hello.fields false) = .ok hello := by
  obtain ⟨after, _⟩ := extensions_of_validate valid
  refine ofPayload_eq_ok.mpr ⟨?_, rfl, rfl, rfl, rfl, rfl, rfl,
    ⟨_, rfl, HelloAuthentication.ofValue_toValue named⟩, rfl, ?_, valid⟩
  · intro key below
    rw [fields, List.map_append]
    exact List.mem_append_left _ ((key_upTo key).mpr below)
  · exact StrictMap.filter_extensions key_upTo after

/-- A record that is read from its own fields has its IDs. -/
theorem named_of_ofPayload (read : ofPayload (hello.fields false) = .ok hello) :
    hello.authentication.Named := by
  obtain ⟨_, _, _, _, _, _, _, ⟨value, six, accepted⟩, _⟩ := ofPayload_eq_ok.mp read
  cases six
  exact (HelloAuthentication.eq_toEntries_of_ofValue
    (hello.authentication.toEntries_sorted false) accepted).1

/-- The fields of a record are the payload it was read from. -/
theorem fields_of_ofPayload {levels : Nat} (fits : (Value.map payload).Fits (levels + 2))
    (read : ofPayload payload = .ok hello) :
    hello.authentication.Named ∧ hello.fields false = payload := by
  obtain ⟨_, zero, one, two, three, four, five, ⟨value, six, accepted⟩, seven, rest, _⟩ :=
    ofPayload_eq_ok.mp read
  have sorted : (payload.map Prod.fst).Pairwise (· < ·) := by
    rw [← unsorted_eq_false, ← unsortedKeys_eq]
    exact fits.2.1
  have nested := fits.2.2 _ (mem_of_lookup six)
  cases value with
  | map entries =>
      have inside : (entries.map Prod.fst).Pairwise (· < ·) := by
        rw [← unsorted_eq_false, ← unsortedKeys_eq]
        exact nested.2.1
      obtain ⟨named, same⟩ := HelloAuthentication.eq_toEntries_of_ofValue inside accepted
      refine ⟨named, ?_⟩
      rw [← StrictMap.assemble_known sorted (by decide) key_upTo, rest]
      simp [fields, HelloAuthentication.toValue, zero, one, two, three, four, five, six, seven, same]
  | _ => cases accepted

/-! ## Through the envelope -/

theorem encode_eq_ok {requestId : UInt64} {body : List UInt8} :
    hello.encode requestId = .ok body ↔
      hello.validate = .ok () ∧ requestId ≠ 0 ∧
        (Envelope.new requestId (hello.fields false)).encode = .ok body := by
  simp only [encode, payloadInner, bind_eq_ok_iff, Envelope.validateRequest_eq_ok,
    Except.ok.injEq]
  constructor
  · intro written
    obtain ⟨_, ⟨_, valid, rfl⟩, _, nonzero, encoded⟩ := written
    exact ⟨valid, nonzero, encoded⟩
  · intro given
    obtain ⟨valid, nonzero, encoded⟩ := given
    exact ⟨_, ⟨(), valid, rfl⟩, (), nonzero, encoded⟩

theorem decode_eq_ok {requestId : UInt64} {body : List UInt8} :
    decode body = .ok (requestId, hello) ↔
      ∃ envelope, decodeControl body = .ok envelope ∧ envelope.requestId = requestId ∧
        requestId ≠ 0 ∧ ofPayload envelope.payload = .ok hello := by
  simp only [decode, bind_eq_ok_iff, Envelope.validateRequest_eq_ok, Except.ok.injEq,
    Prod.mk.injEq]
  constructor
  · intro read
    obtain ⟨envelope, opened, _, nonzero, other, accepted, same, rfl⟩ := read
    rw [same] at nonzero
    exact ⟨envelope, opened, same, nonzero, accepted⟩
  · intro given
    obtain ⟨envelope, opened, same, nonzero, accepted⟩ := given
    rw [← same] at nonzero
    exact ⟨envelope, opened, (), nonzero, hello, accepted, same, rfl⟩

/-- The receiver reads what the sender writes exactly if the IDs are there. -/
theorem decode_encode_iff {requestId : UInt64} {body : List UInt8}
    (normal : ∀ extension ∈ hello.extensions, extension.2.norm = extension.2)
    (written : hello.encode requestId = .ok body) :
    decode body = .ok (requestId, hello) ↔ hello.authentication.Named := by
  obtain ⟨valid, nonzero, encoded⟩ := encode_eq_ok.mp written
  have opened := Envelope.decode_new encoded (hello.fields_norm false normal)
  rw [decode_eq_ok]
  constructor
  · intro read
    obtain ⟨envelope, other, _, _, accepted⟩ := read
    rw [opened, Except.ok.injEq] at other
    rw [← other] at accepted
    exact named_of_ofPayload accepted
  · intro named
    exact ⟨_, opened, rfl, nonzero, ofPayload_fields valid named⟩

/-- What the receiver accepts is written again and read as itself. -/
theorem encode_of_decode {requestId : UInt64} {body : List UInt8}
    (read : decode body = .ok (requestId, hello)) :
    ∃ again, hello.encode requestId = .ok again ∧ decode again = .ok (requestId, hello) := by
  obtain ⟨envelope, opened, _, nonzero, accepted⟩ := decode_eq_ok.mp read
  have fits : (Value.map envelope.payload).Fits (14 + 2) := payload_fits opened
  obtain ⟨named, same⟩ := fields_of_ofPayload fits accepted
  rw [← same] at fits
  obtain ⟨again, encoded⟩ := Envelope.encode_new requestId fits
  have valid := ofPayload_eq_ok.mp accepted |>.2.2.2.2.2.2.2.2.2.2
  refine ⟨again, encode_eq_ok.mpr ⟨valid, nonzero, encoded⟩, ?_⟩
  have normal := Value.map.inj (Value.Fits.norm fits)
  exact decode_eq_ok.mpr ⟨_, Envelope.decode_new encoded normal, rfl, nonzero,
    ofPayload_fields valid named⟩

/-! ## The payload that is proved -/

def withoutProof (hello : Hello) : Hello :=
  { hello with authentication := hello.authentication.withoutProof }

theorem fields_eq_iff {first second : Hello} :
    first.fields true = second.fields true ↔ first.withoutProof = second.withoutProof := by
  simp [fields, withoutProof, textArray_inj, HelloAuthentication.toValue,
    HelloAuthentication.toEntries_eq_iff, Vector.toList_inj, UInt32.toUInt64_inj]

theorem authlessPayload_eq_ok {bytes : List UInt8} :
    hello.authlessPayload = .ok bytes ↔
      hello.validate = .ok () ∧ Cbor.encode (.map (hello.fields true)) = .ok bytes := by
  simp only [authlessPayload, payloadInner, bind_eq_ok_iff, orEncodeError_eq_ok,
    Except.ok.injEq]
  constructor
  · intro written
    obtain ⟨_, ⟨_, valid, rfl⟩, encoded⟩ := written
    exact ⟨valid, encoded⟩
  · intro given
    exact ⟨_, ⟨(), given.1, rfl⟩, given.2⟩

/-- The proof has no part in the payload. -/
theorem authlessPayload_withoutProof (hello : Hello) :
    hello.withoutProof.authlessPayload = hello.authlessPayload := by
  have same : hello.withoutProof.fields true = hello.fields true := by
    rw [fields_eq_iff]
    unfold withoutProof
    cases hello.authentication <;> rfl
  unfold authlessPayload payloadInner
  rw [same]
  rfl

/-- Two payloads are one only if the records differ in their proofs at most. -/
theorem authlessPayload_injective {first second : Hello} {bytes : List UInt8}
    (firstNormal : ∀ extension ∈ first.extensions, extension.2.norm = extension.2)
    (secondNormal : ∀ extension ∈ second.extensions, extension.2.norm = extension.2)
    (one : first.authlessPayload = .ok bytes) (two : second.authlessPayload = .ok bytes) :
    first.withoutProof = second.withoutProof := by
  have firstRead := Cbor.decode_of_encode (authlessPayload_eq_ok.mp one).2
  have secondRead := Cbor.decode_of_encode (authlessPayload_eq_ok.mp two).2
  rw [firstRead, Except.ok.injEq, Value.norm, Value.norm, Value.map.injEq,
    fields_norm true firstNormal, fields_norm true secondNormal] at secondRead
  exact fields_eq_iff.mp secondRead

end Hello

end VividProtocol

import Mathlib.Tactic
import VividProtocol.Control.Welcome
import VividProtocol.Delegation.Context
import VividProtocol.Lease.Machine
import VividProtocol.Retained.Scene
import VividProtocol.Surface.State
import VividProtocol.Track.Timed

/-!
# Requests

The requests that create a context, a surface, a session lease and a scene node,
and the one that binds input, from `context.rs`, `surface.rs`, `lease.rs`,
`scene.rs` and `input.rs`.  A decoder takes the one form that its writer gives.
-/

set_option autoImplicit false

namespace VividProtocol

open VividProtocol.Cbor
open VividProtocol.Input (signed)
open VividProtocol.Library
open VividProtocol.Library.Result
open VividProtocol.Library.Codec
open VividProtocol.Library.Association

/-- The one value that a contract is read from, among those that came in bytes. -/
theorem ResourceContract.ofValue_iff {levels : Nat} {value : Value} {contract : ResourceContract}
    (fits : value.Fits (levels + 1)) :
    ofValue value = .ok contract ↔ value = contract.toValue := by
  constructor
  · intro read
    cases value with
    | map entries =>
        have sorted : (entries.map Prod.fst).Pairwise (· < ·) := by
          rw [← unsorted_eq_false, ← unsortedKeys_eq]
          exact fits.2.1
        exact congrArg Value.map (eq_toEntries_of_ofValue sorted read)
    | _ => cases read
  · rintro rfl
    exact ofValue_toValue contract

theorem ResourceContract.toValue_norm (contract : ResourceContract) :
    contract.toValue.norm = contract.toValue := by
  refine congrArg Value.map (Value.normEntries_eq_self ?_)
  intro entry among
  obtain ⟨place, -, rfl⟩ := List.mem_map.mp among
  rfl

/-- `u16::try_from`. -/
def toU16 (schema : String) (key : UInt64) (reason : String) (value : UInt64) :
    Except MessageError UInt16 :=
  if value.toNat < 2 ^ 16 then .ok value.toUInt16 else .error (invalidValue schema key reason)

theorem toU16_eq_ok {schema : String} {key : UInt64} {reason : String} {value : UInt64}
    {word : UInt16} : toU16 schema key reason value = .ok word ↔ value = word.toUInt64 := by
  unfold toU16
  constructor
  · intro read
    split_ifs at read with small
    cases read
    refine UInt64.toNat_inj.mp ?_
    rw [UInt16.toNat_toUInt64, UInt64.toNat_toUInt16]
    exact (Nat.mod_eq_of_lt small).symm
  · rintro rfl
    rw [if_pos (by simpa using word.toNat_lt)]
    simp

/-! ## Contexts -/

namespace Delegation

namespace ContextDefinition

def validate (definition : ContextDefinition) (headerObjectId : UInt64) :
    Except MessageError Unit := do
  let _ ← requireNonzero "CREATE_CONTEXT" 0 definition.contextId
  let _ ← requireNonzero "CREATE_CONTEXT" 1 definition.parentContextId
  validateHeaderObject headerObjectId definition.contextId
  if definition.operationClasses &&& ~~~OP_KNOWN_MASK ≠ 0 then
    .error (invalidValue "CREATE_CONTEXT" 2 "has unknown operation-class bits")
  else if 64 < definition.label.utf8ByteSize then
    .error (invalidValue "CREATE_CONTEXT" 3 "label exceeds 64 UTF-8 bytes")
  else .ok ()

def fields (definition : ContextDefinition) : PayloadMap :=
  [(0, .unsigned definition.contextId),
    (1, .unsigned definition.parentContextId),
    (2, .unsigned definition.operationClasses),
    (3, .text definition.label),
    (4, .unsigned definition.lifetimeUs),
    (5, definition.requestedContract.toValue)]

def payload (definition : ContextDefinition) : Except MessageError PayloadMap := do
  definition.validate definition.contextId
  .ok definition.fields

def decode (headerObjectId : UInt64) (payload : Value) :
    Except MessageError ContextDefinition := do
  let map ← StrictMap.new "CREATE_CONTEXT" payload [0, 1, 2, 3, 4, 5]
  let contextId ← map.requiredU64 0
  let parentContextId ← map.requiredU64 1
  let operationClasses ← map.requiredU64 2
  let label ← map.requiredText 3
  let lifetimeUs ← map.requiredU64 4
  let contract ← map.required 5
  let contract ← Welcome.orContractError (ResourceContract.ofValue contract)
  let definition : ContextDefinition :=
    { contextId := contextId
      parentContextId := parentContextId
      operationClasses := operationClasses
      label := label
      lifetimeUs := lifetimeUs
      requestedContract := contract }
  definition.validate headerObjectId
  .ok definition

section Reading

variable {levels : Nat} {entries : PayloadMap} {definition : ContextDefinition}
  {headerObjectId : UInt64}

theorem payload_eq_ok :
    definition.payload = .ok entries ↔
      definition.validate definition.contextId = .ok () ∧ definition.fields = entries := by
  unfold payload
  rw [check_bind_eq_ok_iff, Except.ok.injEq]

theorem validate_eq_ok :
    definition.validate headerObjectId = .ok () ↔
      headerObjectId = definition.contextId ∧
        definition.validate definition.contextId = .ok () := by
  unfold validate validateHeaderObject
  simp only [bind_eq_ok_iff, ite_error_eq_ok_iff, not_not]
  constructor
  · rintro ⟨_, context, _, parent, _, ⟨same, -⟩, rest⟩
    exact ⟨same, _, context, _, parent, (), ⟨trivial, trivial⟩, rest⟩
  · rintro ⟨same, _, context, _, parent, _, -, rest⟩
    exact ⟨_, context, _, parent, (), ⟨same, trivial⟩, rest⟩

/-- The decoder accepts what the writer writes under the same object, and nothing else. -/
theorem decode_eq_ok (fits : (Value.map entries).Fits (levels + 2)) :
    decode headerObjectId (.map entries) = .ok definition ↔
      headerObjectId = definition.contextId ∧ definition.payload = .ok entries := by
  rw [payload_eq_ok, ← and_assoc, ← validate_eq_ok]
  unfold decode
  simp only [bind_eq_ok_iff, StrictMap.new_eq_ok, StrictMap.requiredU64_iff,
    StrictMap.requiredText_eq_ok, StrictMap.required_iff, Welcome.orContractError_eq_ok,
    Except.ok.injEq]
  constructor
  · rintro ⟨map, ⟨-, same, known⟩, contextId, zero, parentContextId, one, operationClasses, two,
      label, three, lifetimeUs, four, value, five, contract, read, _, checked, rfl⟩
    have content := Value.map.inj same
    rw [← content] at known zero one two three four five
    have sent : value = contract.toValue :=
      (ResourceContract.ofValue_iff (fits.2.2 _ (mem_of_lookup five))).mp read
    rw [sent] at five
    refine ⟨checked, ?_⟩
    rw [← Track.assemble_fits fits (by decide) known]
    simp only [assemble_cons, assemble_nil, zero, one, two, three, four, five, entry_some]
    rfl
  · rintro ⟨checked, rfl⟩
    exact ⟨⟨"CREATE_CONTEXT", definition.fields⟩,
      ⟨rfl, rfl, fun _ among => List.mem_map_of_mem among⟩, _, rfl, _, rfl, _, rfl, _, rfl, _, rfl,
      _, rfl, _, ResourceContract.ofValue_toValue _, _, checked, rfl⟩

end Reading

end ContextDefinition

end Delegation

/-! ## Surfaces -/

namespace Surface

def SurfaceRole.toWord : SurfaceRole → UInt64
  | .unspecified => 0
  | .document => 1
  | .desktop => 2
  | .timedMedia => 3
  | .figure => 4
  | .terminalText => 5
  | .applicationCanvas => 6

def SurfaceRole.tryFrom (value : UInt64) : Except MessageError SurfaceRole :=
  if value = 0 then .ok .unspecified
  else if value = 1 then .ok .document
  else if value = 2 then .ok .desktop
  else if value = 3 then .ok .timedMedia
  else if value = 4 then .ok .figure
  else if value = 5 then .ok .terminalText
  else if value = 6 then .ok .applicationCanvas
  else .error (invalidValue "surface descriptor" 0 "has an unknown role")

def CoordinateModel.toWord : CoordinateModel → UInt64
  | .desktopLogicalPixels => 1
  | .normalized => 2
  | .canvasLogicalUnits => 3
  | .terminalContentCells => 4

def CoordinateModel.tryFrom (value : UInt64) : Except MessageError CoordinateModel :=
  if value = 1 then .ok .desktopLogicalPixels
  else if value = 2 then .ok .normalized
  else if value = 3 then .ok .canvasLogicalUnits
  else if value = 4 then .ok .terminalContentCells
  else .error (invalidValue "surface" 3 "has an unknown coordinate model")

theorem SurfaceRole.tryFrom_eq_ok {value : UInt64} {role : SurfaceRole} :
    SurfaceRole.tryFrom value = .ok role ↔ value = role.toWord := by
  constructor
  · intro read
    unfold SurfaceRole.tryFrom at read
    split_ifs at read <;> cases read <;> assumption
  · intro same
    rw [same]
    cases role <;> rfl

theorem CoordinateModel.tryFrom_eq_ok {value : UInt64} {model : CoordinateModel} :
    CoordinateModel.tryFrom value = .ok model ↔ value = model.toWord := by
  constructor
  · intro read
    unfold CoordinateModel.tryFrom at read
    split_ifs at read <;> cases read <;> assumption
  · intro same
    rw [same]
    cases model <;> rfl

namespace SurfaceDescriptor

def fields (descriptor : SurfaceDescriptor) : PayloadMap :=
  [(0, .unsigned descriptor.role.toWord),
    (1, .text descriptor.title),
    (2, .unsigned descriptor.semanticContentRevision),
    (3, .unsigned descriptor.semanticAvailability),
    (4, .text descriptor.locatorHint)]

def toValue (descriptor : SurfaceDescriptor) : Except MessageError Value := do
  descriptor.validate
  .ok (.map descriptor.fields)

def fromValue (value : Value) : Except MessageError SurfaceDescriptor := do
  let map ← StrictMap.new "surface descriptor" value [0, 1, 2, 3, 4]
  let role ← map.requiredU64 0
  let role ← SurfaceRole.tryFrom role
  let title ← map.requiredText 1
  let semanticContentRevision ← map.requiredU64 2
  let semanticAvailability ← map.requiredU64 3
  let locatorHint ← map.requiredText 4
  let descriptor : SurfaceDescriptor :=
    { role := role
      title := title
      semanticContentRevision := semanticContentRevision
      semanticAvailability := semanticAvailability
      locatorHint := locatorHint }
  descriptor.validate
  .ok descriptor

variable {levels : Nat} {value : Value} {descriptor : SurfaceDescriptor}

theorem toValue_eq_ok :
    descriptor.toValue = .ok value ↔
      descriptor.validate = .ok () ∧ value = .map descriptor.fields := by
  unfold toValue
  rw [check_bind_eq_ok_iff, Except.ok.injEq, eq_comm (b := value)]

theorem fromValue_eq_ok (fits : value.Fits (levels + 1)) :
    fromValue value = .ok descriptor ↔ descriptor.toValue = .ok value := by
  rw [toValue_eq_ok]
  unfold fromValue
  simp only [bind_eq_ok_iff, StrictMap.new_eq_ok, StrictMap.requiredU64_iff,
    StrictMap.requiredText_eq_ok, SurfaceRole.tryFrom_eq_ok, Except.ok.injEq]
  constructor
  · rintro ⟨map, ⟨-, rfl, known⟩, _, zero, role, rfl, title, one, revision, two, availability,
      three, locatorHint, four, _, checked, rfl⟩
    refine ⟨checked, ?_⟩
    rw [← Track.assemble_fits fits (by decide) known]
    simp only [assemble_cons, assemble_nil, zero, one, two, three, four, entry_some]
    rfl
  · rintro ⟨checked, rfl⟩
    exact ⟨⟨"surface descriptor", descriptor.fields⟩,
      ⟨rfl, rfl, fun _ among => List.mem_map_of_mem among⟩, _, rfl, _, rfl, _, rfl, _, rfl, _, rfl,
      _, rfl, _, checked, rfl⟩

end SurfaceDescriptor

namespace SurfaceDefinition

def fields (definition : SurfaceDefinition) (descriptor : Value) : PayloadMap :=
  [(0, .unsigned definition.contextId),
    (1, .unsigned definition.surfaceId),
    (2, .text definition.semanticProfile),
    (3, .unsigned definition.coordinateModel.toWord),
    (4, .unsigned definition.logicalWidth),
    (5, .unsigned definition.logicalHeight),
    (6, .unsigned definition.scaleNumerator),
    (7, .unsigned definition.scaleDenominator),
    (8, .unsigned definition.rotation.toUInt64),
    (9, descriptor),
    (10, .unsigned definition.policy),
    (11, .map definition.profileParameters)]

def createPayload (definition : SurfaceDefinition) : Except MessageError PayloadMap := do
  definition.validate
  let descriptor ← definition.descriptor.toValue
  .ok (definition.fields descriptor)

def decodeCreate (headerObjectId : UInt64) (payload : Value) :
    Except MessageError SurfaceDefinition := do
  let map ← StrictMap.new "CREATE_SURFACE" payload [0, 1, 2, 3, 4, 5, 6, 7, 8, 9, 10, 11]
  let surfaceId ← map.requiredU64 1
  validateHeaderObject headerObjectId surfaceId
  let contextId ← map.requiredU64 0
  let semanticProfile ← map.requiredText 2
  let coordinateModel ← map.requiredU64 3
  let coordinateModel ← CoordinateModel.tryFrom coordinateModel
  let logicalWidth ← map.requiredU64 4
  let logicalHeight ← map.requiredU64 5
  let scaleNumerator ← map.requiredU64 6
  let scaleDenominator ← map.requiredU64 7
  let rotation ← map.requiredU64 8
  let rotation ← toU16 "CREATE_SURFACE" 8 "does not fit in u16" rotation
  let descriptor ← map.required 9
  let descriptor ← SurfaceDescriptor.fromValue descriptor
  let policy ← map.requiredU64 10
  let profileParameters ← map.requiredMap 11
  let definition : SurfaceDefinition :=
    { contextId := contextId
      surfaceId := surfaceId
      semanticProfile := semanticProfile
      coordinateModel := coordinateModel
      logicalWidth := logicalWidth
      logicalHeight := logicalHeight
      scaleNumerator := scaleNumerator
      scaleDenominator := scaleDenominator
      rotation := rotation
      descriptor := descriptor
      policy := policy
      profileParameters := profileParameters }
  definition.validate
  .ok definition

section Reading

variable {levels : Nat} {entries : PayloadMap} {definition : SurfaceDefinition}
  {headerObjectId : UInt64}

theorem validate_descriptor (checked : definition.validate = .ok ()) :
    definition.descriptor.validate = .ok () := by
  unfold validate at checked
  simp only [bind_eq_ok_iff, ite_error_eq_ok_iff] at checked
  obtain ⟨_, -, _, -, _, -, _, -, _, -, _, -, -, -, -, descriptor⟩ := checked
  exact descriptor

theorem createPayload_eq_ok :
    definition.createPayload = .ok entries ↔
      definition.validate = .ok () ∧
        definition.fields (.map definition.descriptor.fields) = entries := by
  unfold createPayload
  rw [check_bind_eq_ok_iff]
  refine and_congr_right fun checked => ?_
  have sent : definition.descriptor.toValue = .ok (.map definition.descriptor.fields) :=
    SurfaceDescriptor.toValue_eq_ok.mpr ⟨validate_descriptor checked, rfl⟩
  rw [sent, ok_bind, Except.ok.injEq]

/-- The decoder accepts what the writer writes under the same object, and nothing else. -/
theorem decodeCreate_eq_ok (fits : (Value.map entries).Fits (levels + 2)) :
    decodeCreate headerObjectId (.map entries) = .ok definition ↔
      headerObjectId = definition.surfaceId ∧ definition.createPayload = .ok entries := by
  rw [createPayload_eq_ok]
  unfold decodeCreate validateHeaderObject
  simp only [bind_eq_ok_iff, StrictMap.new_eq_ok, StrictMap.requiredU64_iff,
    StrictMap.requiredText_eq_ok, StrictMap.required_iff, StrictMap.requiredMap_eq_ok,
    CoordinateModel.tryFrom_eq_ok, toU16_eq_ok, ite_error_eq_ok_iff, not_not, Except.ok.injEq]
  constructor
  · rintro ⟨map, ⟨-, same, known⟩, surfaceId, one, _, ⟨above, -⟩, contextId, zero, profile, two, _,
      three, model, rfl, width, four, height, five, numerator, six, denominator, seven, _, eight,
      rotation, rfl, value, nine, descriptor, read, policy, ten, parameters, eleven, _, checked,
      rfl⟩
    have content := Value.map.inj same
    rw [← content] at known zero one two three four five six seven eight nine ten eleven
    have written : descriptor.toValue = .ok value :=
      (SurfaceDescriptor.fromValue_eq_ok (fits.2.2 _ (mem_of_lookup nine))).mp read
    rw [(SurfaceDescriptor.toValue_eq_ok.mp written).2] at nine
    refine ⟨above, checked, ?_⟩
    rw [← Track.assemble_fits fits (by decide) known]
    simp only [assemble_cons, assemble_nil, zero, one, two, three, four, five, six, seven, eight,
      nine, ten, eleven, entry_some]
    rfl
  · rintro ⟨above, checked, rfl⟩
    have descriptor : SurfaceDescriptor.fromValue (.map definition.descriptor.fields) =
        .ok definition.descriptor :=
      (SurfaceDescriptor.fromValue_eq_ok (fits.2.2 (9, _) (mem_of_lookup rfl))).mpr
        (SurfaceDescriptor.toValue_eq_ok.mpr ⟨validate_descriptor checked, rfl⟩)
    exact ⟨⟨"CREATE_SURFACE", definition.fields (.map definition.descriptor.fields)⟩,
      ⟨rfl, rfl, fun _ among => List.mem_map_of_mem among⟩, _, rfl, (), ⟨above, trivial⟩, _, rfl,
      _, rfl, _, rfl, _, rfl, _, rfl, _, rfl, _, rfl, _, rfl, _, rfl, _, rfl, _, rfl, _, descriptor,
      _, rfl, _, rfl, _, checked, rfl⟩

end Reading

end SurfaceDefinition

end Surface

/-! ## Session leases -/

namespace Lease

def MAX_ACTIVATION_TIMEOUT_US : UInt64 := 60000000

def CleanupPolicy.toWord : CleanupPolicy → UInt64
  | .immediate => 0
  | .suspendOnUncleanLoss => 1

def CleanupPolicy.tryFrom (value : UInt64) : Except MessageError CleanupPolicy :=
  if value = 0 then .ok .immediate
  else if value = 1 then .ok .suspendOnUncleanLoss
  else .error (invalidValue "CREATE_SESSION_LEASE" 5 "has an unknown cleanup policy")

theorem CleanupPolicy.tryFrom_eq_ok {value : UInt64} {policy : CleanupPolicy} :
    CleanupPolicy.tryFrom value = .ok policy ↔ value = policy.toWord := by
  constructor
  · intro read
    unfold CleanupPolicy.tryFrom at read
    split_ifs at read <;> cases read <;> assumption
  · intro same
    rw [same]
    cases policy <;> rfl

structure SessionLeaseDefinition where
  contextId : UInt64
  leaseId : UInt64
  activationVerifier : Bytes 32
  activationTimeoutUs : UInt64
  requestedDisconnectGraceUs : UInt64
  cleanupPolicy : CleanupPolicy
  permittedProfiles : List String
  requestedContract : ResourceContract
  clientPublicKey : Option (List UInt8)
  deriving DecidableEq

namespace SessionLeaseDefinition

def validate (definition : SessionLeaseDefinition) : Except MessageError Unit := do
  let _ ← requireNonzero "CREATE_SESSION_LEASE" 0 definition.contextId
  let _ ← requireNonzero "CREATE_SESSION_LEASE" 1 definition.leaseId
  if definition.activationTimeoutUs = 0 ∨
      MAX_ACTIVATION_TIMEOUT_US < definition.activationTimeoutUs then
    .error (invalidValue "CREATE_SESSION_LEASE" 3 "is outside 1..=60 seconds")
  else do
    orInvalid "CREATE_SESSION_LEASE" 6 "is not sorted, unique, and prerequisite-closed"
      (Registry.validateProfileSet definition.permittedProfiles)
    if Registry.CORE_CONTROL ∉ definition.permittedProfiles then
      .error (invalidValue "CREATE_SESSION_LEASE" 6 "does not include the core profile")
    else .ok ()

def fields (definition : SessionLeaseDefinition) : PayloadMap :=
  [(0, .unsigned definition.contextId),
    (1, .unsigned definition.leaseId),
    (2, .bytes definition.activationVerifier.toList),
    (3, .unsigned definition.activationTimeoutUs),
    (4, .unsigned definition.requestedDisconnectGraceUs),
    (5, .unsigned definition.cleanupPolicy.toWord),
    (6, textArray definition.permittedProfiles),
    (7, definition.requestedContract.toValue)] ++
    entry 8 (definition.clientPublicKey.map .bytes)

def payload (definition : SessionLeaseDefinition) : Except MessageError PayloadMap := do
  definition.validate
  .ok definition.fields

/-- An item of the array under key 6. -/
def profileOf (value : Value) : Except MessageError String :=
  match value.asText with
  | some profile => .ok profile
  | none => .error (invalidValue "CREATE_SESSION_LEASE" 6 "contains a non-text profile")

def profilesOf (value : Value) : Except MessageError (List String) :=
  match value.asArray with
  | some items => collect profileOf items
  | none => .error (invalidValue "CREATE_SESSION_LEASE" 6 "is not an array")

def decode (payload : Value) : Except MessageError SessionLeaseDefinition := do
  let map ← StrictMap.new "CREATE_SESSION_LEASE" payload [0, 1, 2, 3, 4, 5, 6, 7, 8]
  let profiles ← map.required 6
  let profiles ← profilesOf profiles
  let contextId ← map.requiredU64 0
  let leaseId ← map.requiredU64 1
  let activationVerifier ← map.requiredFixedBytes 2 32
  let activationTimeoutUs ← map.requiredU64 3
  let requestedDisconnectGraceUs ← map.requiredU64 4
  let cleanupPolicy ← map.requiredU64 5
  let cleanupPolicy ← CleanupPolicy.tryFrom cleanupPolicy
  let contract ← map.required 7
  let contract ← Welcome.orContractError (ResourceContract.ofValue contract)
  let clientPublicKey ← map.optionalBytes 8
  let definition : SessionLeaseDefinition :=
    { contextId := contextId
      leaseId := leaseId
      activationVerifier := activationVerifier
      activationTimeoutUs := activationTimeoutUs
      requestedDisconnectGraceUs := requestedDisconnectGraceUs
      cleanupPolicy := cleanupPolicy
      permittedProfiles := profiles
      requestedContract := contract
      clientPublicKey := clientPublicKey }
  definition.validate
  .ok definition

section Reading

variable {levels : Nat} {entries : PayloadMap} {definition : SessionLeaseDefinition}

theorem profileOf_eq_ok {value : Value} {profile : String} :
    profileOf value = .ok profile ↔ value = .text profile := by
  unfold profileOf
  cases value <;> simp [Value.asText]

theorem profilesOf_eq_ok {value : Value} {profiles : List String} :
    profilesOf value = .ok profiles ↔ value = textArray profiles := by
  have each : ∀ {items : List Value} {profiles : List String},
      collect profileOf items = .ok profiles ↔ items = profiles.map .text :=
    collect_eq_ok_iff fun _ _ => profileOf_eq_ok
  unfold profilesOf textArray
  cases value <;> simp [Value.asArray, each]

theorem payload_eq_ok :
    definition.payload = .ok entries ↔
      definition.validate = .ok () ∧ definition.fields = entries := by
  unfold payload
  rw [check_bind_eq_ok_iff, Except.ok.injEq]

/-- The decoder accepts what the writer writes, and nothing else. -/
theorem decode_eq_ok (fits : (Value.map entries).Fits (levels + 2)) :
    decode (.map entries) = .ok definition ↔ definition.payload = .ok entries := by
  rw [payload_eq_ok]
  unfold decode
  simp only [bind_eq_ok_iff, StrictMap.new_eq_ok, StrictMap.requiredU64_iff,
    StrictMap.requiredFixedBytes_eq_ok, StrictMap.required_iff, StrictMap.optionalBytes_eq_ok,
    CleanupPolicy.tryFrom_eq_ok, profilesOf_eq_ok, Welcome.orContractError_eq_ok,
    Except.ok.injEq]
  constructor
  · rintro ⟨map, ⟨-, same, known⟩, _, six, profiles, rfl, contextId, zero, leaseId, one, verifier,
      two, timeout, three, grace, four, _, five, policy, rfl, value, seven, contract, read,
      publicKey, eight, _, checked, rfl⟩
    have content := Value.map.inj same
    rw [← content] at known zero one two three four five six seven eight
    have sent : value = contract.toValue :=
      (ResourceContract.ofValue_iff (fits.2.2 _ (mem_of_lookup seven))).mp read
    rw [sent] at seven
    refine ⟨checked, ?_⟩
    rw [← Track.assemble_fits fits (by decide) known]
    simp only [assemble_cons, assemble_nil, zero, one, two, three, four, five, six, seven, eight,
      entry_some, List.append_nil]
    rfl
  · rintro ⟨checked, rfl⟩
    exact ⟨⟨"CREATE_SESSION_LEASE", definition.fields⟩, ⟨rfl, rfl, Track.mem_known⟩, _, rfl, _,
      rfl, _, rfl, _, rfl, _, rfl, _, rfl, _, rfl, _, rfl, _, rfl, _, rfl, _,
      ResourceContract.ofValue_toValue _, definition.clientPublicKey, Track.lookup_optional rfl, _,
      checked, rfl⟩

end Reading

end SessionLeaseDefinition

end Lease

/-! ## Scene nodes -/

namespace Retained

def Fit.toWord : Fit → UInt64
  | .fill => 1
  | .contain => 2
  | .cover => 3
  | .none => 4

def Fit.tryFrom (value : UInt64) : Except MessageError Fit :=
  if value = 1 then .ok .fill
  else if value = 2 then .ok .contain
  else if value = 3 then .ok .cover
  else if value = 4 then .ok .none
  else .error (invalidValue "scene node" 5 "has an unknown fit")

theorem Fit.tryFrom_eq_ok {value : UInt64} {fit : Fit} :
    Fit.tryFrom value = .ok fit ↔ value = fit.toWord := by
  constructor
  · intro read
    unfold Fit.tryFrom at read
    split_ifs at read <;> cases read <;> assumption
  · intro same
    rw [same]
    cases fit <;> rfl

/-- `as_i64().ok_or_else(..)`. -/
def zIndexOf (value : Value) : Except MessageError Int64 :=
  match value.asI64 with
  | some word => .ok word
  | none => .error (invalidValue "scene node" 7 "is not an integer")

theorem zIndexOf_eq_ok {levels : Nat} {value : Value} {word : Int64} (fits : value.Fits levels) :
    zIndexOf value = .ok word ↔ value = signed word := by
  rw [← Track.asI64_eq_some fits, zIndexOf]
  cases value.asI64 <;> simp

def unknownSampling : MessageError :=
  invalidValue "scene node" 6 "has unknown sampling or blend semantics"

namespace SceneNode

def validate (node : SceneNode) : Except MessageError Unit := do
  let _ ← requireNonzero "scene node" 0 node.owningContextId
  let _ ← requireNonzero "scene node" 1 node.nodeId
  let _ ← requireNonzero "scene node" 2 node.surfaceContextId
  let _ ← requireNonzero "scene node" 3 node.surfaceId
  .ok ()

def fields (node : SceneNode) : PayloadMap :=
  [(0, .unsigned node.owningContextId),
    (1, .unsigned node.nodeId),
    (2, .unsigned node.surfaceContextId),
    (3, .unsigned node.surfaceId),
    (4, .map node.geometry),
    (5, .unsigned node.fit.toWord),
    (6, .unsigned (Track.word node.linearSampling)),
    (7, signed node.zIndex),
    (8, .unsigned 0),
    (9, .bool node.visible),
    (10, .unsigned node.opacity.toUInt64)] ++
    entry 11 (node.clip.map .map)

def payload (node : SceneNode) : Except MessageError PayloadMap := do
  node.validate
  .ok node.fields

/-- The blend word is not read under an unknown sampling. -/
def decode (headerObjectId : UInt64) (payload : Value) : Except MessageError SceneNode := do
  let map ← StrictMap.new "scene node" payload [0, 1, 2, 3, 4, 5, 6, 7, 8, 9, 10, 11]
  let sampling ← map.requiredU64 6
  if 1 < sampling then .error unknownSampling
  else do
    let blend ← map.requiredU64 8
    if blend ≠ 0 then .error unknownSampling
    else do
      let opacity ← map.requiredU64 10
      let opacity ← toU16 "scene node" 10 "exceeds 65535" opacity
      let owningContextId ← map.requiredU64 0
      let nodeId ← map.requiredU64 1
      let surfaceContextId ← map.requiredU64 2
      let surfaceId ← map.requiredU64 3
      let geometry ← map.requiredMap 4
      let fit ← map.requiredU64 5
      let fit ← Fit.tryFrom fit
      let zIndex ← map.required 7
      let zIndex ← zIndexOf zIndex
      let visible ← map.requiredBool 9
      let clip ← map.optionalMap 11
      let node : SceneNode :=
        { owningContextId := owningContextId
          nodeId := nodeId
          surfaceContextId := surfaceContextId
          surfaceId := surfaceId
          geometry := geometry
          fit := fit
          linearSampling := decide (sampling = 1)
          zIndex := zIndex
          visible := visible
          opacity := opacity
          clip := clip }
      node.validate
      validateHeaderObject headerObjectId node.nodeId
      .ok node

section Reading

variable {levels : Nat} {entries : PayloadMap} {node : SceneNode} {headerObjectId : UInt64}

theorem payload_eq_ok :
    node.payload = .ok entries ↔ node.validate = .ok () ∧ node.fields = entries := by
  unfold payload
  rw [check_bind_eq_ok_iff, Except.ok.injEq]

theorem word_of_le {sampling : UInt64} (known : ¬ 1 < sampling) :
    Track.word (decide (sampling = 1)) = sampling := by
  have small : sampling.toNat ≤ 1 := UInt64.le_iff_toNat_le.mp (UInt64.not_lt.mp known)
  unfold Track.word
  refine UInt64.toNat_inj.mp ?_
  by_cases one : sampling = 1
  · simp [one]
  · have other : sampling.toNat ≠ 1 := fun same => one (UInt64.toNat_inj.mp same)
    have zero : sampling.toNat = 0 := by omega
    simp [one, zero]

/-- The decoder accepts what the writer writes under the same object, and nothing else. -/
theorem decode_eq_ok (fits : (Value.map entries).Fits (levels + 1)) :
    decode headerObjectId (.map entries) = .ok node ↔
      headerObjectId = node.nodeId ∧ node.payload = .ok entries := by
  rw [payload_eq_ok]
  unfold decode validateHeaderObject
  simp only [bind_eq_ok_iff, StrictMap.new_eq_ok, StrictMap.requiredU64_iff,
    StrictMap.required_iff, StrictMap.requiredMap_eq_ok, StrictMap.requiredBool_iff,
    StrictMap.optionalMap_eq_ok, Fit.tryFrom_eq_ok, toU16_eq_ok, ite_error_eq_ok_iff, not_not,
    Except.ok.injEq]
  constructor
  · rintro ⟨map, ⟨-, same, known⟩, sampling, six, small, _, eight, rfl, _, ten, opacity, rfl,
      context, zero, nodeId, one, surfaceContext, two, surfaceId, three, geometry, four, _, five,
      fit, rfl, value, seven, zIndex, read, visible, nine, clip, eleven, _, checked, _, ⟨above, -⟩,
      rfl⟩
    have content := Value.map.inj same
    rw [← content] at known zero one two three four five six seven eight nine ten eleven
    have signedIndex : value = signed zIndex :=
      (zIndexOf_eq_ok (fits.2.2 (7, value) (mem_of_lookup seven))).mp read
    rw [signedIndex] at seven
    rw [← word_of_le small] at six
    refine ⟨above, checked, ?_⟩
    rw [← Track.assemble_fits fits (by decide) known]
    simp only [assemble_cons, assemble_nil, zero, one, two, three, four, five, six, seven, eight,
      nine, ten, eleven, entry_some, List.append_nil]
    rfl
  · rintro ⟨above, checked, rfl⟩
    have small : ¬ 1 < Track.word node.linearSampling := by
      unfold Track.word
      cases node.linearSampling <;> decide
    have read : zIndexOf (signed node.zIndex) = .ok node.zIndex := by
      rw [zIndexOf, Input.signed_asI64]
    have sampled : decide (Track.word node.linearSampling = 1) = node.linearSampling := by
      unfold Track.word
      cases node.linearSampling <;> decide
    refine ⟨⟨"scene node", node.fields⟩, ⟨rfl, rfl, Track.mem_known⟩, _, rfl, small, _, rfl, rfl,
      _, rfl, _, rfl, _, rfl, _, rfl, _, rfl, _, rfl, _, rfl, _, rfl, _, rfl, _, rfl, _, read, _,
      rfl, node.clip, Track.lookup_optional rfl, ?_⟩
    rw [sampled]
    exact ⟨(), checked, (), ⟨above, trivial⟩, rfl⟩

end Reading

end SceneNode

end Retained

/-! ## Input bindings -/

namespace Input.InputBinding

/-- Nothing is checked before it is written. -/
def payload (binding : InputBinding) : PayloadMap :=
  [(0, .unsigned binding.producerEpoch.value),
    (1, .unsigned binding.contextId),
    (2, .unsigned binding.surfaceId),
    (3, .unsigned binding.surfaceGeneration.value),
    (4, .unsigned binding.requestedClasses),
    (5, .unsigned binding.reason),
    (6, .unsigned binding.requestedWatchdogUs)]

def decode (headerObjectId : UInt64) (payload : Value) : Except MessageError InputBinding := do
  let map ← StrictMap.new "SET_INPUT_BINDING" payload [0, 1, 2, 3, 4, 5, 6]
  let producerEpoch ← map.requiredU64 0
  let contextId ← map.requiredU64 1
  let surfaceId ← map.requiredU64 2
  let surfaceGeneration ← map.requiredU64 3
  let requestedClasses ← map.requiredU64 4
  let reason ← map.requiredU64 5
  let requestedWatchdogUs ← map.requiredU64 6
  let binding : InputBinding :=
    { producerEpoch := ⟨producerEpoch⟩
      contextId := contextId
      surfaceId := surfaceId
      surfaceGeneration := ⟨surfaceGeneration⟩
      requestedClasses := requestedClasses
      reason := reason
      requestedWatchdogUs := requestedWatchdogUs }
  binding.validate headerObjectId
  .ok binding

/-- The decoder accepts a written binding that is valid under the header's object. -/
theorem decode_eq_ok {levels : Nat} {entries : PayloadMap} {binding : InputBinding}
    {headerObjectId : UInt64} (fits : (Value.map entries).Fits (levels + 1)) :
    decode headerObjectId (.map entries) = .ok binding ↔
      binding.validate headerObjectId = .ok () ∧ binding.payload = entries := by
  unfold decode
  simp only [bind_eq_ok_iff, StrictMap.new_eq_ok, StrictMap.requiredU64_iff, Except.ok.injEq]
  constructor
  · rintro ⟨map, ⟨-, same, known⟩, epoch, zero, contextId, one, surfaceId, two, generation, three,
      classes, four, reason, five, watchdog, six, _, checked, rfl⟩
    have content := Value.map.inj same
    rw [← content] at known zero one two three four five six
    refine ⟨checked, ?_⟩
    rw [← Track.assemble_fits fits (by decide) known]
    simp only [assemble_cons, assemble_nil, zero, one, two, three, four, five, six, entry_some]
    rfl
  · rintro ⟨checked, rfl⟩
    exact ⟨⟨"SET_INPUT_BINDING", binding.payload⟩,
      ⟨rfl, rfl, fun _ among => List.mem_map_of_mem among⟩, _, rfl, _, rfl, _, rfl, _, rfl, _, rfl,
      _, rfl, _, rfl, _, checked, rfl⟩

end Input.InputBinding

/-! ## Every request -/

/-- A decoder returns values in normal form only.  What a request carries as it came are
the parameters of a surface and the geometry and clip of a node. -/
theorem Surface.SurfaceDefinition.fields_normal {definition : Surface.SurfaceDefinition} :
    Value.normEntries (definition.fields (.map definition.descriptor.fields)) =
        definition.fields (.map definition.descriptor.fields) ↔
      Value.normEntries definition.profileParameters = definition.profileParameters := by
  constructor
  · intro same
    have held := congrArg (List.lookup 11) same
    exact Value.map.inj (Option.some.inj held)
  · intro normal
    have parameters : (Value.map definition.profileParameters).norm =
        .map definition.profileParameters := congrArg Value.map normal
    refine Value.normEntries_eq_self ?_
    simp only [fields, List.forall_mem_cons]
    exact ⟨rfl, rfl, rfl, rfl, rfl, rfl, rfl, rfl, rfl, rfl, rfl, parameters, nofun⟩

theorem Delegation.ContextDefinition.fields_normal {definition : Delegation.ContextDefinition} :
    Value.normEntries definition.fields = definition.fields := by
  refine Value.normEntries_eq_self ?_
  simp only [fields, List.forall_mem_cons]
  exact ⟨rfl, rfl, rfl, rfl, rfl, ResourceContract.toValue_norm _, nofun⟩

theorem Lease.SessionLeaseDefinition.fields_normal {definition : Lease.SessionLeaseDefinition} :
    Value.normEntries definition.fields = definition.fields := by
  refine Value.normEntries_eq_self ?_
  rw [fields, List.forall_mem_append]
  constructor
  · simp only [List.forall_mem_cons]
    exact ⟨rfl, rfl, rfl, rfl, rfl, rfl, textArray_norm _, ResourceContract.toValue_norm _, nofun⟩
  · intro pair among
    cases held : definition.clientPublicKey with
    | none =>
        rw [held] at among
        cases among
    | some publicKey =>
        rw [held] at among
        rw [List.mem_singleton.mp among]
        rfl

theorem signed_norm (value : Int64) : (signed value).norm = signed value := by
  have fits : (signed value).Fits 1 := Track.fits_signed value
  exact fits.norm

theorem Retained.SceneNode.fields_normal {node : Retained.SceneNode} :
    Value.normEntries node.fields = node.fields ↔
      Value.normEntries node.geometry = node.geometry ∧
        ∀ clip, node.clip = some clip → Value.normEntries clip = clip := by
  constructor
  · intro same
    constructor
    · have held := congrArg (List.lookup 4) same
      exact Value.map.inj (Option.some.inj held)
    · intro clip clipped
      have held := congrArg List.getLast? same
      rw [fields, clipped] at held
      exact Value.map.inj (congrArg Prod.snd (Option.some.inj held))
  · rintro ⟨geometry, clipped⟩
    refine Value.normEntries_eq_self ?_
    rw [fields, List.forall_mem_append]
    constructor
    · simp only [List.forall_mem_cons]
      exact ⟨rfl, rfl, rfl, rfl, congrArg Value.map geometry, rfl, rfl, signed_norm _, rfl, rfl,
        rfl, nofun⟩
    · intro pair among
      cases held : node.clip with
      | none =>
          rw [held] at among
          cases among
      | some clip =>
          rw [held] at among
          rw [List.mem_singleton.mp among]
          exact congrArg Value.map (clipped clip held)

inductive RequestKind where
  | context
  | surface
  | sessionLease
  | sceneNode
  | inputBinding
  deriving Repr, DecidableEq

namespace RequestKind

abbrev Record : RequestKind → Type
  | context => Delegation.ContextDefinition
  | surface => Surface.SurfaceDefinition
  | sessionLease => Lease.SessionLeaseDefinition
  | sceneNode => Retained.SceneNode
  | inputBinding => Input.InputBinding

def payload : (kind : RequestKind) → kind.Record → Except MessageError PayloadMap
  | context => Delegation.ContextDefinition.payload
  | surface => Surface.SurfaceDefinition.createPayload
  | sessionLease => Lease.SessionLeaseDefinition.payload
  | sceneNode => Retained.SceneNode.payload
  | inputBinding => fun binding => .ok binding.payload

/-- The decoder of a lease does not look at the header. -/
def decode : (kind : RequestKind) → UInt64 → Value → Except MessageError kind.Record
  | context => Delegation.ContextDefinition.decode
  | surface => Surface.SurfaceDefinition.decodeCreate
  | sessionLease => fun _ => Lease.SessionLeaseDefinition.decode
  | sceneNode => Retained.SceneNode.decode
  | inputBinding => Input.InputBinding.decode

/-- What a decoder checks beyond the writer: that the record is under its object, and of a
binding everything. -/
def Legal : (kind : RequestKind) → UInt64 → kind.Record → Prop
  | context => fun above definition => above = definition.contextId
  | surface => fun above definition => above = definition.surfaceId
  | sessionLease => fun _ _ => True
  | sceneNode => fun above node => above = node.nodeId
  | inputBinding => fun above binding => binding.validate above = .ok ()

/-- What it carries as it came is in normal form. -/
def Normal : (kind : RequestKind) → kind.Record → Prop
  | context => fun _ => True
  | surface => fun definition =>
      Value.normEntries definition.profileParameters = definition.profileParameters
  | sessionLease => fun _ => True
  | sceneNode => fun node => Value.normEntries node.geometry = node.geometry ∧
      ∀ clip, node.clip = some clip → Value.normEntries clip = clip
  | inputBinding => fun _ => True

variable {kind : RequestKind} {above : UInt64} {record : kind.Record} {entries : PayloadMap}

theorem decode_eq_ok (fits : (Value.map entries).Fits maxDepth) :
    kind.decode above (.map entries) = .ok record ↔
      kind.Legal above record ∧ kind.payload record = .ok entries := by
  cases kind with
  | context => exact Delegation.ContextDefinition.decode_eq_ok fits
  | surface => exact Surface.SurfaceDefinition.decodeCreate_eq_ok fits
  | sessionLease =>
      exact (Lease.SessionLeaseDefinition.decode_eq_ok fits).trans (and_iff_right trivial).symm
  | sceneNode => exact Retained.SceneNode.decode_eq_ok fits
  | inputBinding =>
      exact (Input.InputBinding.decode_eq_ok fits).trans
        (and_congr_right fun _ => Except.ok.injEq _ _ ▸ Iff.rfl)

theorem normal_iff (written : kind.payload record = .ok entries) :
    Value.normEntries entries = entries ↔ kind.Normal record := by
  cases kind with
  | context =>
      obtain ⟨-, rfl⟩ := Delegation.ContextDefinition.payload_eq_ok.mp written
      exact iff_of_true Delegation.ContextDefinition.fields_normal trivial
  | surface =>
      obtain ⟨-, rfl⟩ := Surface.SurfaceDefinition.createPayload_eq_ok.mp written
      exact Surface.SurfaceDefinition.fields_normal
  | sessionLease =>
      obtain ⟨-, rfl⟩ := Lease.SessionLeaseDefinition.payload_eq_ok.mp written
      exact iff_of_true Lease.SessionLeaseDefinition.fields_normal trivial
  | sceneNode =>
      obtain ⟨-, rfl⟩ := Retained.SceneNode.payload_eq_ok.mp written
      exact Retained.SceneNode.fields_normal
  | inputBinding =>
      cases written
      exact iff_of_true rfl trivial

end RequestKind

/-- Both sides agree on a request.  What an envelope carried is read as a request exactly if
this is legal under the object of the header and written as what was carried; and what the
writer sends is read as itself exactly if it is legal there and in normal form. -/
theorem requests_exact (kind : RequestKind) (above : UInt64) (record : kind.Record) :
    (∀ (body : List UInt8) (envelope : Envelope), decodeControl body = .ok envelope →
      (kind.decode above (.map envelope.payload) = .ok record ↔
        kind.Legal above record ∧ kind.payload record = .ok envelope.payload)) ∧
    ∀ (requestId : UInt64) (fields : PayloadMap) (body : List UInt8),
      kind.payload record = .ok fields → encodePayload requestId fields = .ok body →
        ((∃ envelope, decodeControl body = .ok envelope ∧ envelope.requestId = requestId ∧
            kind.decode above (.map envelope.payload) = .ok record) ↔
          kind.Legal above record ∧ kind.Normal record) := by
  constructor
  · intro body envelope decoded
    exact RequestKind.decode_eq_ok (payload_fits decoded)
  · intro requestId fields body written sent
    rw [← RequestKind.normal_iff written]
    constructor
    · rintro ⟨envelope, decoded, -, read⟩
      have fits := payload_fits decoded
      obtain ⟨under, again⟩ := (RequestKind.decode_eq_ok fits).mp read
      have same : fields = envelope.payload := Except.ok.inj (written.symm.trans again)
      rw [same]
      exact ⟨under, Value.map.inj fits.norm⟩
    · rintro ⟨under, normal⟩
      have decoded := Envelope.decode_new sent normal
      have fits := payload_fits decoded
      exact ⟨_, decoded, rfl, (RequestKind.decode_eq_ok fits).mpr ⟨under, written⟩⟩

theorem requests_exact_canvas :
    ∃ body envelope, decodeControl body = .ok envelope ∧
      RequestKind.decode .surface 1 (.map envelope.payload) = .ok Surface.canvas ∧
      Surface.canvas.createPayload = .ok envelope.payload := by
  have written : Surface.canvas.createPayload =
      .ok (Surface.canvas.fields (.map Surface.canvas.descriptor.fields)) := rfl
  obtain ⟨body, sent⟩ : ∃ body, encodePayload 1
      (Surface.canvas.fields (.map Surface.canvas.descriptor.fields)) = .ok body := ⟨_, rfl⟩
  have agree := requests_exact .surface 1 Surface.canvas
  obtain ⟨envelope, decoded, -, read⟩ := (agree.2 1 _ body written sent).mpr ⟨rfl, rfl⟩
  exact ⟨body, envelope, decoded, read, ((agree.1 body envelope decoded).mp read).2⟩

end VividProtocol

import Mathlib.Tactic
import VividProtocol.Cbor.Size
import VividProtocol.Control.Envelope

/-!
# Error replies

`ErrorDetail` and `ErrorReply` of `messages.rs`, with the reply to a version
that is not supported.  The two sides check the same things, so a reply that is
written is read back and one that is read can be written.
-/

set_option autoImplicit false

namespace VividProtocol.Registry.Error

def AUTH_FAILED : UInt64 := 1
def UNSUPPORTED_VERSION : UInt64 := 2
def UNSUPPORTED_PROFILE : UInt64 := 3
def UNSUPPORTED_CONFIG : UInt64 := 4
def BAD_MESSAGE : UInt64 := 5
def BAD_STATE : UInt64 := 6
def DUPLICATE_ID : UInt64 := 7
def NOT_FOUND : UInt64 := 8
def LIMIT_EXCEEDED : UInt64 := 9
def NO_MEMORY : UInt64 := 10
def FLOW_CONTROL : UInt64 := 11
def HASH_MISMATCH : UInt64 := 12
def NEED_KEYFRAME : UInt64 := 13
def STALE_EPOCH : UInt64 := 14
def STALE_TARGET_GENERATION : UInt64 := 15
def ANCHOR_INVALIDATED : UInt64 := 16
def AUTHORITY_REVOKED : UInt64 := 17
def DECODER : UInt64 := 18
def DEVICE_LOST : UInt64 := 19
def TIMEOUT : UInt64 := 20
def PRECONDITION_FAILED : UInt64 := 21
def ALREADY_APPLIED : UInt64 := 22
def NOT_VISIBLE : UInt64 := 23
def CANCELLED : UInt64 := 24
def UNKNOWN_OUTCOME : UInt64 := 25
def CHANNEL_BUSY : UInt64 := 26
def STALE_CHANNEL_GENERATION : UInt64 := 27
def LEASE_SUSPENDED : UInt64 := 28
def RATE_LIMITED : UInt64 := 29
def INTEGRITY_FAILED : UInt64 := 30

def isRegistered (code : UInt64) : Bool :=
  [AUTH_FAILED, UNSUPPORTED_VERSION, UNSUPPORTED_PROFILE, UNSUPPORTED_CONFIG, BAD_MESSAGE,
    BAD_STATE, DUPLICATE_ID, NOT_FOUND, LIMIT_EXCEEDED, NO_MEMORY, FLOW_CONTROL, HASH_MISMATCH,
    NEED_KEYFRAME, STALE_EPOCH, STALE_TARGET_GENERATION, ANCHOR_INVALIDATED, AUTHORITY_REVOKED,
    DECODER, DEVICE_LOST, TIMEOUT, PRECONDITION_FAILED, ALREADY_APPLIED, NOT_VISIBLE, CANCELLED,
    UNKNOWN_OUTCOME, CHANNEL_BUSY, STALE_CHANNEL_GENERATION, LEASE_SUSPENDED, RATE_LIMITED,
    INTEGRITY_FAILED].contains code

end VividProtocol.Registry.Error

namespace VividProtocol

open VividProtocol.Cbor
open VividProtocol.Library
open VividProtocol.Library.Result
open VividProtocol.Registry

def VIVID_MAJOR : UInt8 := 1
def VIVID_MINOR : UInt8 := 5

def encodePayload (requestId : UInt64) (payload : PayloadMap) :
    Except MessageError (List UInt8) :=
  (Envelope.new requestId payload).encode

structure ErrorDetail where
  fields : PayloadMap
  deriving Repr

namespace ErrorDetail

/-- The body of the loop over the fields. -/
def checkField (field : UInt64 × Value) : Except MessageError Unit :=
  if (field.1 = 10 ∧ field.2.asBool.isNone) ∨ (field.1 ≠ 10 ∧ field.2.asU64.isNone) then
    .error (.wrongType "ERROR detail" field.1)
  else if field.1 = 12 ∧ field.2.asU64.any (2 < ·) then
    .error (invalidValue "ERROR detail" 12 "is not a registered idempotent result")
  else .ok ()

def checkFields : PayloadMap → Except MessageError Unit
  | [] => .ok ()
  | field :: rest => do
      checkField field
      checkFields rest

def validate (detail : ErrorDetail) : Except MessageError Unit := do
  validateSortedMap "ERROR detail" detail.fields
  match detail.fields.find? fun field => decide (18 < field.1) with
  | some (key, _) => .error (.unknownKey "ERROR detail" key)
  | none =>
      checkFields detail.fields
      let encoded ← orEncodeError (Cbor.encode (.map detail.fields))
      if 4096 < encoded.length then
        .error (invalidValue "ERROR detail" 0 "exceeds 4096 encoded bytes")
      else .ok ()

def new (fields : PayloadMap) : Except MessageError ErrorDetail := do
  let detail : ErrorDetail := { fields := fields }
  detail.validate
  .ok detail

def supportedVersion : ErrorDetail :=
  { fields := [(14, .unsigned VIVID_MAJOR.toUInt64), (15, .unsigned VIVID_MINOR.toUInt64)] }

def supportedVersionTuple (detail : ErrorDetail) : Option (UInt64 × UInt64) := do
  let major ← detail.fields.find? fun field => field.1 == 14
  let major ← major.2.asU64
  let minor ← detail.fields.find? fun field => field.1 == 15
  let minor ← minor.2.asU64
  some (major, minor)

end ErrorDetail

structure ErrorReply where
  code : UInt64
  requestId : UInt64
  detail : ErrorDetail
  fatal : Bool
  diagnostic : String
  deriving Repr

namespace ErrorReply

def payload (reply : ErrorReply) : PayloadMap :=
  [(0, .unsigned reply.code), (1, .unsigned reply.requestId), (2, .map reply.detail.fields),
    (3, .bool reply.fatal), (4, .text reply.diagnostic)]

def encode (reply : ErrorReply) : Except MessageError (List UInt8) := do
  if ! Error.isRegistered reply.code then
    .error (invalidValue "ERROR" 0 "is not a registered error code")
  else
    reply.detail.validate
    boundedText "ERROR" 4 reply.diagnostic 4096
    encodePayload reply.requestId reply.payload

end ErrorReply

def parseErrorReply (body : List UInt8) : Except MessageError ErrorReply := do
  let envelope ← decodeControl body
  let map ← StrictMap.new "ERROR" (.map envelope.payload) [0, 1, 2, 3, 4]
  let code ← map.requiredU64 0
  if ! Error.isRegistered code then
    .error (invalidValue "ERROR" 0 "is not a registered error code")
  else
    let failedRequestId ← map.requiredU64 1
    if failedRequestId ≠ envelope.requestId then
      .error (invalidValue "ERROR" 1 "does not match the envelope request ID")
    else
      let fields ← map.requiredMap 2
      let detail ← ErrorDetail.new fields
      let diagnostic ← map.requiredText 4
      boundedText "ERROR" 4 diagnostic 4096
      let fatal ← map.requiredBool 3
      .ok
        { code := code
          requestId := failedRequestId
          detail := detail
          fatal := fatal
          diagnostic := diagnostic }

/-- The tuple a rejection names is read from it. -/
theorem ErrorDetail.supportedVersion_tuple :
    supportedVersion.supportedVersionTuple =
      some (VIVID_MAJOR.toUInt64, VIVID_MINOR.toUInt64) := rfl

/-! ## What both sides check -/

/-- A detail with known keys of their types, in order and not too long. -/
structure ErrorDetail.Holds (detail : ErrorDetail) : Prop where
  sorted : (detail.fields.map Prod.fst).Pairwise (· < ·)
  known : ∀ field ∈ detail.fields, field.1 ≤ 18
  checked : ∀ field ∈ detail.fields, ErrorDetail.checkField field = .ok ()
  short : (Value.map detail.fields).size ≤ 4096

theorem ErrorDetail.checkFields_eq_ok {fields : PayloadMap} {done : Unit} :
    checkFields fields = .ok done ↔ ∀ field ∈ fields, checkField field = .ok () := by
  induction fields with
  | nil => simp [checkFields]
  | cons field rest ih =>
      rw [checkFields, check_bind_eq_ok_iff, ih, List.forall_mem_cons]

/-- A checked field is a number or, under its one key, a flag. -/
theorem ErrorDetail.checkField_shape {field : UInt64 × Value}
    (checked : checkField field = .ok ()) :
    (∃ value, field.2 = .unsigned value) ∨ ∃ value, field.2 = .bool value := by
  unfold checkField at checked
  have typed := (ite_error_eq_ok_iff.mp checked).1
  obtain ⟨key, value⟩ := field
  by_cases flag : key = 10
  · cases value <;> simp_all [Value.asBool, Value.asU64]
  · cases value <;> simp_all [Value.asBool, Value.asU64]

namespace ErrorDetail

variable {detail : ErrorDetail}

def keys : List UInt64 := (List.range 19).map UInt64.ofNat

theorem keys_sorted : keys.Pairwise (· < ·) := by decide

theorem mem_keys {key : UInt64} (known : key ≤ 18) : key ∈ keys := by
  have below : key.toNat ≤ 18 := UInt64.le_iff_toNat_le.mp known
  exact List.mem_map.mpr ⟨key.toNat, List.mem_range.mpr (by omega), UInt64.ofNat_toNat⟩

/-- A detail is flat. -/
theorem Holds.fits (holds : detail.Holds) (levels : Nat) :
    (Value.map detail.fields).Fits (levels + 2) := by
  have kept : (detail.fields.map Prod.fst).Sublist keys := by
    refine sublist_of_sorted holds.sorted keys_sorted ?_
    intro key among
    obtain ⟨field, inside, same⟩ := List.mem_map.mp among
    rw [← same]
    exact mem_keys (holds.known field inside)
  refine ⟨?_, unsortedKeys_of_sublist kept keys_sorted, ?_⟩
  · have few := kept.length_le
    rw [List.length_map] at few
    exact few.trans (by decide)
  · intro field among
    rcases checkField_shape (holds.checked field among) with ⟨value, same⟩ | ⟨value, same⟩
    · rw [same]
      exact @Value.fits_unsigned levels value
    · rw [same]
      exact @Value.fits_bool levels value

theorem validate_eq_ok {done : Unit} : detail.validate = .ok done ↔ detail.Holds := by
  unfold validate
  rw [check_bind_eq_ok_iff, validateSortedMap_eq_ok]
  cases found : detail.fields.find? fun field => decide (18 < field.1) with
  | some field =>
      have among := List.mem_of_find?_eq_some found
      have unknown : 18 < field.1 := by simpa using List.find?_some found
      constructor
      · intro passed
        cases passed.2
      · intro holds
        exact absurd (holds.known field among) (UInt64.not_le.mpr unknown)
  | none =>
      have known : ∀ field ∈ detail.fields, field.1 ≤ 18 := by
        simpa using List.find?_eq_none.mp found
      dsimp only
      rw [check_bind_eq_ok_iff, checkFields_eq_ok]
      simp only [bind_eq_ok_iff, orEncodeError_eq_ok, ite_error_eq_ok_iff]
      constructor
      · intro passed
        obtain ⟨sorted, checked, encoded, written, short, -⟩ := passed
        rw [length_of_encode written] at short
        exact ⟨sorted, known, checked, Nat.le_of_not_lt short⟩
      · intro holds
        obtain ⟨encoded, written⟩ := (holds.fits 15).encode
        refine ⟨holds.sorted, holds.checked, encoded, written, ?_, trivial⟩
        rw [length_of_encode written]
        exact Nat.not_lt.mpr holds.short

theorem new_eq_ok {fields : PayloadMap} :
    new fields = .ok detail ↔ fields = detail.fields ∧ detail.Holds := by
  unfold new
  rw [check_bind_eq_ok_iff, validate_eq_ok, Except.ok.injEq]
  constructor
  · rintro ⟨holds, rfl⟩
    exact ⟨rfl, holds⟩
  · rintro ⟨rfl, holds⟩
    exact ⟨holds, rfl⟩

end ErrorDetail

namespace ErrorReply

variable {reply : ErrorReply} {body : List UInt8}

structure Holds (reply : ErrorReply) : Prop where
  registered : Error.isRegistered reply.code = true
  detail : reply.detail.Holds
  short : reply.diagnostic.utf8ByteSize ≤ 4096

theorem encode_eq_ok :
    reply.encode = .ok body ↔
      reply.Holds ∧ (Envelope.new reply.requestId reply.payload).encode = .ok body := by
  unfold encode
  rw [ite_error_eq_ok_iff, check_bind_eq_ok_iff, check_bind_eq_ok_iff,
    ErrorDetail.validate_eq_ok, boundedText_eq_ok]
  constructor
  · rintro ⟨registered, detail, short, written⟩
    exact ⟨⟨by simpa using registered, detail, short⟩, written⟩
  · rintro ⟨holds, written⟩
    exact ⟨by simp [holds.registered], holds.detail, holds.short, written⟩

theorem Holds.fits (holds : reply.Holds) : (Value.map reply.payload).Fits maxDepth := by
  have number (value : UInt64) : (Value.unsigned value).Fits 15 := @Value.fits_unsigned 14 value
  refine ⟨?_, rfl, ?_⟩
  · exact (by decide : 5 ≤ maxContainerLength)
  · unfold payload
    intro entry among
    simp only [List.mem_cons, List.not_mem_nil, or_false] at among
    rcases among with rfl | rfl | rfl | rfl | rfl
    · exact number reply.code
    · exact number reply.requestId
    · exact holds.detail.fits 13
    · exact @Value.fits_bool 14 reply.fatal
    · refine (@Value.fits_text 14 reply.diagnostic).mpr ?_
      exact holds.short.trans (by decide)

/-- A reply within its checks can be written. -/
theorem Holds.encode (holds : reply.Holds) : ∃ body, reply.encode = .ok body := by
  obtain ⟨body, written⟩ := Envelope.encode_new reply.requestId holds.fits
  exact ⟨body, encode_eq_ok.mpr ⟨holds, written⟩⟩

end ErrorReply

/-- What is read from a body: its envelope's payload is the reply's, and the
reply is within its checks. -/
theorem parseErrorReply_eq_ok {body : List UInt8} {reply : ErrorReply} :
    parseErrorReply body = .ok reply ↔
      ∃ envelope, decodeControl body = .ok envelope ∧ envelope.requestId = reply.requestId ∧
        envelope.payload = reply.payload ∧ reply.Holds := by
  unfold parseErrorReply
  simp only [bind_eq_ok_iff, StrictMap.new_eq_ok, StrictMap.requiredU64_iff, ite_error_eq_ok_iff,
    StrictMap.requiredMap_eq_ok, ErrorDetail.new_eq_ok, StrictMap.requiredText_eq_ok,
    boundedText_eq_ok, StrictMap.requiredBool_iff, Except.ok.injEq]
  constructor
  · rintro ⟨envelope, decoded, map, ⟨-, same, known⟩, code, zero, registered, requestId, one,
      named, fields, two, detail, ⟨rfl, holds⟩, diagnostic, four, -, short, fatal, three, rfl⟩
    have held := Value.map.inj same
    rw [← held] at known zero one two three four
    obtain ⟨entries, -, reads⟩ := decodeControl_eq_ok.mp decoded
    have whole := StrictMap.assemble_sorted reads.payloadSorted (by decide) known
    refine ⟨envelope, decoded, (not_not.mp named).symm, ?_,
      { registered := by simpa using registered
        detail := holds
        short := short }⟩
    rw [← whole]
    simp only [Association.assemble_cons, Association.assemble_nil, zero, one, two, three, four,
      Association.entry_some, ErrorReply.payload, List.singleton_append]
  · rintro ⟨envelope, decoded, named, same, holds⟩
    refine ⟨envelope, decoded, ⟨"ERROR", envelope.payload⟩, ⟨rfl, rfl, ?_⟩, reply.code, ?_,
      by simp [holds.registered], reply.requestId, ?_, not_not.mpr named.symm,
      reply.detail.fields, ?_, reply.detail, ⟨rfl, holds.detail⟩, reply.diagnostic, ?_, (),
      holds.short, reply.fatal, ?_, rfl⟩
    all_goals rw [same]
    · intro entry among
      exact List.mem_map_of_mem (f := Prod.fst) among
    all_goals rfl

/-! ## Both directions -/

/-- The envelope of the body holds a request ID and a payload, and no other part. -/
def Bare (body : List UInt8) : Prop :=
  ∃ requestId payload, decode body = .ok (.map [(0, .unsigned requestId), (3, .map payload)])

theorem ErrorReply.Holds.normal {reply : ErrorReply} (holds : reply.Holds) :
    Value.normEntries reply.payload = reply.payload := by
  have same := holds.fits.norm
  rw [Value.norm] at same
  exact Value.map.inj same

theorem parse_of_encode {reply : ErrorReply} {body : List UInt8}
    (written : reply.encode = .ok body) : parseErrorReply body = .ok reply := by
  obtain ⟨holds, wrapped⟩ := ErrorReply.encode_eq_ok.mp written
  exact parseErrorReply_eq_ok.mpr
    ⟨_, Envelope.decode_new wrapped holds.normal, rfl, rfl, holds⟩

/-- What was read is written as it stood if its envelope held nothing else. -/
theorem encodePayload_iff_bare {envelope : Envelope} {body : List UInt8}
    (decoded : decodeControl body = .ok envelope) :
    encodePayload envelope.requestId envelope.payload = .ok body ↔ Bare body := by
  obtain ⟨entries, whole, reads⟩ := decodeControl_eq_ok.mp decoded
  constructor
  · intro written
    have back := Cbor.decode_of_encode (Envelope.encode_eq_ok.mp written).2.2
    exact ⟨_, _, back⟩
  · rintro ⟨requestId, payload, bare⟩
    rw [bare] at whole
    cases whole
    have zero : some (Value.unsigned requestId) = some (.unsigned envelope.requestId) :=
      reads.parts 0 (by decide) (by decide)
    have three : some (Value.map payload) = some (.map envelope.payload) :=
      reads.parts 3 (by decide) (by decide)
    cases zero
    cases three
    exact Envelope.encode_eq_ok.mpr ⟨reads.payloadSorted, .nil, encode_of_decode bare⟩

theorem encode_iff_bare {reply : ErrorReply} {body : List UInt8}
    (read : parseErrorReply body = .ok reply) : reply.encode = .ok body ↔ Bare body := by
  obtain ⟨envelope, decoded, named, same, holds⟩ := parseErrorReply_eq_ok.mp read
  rw [← encodePayload_iff_bare decoded, named, same, ErrorReply.encode_eq_ok]
  exact and_iff_right holds

/-- A reply that is written is read back; one that is read can be written, and
is written as it stood if its envelope held nothing else. -/
theorem error_replies_agree (reply : ErrorReply) (body : List UInt8) :
    (reply.encode = .ok body → parseErrorReply body = .ok reply) ∧
      (parseErrorReply body = .ok reply → (reply.encode = .ok body ↔ Bare body) ∧
        ∃ written, reply.encode = .ok written ∧ parseErrorReply written = .ok reply) := by
  refine ⟨parse_of_encode, fun read => ⟨encode_iff_bare read, ?_⟩⟩
  obtain ⟨-, -, -, -, holds⟩ := parseErrorReply_eq_ok.mp read
  obtain ⟨written, encoded⟩ := holds.encode
  exact ⟨written, encoded, parse_of_encode encoded⟩

/-! ## The reply to a version that is not supported -/

def unsupportedVersion : ErrorReply :=
  { code := Error.UNSUPPORTED_VERSION
    requestId := 0
    detail := .supportedVersion
    fatal := true
    diagnostic := "unsupported Vivid protocol version" }

/-- The body of the reply; its `expect` does not panic. -/
def unsupportedVersionError : List UInt8 := unsupportedVersion.encode.toOption.getD []

theorem unsupportedVersion_holds : unsupportedVersion.Holds where
  registered := by decide
  detail :=
    { sorted := by decide
      known := by decide
      checked := by decide
      short := by decide }
  short := by decide

theorem unsupportedVersion_encode : unsupportedVersion.encode = .ok unsupportedVersionError := by
  obtain ⟨body, written⟩ := unsupportedVersion_holds.encode
  unfold unsupportedVersionError
  rw [written]
  rfl

theorem error_replies_agree_unsupported :
    parseErrorReply unsupportedVersionError = .ok unsupportedVersion :=
  (error_replies_agree unsupportedVersion unsupportedVersionError).1 unsupportedVersion_encode

end VividProtocol

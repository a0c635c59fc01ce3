import Mathlib.Tactic
import VividProtocol.Control.ErrorReply
import VividProtocol.Wire.Reader
import VividProtocol.Wire.Writer

/-!
# The connection preface

`Preface`, `accept_preface` and `Connection::new_version` of `wire.rs`.  A
receiver takes exactly the prefaces an initiator of its own version writes; one
of another version gets a single typed error record back, and anything else
gets nothing.
-/

set_option autoImplicit false

namespace VividProtocol.Wire

open Library.BigEndian Library.Result

def PREFACE_SIZE : Nat := 16
/-- `b"VIVD"`. -/
def MAGIC : List UInt8 := [0x56, 0x49, 0x56, 0x44]
def CONTROL_MAX_RECORD_BODY : UInt32 := 1024 * 1024
def DEFAULT_MAX_RECORD_BODY : UInt32 := 64 * 1024 * 1024

def HELLO : UInt16 := 0x0001
def LANE_OPEN : UInt16 := 0x000a
def CHANNEL_OPEN : UInt16 := 0x8000

inductive ConnectionKind where
  | control
  | lane
  | track
  | fileTransfer
  deriving Repr, DecidableEq

namespace ConnectionKind

/-- `kind as u8`. -/
def byte : ConnectionKind → UInt8
  | .control => 0
  | .lane => 1
  | .track => 2
  | .fileTransfer => 3

/-- `TryFrom<u8>`. -/
def ofByte (value : UInt8) : Except IoError ConnectionKind :=
  if value = 0 then .ok .control
  else if value = 1 then .ok .lane
  else if value = 2 then .ok .track
  else if value = 3 then .ok .fileTransfer
  else .error ⟨.invalidData, "unknown Vivid connection kind " ++ toString value⟩

def requiredFirstRecord : ConnectionKind → UInt16
  | .control => HELLO
  | .lane => LANE_OPEN
  | .track => CHANNEL_OPEN
  | .fileTransfer => FILE_TRANSFER_OPEN

def validateFirstRecord (kind : ConnectionKind) (header : RecordHeader) : Except IoError Unit :=
  if header.sequence ≠ 1 ∨ header.recordType ≠ kind.requiredFirstRecord then
    .error ⟨.invalidData, "first record does not match the Vivid connection kind"⟩
  else if kind = .control ∧ header.objectId ≠ 0 then
    .error ⟨.invalidData, "HELLO must use session-level object ID zero"⟩
  else .ok ()

/-- The record-body limit a new connection starts with in both directions. -/
def bodyLimit (kind : ConnectionKind) : UInt32 :=
  if kind = .control then CONTROL_MAX_RECORD_BODY else DEFAULT_MAX_RECORD_BODY

theorem ofByte_eq_ok {value : UInt8} {kind : ConnectionKind} :
    ofByte value = .ok kind ↔ value = kind.byte := by
  unfold ofByte
  split_ifs with control lane track transfer
  · cases kind <;> simp [control, byte]
  · cases kind <;> simp [lane, byte]
  · cases kind <;> simp [track, byte]
  · cases kind <;> simp [transfer, byte]
  · cases kind <;> simp [control, lane, track, transfer, byte]

end ConnectionKind

structure Preface where
  major : UInt8
  minor : UInt8
  kind : ConnectionKind
  flags : UInt8
  initiatorTxBodyLimit : UInt32
  deriving Repr, DecidableEq

def encodePrefaceVersion (kind : ConnectionKind) (maximum : UInt32) (major minor : UInt8) :
    Bytes PREFACE_SIZE :=
  ⟨(MAGIC ++ [major, minor, kind.byte, 0] ++ toBytes 4 maximum.toNat ++ [0, 0, 0, 0]).toArray, by
    simp [MAGIC, PREFACE_SIZE]⟩

def encodePreface (kind : ConnectionKind) (maximum : UInt32) : Bytes PREFACE_SIZE :=
  encodePrefaceVersion kind maximum VIVID_MAJOR VIVID_MINOR

inductive PrefaceClassification where
  | accepted (preface : Preface)
  | unsupportedVersion (preface : Preface)
  deriving Repr, DecidableEq

namespace Preface

def decode (bytes : Bytes PREFACE_SIZE) : Except IoError Preface :=
  if bytes.toList.take 4 ≠ MAGIC then .error ⟨.invalidData, "invalid Vivid magic"⟩
  else if bytes.toList.drop 12 ≠ [0, 0, 0, 0] then
    .error ⟨.invalidData, "Vivid preface reserved bytes are nonzero"⟩
  else if bytes[7] ≠ 0 then
    .error ⟨.invalidData, "Vivid preface reserved flags are nonzero"⟩
  else
    let limit := UInt32.ofNat (ofBytes ((bytes.toList.drop 8).take 4))
    if limit = 0 ∨ HARD_MAX_RECORD_BODY < limit then
      .error ⟨.invalidData, "invalid Vivid maximum record size"⟩
    else do
      let kind ← ConnectionKind.ofByte bytes[6]
      .ok
        { major := bytes[4]
          minor := bytes[5]
          kind := kind
          flags := bytes[7]
          initiatorTxBodyLimit := limit }

def classify (bytes : Bytes PREFACE_SIZE) : Except IoError PrefaceClassification := do
  let preface ← decode bytes
  if preface.major = VIVID_MAJOR ∧ preface.minor = VIVID_MINOR then .ok (.accepted preface)
  else .ok (.unsupportedVersion preface)

end Preface

def unsupportedVersionRecord : List UInt8 :=
  let header : RecordHeader :=
    { bodyLength := UInt32.ofNat unsupportedVersionError.length
      recordType := ERROR
      flags := 0
      objectId := 0
      sequence := 1 }
  header.encode ++ unsupportedVersionError

/-- `Write::write_all` on a transport that takes everything or fails after some
of the bytes: its answer and the bytes it took. -/
def writeAll (bytes : List UInt8) : Option (Nat × IoError) → Except IoError Unit × List UInt8
  | none => (.ok (), bytes)
  | some (taken, error) => (.error error, bytes.take taken)

/-- The errors of `accept_preface`; `unsupported` is `ErrorKind::Unsupported`. -/
inductive PrefaceError where
  | io (error : IoError)
  | unsupported (message : String)
  deriving Repr, DecidableEq

/-- The answer to a preface and the bytes it puts on the transport. -/
def acceptPreface (bytes : Bytes PREFACE_SIZE) (fails : Option (Nat × IoError))
    (flushed : Except IoError Unit) : Except PrefaceError Preface × List UInt8 :=
  match Preface.classify bytes with
  | .error error => (.error (.io error), [])
  | .ok (.accepted preface) => (.ok preface, [])
  | .ok (.unsupportedVersion preface) =>
      match writeAll unsupportedVersionRecord fails with
      | (.error error, taken) => (.error (.io error), taken)
      | (.ok (), taken) =>
          match flushed with
          | .error error => (.error (.io error), taken)
          | .ok () =>
              (.error
                (.unsupported
                  ("unsupported Vivid version " ++ toString preface.major ++ "." ++
                    toString preface.minor ++ "; local version is " ++ toString VIVID_MAJOR ++
                    "." ++ toString VIVID_MINOR)),
                taken)

structure Connection where
  reader : Option ConnectionReader
  writer : ConnectionWriter
  deriving Repr, DecidableEq

/-- `Connection::new_version` over what its peer will send, if it has a reader:
the connection and the bytes put on the transport. -/
def Connection.newVersion (reader : Option (List UInt8)) (io : WriterIo) (kind : ConnectionKind)
    (major minor : UInt8) (fails : Option (Nat × IoError)) (flushed : Except IoError Unit) :
    Except IoError Connection × List UInt8 :=
  let preface := (encodePrefaceVersion kind kind.bodyLimit major minor).toList
  let (written, taken) := if io.carries then writeAll preface fails else (.ok (), [])
  match written with
  | .error error => (.error error, taken)
  | .ok () =>
      match if io.carries then flushed else .ok () with
      | .error error => (.error error, taken)
      | .ok () =>
          (.ok
            { reader := reader.map fun unread =>
                { unread := unread
                  receiveSequence := 0
                  receiveBodyLimit := kind.bodyLimit }
              writer := .connected io kind.bodyLimit .immediate },
            taken)

/-! ## The preface codec -/

/-- A record-body limit that a preface may carry. -/
def LegalLimit (limit : UInt32) : Prop := limit ≠ 0 ∧ limit ≤ HARD_MAX_RECORD_BODY

instance (limit : UInt32) : Decidable (LegalLimit limit) := inferInstanceAs (Decidable (_ ∧ _))

theorem preface_split (bytes : Bytes PREFACE_SIZE) :
    bytes.toList = bytes.toList.take 4 ++ [bytes[4], bytes[5], bytes[6], bytes[7]] ++
      (bytes.toList.drop 8).take 4 ++ bytes.toList.drop 12 := by
  have size : bytes.toList.length = 16 := bytes.length_toList
  have middle : bytes.toList.drop 4 =
      [bytes[4], bytes[5], bytes[6], bytes[7]] ++ bytes.toList.drop 8 := by
    rw [List.drop_eq_getElem_cons (by omega), List.drop_eq_getElem_cons (by omega),
      List.drop_eq_getElem_cons (by omega), List.drop_eq_getElem_cons (by omega)]
    rfl
  have last : bytes.toList.drop 8 =
      (bytes.toList.drop 8).take 4 ++ bytes.toList.drop 12 := by
    rw [← List.drop_drop (i := 4) (j := 8)]
    exact (List.take_append_drop 4 _).symm
  rw [List.append_assoc, ← last, List.append_assoc, ← middle, List.take_append_drop]

theorem toList_encodePrefaceVersion (kind : ConnectionKind) (maximum : UInt32)
    (major minor : UInt8) :
    (encodePrefaceVersion kind maximum major minor).toList =
      MAGIC ++ [major, minor, kind.byte, 0] ++ toBytes 4 maximum.toNat ++ [0, 0, 0, 0] := rfl

/-- The bytes of a preface are its parts. -/
theorem eq_encodePrefaceVersion {bytes : Bytes PREFACE_SIZE} {kind : ConnectionKind}
    {maximum : UInt32} {major minor : UInt8} :
    bytes = encodePrefaceVersion kind maximum major minor ↔
      bytes.toList.take 4 = MAGIC ∧ bytes[4] = major ∧ bytes[5] = minor ∧
        bytes[6] = kind.byte ∧ bytes[7] = 0 ∧
        (bytes.toList.drop 8).take 4 = toBytes 4 maximum.toNat ∧
        bytes.toList.drop 12 = [0, 0, 0, 0] := by
  have size : bytes.toList.length = 16 := bytes.length_toList
  have split := preface_split bytes
  rw [← Vector.toList_inj, toList_encodePrefaceVersion]
  constructor
  · intro same
    obtain ⟨front, zeros⟩ := List.append_inj' (split.symm.trans same) (by simp [size])
    obtain ⟨front, limit⟩ := List.append_inj' front (by simp [size])
    obtain ⟨magic, middle⟩ := List.append_inj' front rfl
    simp only [List.cons.injEq, and_true] at middle
    obtain ⟨first, second, third, fourth⟩ := middle
    exact ⟨magic, first, second, third, fourth, limit, zeros⟩
  · rintro ⟨magic, rfl, rfl, same, none, limit, zeros⟩
    rw [magic, same, none, limit, zeros] at split
    exact split

theorem decode_eq_ok {bytes : Bytes PREFACE_SIZE} {preface : Preface} :
    Preface.decode bytes = .ok preface ↔
      preface.flags = 0 ∧ LegalLimit preface.initiatorTxBodyLimit ∧
        bytes = encodePrefaceVersion preface.kind preface.initiatorTxBodyLimit preface.major
          preface.minor := by
  obtain ⟨major, minor, kind, flags, limit⟩ := preface
  have size : ((bytes.toList.drop 8).take 4).length = 4 := by
    have whole : bytes.toList.length = 16 := bytes.length_toList
    simp [whole]
  have word : UInt32.ofNat (ofBytes ((bytes.toList.drop 8).take 4)) = limit ↔
      (bytes.toList.drop 8).take 4 = toBytes 4 limit.toNat := by
    constructor
    · intro same
      have small := ofBytes_lt ((bytes.toList.drop 8).take 4)
      rw [size] at small
      rw [← same, UInt32.toNat_ofNat_of_lt' small]
      exact (toBytes_of_length size).symm
    · intro same
      rw [same, ofBytes_toBytes 4 limit.toNat limit.toNat_lt, UInt32.ofNat_toNat]
  unfold Preface.decode
  simp only [ite_error_eq_ok_iff, bind_eq_ok_iff, ConnectionKind.ofByte_eq_ok, not_not,
    Except.ok.injEq, Preface.mk.injEq, eq_encodePrefaceVersion, LegalLimit, not_or,
    UInt32.not_lt]
  constructor
  · rintro ⟨magic, zeros, none, ⟨some, bounded⟩, kind, same, rfl, rfl, rfl, rfl, rfl⟩
    exact ⟨none, ⟨some, bounded⟩, magic, rfl, rfl, same, none, word.mp rfl, zeros⟩
  · rintro ⟨none, ⟨some, bounded⟩, magic, first, second, same, zero, limit, zeros⟩
    rw [word.mpr limit]
    exact ⟨magic, zeros, zero, ⟨some, bounded⟩, kind, same, first, second, rfl,
      zero.trans none.symm, rfl⟩

/-! ## The answer to a preface -/

/-- A well-formed preface of another version. -/
def Foreign (bytes : Bytes PREFACE_SIZE) : Prop :=
  ∃ kind limit major minor, LegalLimit limit ∧ ¬ (major = VIVID_MAJOR ∧ minor = VIVID_MINOR) ∧
    bytes = encodePrefaceVersion kind limit major minor

theorem classify_accepted {bytes : Bytes PREFACE_SIZE} {preface : Preface} :
    Preface.classify bytes = .ok (.accepted preface) ↔
      (preface.major = VIVID_MAJOR ∧ preface.minor = VIVID_MINOR) ∧
        Preface.decode bytes = .ok preface := by
  unfold Preface.classify
  rw [bind_eq_ok_iff]
  constructor
  · rintro ⟨read, decoded, classified⟩
    split_ifs at classified with same
    · cases classified
      exact ⟨same, decoded⟩
    · cases classified
  · rintro ⟨same, decoded⟩
    exact ⟨preface, decoded, if_pos same⟩

theorem acceptPreface_accepted {bytes : Bytes PREFACE_SIZE} {preface : Preface}
    (classified : Preface.classify bytes = .ok (.accepted preface))
    (fails : Option (Nat × IoError)) (flushed : Except IoError Unit) :
    acceptPreface bytes fails flushed = (.ok preface, []) := by
  unfold acceptPreface
  rw [classified]

theorem classify_unsupported {bytes : Bytes PREFACE_SIZE} {preface : Preface} :
    Preface.classify bytes = .ok (.unsupportedVersion preface) ↔
      ¬ (preface.major = VIVID_MAJOR ∧ preface.minor = VIVID_MINOR) ∧
        Preface.decode bytes = .ok preface := by
  unfold Preface.classify
  rw [bind_eq_ok_iff]
  constructor
  · rintro ⟨read, decoded, classified⟩
    split_ifs at classified with same
    · cases classified
    · cases classified
      exact ⟨same, decoded⟩
  · rintro ⟨other, decoded⟩
    exact ⟨preface, decoded, if_neg other⟩

theorem classify_foreign {bytes : Bytes PREFACE_SIZE} :
    (∃ preface, Preface.classify bytes = .ok (.unsupportedVersion preface)) ↔ Foreign bytes := by
  simp only [classify_unsupported, decode_eq_ok]
  constructor
  · rintro ⟨preface, other, -, legal, same⟩
    exact ⟨_, _, _, _, legal, other, same⟩
  · rintro ⟨kind, limit, major, minor, legal, other, same⟩
    exact ⟨⟨major, minor, kind, 0, limit⟩, other, rfl, legal, same⟩

/-- A receiver takes a preface of its own version that is as an initiator writes
it, answers one of another version with the error record, and puts nothing on
the transport otherwise. -/
theorem preface_exchange (bytes : Bytes PREFACE_SIZE) (fails : Option (Nat × IoError))
    (flushed : Except IoError Unit) :
    (∀ preface, (acceptPreface bytes fails flushed).1 = .ok preface ↔
      (preface.major = VIVID_MAJOR ∧ preface.minor = VIVID_MINOR) ∧ preface.flags = 0 ∧
        LegalLimit preface.initiatorTxBodyLimit ∧
        bytes = encodePreface preface.kind preface.initiatorTxBodyLimit) ∧
      (Foreign bytes → (acceptPreface bytes fails flushed).2 =
        (writeAll unsupportedVersionRecord fails).2) ∧
      (¬ Foreign bytes → (acceptPreface bytes fails flushed).2 = []) := by
  have written (preface : Preface) :
      ((preface.major = VIVID_MAJOR ∧ preface.minor = VIVID_MINOR) ∧ preface.flags = 0 ∧
        LegalLimit preface.initiatorTxBodyLimit ∧
        bytes = encodePreface preface.kind preface.initiatorTxBodyLimit) ↔
      Preface.classify bytes = .ok (.accepted preface) := by
    rw [classify_accepted, decode_eq_ok]
    refine and_congr_right fun same => ?_
    unfold encodePreface
    rw [same.1, same.2]
  simp only [written, ← classify_foreign]
  unfold acceptPreface
  cases classified : Preface.classify bytes with
  | error error => simp
  | ok classification =>
      cases classification with
      | accepted preface => simp
      | unsupportedVersion preface =>
          refine ⟨?_, ?_, fun own => absurd ⟨preface, rfl⟩ own⟩
          · intro other
            rcases fails with _ | ⟨taken, error⟩
            · rcases flushed with error | done <;> simp [writeAll]
            · simp [writeAll]
          · intro foreign
            rcases fails with _ | ⟨taken, error⟩
            · rcases flushed with error | done <;> rfl
            · rfl

theorem preface_exchange_older :
    (acceptPreface (encodePrefaceVersion .control 4096 1 4) none (.ok ())).2 =
      unsupportedVersionRecord :=
  (preface_exchange (encodePrefaceVersion .control 4096 1 4) none (.ok ())).2.1
    ⟨.control, 4096, 1, 4, by decide, by decide, rfl⟩

/-! ## Learning the peer's version -/

theorem unsupportedVersionError_length : unsupportedVersionError.length = 54 := by
  have written := (ErrorReply.encode_eq_ok.mp unsupportedVersion_encode).2
  rw [Cbor.length_of_encode (Envelope.encode_eq_ok.mp written).2.2]
  decide

/-- The one record of a rejection, around a body. -/
def rejection (body : List UInt8) : Record :=
  { header :=
      { bodyLength := UInt32.ofNat body.length
        recordType := ERROR
        flags := 0
        objectId := 0
        sequence := 1 }
    body := body }

theorem rejection_encode : (rejection unsupportedVersionError).encode = unsupportedVersionRecord :=
  rfl

theorem rejection_follows {body : List UInt8} (short : body.length ≤ 4096) :
    (rejection body).Follows 0 ∧ (rejection body).header.bodyLength ≤ CONTROL_MAX_RECORD_BODY := by
  have length : (rejection body).header.bodyLength.toNat = body.length := by
    change (UInt32.ofNat body.length).toNat = body.length
    exact UInt32.toNat_ofNat_of_lt' (lt_of_le_of_lt short (by decide))
  have bounded (limit : UInt32) (room : 4096 ≤ limit.toNat) :
      (rejection body).header.bodyLength ≤ limit := by
    rw [UInt32.le_iff_toNat_le, length]
    exact short.trans room
  have flags : (rejection body).header.flags = 0 := rfl
  refine ⟨⟨⟨?_, length, bounded _ (by decide)⟩, rfl⟩, bounded _ (by decide)⟩
  rw [flags]
  decide

/-- A record that may come next is read whole from its bytes. -/
theorem readRecord_whole {record : Record} {sequence : UInt64} {limit : UInt32}
    (follows : record.Follows sequence) (small : record.header.bodyLength ≤ limit) :
    ConnectionReader.readRecord ⟨record.encode, sequence, limit⟩ =
      .ok (record, ⟨[], record.header.sequence, limit⟩) := by
  have head := readRecord_header follows limit record.body
  have body : ConnectionReader.readExact ⟨record.body ++ [], record.header.sequence, limit⟩
      record.body.length = .ok (record.body, ⟨[], record.header.sequence, limit⟩) :=
    readExact_append rfl
  rw [List.append_nil] at body
  rw [if_neg (UInt32.not_lt.mpr small), body] at head
  exact head

/-- From a part of its bytes it is not read. -/
theorem readRecord_part {record : Record} {sequence : UInt64} {limit : UInt32}
    {bytes : List UInt8} (follows : record.Follows sequence)
    (small : record.header.bodyLength ≤ limit) (cut : bytes <+: record.encode)
    (part : bytes ≠ record.encode) :
    ConnectionReader.readRecord ⟨bytes, sequence, limit⟩ = .error unexpectedEof := by
  have short : bytes.length < record.encode.length := by
    refine lt_of_le_of_ne cut.length_le fun same => part ?_
    exact cut.eq_of_length same
  rw [Record.length_encode] at short
  by_cases header : bytes.length < HEADER_SIZE
  · rw [ConnectionReader.readRecord, readExact_short header, error_bind]
  · have size := record.header.length_encode
    obtain ⟨body, rfl⟩ : record.header.encode <+: bytes :=
      List.prefix_of_prefix_length_le (List.prefix_append _ _) cut (by omega)
    rw [List.length_append, size] at short
    rw [readRecord_header follows limit body, if_neg (UInt32.not_lt.mpr small),
      readExact_short (show body.length < record.body.length by omega), error_bind]

/-- What an initiator learns from a rejection: one fatal error that names a
version, and any connection it opens with that version is accepted. -/
structure Teaches (record : Record) : Prop where
  typed : record.header.recordType = ERROR
  session : record.header.objectId = 0
  names : ∃ reply major minor, parseErrorReply record.body = .ok reply ∧
    reply.code = Registry.Error.UNSUPPORTED_VERSION ∧ reply.fatal = true ∧
    reply.detail.supportedVersionTuple = some (major, minor) ∧
    ∀ (kind : ConnectionKind) (fails : Option (Nat × IoError)) (flushed : Except IoError Unit),
      acceptPreface
          (encodePrefaceVersion kind kind.bodyLimit major.toUInt8 minor.toUInt8) fails flushed =
        (.ok
          { major := VIVID_MAJOR
            minor := VIVID_MINOR
            kind := kind
            flags := 0
            initiatorTxBodyLimit := kind.bodyLimit }, [])

theorem bodyLimit_legal (kind : ConnectionKind) : LegalLimit kind.bodyLimit := by
  cases kind <;> decide

theorem classify_own (kind : ConnectionKind) :
    Preface.classify (encodePrefaceVersion kind kind.bodyLimit VIVID_MAJOR VIVID_MINOR) =
      .ok (.accepted
        { major := VIVID_MAJOR
          minor := VIVID_MINOR
          kind := kind
          flags := 0
          initiatorTxBodyLimit := kind.bodyLimit }) :=
  classify_accepted.mpr ⟨⟨rfl, rfl⟩, decode_eq_ok.mpr ⟨rfl, bodyLimit_legal kind, rfl⟩⟩

theorem teaches_of_body {body : List UInt8} (read : parseErrorReply body = .ok unsupportedVersion) :
    Teaches (rejection body) where
  typed := rfl
  session := rfl
  names := by
    refine ⟨unsupportedVersion, VIVID_MAJOR.toUInt64, VIVID_MINOR.toUInt64, read, rfl, rfl,
      ErrorDetail.supportedVersion_tuple, ?_⟩
    intro kind fails flushed
    rw [UInt8.toUInt8_toUInt64, UInt8.toUInt8_toUInt64]
    exact acceptPreface_accepted (classify_own kind) fails flushed

/-- An initiator of another version, on a transport that takes its preface, reads
from the answer the one record that teaches it the version to use, or the end of
the bytes where the receiver's transport failed. -/
theorem version_negotiated (io : WriterIo) (kind : ConnectionKind) (major minor : UInt8)
    (other : ¬ (major = VIVID_MAJOR ∧ minor = VIVID_MINOR)) (fails : Option (Nat × IoError))
    (flushed : Except IoError Unit) :
    let preface := encodePrefaceVersion kind kind.bodyLimit major minor
    let answer := (acceptPreface preface fails flushed).2
    ∃ reader writer,
      Connection.newVersion (some answer) io kind major minor none (.ok ()) =
        (.ok { reader := some reader, writer := writer },
          if io.carries then preface.toList else []) ∧
      ((∃ record after, reader.readRecord = .ok (record, after) ∧ after.unread = [] ∧
          Teaches record) ∨
        fails ≠ none ∧ reader.readRecord = .error unexpectedEof) := by
  intro preface answer
  have foreign : Foreign preface := ⟨kind, _, major, minor, bodyLimit_legal kind, other, rfl⟩
  have sent : answer = (writeAll unsupportedVersionRecord fails).2 :=
    (preface_exchange preface fails flushed).2.1 foreign
  have written := unsupportedVersion_encode
  have teaches := teaches_of_body (parse_of_encode written)
  have length := unsupportedVersionError_length
  rw [← rejection_encode] at sent
  generalize unsupportedVersionError = body at sent teaches length
  have short : body.length ≤ 4096 := by omega
  obtain ⟨follows, small⟩ := rejection_follows short
  have within : (rejection body).header.bodyLength ≤ kind.bodyLimit := by
    refine UInt32.le_trans small ?_
    cases kind <;> decide
  refine ⟨⟨answer, 0, kind.bodyLimit⟩, .connected io kind.bodyLimit .immediate, ?_, ?_⟩
  · unfold Connection.newVersion
    cases io.carries <;> rfl
  · by_cases whole : answer = (rejection body).encode
    · left
      refine ⟨rejection body, ⟨[], (rejection body).header.sequence, kind.bodyLimit⟩, ?_, rfl,
        teaches⟩
      rw [whole]
      exact readRecord_whole follows within
    · right
      have cut : answer <+: (rejection body).encode := by
        rw [sent]
        rcases fails with _ | ⟨taken, error⟩
        · exact List.prefix_rfl
        · exact List.take_prefix _ _
      refine ⟨?_, readRecord_part follows within cut whole⟩
      rintro rfl
      exact whole sent

theorem version_negotiated_older :
    let preface := encodePrefaceVersion .lane (ConnectionKind.bodyLimit .lane) 1 4
    let answer := (acceptPreface preface none (.ok ())).2
    ∃ reader writer,
      Connection.newVersion (some answer) .tcp .lane 1 4 none (.ok ()) =
        (.ok { reader := some reader, writer := writer }, preface.toList) ∧
      ∃ record after, reader.readRecord = .ok (record, after) ∧ after.unread = [] ∧
        Teaches record := by
  obtain ⟨reader, writer, opened, read⟩ :=
    version_negotiated .tcp .lane 1 4 (by decide) none (.ok ())
  refine ⟨reader, writer, opened, ?_⟩
  rcases read with read | ⟨failed, -⟩
  · exact read
  · exact absurd rfl failed

end VividProtocol.Wire

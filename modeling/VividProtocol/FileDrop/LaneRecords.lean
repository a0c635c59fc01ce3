import Mathlib.Tactic
import VividProtocol.FileDrop.Agreement

/-!
# Records of a file lane

The bodies that `file_drop.rs` carries on a transfer lane, from the opening to
the result.  They are CBOR maps without an envelope, and each decoder is the
inverse of its encoder.
-/

set_option autoImplicit false

namespace VividProtocol.FileDrop

open VividProtocol.Cbor
open VividProtocol.Wire
open VividProtocol.Library.Result
open VividProtocol.Library.Association

def FILE_TRANSFER_NONCE_BYTES : Nat := 16
def FILE_TRANSFER_TAG_BYTES : Nat := 16
def FILE_HASH_BYTES : Nat := 32
def MAX_COMMITTED_PATH_BYTES : Nat := 4096

def encodeRaw (payload : PayloadMap) : Except MessageError (List UInt8) :=
  orEncodeError (encode (.map payload))

/-- The map of a body. -/
def decodeRaw (schema : String) (keys : List UInt64) (body : List UInt8) :
    Except MessageError StrictMap := do
  let value ← orDecodeError (decode body)
  StrictMap.new schema value keys

def validateCommittedPath (path finalName : String) : Except MessageError Unit :=
  if path = "" ∨ MAX_COMMITTED_PATH_BYTES < path.utf8ByteSize ∨ path.toList.head? ≠ some '/' ∨
      path.toList.any isControl = true ∨ ['.', '.'] ∈ path.toList.splitOn '/' ∨
      (path.toList.splitOn '/').getLast? ≠ some finalName.toList then
    .error (invalidValue "FILE_RESULT" 5 "is not a safe absolute committed path")
  else .ok ()

/-! ## Opening -/

structure FileTransferOpen where
  sessionId : UInt64
  contextId : UInt64
  surfaceId : UInt64
  producerEpoch : FileDropEpoch
  grantGeneration : FileDropGrantGeneration
  surfaceGeneration : SurfaceGeneration
  dropId : UInt64
  transferId : UInt64
  transferGeneration : FileTransferGeneration
  resumeOffset : UInt64
  maximumRecordBody : UInt32
  maximumBodyBytes : UInt64
  maximumRecords : UInt64
  clientNonce : Bytes FILE_TRANSFER_NONCE_BYTES
  authenticationTag : Bytes FILE_TRANSFER_TAG_BYTES
  deriving DecidableEq

namespace FileTransferOpen

def validate (opening : FileTransferOpen) : Except MessageError Unit := do
  let _ ← requireNonzero "FILE_TRANSFER_OPEN" 0 opening.sessionId
  let _ ← requireNonzero "FILE_TRANSFER_OPEN" 1 opening.contextId
  let _ ← requireNonzero "FILE_TRANSFER_OPEN" 3 opening.dropId
  let _ ← requireNonzero "FILE_TRANSFER_OPEN" 4 opening.transferId
  requireCounter "FILE_TRANSFER_OPEN" 5 opening.transferGeneration
  requireCounter "FILE_TRANSFER_OPEN" 12 opening.producerEpoch
  requireCounter "FILE_TRANSFER_OPEN" 13 opening.grantGeneration
  if mismatchedScope opening.surfaceId opening.surfaceGeneration = true then
    .error (invalidValue "FILE_TRANSFER_OPEN" 14 "does not match the scoped surface identity")
  else
    validateCredit opening.maximumRecordBody opening.maximumBodyBytes opening.maximumRecords
      "FILE_TRANSFER_OPEN"

def fields (opening : FileTransferOpen) : PayloadMap :=
  [(0, .unsigned opening.sessionId),
    (1, .unsigned opening.contextId),
    (2, .unsigned opening.surfaceId),
    (3, .unsigned opening.dropId),
    (4, .unsigned opening.transferId),
    (5, .unsigned opening.transferGeneration.value),
    (6, .unsigned opening.resumeOffset),
    (7, .unsigned opening.maximumRecordBody.toUInt64),
    (8, .unsigned opening.maximumBodyBytes),
    (9, .unsigned opening.maximumRecords),
    (10, .bytes opening.clientNonce.toList),
    (11, .bytes opening.authenticationTag.toList),
    (12, .unsigned opening.producerEpoch.value),
    (13, .unsigned opening.grantGeneration.value),
    (14, .unsigned opening.surfaceGeneration.value)]

def encode (opening : FileTransferOpen) : Except MessageError (List UInt8) := do
  opening.validate
  encodeRaw opening.fields

def decode (body : List UInt8) : Except MessageError FileTransferOpen := do
  let map ← decodeRaw "FILE_TRANSFER_OPEN" [0, 1, 2, 3, 4, 5, 6, 7, 8, 9, 10, 11, 12, 13, 14] body
  let sessionId ← map.requiredU64 0
  let contextId ← map.requiredU64 1
  let surfaceId ← map.requiredU64 2
  let producerEpoch ← map.requiredU64 12
  let grantGeneration ← map.requiredU64 13
  let surfaceGeneration ← map.requiredU64 14
  let dropId ← map.requiredU64 3
  let transferId ← map.requiredU64 4
  let transferGeneration ← map.requiredU64 5
  let resumeOffset ← map.requiredU64 6
  let maximumRecordBody ← map.requiredU32 7
  let maximumBodyBytes ← map.requiredU64 8
  let maximumRecords ← map.requiredU64 9
  let clientNonce ← map.requiredFixedBytes 10 FILE_TRANSFER_NONCE_BYTES
  let authenticationTag ← map.requiredFixedBytes 11 FILE_TRANSFER_TAG_BYTES
  let opening : FileTransferOpen :=
    { sessionId := sessionId
      contextId := contextId
      surfaceId := surfaceId
      producerEpoch := ⟨producerEpoch⟩
      grantGeneration := ⟨grantGeneration⟩
      surfaceGeneration := ⟨surfaceGeneration⟩
      dropId := dropId
      transferId := transferId
      transferGeneration := ⟨transferGeneration⟩
      resumeOffset := resumeOffset
      maximumRecordBody := maximumRecordBody
      maximumBodyBytes := maximumBodyBytes
      maximumRecords := maximumRecords
      clientNonce := clientNonce
      authenticationTag := authenticationTag }
  opening.validate
  .ok opening

end FileTransferOpen

structure FileTransferAccepted where
  transferId : UInt64
  transferGeneration : FileTransferGeneration
  resumeOffset : UInt64
  deriving DecidableEq

namespace FileTransferAccepted

def fields (accepted : FileTransferAccepted) : PayloadMap :=
  [(0, .unsigned accepted.transferId),
    (1, .unsigned accepted.transferGeneration.value),
    (2, .unsigned accepted.resumeOffset)]

def encode (accepted : FileTransferAccepted) : Except MessageError (List UInt8) := do
  let _ ← requireNonzero "FILE_TRANSFER_ACCEPTED" 0 accepted.transferId
  requireCounter "FILE_TRANSFER_ACCEPTED" 1 accepted.transferGeneration
  encodeRaw accepted.fields

def decode (body : List UInt8) : Except MessageError FileTransferAccepted := do
  let map ← decodeRaw "FILE_TRANSFER_ACCEPTED" [0, 1, 2] body
  let transferId ← map.requiredU64 0
  let transferId ← requireNonzero "FILE_TRANSFER_ACCEPTED" 0 transferId
  let transferGeneration ← map.requiredU64 1
  let resumeOffset ← map.requiredU64 2
  let accepted : FileTransferAccepted := ⟨transferId, ⟨transferGeneration⟩, resumeOffset⟩
  requireCounter "FILE_TRANSFER_ACCEPTED" 1 accepted.transferGeneration
  .ok accepted

end FileTransferAccepted

/-! ## Credit and finish -/

structure MaximumFileData where
  transferId : UInt64
  transferGeneration : FileTransferGeneration
  maximumBodyBytes : UInt64
  maximumRecords : UInt64
  deriving DecidableEq

namespace MaximumFileData

def fields (maximum : MaximumFileData) : PayloadMap :=
  [(0, .unsigned maximum.transferId),
    (1, .unsigned maximum.transferGeneration.value),
    (2, .unsigned maximum.maximumBodyBytes),
    (3, .unsigned maximum.maximumRecords)]

def encode (maximum : MaximumFileData) : Except MessageError (List UInt8) := do
  let _ ← requireNonzero "MAX_FILE_DATA" 0 maximum.transferId
  requireCounter "MAX_FILE_DATA" 1 maximum.transferGeneration
  if maximum.maximumBodyBytes = 0 ∨ maximum.maximumRecords = 0 then
    .error (invalidValue "MAX_FILE_DATA" 2 "has zero credit")
  else encodeRaw maximum.fields

def decode (body : List UInt8) : Except MessageError MaximumFileData := do
  let map ← decodeRaw "MAX_FILE_DATA" [0, 1, 2, 3] body
  let transferId ← map.requiredU64 0
  let transferId ← requireNonzero "MAX_FILE_DATA" 0 transferId
  let transferGeneration ← map.requiredU64 1
  let maximumBodyBytes ← map.requiredU64 2
  let maximumRecords ← map.requiredU64 3
  let maximum : MaximumFileData :=
    ⟨transferId, ⟨transferGeneration⟩, maximumBodyBytes, maximumRecords⟩
  let _ ← maximum.encode
  .ok maximum

end MaximumFileData

structure FileFinish where
  transferId : UInt64
  transferGeneration : FileTransferGeneration
  finalLength : UInt64
  sha256 : Bytes FILE_HASH_BYTES
  deriving DecidableEq

namespace FileFinish

def fields (finish : FileFinish) : PayloadMap :=
  [(0, .unsigned finish.transferId),
    (1, .unsigned finish.transferGeneration.value),
    (2, .unsigned finish.finalLength),
    (3, .bytes finish.sha256.toList)]

def encode (finish : FileFinish) : Except MessageError (List UInt8) := do
  let _ ← requireNonzero "FILE_FINISH" 0 finish.transferId
  requireCounter "FILE_FINISH" 1 finish.transferGeneration
  encodeRaw finish.fields

def decode (body : List UInt8) : Except MessageError FileFinish := do
  let map ← decodeRaw "FILE_FINISH" [0, 1, 2, 3] body
  let transferId ← map.requiredU64 0
  let transferId ← requireNonzero "FILE_FINISH" 0 transferId
  let transferGeneration ← map.requiredU64 1
  let finalLength ← map.requiredU64 2
  let sha256 ← map.requiredFixedBytes 3 FILE_HASH_BYTES
  let finish : FileFinish := ⟨transferId, ⟨transferGeneration⟩, finalLength, sha256⟩
  requireCounter "FILE_FINISH" 1 finish.transferGeneration
  .ok finish

end FileFinish

/-! ## Result and abort -/

structure FileResult where
  transferId : UInt64
  transferGeneration : FileTransferGeneration
  result : FileResultCode
  committedLength : UInt64
  finalName : String
  committedPath : Option String
  deriving DecidableEq

namespace FileResult

/-- The result is one of a file that is there. -/
def committed (result : FileResult) : Bool :=
  match result.result with
  | .committed => true
  | .alreadyCommitted => true
  | _ => false

def validateFinalName (result : FileResult) : Except MessageError Unit :=
  if result.committed = true then validateSuggestedName result.finalName
  else if result.finalName ≠ "" then
    .error (invalidValue "FILE_RESULT" 4 "must omit the final name on failure")
  else .ok ()

def pathEntries (result : FileResult) : Except MessageError PayloadMap :=
  match result.committedPath with
  | none => .ok []
  | some path =>
      if result.committed = false then
        .error (invalidValue "FILE_RESULT" 5 "is only carried by a committed result")
      else do
        validateCommittedPath path result.finalName
        .ok [(5, .text path)]

def entries (result : FileResult) : PayloadMap :=
  [(0, .unsigned result.transferId),
    (1, .unsigned result.transferGeneration.value),
    (2, .unsigned result.result.toWord),
    (3, .unsigned result.committedLength),
    (4, .text result.finalName)]

def encode (result : FileResult) : Except MessageError (List UInt8) := do
  let _ ← requireNonzero "FILE_RESULT" 0 result.transferId
  requireCounter "FILE_RESULT" 1 result.transferGeneration
  result.validateFinalName
  let path ← result.pathEntries
  encodeRaw (result.entries ++ path)

def decode (body : List UInt8) : Except MessageError FileResult := do
  let map ← decodeRaw "FILE_RESULT" [0, 1, 2, 3, 4, 5] body
  let transferId ← map.requiredU64 0
  let transferGeneration ← map.requiredU64 1
  let code ← map.requiredU64 2
  let code ← FileResultCode.tryFrom code
  let committedLength ← map.requiredU64 3
  let finalName ← map.requiredText 4
  let committedPath ← map.optionalText 5
  let result : FileResult :=
    ⟨transferId, ⟨transferGeneration⟩, code, committedLength, finalName, committedPath⟩
  let _ ← result.encode
  .ok result

end FileResult

structure FileTransferAbort where
  transferId : UInt64
  transferGeneration : FileTransferGeneration
  reason : UInt64
  finalOffset : UInt64
  deriving DecidableEq

namespace FileTransferAbort

def fields (abort : FileTransferAbort) : PayloadMap :=
  [(0, .unsigned abort.transferId),
    (1, .unsigned abort.transferGeneration.value),
    (2, .unsigned abort.reason),
    (3, .unsigned abort.finalOffset)]

def encode (abort : FileTransferAbort) : Except MessageError (List UInt8) := do
  let _ ← requireNonzero "FILE_TRANSFER_ABORT" 0 abort.transferId
  requireCounter "FILE_TRANSFER_ABORT" 1 abort.transferGeneration
  if 7 < abort.reason then
    .error (invalidValue "FILE_TRANSFER_ABORT" 2 "has an unknown abort reason")
  else encodeRaw abort.fields

def decode (body : List UInt8) : Except MessageError FileTransferAbort := do
  let map ← decodeRaw "FILE_TRANSFER_ABORT" [0, 1, 2, 3] body
  let transferId ← map.requiredU64 0
  let transferGeneration ← map.requiredU64 1
  let reason ← map.requiredU64 2
  let finalOffset ← map.requiredU64 3
  let abort : FileTransferAbort := ⟨transferId, ⟨transferGeneration⟩, reason, finalOffset⟩
  let _ ← abort.encode
  .ok abort

end FileTransferAbort

end VividProtocol.FileDrop

import Mathlib.Tactic
import VividProtocol.Control.Maps
import VividProtocol.FileDrop.Flow

/-!
# File-drop records

The control records of `file_drop.rs`: their fields, the checks each side makes
and the maps they are carried in.
-/

set_option autoImplicit false

namespace VividProtocol.FileDrop

open VividProtocol.Wire
open VividProtocol.Library.Result

def MAX_FILE_DROP_NAME_BYTES : Nat := 255
def MAX_PENDING_FILE_DROPS : UInt64 := 16
def MAX_ACTIVE_FILE_TRANSFERS : UInt64 := 4
def MIN_FILE_DROP_DEADLINE_US : UInt64 := 1000000
def MAX_FILE_DROP_DEADLINE_US : UInt64 := 300000000

/-! ## Codes -/

inductive FileDropDestination where
  | shellCwd
  | desktopFolder
  deriving Repr, DecidableEq

namespace FileDropDestination

def toWord : FileDropDestination → UInt64
  | .shellCwd => 1
  | .desktopFolder => 2

def tryFrom (value : UInt64) : Except MessageError FileDropDestination :=
  if value = 1 then .ok .shellCwd
  else if value = 2 then .ok .desktopFolder
  else .error (invalidValue "file-drop destination" 4 "is not a known destination")

end FileDropDestination

/-- `destination.map_or(0, |value| value as u64)`. -/
def destinationWord : Option FileDropDestination → UInt64
  | none => 0
  | some destination => destination.toWord

def requiredDestination (map : StrictMap) (key : UInt64) :
    Except MessageError (Option FileDropDestination) := do
  let value ← map.requiredU64 key
  if value = 0 then .ok none
  else do
    let destination ← FileDropDestination.tryFrom value
    .ok (some destination)

inductive FileDropBindingState where
  | disabled
  | enabled
  | denied
  | standby
  deriving Repr, DecidableEq

namespace FileDropBindingState

def toWord : FileDropBindingState → UInt64
  | .disabled => 0
  | .enabled => 1
  | .denied => 2
  | .standby => 3

def tryFrom (value : UInt64) : Except MessageError FileDropBindingState :=
  if value = 0 then .ok .disabled
  else if value = 1 then .ok .enabled
  else if value = 2 then .ok .denied
  else if value = 3 then .ok .standby
  else .error (invalidValue "FILE_DROP_BOUND" 5 "has an unknown binding state")

end FileDropBindingState

inductive FileDropState where
  | offered
  | accepted
  | transferring
  | committed
  | cancelled
  | failed
  deriving Repr, DecidableEq

namespace FileDropState

def toWord : FileDropState → UInt64
  | .offered => 1
  | .accepted => 2
  | .transferring => 3
  | .committed => 4
  | .cancelled => 5
  | .failed => 6

def tryFrom (value : UInt64) : Except MessageError FileDropState :=
  if value = 1 then .ok .offered
  else if value = 2 then .ok .accepted
  else if value = 3 then .ok .transferring
  else if value = 4 then .ok .committed
  else if value = 5 then .ok .cancelled
  else if value = 6 then .ok .failed
  else .error (invalidValue "FILE_DROP_STATUS" 1 "has an unknown state")

end FileDropState

inductive FileResultCode where
  | committed
  | rejected
  | cancelled
  | hashMismatch
  | ioError
  | alreadyCommitted
  deriving Repr, DecidableEq

namespace FileResultCode

def toWord : FileResultCode → UInt64
  | .committed => 0
  | .rejected => 1
  | .cancelled => 2
  | .hashMismatch => 3
  | .ioError => 4
  | .alreadyCommitted => 5

def tryFrom (value : UInt64) : Except MessageError FileResultCode :=
  if value = 0 then .ok .committed
  else if value = 1 then .ok .rejected
  else if value = 2 then .ok .cancelled
  else if value = 3 then .ok .hashMismatch
  else if value = 4 then .ok .ioError
  else if value = 5 then .ok .alreadyCommitted
  else .error (invalidValue "FILE_RESULT" 2 "has an unknown result")

end FileResultCode

/-- `u64::MAX`, which stands for no result. -/
def noResult : UInt64 := ⟨BitVec.allOnes 64⟩

def resultWord : Option FileResultCode → UInt64
  | none => noResult
  | some result => result.toWord

def requiredResult (map : StrictMap) (key : UInt64) :
    Except MessageError (Option FileResultCode) := do
  let value ← map.requiredU64 key
  if value = noResult then .ok none
  else do
    let result ← FileResultCode.tryFrom value
    .ok (some result)

/-! ## Shared checks -/

/-- `char::is_control`: the Unicode category `Cc`. -/
def isControl (character : Char) : Bool :=
  decide (character.val < 0x20) ||
    decide (0x7f ≤ character.val) && decide (character.val ≤ 0x9f)

/-- The suffixes of the numbered device names. -/
def deviceSuffixes : List (List Char) :=
  [['1'], ['2'], ['3'], ['4'], ['5'], ['6'], ['7'], ['8'], ['9'], ['¹'], ['²'], ['³']]

def isWindowsReservedName (name : String) : Bool :=
  let upper := (name.toList.takeWhile fun character => character != '.').map Char.toUpper
  ["CON", "PRN", "AUX", "NUL", "CONIN$", "CONOUT$"].contains (String.ofList upper) ||
    (["COM", "LPT"].any fun device =>
      decide (upper.take 3 = device.toList) && deviceSuffixes.contains (upper.drop 3))

def validateSuggestedName (name : String) : Except MessageError Unit :=
  if name = "" ∨ MAX_FILE_DROP_NAME_BYTES < name.utf8ByteSize ∨ name = "." ∨ name = ".." ∨
      name.toList.getLast? = some '.' ∨ name.toList.getLast? = some ' ' ∨
      (name.toList.any fun character =>
        ['/', '\\', '<', '>', ':', '"', '|', '?', '*'].contains character) = true ∨
      name.toList.any isControl = true ∨ isWindowsReservedName name = true then
    .error (invalidValue "file-drop name" 6 "is empty, unsafe, reserved, or too long")
  else .ok ()

def validateDeadline (schema : String) (key timeoutUs : UInt64) : Except MessageError Unit :=
  if ¬ (MIN_FILE_DROP_DEADLINE_US ≤ timeoutUs ∧ timeoutUs ≤ MAX_FILE_DROP_DEADLINE_US) then
    .error (invalidValue schema key "is outside the finite timeout range")
  else .ok ()

def validateRecordBody (recordBody : UInt32) (schema : String) : Except MessageError Unit :=
  if recordBody ≤ UInt32.ofNat FILE_DATA_PREFIX_SIZE ∨ HARD_MAX_RECORD_BODY < recordBody then
    .error (invalidValue schema 8 "has an invalid record-body limit")
  else .ok ()

def validateBindingLimits (pending active : UInt64) (recordBody : UInt32)
    (acceptanceTimeoutUs idleTimeoutUs : UInt64) (schema : String) : Except MessageError Unit :=
  if pending = 0 ∨ MAX_PENDING_FILE_DROPS < pending ∨ active = 0 ∨
      MAX_ACTIVE_FILE_TRANSFERS < active ∨ pending < active then
    .error (invalidValue schema 6 "has invalid pending or active limits")
  else do
    validateRecordBody recordBody schema
    validateDeadline schema 9 acceptanceTimeoutUs
    validateDeadline schema 10 idleTimeoutUs

def validateCredit (recordBody : UInt32) (maximumBodyBytes maximumRecords : UInt64)
    (schema : String) : Except MessageError Unit := do
  validateRecordBody recordBody schema
  if maximumBodyBytes = 0 ∧ maximumRecords = 0 then .ok ()
  else if maximumRecords = 0 ∨ maximumBodyBytes < recordBody.toUInt64 then
    .error (invalidValue schema 9 "does not grant one maximum legal record")
  else .ok ()

/-- `require_nonzero().map_err(..)` of a counter. -/
def requireCounter {label : String} (schema : String) (key : UInt64)
    (counter : Counter label) : Except MessageError Unit := do
  let _ ← orInvalid schema key "must be nonzero" counter.requireNonzero
  .ok ()

/-- A target-wide scope has no surface generation, and a surface has one. -/
def mismatchedScope (surfaceId : UInt64) (surfaceGeneration : SurfaceGeneration) : Bool :=
  decide (surfaceId = 0) && decide (surfaceGeneration ≠ .zero) ||
    decide (surfaceId ≠ 0) && ! surfaceGeneration.requireNonzero.toBool

/-- The scope check that names its two errors. -/
def validateScope (schema : String) (key surfaceId : UInt64)
    (surfaceGeneration : SurfaceGeneration) (wide narrow : String) : Except MessageError Unit :=
  if surfaceId = 0 then
    if surfaceGeneration ≠ .zero then .error (invalidValue schema key wide) else .ok ()
  else do
    let _ ← orInvalid schema key narrow surfaceGeneration.requireNonzero
    .ok ()

/-! ## Bindings -/

structure FileDropBinding where
  producerEpoch : FileDropEpoch
  contextId : UInt64
  surfaceId : UInt64
  surfaceGeneration : SurfaceGeneration
  destination : Option FileDropDestination
  maximumFileBytes : UInt64
  maximumPendingOffers : UInt64
  maximumActiveTransfers : UInt64
  maximumRecordBody : UInt32
  acceptanceTimeoutUs : UInt64
  idleTimeoutUs : UInt64
  deriving Repr, DecidableEq

namespace FileDropBinding

def disabled (binding : FileDropBinding) : Bool := binding.destination.isNone

def validateDisabled (binding : FileDropBinding) : Except MessageError Unit := do
  let _ ← requireNonzero "SET_FILE_DROP_BINDING" 1 binding.contextId
  if mismatchedScope binding.surfaceId binding.surfaceGeneration = true then
    .error (invalidValue "SET_FILE_DROP_BINDING" 3 "does not match the scoped surface identity")
  else if binding.maximumFileBytes ≠ 0 ∨ binding.maximumPendingOffers ≠ 0 ∨
      binding.maximumActiveTransfers ≠ 0 ∨ binding.maximumRecordBody ≠ 0 ∨
      binding.acceptanceTimeoutUs ≠ 0 ∨ binding.idleTimeoutUs ≠ 0 then
    .error (invalidValue "SET_FILE_DROP_BINDING" 5 "has nonzero limits while disabled")
  else .ok ()

def validateEnabled (binding : FileDropBinding) : Except MessageError Unit := do
  let _ ← requireNonzero "SET_FILE_DROP_BINDING" 1 binding.contextId
  validateScope "SET_FILE_DROP_BINDING" 3 binding.surfaceId binding.surfaceGeneration
    "must be zero for a target-wide binding" "must be nonzero for a surface"
  if binding.destination.isNone = true ∨ binding.maximumFileBytes = 0 then
    .error (invalidValue "SET_FILE_DROP_BINDING" 4
      "requires a destination and nonzero file limit")
  else
    validateBindingLimits binding.maximumPendingOffers binding.maximumActiveTransfers
      binding.maximumRecordBody binding.acceptanceTimeoutUs binding.idleTimeoutUs
      "SET_FILE_DROP_BINDING"

def validate (binding : FileDropBinding) (headerObjectId : UInt64) :
    Except MessageError Unit := do
  requireCounter "SET_FILE_DROP_BINDING" 0 binding.producerEpoch
  validateHeaderObject headerObjectId binding.surfaceId
  if binding.disabled then binding.validateDisabled else binding.validateEnabled

def fields (binding : FileDropBinding) : PayloadMap :=
  [(0, .unsigned binding.producerEpoch.value),
    (1, .unsigned binding.contextId),
    (2, .unsigned binding.surfaceId),
    (3, .unsigned binding.surfaceGeneration.value),
    (4, .unsigned (destinationWord binding.destination)),
    (5, .unsigned binding.maximumFileBytes),
    (6, .unsigned binding.maximumPendingOffers),
    (7, .unsigned binding.maximumActiveTransfers),
    (8, .unsigned binding.maximumRecordBody.toUInt64),
    (9, .unsigned binding.acceptanceTimeoutUs),
    (10, .unsigned binding.idleTimeoutUs)]

def payload (binding : FileDropBinding) : Except MessageError PayloadMap := do
  binding.validate binding.surfaceId
  .ok binding.fields

def decode (headerObjectId : UInt64) (payload : Cbor.Value) :
    Except MessageError FileDropBinding := do
  let map ← StrictMap.new "SET_FILE_DROP_BINDING" payload [0, 1, 2, 3, 4, 5, 6, 7, 8, 9, 10]
  let destination ← requiredDestination map 4
  let producerEpoch ← map.requiredU64 0
  let contextId ← map.requiredU64 1
  let surfaceId ← map.requiredU64 2
  let surfaceGeneration ← map.requiredU64 3
  let maximumFileBytes ← map.requiredU64 5
  let maximumPendingOffers ← map.requiredU64 6
  let maximumActiveTransfers ← map.requiredU64 7
  let maximumRecordBody ← map.requiredU32 8
  let acceptanceTimeoutUs ← map.requiredU64 9
  let idleTimeoutUs ← map.requiredU64 10
  let binding : FileDropBinding :=
    { producerEpoch := ⟨producerEpoch⟩
      contextId := contextId
      surfaceId := surfaceId
      surfaceGeneration := ⟨surfaceGeneration⟩
      destination := destination
      maximumFileBytes := maximumFileBytes
      maximumPendingOffers := maximumPendingOffers
      maximumActiveTransfers := maximumActiveTransfers
      maximumRecordBody := maximumRecordBody
      acceptanceTimeoutUs := acceptanceTimeoutUs
      idleTimeoutUs := idleTimeoutUs }
  binding.validate headerObjectId
  .ok binding

end FileDropBinding

/-! ## Grants -/

structure FileDropGrant where
  producerEpoch : FileDropEpoch
  grantGeneration : FileDropGrantGeneration
  contextId : UInt64
  surfaceId : UInt64
  surfaceGeneration : SurfaceGeneration
  state : FileDropBindingState
  destination : Option FileDropDestination
  maximumFileBytes : UInt64
  maximumPendingOffers : UInt64
  maximumActiveTransfers : UInt64
  maximumRecordBody : UInt32
  acceptanceTimeoutUs : UInt64
  idleTimeoutUs : UInt64
  reason : UInt64
  deriving Repr, DecidableEq

namespace FileDropGrant

def payload (grant : FileDropGrant) : PayloadMap :=
  [(0, .unsigned grant.producerEpoch.value),
    (1, .unsigned grant.grantGeneration.value),
    (2, .unsigned grant.contextId),
    (3, .unsigned grant.surfaceId),
    (4, .unsigned grant.surfaceGeneration.value),
    (5, .unsigned grant.state.toWord),
    (6, .unsigned (destinationWord grant.destination)),
    (7, .unsigned grant.maximumFileBytes),
    (8, .unsigned grant.maximumPendingOffers),
    (9, .unsigned grant.maximumActiveTransfers),
    (10, .unsigned grant.maximumRecordBody.toUInt64),
    (11, .unsigned grant.acceptanceTimeoutUs),
    (12, .unsigned grant.idleTimeoutUs),
    (13, .unsigned grant.reason)]

def checkDisabled (grant : FileDropGrant) : Except MessageError Unit := do
  let _ ← requireNonzero "FILE_DROP_BOUND" 2 grant.contextId
  if grant.grantGeneration ≠ .zero ∨ grant.destination.isSome = true ∨
      grant.maximumFileBytes ≠ 0 ∨ grant.maximumPendingOffers ≠ 0 ∨
      grant.maximumActiveTransfers ≠ 0 ∨ grant.maximumRecordBody ≠ 0 ∨
      grant.acceptanceTimeoutUs ≠ 0 ∨ grant.idleTimeoutUs ≠ 0 then
    .error (invalidValue "FILE_DROP_BOUND" 1 "disabled binding retains a live grant or limits")
  else .ok ()

def checkLive (grant : FileDropGrant) : Except MessageError Unit := do
  requireCounter "FILE_DROP_BOUND" 1 grant.grantGeneration
  let _ ← requireNonzero "FILE_DROP_BOUND" 2 grant.contextId
  if grant.destination.isNone = true ∨ grant.maximumFileBytes = 0 then
    .error (invalidValue "FILE_DROP_BOUND" 6
      "enabled grant has no effective destination or file limit")
  else
    validateBindingLimits grant.maximumPendingOffers grant.maximumActiveTransfers
      grant.maximumRecordBody grant.acceptanceTimeoutUs grant.idleTimeoutUs "FILE_DROP_BOUND"

/-- The checks at the end of `decode`. -/
def check (grant : FileDropGrant) (headerObjectId : UInt64) : Except MessageError Unit := do
  validateHeaderObject headerObjectId grant.surfaceId
  requireCounter "FILE_DROP_BOUND" 0 grant.producerEpoch
  if mismatchedScope grant.surfaceId grant.surfaceGeneration = true then
    .error (invalidValue "FILE_DROP_BOUND" 4 "does not match the scoped surface identity")
  else if grant.state ≠ .disabled then grant.checkLive
  else grant.checkDisabled

def decode (headerObjectId : UInt64) (payload : Cbor.Value) :
    Except MessageError FileDropGrant := do
  let map ← StrictMap.new "FILE_DROP_BOUND" payload
    [0, 1, 2, 3, 4, 5, 6, 7, 8, 9, 10, 11, 12, 13]
  let destination ← requiredDestination map 6
  let producerEpoch ← map.requiredU64 0
  let grantGeneration ← map.requiredU64 1
  let contextId ← map.requiredU64 2
  let surfaceId ← map.requiredU64 3
  let surfaceGeneration ← map.requiredU64 4
  let stateWord ← map.requiredU64 5
  let state ← FileDropBindingState.tryFrom stateWord
  let maximumFileBytes ← map.requiredU64 7
  let maximumPendingOffers ← map.requiredU64 8
  let maximumActiveTransfers ← map.requiredU64 9
  let maximumRecordBody ← map.requiredU32 10
  let acceptanceTimeoutUs ← map.requiredU64 11
  let idleTimeoutUs ← map.requiredU64 12
  let reason ← map.requiredU64 13
  let grant : FileDropGrant :=
    { producerEpoch := ⟨producerEpoch⟩
      grantGeneration := ⟨grantGeneration⟩
      contextId := contextId
      surfaceId := surfaceId
      surfaceGeneration := ⟨surfaceGeneration⟩
      state := state
      destination := destination
      maximumFileBytes := maximumFileBytes
      maximumPendingOffers := maximumPendingOffers
      maximumActiveTransfers := maximumActiveTransfers
      maximumRecordBody := maximumRecordBody
      acceptanceTimeoutUs := acceptanceTimeoutUs
      idleTimeoutUs := idleTimeoutUs
      reason := reason }
  grant.check headerObjectId
  .ok grant

end FileDropGrant

/-! ## The tuple of a drop -/

structure FileDropTuple where
  producerEpoch : FileDropEpoch
  grantGeneration : FileDropGrantGeneration
  contextId : UInt64
  surfaceId : UInt64
  surfaceGeneration : SurfaceGeneration
  dropId : UInt64
  deriving Repr, DecidableEq

namespace FileDropTuple

def payload (tuple : FileDropTuple) : PayloadMap :=
  [(0, .unsigned tuple.producerEpoch.value),
    (1, .unsigned tuple.grantGeneration.value),
    (2, .unsigned tuple.contextId),
    (3, .unsigned tuple.surfaceId),
    (4, .unsigned tuple.surfaceGeneration.value),
    (5, .unsigned tuple.dropId)]

def decode (schema : String) (map : StrictMap) : Except MessageError FileDropTuple := do
  let producerEpoch ← map.requiredU64 0
  let grantGeneration ← map.requiredU64 1
  let contextWord ← map.requiredU64 2
  let contextId ← requireNonzero schema 2 contextWord
  let surfaceId ← map.requiredU64 3
  let surfaceGeneration ← map.requiredU64 4
  let dropWord ← map.requiredU64 5
  let dropId ← requireNonzero schema 5 dropWord
  let tuple : FileDropTuple :=
    { producerEpoch := ⟨producerEpoch⟩
      grantGeneration := ⟨grantGeneration⟩
      contextId := contextId
      surfaceId := surfaceId
      surfaceGeneration := ⟨surfaceGeneration⟩
      dropId := dropId }
  requireCounter schema 0 tuple.producerEpoch
  requireCounter schema 1 tuple.grantGeneration
  validateScope schema 4 tuple.surfaceId tuple.surfaceGeneration
    "must be zero for a target-wide drop" "must be nonzero for a surface drop"
  .ok tuple

end FileDropTuple

/-! ## Offers and their answers -/

structure FileDropOffer where
  binding : FileDropTuple
  suggestedName : String
  declaredLength : UInt64
  deriving Repr, DecidableEq

namespace FileDropOffer

def fields (offer : FileDropOffer) : PayloadMap :=
  offer.binding.payload ++
    [(6, .text offer.suggestedName), (7, .unsigned offer.declaredLength)]

def payload (offer : FileDropOffer) : Except MessageError PayloadMap := do
  validateSuggestedName offer.suggestedName
  .ok offer.fields

def decode (headerObjectId : UInt64) (payload : Cbor.Value) :
    Except MessageError FileDropOffer := do
  let map ← StrictMap.new "FILE_DROP_OFFER" payload [0, 1, 2, 3, 4, 5, 6, 7]
  let binding ← FileDropTuple.decode "FILE_DROP_OFFER" map
  let suggestedName ← map.requiredText 6
  let declaredLength ← map.requiredU64 7
  let offer : FileDropOffer :=
    { binding := binding
      suggestedName := suggestedName
      declaredLength := declaredLength }
  validateHeaderObject headerObjectId offer.binding.dropId
  validateSuggestedName offer.suggestedName
  .ok offer

end FileDropOffer

structure AcceptFileDrop where
  binding : FileDropTuple
  transferId : UInt64
  transferGeneration : FileTransferGeneration
  maximumRecordBody : UInt32
  initialMaximumBodyBytes : UInt64
  initialMaximumRecords : UInt64
  deriving Repr, DecidableEq

namespace AcceptFileDrop

def validate (accept : AcceptFileDrop) (headerObjectId : UInt64) : Except MessageError Unit := do
  validateHeaderObject headerObjectId accept.binding.dropId
  let _ ← requireNonzero "ACCEPT_FILE_DROP" 6 accept.transferId
  if accept.transferGeneration ≠ .one then
    .error (invalidValue "ACCEPT_FILE_DROP" 7 "initial generation must be one")
  else
    validateCredit accept.maximumRecordBody accept.initialMaximumBodyBytes
      accept.initialMaximumRecords "ACCEPT_FILE_DROP"

def fields (accept : AcceptFileDrop) : PayloadMap :=
  accept.binding.payload ++
    [(6, .unsigned accept.transferId),
      (7, .unsigned accept.transferGeneration.value),
      (8, .unsigned accept.maximumRecordBody.toUInt64),
      (9, .unsigned accept.initialMaximumBodyBytes),
      (10, .unsigned accept.initialMaximumRecords)]

def payload (accept : AcceptFileDrop) : Except MessageError PayloadMap := do
  accept.validate accept.binding.dropId
  .ok accept.fields

def decode (headerObjectId : UInt64) (payload : Cbor.Value) :
    Except MessageError AcceptFileDrop := do
  let map ← StrictMap.new "ACCEPT_FILE_DROP" payload [0, 1, 2, 3, 4, 5, 6, 7, 8, 9, 10]
  let binding ← FileDropTuple.decode "ACCEPT_FILE_DROP" map
  let transferId ← map.requiredU64 6
  let transferGeneration ← map.requiredU64 7
  let maximumRecordBody ← map.requiredU32 8
  let initialMaximumBodyBytes ← map.requiredU64 9
  let initialMaximumRecords ← map.requiredU64 10
  let accept : AcceptFileDrop :=
    { binding := binding
      transferId := transferId
      transferGeneration := ⟨transferGeneration⟩
      maximumRecordBody := maximumRecordBody
      initialMaximumBodyBytes := initialMaximumBodyBytes
      initialMaximumRecords := initialMaximumRecords }
  accept.validate headerObjectId
  .ok accept

end AcceptFileDrop

structure FileDropAccepted where
  dropId : UInt64
  transferId : UInt64
  transferGeneration : FileTransferGeneration
  openTimeoutUs : UInt64
  deriving Repr, DecidableEq

namespace FileDropAccepted

def payload (accepted : FileDropAccepted) : PayloadMap :=
  [(0, .unsigned accepted.dropId),
    (1, .unsigned accepted.transferId),
    (2, .unsigned accepted.transferGeneration.value),
    (3, .unsigned accepted.openTimeoutUs)]

def decode (headerObjectId : UInt64) (payload : Cbor.Value) :
    Except MessageError FileDropAccepted := do
  let map ← StrictMap.new "FILE_DROP_ACCEPTED" payload [0, 1, 2, 3]
  let dropWord ← map.requiredU64 0
  let dropId ← requireNonzero "FILE_DROP_ACCEPTED" 0 dropWord
  let transferWord ← map.requiredU64 1
  let transferId ← requireNonzero "FILE_DROP_ACCEPTED" 1 transferWord
  let transferGeneration ← map.requiredU64 2
  let openTimeoutUs ← map.requiredU64 3
  let value : FileDropAccepted :=
    { dropId := dropId
      transferId := transferId
      transferGeneration := ⟨transferGeneration⟩
      openTimeoutUs := openTimeoutUs }
  validateHeaderObject headerObjectId value.dropId
  requireCounter "FILE_DROP_ACCEPTED" 2 value.transferGeneration
  validateDeadline "FILE_DROP_ACCEPTED" 3 value.openTimeoutUs
  .ok value

end FileDropAccepted

structure CancelFileDrop where
  binding : FileDropTuple
  reason : UInt64
  deriving Repr, DecidableEq

namespace CancelFileDrop

def checkReason (schema : String) (reason : UInt64) : Except MessageError Unit :=
  if 7 < reason then .error (invalidValue schema 6 "has an unknown cancellation reason")
  else .ok ()

def fields (cancel : CancelFileDrop) : PayloadMap :=
  cancel.binding.payload ++ [(6, .unsigned cancel.reason)]

def payload (cancel : CancelFileDrop) : Except MessageError PayloadMap := do
  checkReason "CANCEL_FILE_DROP" cancel.reason
  .ok cancel.fields

def decode (schema : String) (headerObjectId : UInt64) (payload : Cbor.Value) :
    Except MessageError CancelFileDrop := do
  let map ← StrictMap.new schema payload [0, 1, 2, 3, 4, 5, 6]
  let binding ← FileDropTuple.decode schema map
  let reason ← map.requiredU64 6
  let cancelled : CancelFileDrop := { binding := binding, reason := reason }
  validateHeaderObject headerObjectId cancelled.binding.dropId
  checkReason schema cancelled.reason
  .ok cancelled

end CancelFileDrop

/-! ## Advances -/

structure AdvanceFileTransfer where
  contextId : UInt64
  surfaceId : UInt64
  dropId : UInt64
  transferId : UInt64
  expectedGeneration : FileTransferGeneration
  newGeneration : FileTransferGeneration
  committedOffset : UInt64
  maximumBodyBytes : UInt64
  maximumRecords : UInt64
  deriving Repr, DecidableEq

namespace AdvanceFileTransfer

def validate (advance : AdvanceFileTransfer) (headerObjectId : UInt64) :
    Except MessageError Unit := do
  validateHeaderObject headerObjectId advance.transferId
  let _ ← requireNonzero "ADVANCE_FILE_TRANSFER" 0 advance.contextId
  let _ ← requireNonzero "ADVANCE_FILE_TRANSFER" 2 advance.dropId
  let _ ← requireNonzero "ADVANCE_FILE_TRANSFER" 3 advance.transferId
  requireCounter "ADVANCE_FILE_TRANSFER" 4 advance.expectedGeneration
  let expected ← orInvalid "ADVANCE_FILE_TRANSFER" 5 "generation exhausted"
    advance.expectedGeneration.advance
  if advance.newGeneration ≠ expected then
    .error (invalidValue "ADVANCE_FILE_TRANSFER" 5 "is not exactly the next generation")
  else if decide (advance.maximumBodyBytes = 0) ≠ decide (advance.maximumRecords = 0) then
    .error (invalidValue "ADVANCE_FILE_TRANSFER" 7 "has inconsistent zero initial credit")
  else .ok ()

def fields (advance : AdvanceFileTransfer) : PayloadMap :=
  [(0, .unsigned advance.contextId),
    (1, .unsigned advance.surfaceId),
    (2, .unsigned advance.dropId),
    (3, .unsigned advance.transferId),
    (4, .unsigned advance.expectedGeneration.value),
    (5, .unsigned advance.newGeneration.value),
    (6, .unsigned advance.committedOffset),
    (7, .unsigned advance.maximumBodyBytes),
    (8, .unsigned advance.maximumRecords)]

def payload (advance : AdvanceFileTransfer) : Except MessageError PayloadMap := do
  advance.validate advance.transferId
  .ok advance.fields

def decode (headerObjectId : UInt64) (payload : Cbor.Value) :
    Except MessageError AdvanceFileTransfer := do
  let map ← StrictMap.new "ADVANCE_FILE_TRANSFER" payload [0, 1, 2, 3, 4, 5, 6, 7, 8]
  let contextId ← map.requiredU64 0
  let surfaceId ← map.requiredU64 1
  let dropId ← map.requiredU64 2
  let transferId ← map.requiredU64 3
  let expectedGeneration ← map.requiredU64 4
  let newGeneration ← map.requiredU64 5
  let committedOffset ← map.requiredU64 6
  let maximumBodyBytes ← map.requiredU64 7
  let maximumRecords ← map.requiredU64 8
  let advance : AdvanceFileTransfer :=
    { contextId := contextId
      surfaceId := surfaceId
      dropId := dropId
      transferId := transferId
      expectedGeneration := ⟨expectedGeneration⟩
      newGeneration := ⟨newGeneration⟩
      committedOffset := committedOffset
      maximumBodyBytes := maximumBodyBytes
      maximumRecords := maximumRecords }
  advance.validate headerObjectId
  .ok advance

end AdvanceFileTransfer

structure FileTransferAdvanced where
  transferId : UInt64
  generation : FileTransferGeneration
  committedOffset : UInt64
  openTimeoutUs : UInt64
  deriving Repr, DecidableEq

namespace FileTransferAdvanced

def payload (advanced : FileTransferAdvanced) : Except MessageError PayloadMap := do
  let _ ← requireNonzero "FILE_TRANSFER_ADVANCED" 0 advanced.transferId
  requireCounter "FILE_TRANSFER_ADVANCED" 1 advanced.generation
  validateDeadline "FILE_TRANSFER_ADVANCED" 3 advanced.openTimeoutUs
  .ok
    [(0, .unsigned advanced.transferId),
      (1, .unsigned advanced.generation.value),
      (2, .unsigned advanced.committedOffset),
      (3, .unsigned advanced.openTimeoutUs)]

def decode (headerObjectId : UInt64) (payload : Cbor.Value) :
    Except MessageError FileTransferAdvanced := do
  let map ← StrictMap.new "FILE_TRANSFER_ADVANCED" payload [0, 1, 2, 3]
  let transferId ← map.requiredU64 0
  let generation ← map.requiredU64 1
  let committedOffset ← map.requiredU64 2
  let openTimeoutUs ← map.requiredU64 3
  let advanced : FileTransferAdvanced :=
    { transferId := transferId
      generation := ⟨generation⟩
      committedOffset := committedOffset
      openTimeoutUs := openTimeoutUs }
  let _ ← advanced.payload
  validateHeaderObject headerObjectId advanced.transferId
  .ok advanced

end FileTransferAdvanced

/-! ## Queries and status -/

structure QueryFileDrop where
  dropId : UInt64
  deriving Repr, DecidableEq

namespace QueryFileDrop

def payload (query : QueryFileDrop) : Except MessageError PayloadMap := do
  let _ ← requireNonzero "QUERY_FILE_DROP" 0 query.dropId
  .ok [(0, .unsigned query.dropId)]

def decode (headerObjectId : UInt64) (payload : Cbor.Value) :
    Except MessageError QueryFileDrop := do
  let map ← StrictMap.new "QUERY_FILE_DROP" payload [0]
  let dropWord ← map.requiredU64 0
  let dropId ← requireNonzero "QUERY_FILE_DROP" 0 dropWord
  let query : QueryFileDrop := { dropId := dropId }
  validateHeaderObject headerObjectId query.dropId
  .ok query

end QueryFileDrop

structure FileDropStatus where
  dropId : UInt64
  state : FileDropState
  transferId : UInt64
  generation : FileTransferGeneration
  committedOffset : UInt64
  result : Option FileResultCode
  finalName : String
  deriving Repr, DecidableEq

namespace FileDropStatus

/-- A drop that was accepted names its transfer. -/
def checkTransfer (status : FileDropStatus) : Except MessageError Unit :=
  if status.state = .accepted ∨ status.state = .transferring ∨ status.state = .committed then do
    let _ ← requireNonzero "FILE_DROP_STATUS" 2 status.transferId
    requireCounter "FILE_DROP_STATUS" 3 status.generation
  else .ok ()

def checkResult (status : FileDropStatus) : Except MessageError Unit :=
  if status.state = .committed then
    if ¬ (status.result = some .committed ∨ status.result = some .alreadyCommitted) then
      .error (invalidValue "FILE_DROP_STATUS" 5 "committed state requires a successful result")
    else validateSuggestedName status.finalName
  else if status.state = .cancelled then
    if status.result ≠ some .cancelled then
      .error (invalidValue "FILE_DROP_STATUS" 5 "cancelled state requires a cancelled result")
    else .ok ()
  else if status.state = .failed then
    if ¬ (status.result = some .rejected ∨ status.result = some .hashMismatch ∨
        status.result = some .ioError) then
      .error (invalidValue "FILE_DROP_STATUS" 5 "failed state requires a failure result")
    else .ok ()
  else if status.result.isSome = true then
    .error (invalidValue "FILE_DROP_STATUS" 5 "nonterminal state carries a result")
  else .ok ()

def fields (status : FileDropStatus) : PayloadMap :=
  [(0, .unsigned status.dropId),
    (1, .unsigned status.state.toWord),
    (2, .unsigned status.transferId),
    (3, .unsigned status.generation.value),
    (4, .unsigned status.committedOffset),
    (5, .unsigned (resultWord status.result)),
    (6, .text status.finalName)]

def payload (status : FileDropStatus) : Except MessageError PayloadMap := do
  let _ ← requireNonzero "FILE_DROP_STATUS" 0 status.dropId
  status.checkTransfer
  status.checkResult
  if status.state ≠ .committed ∧ status.finalName ≠ "" then
    .error (invalidValue "FILE_DROP_STATUS" 6 "has a final name before commit")
  else .ok status.fields

def decode (headerObjectId : UInt64) (payload : Cbor.Value) :
    Except MessageError FileDropStatus := do
  let map ← StrictMap.new "FILE_DROP_STATUS" payload [0, 1, 2, 3, 4, 5, 6]
  let result ← requiredResult map 5
  let dropId ← map.requiredU64 0
  let stateWord ← map.requiredU64 1
  let state ← FileDropState.tryFrom stateWord
  let transferId ← map.requiredU64 2
  let generation ← map.requiredU64 3
  let committedOffset ← map.requiredU64 4
  let finalName ← map.requiredText 6
  let status : FileDropStatus :=
    { dropId := dropId
      state := state
      transferId := transferId
      generation := ⟨generation⟩
      committedOffset := committedOffset
      result := result
      finalName := finalName }
  let _ ← status.payload
  validateHeaderObject headerObjectId status.dropId
  .ok status

end FileDropStatus

end VividProtocol.FileDrop

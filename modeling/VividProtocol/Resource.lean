import Mathlib.Tactic
import VividProtocol.Counters
import VividProtocol.Library.Result

/-!
# Resources and channel flow

The resource names, errors and contracts of `resource.rs`, and the absolute flow
accounting of one track channel.
-/

set_option autoImplicit false

namespace VividProtocol

open VividProtocol.Library.Result

inductive Resource where
  | surfaces
  | tracks
  | nodes
  | videoTracks
  | audioTracks
  | rasterTracks
  | imageTracks
  | decoderInstances
  | codedPixelsPerTrack
  | decodedPixelsPerSecond
  | encodedBitsPerSecond
  | mediaRecordsPerSecond
  | audioSampleRate
  | audioChannelsPerTrack
  | inflightMediaBytes
  | trackConnections
  | retainedPixels
  | mediaRecordBody
  | controlRecordBody
  | pendingRequests
  | registeredWaits
  | idempotencyEntries
  | childSessionLeases
  | disconnectGraceUs
  | inputEventsPerSecond
  | observationQueueEntries
  | imageCacheBytes
  | openSceneTransactions
  | childContexts
  | suspendedChildSessions
  | pendingChannelOpenAttempts
  | activeTerminalAnchors
  | seenTerminalAnchorIds
  deriving Repr, DecidableEq

inductive ResourceError where
  | notAMap
  | missingKey (key : UInt64)
  | unknownKey (key : UInt64)
  | invalidValue (key : UInt64)
  | overflow
  | exceedsContract (resource : Resource)
  | flowControl
  deriving Repr, DecidableEq

/-- The `Debug` name of a resource. -/
def Resource.name : Resource → String
  | .surfaces => "Surfaces"
  | .tracks => "Tracks"
  | .nodes => "Nodes"
  | .videoTracks => "VideoTracks"
  | .audioTracks => "AudioTracks"
  | .rasterTracks => "RasterTracks"
  | .imageTracks => "ImageTracks"
  | .decoderInstances => "DecoderInstances"
  | .codedPixelsPerTrack => "CodedPixelsPerTrack"
  | .decodedPixelsPerSecond => "DecodedPixelsPerSecond"
  | .encodedBitsPerSecond => "EncodedBitsPerSecond"
  | .mediaRecordsPerSecond => "MediaRecordsPerSecond"
  | .audioSampleRate => "AudioSampleRate"
  | .audioChannelsPerTrack => "AudioChannelsPerTrack"
  | .inflightMediaBytes => "InflightMediaBytes"
  | .trackConnections => "TrackConnections"
  | .retainedPixels => "RetainedPixels"
  | .mediaRecordBody => "MediaRecordBody"
  | .controlRecordBody => "ControlRecordBody"
  | .pendingRequests => "PendingRequests"
  | .registeredWaits => "RegisteredWaits"
  | .idempotencyEntries => "IdempotencyEntries"
  | .childSessionLeases => "ChildSessionLeases"
  | .disconnectGraceUs => "DisconnectGraceUs"
  | .inputEventsPerSecond => "InputEventsPerSecond"
  | .observationQueueEntries => "ObservationQueueEntries"
  | .imageCacheBytes => "ImageCacheBytes"
  | .openSceneTransactions => "OpenSceneTransactions"
  | .childContexts => "ChildContexts"
  | .suspendedChildSessions => "SuspendedChildSessions"
  | .pendingChannelOpenAttempts => "PendingChannelOpenAttempts"
  | .activeTerminalAnchors => "ActiveTerminalAnchors"
  | .seenTerminalAnchorIds => "SeenTerminalAnchorIds"

/-- `Display` of a resource error. -/
def ResourceError.display : ResourceError → String
  | .notAMap => "resource contract is not a map"
  | .missingKey key => s!"resource contract omits key {key}"
  | .unknownKey key => s!"resource contract has unknown key {key}"
  | .invalidValue key => s!"resource contract key {key} is not an unsigned integer"
  | .overflow => "resource accounting overflow"
  | .exceedsContract resource => "resource request exceeds contract for " ++ resource.name
  | .flowControl => "absolute channel allowance exceeded"

def RESOURCE_COUNT : Nat := 33

/-- `resource as usize`. -/
def Resource.index (resource : Resource) : Fin RESOURCE_COUNT :=
  ⟨resource.ctorIdx, by cases resource <;> decide⟩

structure ResourceContract where
  values : Vector UInt64 RESOURCE_COUNT
  deriving Repr, DecidableEq

namespace ResourceContract

def denied : ResourceContract := ⟨Vector.replicate RESOURCE_COUNT 0⟩

def set (contract : ResourceContract) (resource : Resource) (value : UInt64) :
    ResourceContract :=
  ⟨contract.values.set resource.index value⟩

def componentMin (contract other : ResourceContract) : ResourceContract :=
  ⟨Vector.ofFn fun i => min (contract.values.get i) (other.values.get i)⟩

end ResourceContract

structure ChannelFlow where
  sentBodyBytes : UInt64
  sentMediaRecords : UInt64
  maximumBodyBytes : UInt64
  maximumMediaRecords : UInt64
  deriving Repr, DecidableEq

namespace ChannelFlow

/-- `ChannelFlow::default()`. -/
def default : ChannelFlow :=
  { sentBodyBytes := 0
    sentMediaRecords := 0
    maximumBodyBytes := 0
    maximumMediaRecords := 0 }

def new (maximumBodyBytes maximumMediaRecords : UInt64) : ChannelFlow :=
  { default with
    maximumBodyBytes := maximumBodyBytes
    maximumMediaRecords := maximumMediaRecords }

/-- `ChannelFlow::admit`. -/
def admitRecord (flow : ChannelFlow) (bodyLength : UInt32) :
    Except ResourceError Unit × ChannelFlow :=
  commit flow
    (match checkedAdd flow.sentBodyBytes bodyLength.toUInt64 with
    | none => .error .overflow
    | some bodyBytes =>
        match checkedAdd flow.sentMediaRecords 1 with
        | none => .error .overflow
        | some records =>
            if flow.maximumBodyBytes < bodyBytes ∨ flow.maximumMediaRecords < records then
              .error .flowControl
            else
              .ok ((),
                { flow with
                  sentBodyBytes := bodyBytes
                  sentMediaRecords := records }))

def raiseMaxima (flow : ChannelFlow) (bodyBytes records : UInt64) : ChannelFlow :=
  { flow with
    maximumBodyBytes := max flow.maximumBodyBytes bodyBytes
    maximumMediaRecords := max flow.maximumMediaRecords records }

/-- The flow after one more record was charged to it. -/
structure Charged (flow : ChannelFlow) (bodyLength : UInt32) (after : ChannelFlow) : Prop where
  bodyBytes : after.sentBodyBytes.toNat = flow.sentBodyBytes.toNat + bodyLength.toNat
  records : after.sentMediaRecords.toNat = flow.sentMediaRecords.toNat + 1
  maximumBodyBytes : after.maximumBodyBytes = flow.maximumBodyBytes
  maximumMediaRecords : after.maximumMediaRecords = flow.maximumMediaRecords

/-- The allowance covers one more record. -/
structure Allows (flow : ChannelFlow) (bodyLength : UInt32) : Prop where
  bodyBytes : flow.sentBodyBytes.toNat + bodyLength.toNat ≤ flow.maximumBodyBytes.toNat
  records : flow.sentMediaRecords.toNat + 1 ≤ flow.maximumMediaRecords.toNat

/-- A record is charged when the allowance covers it, and otherwise refused
without effect.  What the allowance covers cannot overflow. -/
theorem admitRecord_cases (flow : ChannelFlow) (bodyLength : UInt32) :
    (∃ after, flow.Allows bodyLength ∧ flow.admitRecord bodyLength = (.ok (), after) ∧
        flow.Charged bodyLength after) ∨
      ∃ error, ¬ flow.Allows bodyLength ∧ flow.admitRecord bodyLength = (.error error, flow) := by
  have bytesBound := flow.maximumBodyBytes.toNat_lt
  have recordsBound := flow.maximumMediaRecords.toNat_lt
  have one : (1 : UInt64).toNat = 1 := rfl
  have width : bodyLength.toUInt64.toNat = bodyLength.toNat := UInt32.toNat_toUInt64 bodyLength
  unfold admitRecord
  cases sum : checkedAdd flow.sentBodyBytes bodyLength.toUInt64 with
  | none =>
      refine Or.inr ⟨.overflow, ?_, rfl⟩
      intro allows
      rw [checkedAdd, if_pos (by rw [width]; exact lt_of_le_of_lt allows.bodyBytes bytesBound)]
        at sum
      cases sum
  | some bodyBytes =>
      cases next : checkedAdd flow.sentMediaRecords 1 with
      | none =>
          refine Or.inr ⟨.overflow, ?_, rfl⟩
          intro allows
          rw [checkedAdd, if_pos (by rw [one]; exact lt_of_le_of_lt allows.records recordsBound)]
            at next
          cases next
      | some records =>
          have bytesExact := checkedAdd_eq_some.mp sum
          have recordsExact := checkedAdd_eq_some.mp next
          rw [width] at bytesExact
          rw [one] at recordsExact
          dsimp only
          by_cases exceeds : flow.maximumBodyBytes < bodyBytes ∨
              flow.maximumMediaRecords < records
          · rw [if_pos exceeds]
            refine Or.inr ⟨.flowControl, ?_, rfl⟩
            intro allows
            rw [UInt64.lt_iff_toNat_lt, UInt64.lt_iff_toNat_lt, bytesExact, recordsExact]
              at exceeds
            have bytes := allows.bodyBytes
            have count := allows.records
            omega
          · rw [if_neg exceeds]
            rw [not_or, UInt64.not_lt, UInt64.not_lt, UInt64.le_iff_toNat_le,
              UInt64.le_iff_toNat_le, bytesExact, recordsExact] at exceeds
            exact Or.inl ⟨_, ⟨exceeds.1, exceeds.2⟩, rfl, bytesExact, recordsExact, rfl, rfl⟩

/-- A refused record leaves the flow as it was. -/
theorem admit_cases (flow : ChannelFlow) (bodyLength : UInt32) :
    (∃ error, flow.admitRecord bodyLength = (.error error, flow)) ∨
      ∃ charged, flow.admitRecord bodyLength = (.ok (), charged) := by
  rcases flow.admitRecord_cases bodyLength with ⟨charged, -, ends, -⟩ | ⟨error, -, ends⟩
  · exact Or.inr ⟨charged, ends⟩
  · exact Or.inl ⟨error, ends⟩

end ChannelFlow

end VividProtocol

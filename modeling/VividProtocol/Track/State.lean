import Mathlib.Tactic
import VividProtocol.Messages
import VividProtocol.Resource
import VividProtocol.Library.Transition

/-!
# The track state

`TrackState` of `track.rs`: the channel generation, the generation-local
milestones and flow, and the media epoch and last media ID, which outlive a
generation.  Several operations write before their revision is advanced, so a
refused operation may have changed the state.
-/

set_option autoImplicit false

namespace VividProtocol.Track

open VividProtocol.Library.Transition

def MILESTONE_CHANNEL_ACCEPTED : UInt64 := 1
def MILESTONE_FIRST_MEDIA : UInt64 := 2
def MILESTONE_RANDOM_ACCESS : UInt64 := 8
def MILESTONE_CHANNEL_DETACHED : UInt64 := 512
def MILESTONE_TRACK_LOST : UInt64 := 1024

structure TrackState where
  revision : TrackRevision
  channelGeneration : ChannelGeneration
  milestones : UInt64
  mediaEpoch : UInt32
  lastMediaId : UInt64
  flow : ChannelFlow
  lost : Bool
  deriving Repr, DecidableEq

/-- The arguments of `admit_media`. -/
structure MediaRecord where
  generation : ChannelGeneration
  bodyLength : UInt32
  epoch : UInt32
  mediaId : UInt64
  randomAccess : Bool
  deriving Repr, DecidableEq

namespace TrackState

def new : TrackState :=
  { revision := .one
    channelGeneration := .one
    milestones := 0
    mediaEpoch := 0
    lastMediaId := 0
    flow := .default
    lost := false }

def advanceRevision (track : TrackState) (schema : String) :
    Except MessageError Unit × TrackState :=
  match track.revision.advance with
  | .error _ => (.error (invalidValue schema 0 "exhausted the track revision"), track)
  | .ok revision => (.ok (), { track with revision := revision })

def acceptChannel (track : TrackState) (generation : ChannelGeneration)
    (maximumBodyBytes maximumRecords : UInt64) (maximumRecordBody : UInt32) :
    Except MessageError Unit × TrackState :=
  if track.lost = true ∨ generation ≠ track.channelGeneration then
    (.error (invalidValue "CHANNEL_ACCEPTED" 3 "does not match the live channel generation"),
      track)
  else if maximumBodyBytes < maximumRecordBody.toUInt64 ∨ maximumRecords = 0 then
    (.error (invalidValue "CHANNEL_ACCEPTED" 4 "does not admit one maximum legal record"),
      track)
  else
    { track with
      flow := .new maximumBodyBytes maximumRecords
      milestones := MILESTONE_CHANNEL_ACCEPTED }.advanceRevision "CHANNEL_ACCEPTED"

/-- The message error a flow error turns into. -/
def flowError : ResourceError → MessageError
  | .flowControl => invalidValue "media record" 0 "exceeds absolute flow allowance"
  | _ => invalidValue "media record" 0 "overflows accounting"

def admitMedia (track : TrackState) (record : MediaRecord) :
    Except MessageError Unit × TrackState :=
  if track.lost = true ∨ record.generation ≠ track.channelGeneration then
    (.error (invalidValue "media record" 0 "uses a stale channel generation"), track)
  else
    match track.flow.admitRecord record.bodyLength with
    | (.error error, flow) => (.error (flowError error), { track with flow := flow })
    | (.ok (), flow) =>
        if record.mediaId = 0 ∨ record.mediaId ≤ track.lastMediaId ∨
            record.epoch < track.mediaEpoch then
          (.error (invalidValue "media record" 0
            "has a stale epoch or non-increasing media ID"), { track with flow := flow })
        else if (track.lastMediaId = 0 ∨ track.mediaEpoch < record.epoch) ∧
            record.randomAccess = false then
          (.error (invalidValue "media record" 0
            "must begin the epoch with a recovery unit"), { track with flow := flow })
        else
          (.ok (),
            { track with
              flow := flow
              mediaEpoch := record.epoch
              lastMediaId := record.mediaId
              milestones :=
                if record.randomAccess then
                  track.milestones ||| MILESTONE_FIRST_MEDIA ||| MILESTONE_RANDOM_ACCESS
                else track.milestones ||| MILESTONE_FIRST_MEDIA })

def advanceChannel (track : TrackState) (expected next : ChannelGeneration) :
    Except MessageError Unit × TrackState :=
  if expected ≠ track.channelGeneration ∨
      next.value ≠ (checkedAdd expected.value 1).getD 0 then
    (.error (invalidValue "ADVANCE_CHANNEL" 4
      "is not exactly the current generation plus one"), track)
  else
    { track with
      channelGeneration := next
      milestones := 0
      flow := .default }.advanceRevision "ADVANCE_CHANNEL"

def detach (track : TrackState) : Except MessageError Unit × TrackState :=
  { track with
    milestones := track.milestones ||| MILESTONE_CHANNEL_DETACHED }.advanceRevision
      "channel detach"

def lose (track : TrackState) : Except MessageError Unit × TrackState :=
  { track with
    lost := true
    milestones := track.milestones ||| MILESTONE_TRACK_LOST }.advanceRevision "TRACK_LOST"

end TrackState

/-! ## Runs -/

inductive TrackOperation where
  | acceptChannel (generation : ChannelGeneration)
      (maximumBodyBytes maximumRecords : UInt64) (maximumRecordBody : UInt32)
  | admitMedia (record : MediaRecord)
  | advanceChannel (expected next : ChannelGeneration)
  | detach
  | lose
  deriving Repr, DecidableEq

def trackStep (track : TrackState) :
    TrackOperation → Except MessageError Unit × TrackState
  | .acceptChannel generation maximumBodyBytes maximumRecords maximumRecordBody =>
      track.acceptChannel generation maximumBodyBytes maximumRecords maximumRecordBody
  | .admitMedia record => track.admitMedia record
  | .advanceChannel expected next => track.advanceChannel expected next
  | .detach => track.detach
  | .lose => track.lose

def trackRuns : Machine TrackState TrackOperation (Except MessageError Unit) :=
  { step := trackStep }

abbrev TrackEvent := Event TrackState TrackOperation (Except MessageError Unit)

/-! ## What one operation can do -/

/-- An `advance_channel` call that names the current generation and its successor. -/
def TrackState.Advances (track : TrackState) (expected next : ChannelGeneration) : Prop :=
  expected = track.channelGeneration ∧ next.value = (checkedAdd expected.value 1).getD 0

/-- A record that the guards of `admit_media` let through. -/
structure TrackState.Admissible (track : TrackState) (record : MediaRecord) : Prop where
  live : track.lost = false
  current : record.generation = track.channelGeneration
  allowed : (track.flow.admitRecord record.bodyLength).1 = .ok ()
  later : track.lastMediaId < record.mediaId
  epoch : track.mediaEpoch ≤ record.epoch
  recovery : track.lastMediaId = 0 ∨ track.mediaEpoch < record.epoch →
    record.randomAccess = true

inductive TrackEffect (track : TrackState) :
    TrackOperation → Except MessageError Unit → TrackState → Prop where
  | refused {operation : TrackOperation} (error : MessageError)
      (kept : ∀ expected next, operation = .advanceChannel expected next →
        ¬ track.Advances expected next)
      (unlost : operation ≠ .lose)
      (closed : ∀ record, operation = .admitMedia record → ¬ track.Admissible record) :
      TrackEffect track operation (.error error) track
  | accepted {generation : ChannelGeneration} {maximumBodyBytes maximumRecords : UInt64}
      {maximumRecordBody : UInt32} {result : Except MessageError Unit}
      {revision : TrackRevision} (live : track.lost = false) :
      TrackEffect track
        (.acceptChannel generation maximumBodyBytes maximumRecords maximumRecordBody) result
        { track with
          flow := .new maximumBodyBytes maximumRecords
          milestones := MILESTONE_CHANNEL_ACCEPTED
          revision := revision }
  | charged {record : MediaRecord} (error : MessageError) (flow : ChannelFlow)
      (inadmissible : ¬ track.Admissible record) :
      TrackEffect track (.admitMedia record) (.error error) { track with flow := flow }
  | admitted {record : MediaRecord} (flow : ChannelFlow)
      (admissible : track.Admissible record) :
      TrackEffect track (.admitMedia record) (.ok ())
        { track with
          flow := flow
          mediaEpoch := record.epoch
          lastMediaId := record.mediaId
          milestones :=
            if record.randomAccess then
              track.milestones ||| MILESTONE_FIRST_MEDIA ||| MILESTONE_RANDOM_ACCESS
            else track.milestones ||| MILESTONE_FIRST_MEDIA }
  | advanced {expected next : ChannelGeneration} {result : Except MessageError Unit}
      {revision : TrackRevision} (advances : track.Advances expected next) :
      TrackEffect track (.advanceChannel expected next) result
        { track with
          channelGeneration := next
          milestones := 0
          flow := .default
          revision := revision }
  | detached {result : Except MessageError Unit} {revision : TrackRevision} :
      TrackEffect track .detach result
        { track with
          milestones := track.milestones ||| MILESTONE_CHANNEL_DETACHED
          revision := revision }
  | lost {result : Except MessageError Unit} {revision : TrackRevision} :
      TrackEffect track .lose result
        { track with
          lost := true
          milestones := track.milestones ||| MILESTONE_TRACK_LOST
          revision := revision }

variable (track : TrackState)

theorem advanceRevision_state (schema : String) :
    ∃ revision, (track.advanceRevision schema).2 = { track with revision := revision } := by
  unfold TrackState.advanceRevision
  cases track.revision.advance with
  | error error => exact ⟨track.revision, rfl⟩
  | ok revision => exact ⟨revision, rfl⟩

theorem acceptChannel_effect (generation : ChannelGeneration)
    (maximumBodyBytes maximumRecords : UInt64) (maximumRecordBody : UInt32) :
    TrackEffect track
      (.acceptChannel generation maximumBodyBytes maximumRecords maximumRecordBody)
      (track.acceptChannel generation maximumBodyBytes maximumRecords maximumRecordBody).1
      (track.acceptChannel generation maximumBodyBytes maximumRecords maximumRecordBody).2 := by
  unfold TrackState.acceptChannel
  by_cases stale : track.lost = true ∨ generation ≠ track.channelGeneration
  · rw [if_pos stale]
    exact .refused _ (by simp) (by simp) (by simp)
  rw [if_neg stale]
  by_cases narrow : maximumBodyBytes < maximumRecordBody.toUInt64 ∨ maximumRecords = 0
  · rw [if_pos narrow]
    exact .refused _ (by simp) (by simp) (by simp)
  rw [if_neg narrow]
  obtain ⟨revision, next⟩ := advanceRevision_state
    { track with
      flow := .new maximumBodyBytes maximumRecords
      milestones := MILESTONE_CHANNEL_ACCEPTED } "CHANNEL_ACCEPTED"
  rw [next]
  exact .accepted (Bool.eq_false_iff.mpr (not_or.mp stale).1)

theorem admitMedia_effect (record : MediaRecord) :
    TrackEffect track (.admitMedia record) (track.admitMedia record).1
      (track.admitMedia record).2 := by
  unfold TrackState.admitMedia
  by_cases stale : track.lost = true ∨ record.generation ≠ track.channelGeneration
  · rw [if_pos stale]
    apply TrackEffect.refused _ (by simp) (by simp)
    intro other same admissible
    cases same
    rcases stale with lost | moved
    · rw [admissible.live] at lost
      cases lost
    · exact moved admissible.current
  rw [if_neg stale]
  rw [not_or, not_not, Bool.not_eq_true] at stale
  rcases track.flow.admit_cases record.bodyLength with ⟨error, ends⟩ | ⟨flow, ends⟩
  · rw [ends]
    apply TrackEffect.charged
    intro admissible
    have allowed := admissible.allowed
    rw [ends] at allowed
    cases allowed
  rw [ends]
  dsimp only
  by_cases old : record.mediaId = 0 ∨ record.mediaId ≤ track.lastMediaId ∨
      record.epoch < track.mediaEpoch
  · rw [if_pos old]
    apply TrackEffect.charged
    intro admissible
    have later := UInt64.lt_iff_toNat_lt.mp admissible.later
    have epoch := UInt32.le_iff_toNat_le.mp admissible.epoch
    rcases old with zero | earlier | before
    · rw [zero] at later
      simp at later
    · rw [UInt64.le_iff_toNat_le] at earlier
      omega
    · rw [UInt32.lt_iff_toNat_lt] at before
      omega
  rw [if_neg old]
  rw [not_or, not_or, UInt64.not_le, UInt32.not_lt] at old
  by_cases delta : (track.lastMediaId = 0 ∨ track.mediaEpoch < record.epoch) ∧
      record.randomAccess = false
  · rw [if_pos delta]
    apply TrackEffect.charged
    intro admissible
    have recovers := admissible.recovery delta.1
    rw [delta.2] at recovers
    cases recovers
  rw [if_neg delta]
  apply TrackEffect.admitted
  refine ⟨stale.1, stale.2, by rw [ends], old.2.1, old.2.2, ?_⟩
  intro begins
  rw [not_and, Bool.not_eq_false] at delta
  exact delta begins

theorem advanceChannel_effect (expected next : ChannelGeneration) :
    TrackEffect track (.advanceChannel expected next) (track.advanceChannel expected next).1
      (track.advanceChannel expected next).2 := by
  unfold TrackState.advanceChannel
  by_cases wrong : expected ≠ track.channelGeneration ∨
      next.value ≠ (checkedAdd expected.value 1).getD 0
  · rw [if_pos wrong]
    apply TrackEffect.refused _ _ (by simp) (by simp)
    intro otherExpected otherNext same advances
    cases same
    rcases wrong with stale | skips
    · exact stale advances.1
    · exact skips advances.2
  · rw [if_neg wrong]
    rw [not_or, not_not, not_not] at wrong
    obtain ⟨revision, moved⟩ := advanceRevision_state
      { track with
        channelGeneration := next
        milestones := 0
        flow := .default } "ADVANCE_CHANNEL"
    rw [moved]
    exact .advanced wrong

theorem detach_effect : TrackEffect track .detach track.detach.1 track.detach.2 := by
  unfold TrackState.detach
  obtain ⟨revision, moved⟩ := advanceRevision_state
    { track with milestones := track.milestones ||| MILESTONE_CHANNEL_DETACHED }
    "channel detach"
  rw [moved]
  exact .detached

theorem lose_effect : TrackEffect track .lose track.lose.1 track.lose.2 := by
  unfold TrackState.lose
  obtain ⟨revision, moved⟩ := advanceRevision_state
    { track with
      lost := true
      milestones := track.milestones ||| MILESTONE_TRACK_LOST } "TRACK_LOST"
  rw [moved]
  exact .lost

theorem trackStep_effect (operation : TrackOperation) :
    TrackEffect track operation (trackStep track operation).1
      (trackStep track operation).2 := by
  cases operation with
  | acceptChannel generation maximumBodyBytes maximumRecords maximumRecordBody =>
      exact acceptChannel_effect track generation maximumBodyBytes maximumRecords
        maximumRecordBody
  | admitMedia record => exact admitMedia_effect track record
  | advanceChannel expected next => exact advanceChannel_effect track expected next
  | detach => exact detach_effect track
  | lose => exact lose_effect track

end VividProtocol.Track

import Mathlib.Tactic
import VividProtocol.Track.State

/-!
# What a refused media record costs

`admit_media` charges the flow before it looks at the epoch and the media ID, so
a record that those checks refuse has already used up allowance.  In a run
without such records the flow counts the accepted records of its channel and
nothing else.
-/

set_option autoImplicit false

namespace VividProtocol.Track

open VividProtocol.Library.Transition

namespace TrackState

/-- The checks that come after the flow was charged. -/
structure Continues (track : TrackState) (record : MediaRecord) : Prop where
  later : track.lastMediaId < record.mediaId
  epoch : track.mediaEpoch ≤ record.epoch
  recovery : track.lastMediaId = 0 ∨ track.mediaEpoch < record.epoch →
    record.randomAccess = true

/-- A record the flow is charged for, though it does not continue the media. -/
def Wastes (track : TrackState) (record : MediaRecord) : Prop :=
  track.lost = false ∧ record.generation = track.channelGeneration ∧
    track.flow.Allows record.bodyLength ∧ ¬ track.Continues record

/-- The calls that open a channel with a flow of its own. -/
def Renews (track : TrackState) : TrackOperation → Prop
  | .acceptChannel generation maximumBodyBytes maximumRecords maximumRecordBody =>
      track.lost = false ∧ generation = track.channelGeneration ∧
        maximumRecordBody.toUInt64 ≤ maximumBodyBytes ∧ maximumRecords ≠ 0
  | .advanceChannel expected next => track.Advances expected next
  | _ => False

instance (track : TrackState) (operation : TrackOperation) :
    Decidable (track.Renews operation) := by
  unfold Renews Advances
  cases operation <;> infer_instance

end TrackState

variable {track : TrackState}

theorem continues_iff (record : MediaRecord) :
    track.Continues record ↔
      ¬ (record.mediaId = 0 ∨ record.mediaId ≤ track.lastMediaId ∨
          record.epoch < track.mediaEpoch) ∧
        ¬ ((track.lastMediaId = 0 ∨ track.mediaEpoch < record.epoch) ∧
          record.randomAccess = false) := by
  rw [not_or, not_or, UInt64.not_le, UInt32.not_lt, not_and, Bool.not_eq_false]
  constructor
  · intro continues
    have later := UInt64.lt_iff_toNat_lt.mp continues.later
    refine ⟨⟨?_, continues.later, continues.epoch⟩, continues.recovery⟩
    intro zero
    rw [zero] at later
    exact absurd later (by simp)
  · intro guarded
    exact ⟨guarded.1.2.1, guarded.1.2.2, guarded.2⟩

/-- How `admit_media` ends: refused for nothing, refused and charged, or accepted. -/
theorem admitMedia_cases (record : MediaRecord) :
    (∃ error, track.admitMedia record = (.error error, track) ∧
        ¬ (track.lost = false ∧ record.generation = track.channelGeneration ∧
          track.flow.Allows record.bodyLength)) ∨
      ∃ flow, track.flow.Charged record.bodyLength flow ∧
        track.lost = false ∧ record.generation = track.channelGeneration ∧
        track.flow.Allows record.bodyLength ∧
        ((∃ error, track.admitMedia record = (.error error, { track with flow := flow }) ∧
            ¬ track.Continues record) ∨
          ∃ after, track.admitMedia record = (.ok (), after) ∧ after.flow = flow ∧
            track.Continues record) := by
  unfold TrackState.admitMedia
  by_cases stale : track.lost = true ∨ record.generation ≠ track.channelGeneration
  · rw [if_pos stale]
    refine Or.inl ⟨_, rfl, ?_⟩
    rintro ⟨live, current, -⟩
    rcases stale with lost | moved
    · rw [live] at lost
      cases lost
    · exact moved current
  rw [if_neg stale]
  rw [not_or, not_not, Bool.not_eq_true] at stale
  rcases track.flow.admitRecord_cases record.bodyLength with
    ⟨flow, allows, ends, charged⟩ | ⟨error, refused, ends⟩
  · rw [ends]
    dsimp only
    refine Or.inr ⟨flow, charged, stale.1, stale.2, allows, ?_⟩
    rw [continues_iff]
    by_cases old : record.mediaId = 0 ∨ record.mediaId ≤ track.lastMediaId ∨
        record.epoch < track.mediaEpoch
    · rw [if_pos old]
      exact Or.inl ⟨_, rfl, fun guarded => guarded.1 old⟩
    rw [if_neg old]
    by_cases delta : (track.lastMediaId = 0 ∨ track.mediaEpoch < record.epoch) ∧
        record.randomAccess = false
    · rw [if_pos delta]
      exact Or.inl ⟨_, rfl, fun guarded => guarded.2 delta⟩
    · rw [if_neg delta]
      exact Or.inr ⟨_, rfl, rfl, old, delta⟩
  · rw [ends]
    exact Or.inl ⟨_, rfl, fun admitted => refused admitted.2.2⟩

/-- A call that is refused costs nothing exactly when it wastes nothing. -/
theorem admitMedia_atomic_iff (record : MediaRecord) :
    ((∃ error, (track.admitMedia record).1 = .error error) →
        (track.admitMedia record).2 = track) ↔
      ¬ track.Wastes record := by
  rcases admitMedia_cases record with
    ⟨error, ends, refused⟩ | ⟨flow, charged, live, current, allows, ⟨error, ends, stops⟩ |
      ⟨after, ends, -, continues⟩⟩
  · rw [ends]
    exact iff_of_true (fun _ => rfl) fun wastes => refused ⟨wastes.1, wastes.2.1, wastes.2.2.1⟩
  · rw [ends]
    refine iff_of_false ?_ (not_not.mpr ⟨live, current, allows, stops⟩)
    intro atomic
    have same := congrArg (fun state => state.flow.sentMediaRecords.toNat) (atomic ⟨error, rfl⟩)
    have records := charged.records
    dsimp only at same
    omega
  · rw [ends]
    refine iff_of_true ?_ fun wastes => wastes.2.2.2 continues
    rintro ⟨error, impossible⟩
    cases impossible

/-! ## What the flow counts -/

/-- Bytes and records accepted on the present channel, after one more event. -/
def tally (accepted : Nat × Nat) (event : TrackEvent) : Nat × Nat :=
  if event.before.Renews event.input then (0, 0)
  else
    match event.input, event.output with
    | .admitMedia record, .ok () => (accepted.1 + record.bodyLength.toNat, accepted.2 + 1)
    | _, _ => accepted

section Tally

variable {so : Nat × Nat} {event : TrackEvent}

theorem tally_renews (renews : event.before.Renews event.input) : tally so event = (0, 0) :=
  if_pos renews

theorem tally_other (kept : ¬ event.before.Renews event.input)
    (other : ∀ record, event.input ≠ .admitMedia record) : tally so event = so := by
  unfold tally
  rw [if_neg kept]
  cases asked : event.input with
  | admitMedia record => exact absurd asked (other record)
  | acceptChannel => rfl
  | advanceChannel => rfl
  | detach => rfl
  | lose => rfl

theorem tally_refused {record : MediaRecord} {error : MessageError}
    (asked : event.input = .admitMedia record) (refused : event.output = .error error) :
    tally so event = so := by
  unfold tally
  rw [asked, refused, if_neg (show ¬ event.before.Renews (.admitMedia record) from id)]

theorem tally_accepted {record : MediaRecord} (asked : event.input = .admitMedia record)
    (done : event.output = .ok ()) :
    tally so event = (so.1 + record.bodyLength.toNat, so.2 + 1) := by
  unfold tally
  rw [asked, done, if_neg (show ¬ event.before.Renews (.admitMedia record) from id)]

end Tally

def accepted (history : List TrackEvent) : Nat × Nat := history.foldl tally (0, 0)

/-- The flow counts what was accepted. -/
def Counts (track : TrackState) (accepted : Nat × Nat) : Prop :=
  track.flow.sentBodyBytes.toNat = accepted.1 ∧ track.flow.sentMediaRecords.toNat = accepted.2

theorem acceptChannel_flow (generation : ChannelGeneration)
    (maximumBodyBytes maximumRecords : UInt64) (maximumRecordBody : UInt32) :
    let operation := TrackOperation.acceptChannel generation maximumBodyBytes maximumRecords
      maximumRecordBody
    (track.Renews operation ∧
        (trackStep track operation).2.flow = .new maximumBodyBytes maximumRecords) ∨
      (¬ track.Renews operation ∧ (trackStep track operation).2.flow = track.flow) := by
  change (track.lost = false ∧ generation = track.channelGeneration ∧
      maximumRecordBody.toUInt64 ≤ maximumBodyBytes ∧ maximumRecords ≠ 0) ∧
        (track.acceptChannel _ _ _ _).2.flow = _ ∨
      ¬ (track.lost = false ∧ generation = track.channelGeneration ∧
        maximumRecordBody.toUInt64 ≤ maximumBodyBytes ∧ maximumRecords ≠ 0) ∧
        (track.acceptChannel _ _ _ _).2.flow = _
  unfold TrackState.acceptChannel
  by_cases stale : track.lost = true ∨ generation ≠ track.channelGeneration
  · rw [if_pos stale]
    refine Or.inr ⟨?_, rfl⟩
    rintro ⟨live, current, -⟩
    rcases stale with lost | moved
    · rw [live] at lost
      cases lost
    · exact moved current
  rw [if_neg stale]
  rw [not_or, not_not, Bool.not_eq_true] at stale
  by_cases narrow : maximumBodyBytes < maximumRecordBody.toUInt64 ∨ maximumRecords = 0
  · rw [if_pos narrow]
    refine Or.inr ⟨?_, rfl⟩
    rintro ⟨-, -, wide, some⟩
    rcases narrow with small | none
    · exact UInt64.not_lt.mpr wide small
    · exact some none
  · rw [if_neg narrow]
    rw [not_or, UInt64.not_lt] at narrow
    obtain ⟨revision, next⟩ := advanceRevision_state
      { track with
        flow := .new maximumBodyBytes maximumRecords
        milestones := MILESTONE_CHANNEL_ACCEPTED } "CHANNEL_ACCEPTED"
    rw [next]
    exact Or.inl ⟨⟨stale.1, stale.2, narrow.1, narrow.2⟩, rfl⟩

theorem advanceChannel_flow (expected next : ChannelGeneration) :
    let operation := TrackOperation.advanceChannel expected next
    (track.Renews operation ∧ (trackStep track operation).2.flow = .default) ∨
      (¬ track.Renews operation ∧ (trackStep track operation).2.flow = track.flow) := by
  change track.Advances expected next ∧ (track.advanceChannel expected next).2.flow = _ ∨
    ¬ track.Advances expected next ∧ (track.advanceChannel expected next).2.flow = _
  unfold TrackState.advanceChannel TrackState.Advances
  by_cases wrong : expected ≠ track.channelGeneration ∨
      next.value ≠ (checkedAdd expected.value 1).getD 0
  · rw [if_pos wrong]
    refine Or.inr ⟨?_, rfl⟩
    rintro ⟨current, successor⟩
    exact wrong.elim (fun stale => stale current) fun skips => skips successor
  · rw [if_neg wrong]
    rw [not_or, not_not, not_not] at wrong
    obtain ⟨revision, moved⟩ := advanceRevision_state
      { track with
        channelGeneration := next
        milestones := 0
        flow := .default } "ADVANCE_CHANNEL"
    rw [moved]
    exact Or.inl ⟨wrong, rfl⟩

theorem detach_flow : track.detach.2.flow = track.flow := by
  obtain ⟨revision, moved⟩ := advanceRevision_state
    { track with milestones := track.milestones ||| MILESTONE_CHANNEL_DETACHED }
    "channel detach"
  unfold TrackState.detach
  rw [moved]

theorem lose_flow : track.lose.2.flow = track.flow := by
  obtain ⟨revision, moved⟩ := advanceRevision_state
    { track with
      lost := true
      milestones := track.milestones ||| MILESTONE_TRACK_LOST } "TRACK_LOST"
  unfold TrackState.lose
  rw [moved]

/-- A call that does not waste allowance keeps the count. -/
theorem counts_step {so : Nat × Nat} (counts : Counts track so) (operation : TrackOperation)
    (frugal : ∀ record, operation = .admitMedia record → ¬ track.Wastes record) :
    Counts (trackStep track operation).2 (tally so (trackRuns.event track operation)) := by
  have moved (flow : (trackStep track operation).2.flow = track.flow) :
      Counts (trackStep track operation).2 so := by
    unfold Counts
    rw [flow]
    exact counts
  have fresh (bytes records : UInt64) (flow : (trackStep track operation).2.flow =
      .new bytes records) : Counts (trackStep track operation).2 (0, 0) := by
    unfold Counts
    rw [flow]
    exact ⟨rfl, rfl⟩
  cases operation with
  | acceptChannel generation maximumBodyBytes maximumRecords maximumRecordBody =>
      rcases acceptChannel_flow generation maximumBodyBytes maximumRecords
        maximumRecordBody with ⟨renews, flow⟩ | ⟨kept, flow⟩
      · rw [tally_renews renews]
        exact fresh _ _ flow
      · rw [tally_other kept (by simp)]
        exact moved flow
  | advanceChannel expected next =>
      rcases advanceChannel_flow expected next with ⟨renews, flow⟩ | ⟨kept, flow⟩
      · rw [tally_renews renews]
        exact fresh 0 0 flow
      · rw [tally_other kept (by simp)]
        exact moved flow
  | detach =>
      rw [tally_other id (by simp)]
      exact moved detach_flow
  | lose =>
      rw [tally_other id (by simp)]
      exact moved lose_flow
  | admitMedia record =>
      have answer : (trackRuns.event track (.admitMedia record)).output =
        (track.admitMedia record).1 := rfl
      rcases admitMedia_cases record with
        ⟨error, ends, -⟩ | ⟨flow, charged, live, current, allows, ⟨error, ends, stops⟩ |
          ⟨after, ends, same, -⟩⟩
      · rw [ends] at answer
        rw [tally_refused rfl answer]
        apply moved
        show (track.admitMedia record).2.flow = track.flow
        rw [ends]
      · exact absurd ⟨live, current, allows, stops⟩ (frugal record rfl)
      · rw [ends] at answer
        rw [tally_accepted rfl answer]
        show Counts (track.admitMedia record).2 _
        rw [ends]
        unfold Counts
        rw [same, charged.bodyBytes, charged.records, counts.1, counts.2]
        exact ⟨rfl, rfl⟩

/-- No call of the run wasted allowance. -/
def Frugal (history : List TrackEvent) : Prop :=
  ∀ event ∈ history, ∀ record, event.input = .admitMedia record → ¬ event.before.Wastes record

theorem counts_run (operations : List TrackOperation)
    (frugal : Frugal (trackRuns.history .new operations)) :
    Counts (trackRuns.final .new operations) (accepted (trackRuns.history .new operations)) := by
  induction operations using List.reverseRecOn with
  | nil => exact ⟨rfl, rfl⟩
  | append_singleton operations operation ih =>
      rw [Machine.history_snoc] at frugal ⊢
      rw [Machine.final_snoc, accepted, List.foldl_append]
      have last := frugal _ (List.mem_append_right _ List.mem_cons_self)
      exact counts_step (ih fun event inside => frugal event (List.mem_append_left _ inside))
        operation last

/-- A refused media record changes nothing exactly when the checks after the flow
would have let it through or the flow was never asked.  Without such records the
flow counts the accepted ones, and refuses only what they leave no room for. -/
theorem refused_media_free_iff (operations : List TrackOperation) (record : MediaRecord) :
    let history := trackRuns.history .new operations
    let track := trackRuns.final .new operations
    (((∃ error, (track.admitMedia record).1 = .error error) →
        (track.admitMedia record).2 = track) ↔ ¬ track.Wastes record) ∧
      (Frugal history →
        track.flow.sentBodyBytes.toNat = (accepted history).1 ∧
          track.flow.sentMediaRecords.toNat = (accepted history).2 ∧
          (track.lost = false → record.generation = track.channelGeneration →
            track.Continues record → (track.admitMedia record).1 ≠ .ok () →
            track.flow.maximumBodyBytes.toNat <
                (accepted history).1 + record.bodyLength.toNat ∨
              track.flow.maximumMediaRecords.toNat < (accepted history).2 + 1)) := by
  intro history track
  refine ⟨admitMedia_atomic_iff record, ?_⟩
  intro frugal
  have counts := counts_run operations frugal
  refine ⟨counts.1, counts.2, ?_⟩
  intro live current continues refused
  rcases admitMedia_cases record with
    ⟨error, ends, closed⟩ | ⟨flow, charged, -, -, allows, ⟨error, ends, stops⟩ |
      ⟨after, ends, same, -⟩⟩
  · rw [← counts.1, ← counts.2]
    by_contra room
    rw [not_or, Nat.not_lt, Nat.not_lt] at room
    exact closed ⟨live, current, room.1, room.2⟩
  · exact absurd continues stops
  · rw [ends] at refused
    exact absurd rfl refused

/-- A channel for one record, and a first record that is no recovery unit. -/
def delta : MediaRecord := ⟨.one, 10, 0, 1, false⟩

/-- It is refused, and the allowance is gone. -/
theorem refused_media_not_free :
    ¬ ∀ (operations : List TrackOperation) (record : MediaRecord),
      let track := trackRuns.final .new operations
      (∃ error, (track.admitMedia record).1 = .error error) →
        (track.admitMedia record).2 = track := by
  intro free
  have same := free [.acceptChannel .one 10 1 10] delta ⟨_, rfl⟩
  exact absurd (congrArg (fun track => track.flow.sentMediaRecords) same) (by decide)

/-- With a recovery unit first, a second record finds the allowance used up. -/
theorem refused_media_free_iff_spent :
    let history := trackRuns.history .new
      [.acceptChannel .one 10 1 10, .admitMedia { delta with randomAccess := true }]
    (10 : Nat) < (accepted history).1 + 10 ∨ (1 : Nat) < (accepted history).2 + 1 := by
  refine ((refused_media_free_iff
    [.acceptChannel .one 10 1 10, .admitMedia { delta with randomAccess := true }]
    { delta with mediaId := 2 }).2 ?_).2.2 (by decide) (by decide) ⟨by decide, by decide, by decide⟩
    (by decide)
  intro event inside record asked wastes
  simp only [Machine.history, List.mem_cons, List.not_mem_nil, or_false] at inside
  rcases inside with rfl | rfl
  · cases asked
  · cases asked
    exact wastes.2.2.2 ⟨by decide, by decide, by decide⟩

end VividProtocol.Track

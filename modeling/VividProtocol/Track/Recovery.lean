import Mathlib.Tactic
import VividProtocol.Track.State

/-!
# Recovery units

The first record of a generation and of a greater epoch must be a random-access
unit.  The guard of `admit_media` reads the last media ID and the epoch, which
outlive a generation, so it covers the epochs and the first generation only.
A run obeys the law exactly when no record without random access is offered to
a later generation that has accepted none.
-/

set_option autoImplicit false

namespace VividProtocol.Track

open VividProtocol.Library.Transition

/-! ## Reading the history -/

def admitted? (event : TrackEvent) : Option MediaRecord :=
  match event.input, event.output with
  | .admitMedia record, .ok () => some record
  | _, _ => none

/-- A record was accepted, and the channel generation has not moved since. -/
def MediaSinceAdvance (past : List TrackEvent) : Prop :=
  ∃ earlier event since, past = earlier ++ event :: since ∧ (admitted? event).isSome ∧
    ∀ between ∈ since, between.after.channelGeneration = between.before.channelGeneration

structure RecoveryLaw (past : List TrackEvent) (event : TrackEvent) : Prop where
  milestone : Meets event.after.milestones MILESTONE_FIRST_MEDIA →
    Meets event.after.milestones MILESTONE_RANDOM_ACCESS
  generation : ∀ record, admitted? event = some record → ¬ MediaSinceAdvance past →
    record.randomAccess = true
  epoch : ∀ record, admitted? event = some record →
    (∀ earlier ∈ past, ∀ other, admitted? earlier = some other →
      other.epoch < record.epoch) → record.randomAccess = true
  increasing : ∀ record, admitted? event = some record →
    ∀ earlier ∈ past, ∀ other, admitted? earlier = some other →
      other.mediaId < record.mediaId ∧ other.epoch ≤ record.epoch

/-- A record without random access, of the current epoch, that the guards let
through while the generation has accepted no media and an earlier one has. -/
def UnguardedDelta (event : TrackEvent) : Prop :=
  ∃ record, event.input = .admitMedia record ∧ event.before.Admissible record ∧
    ¬ Meets event.before.milestones MILESTONE_FIRST_MEDIA ∧ event.before.lastMediaId ≠ 0 ∧
    record.epoch = event.before.mediaEpoch ∧ record.randomAccess = false

/-! ## The ledger -/

structure TrackLedger (past : List TrackEvent) (track : TrackState) : Prop where
  paired : Meets track.milestones MILESTONE_RANDOM_ACCESS →
    Meets track.milestones MILESTONE_FIRST_MEDIA
  first : Meets track.milestones MILESTONE_FIRST_MEDIA → MediaSinceAdvance past
  bounded : ∀ event ∈ past, ∀ record, admitted? event = some record →
    record.mediaId.toNat ≤ track.lastMediaId.toNat ∧
      record.epoch.toNat ≤ track.mediaEpoch.toNat
  reached : track.lastMediaId ≠ 0 → ∃ event ∈ past, ∃ record,
    admitted? event = some record ∧ record.epoch = track.mediaEpoch

variable {past : List TrackEvent} {event : TrackEvent}

theorem trackLedger_new : TrackLedger [] .new where
  paired := fun set => absurd set (not_meets_zero _)
  first := fun set => absurd set (not_meets_zero _)
  bounded := by
    intro event inside
    cases inside
  reached := fun nonzero => absurd rfl nonzero

theorem MediaSinceAdvance.snoc (media : MediaSinceAdvance past)
    (kept : event.after.channelGeneration = event.before.channelGeneration) :
    MediaSinceAdvance (past ++ [event]) := by
  obtain ⟨earlier, accepted, since, rfl, isMedia, quiet⟩ := media
  refine ⟨earlier, accepted, since ++ [event], by simp, isMedia, ?_⟩
  exact forall_snoc quiet kept

/-- A step that accepts no media keeps the media part of the state. -/
theorem TrackLedger.carry (ledger : TrackLedger past event.before)
    (silent : admitted? event = none)
    (epoch : event.after.mediaEpoch = event.before.mediaEpoch)
    (last : event.after.lastMediaId = event.before.lastMediaId)
    (paired : Meets event.after.milestones MILESTONE_RANDOM_ACCESS →
      Meets event.after.milestones MILESTONE_FIRST_MEDIA)
    (first : Meets event.after.milestones MILESTONE_FIRST_MEDIA →
      Meets event.before.milestones MILESTONE_FIRST_MEDIA ∧
        event.after.channelGeneration = event.before.channelGeneration) :
    TrackLedger (past ++ [event]) event.after where
  paired := paired
  first := by
    intro set
    exact (ledger.first (first set).1).snoc (first set).2
  bounded := by
    rw [epoch, last]
    apply forall_snoc ledger.bounded
    intro record accepted
    rw [silent] at accepted
    cases accepted
  reached := by
    rw [epoch, last]
    intro nonzero
    obtain ⟨earlier, inside, record, accepted, same⟩ := ledger.reached nonzero
    exact ⟨earlier, List.mem_append_left _ inside, record, accepted, same⟩

/-- A bit the milestones did not gain was there before. -/
theorem meets_of_or {left right mask : UInt64} (set : Meets (left ||| right) mask)
    (other : right &&& mask = 0) : Meets left mask := by
  rcases meets_or.mp set with inLeft | inRight
  · exact inLeft
  · exact absurd other inRight

theorem not_meets_accepted : ¬ Meets MILESTONE_CHANNEL_ACCEPTED MILESTONE_FIRST_MEDIA ∧
    ¬ Meets MILESTONE_CHANNEL_ACCEPTED MILESTONE_RANDOM_ACCESS :=
  ⟨fun nonzero => nonzero rfl, fun nonzero => nonzero rfl⟩

theorem meets_admitted {milestones : UInt64} {randomAccess : Bool} :
    Meets (if randomAccess then
        milestones ||| MILESTONE_FIRST_MEDIA ||| MILESTONE_RANDOM_ACCESS
      else milestones ||| MILESTONE_FIRST_MEDIA) MILESTONE_RANDOM_ACCESS ↔
      Meets milestones MILESTONE_RANDOM_ACCESS ∨ randomAccess = true := by
  have other : ¬ Meets MILESTONE_FIRST_MEDIA MILESTONE_RANDOM_ACCESS :=
    fun nonzero => nonzero rfl
  have same : Meets MILESTONE_RANDOM_ACCESS MILESTONE_RANDOM_ACCESS := by
    unfold Meets
    decide
  cases randomAccess with
  | false =>
      rw [if_neg (by simp), meets_or]
      simp [other]
  | true =>
      rw [if_pos rfl, meets_or]
      simp [same]

theorem meets_first_admitted {milestones : UInt64} {randomAccess : Bool} :
    Meets (if randomAccess then
        milestones ||| MILESTONE_FIRST_MEDIA ||| MILESTONE_RANDOM_ACCESS
      else milestones ||| MILESTONE_FIRST_MEDIA) MILESTONE_FIRST_MEDIA := by
  have same : Meets MILESTONE_FIRST_MEDIA MILESTONE_FIRST_MEDIA := by
    unfold Meets
    decide
  cases randomAccess with
  | false =>
      rw [if_neg (by simp), meets_or]
      exact Or.inr same
  | true =>
      rw [if_pos rfl, meets_or, meets_or]
      exact Or.inl (Or.inr same)

theorem TrackLedger.snoc (ledger : TrackLedger past event.before)
    (effect : TrackEffect event.before event.input event.output event.after) :
    TrackLedger (past ++ [event]) event.after := by
  obtain ⟨before, operation, result, after⟩ := event
  dsimp only at ledger effect
  cases effect with
  | refused error kept unlost closed =>
      apply ledger.carry _ rfl rfl ledger.paired (fun set => ⟨set, rfl⟩)
      cases operation <;> rfl
  | accepted live =>
      apply ledger.carry rfl rfl rfl
      · intro set
        exact absurd set not_meets_accepted.2
      · intro set
        exact absurd set not_meets_accepted.1
  | charged error flow inadmissible =>
      exact ledger.carry rfl rfl rfl ledger.paired (fun set => ⟨set, rfl⟩)
  | @admitted record flow admissible =>
      have later := UInt64.lt_iff_toNat_lt.mp admissible.later
      have epoch := UInt32.le_iff_toNat_le.mp admissible.epoch
      refine ⟨fun _ => meets_first_admitted, ?_, ?_, ?_⟩
      · intro _
        exact ⟨past, _, [], rfl, rfl, by simp⟩
      · apply forall_snoc
        · intro earlier inside other accepted
          have bound := ledger.bounded earlier inside other accepted
          dsimp only
          omega
        · intro other accepted
          cases accepted
          exact ⟨le_refl _, le_refl _⟩
      · intro _
        exact ⟨_, List.mem_append_right past List.mem_cons_self, record, rfl, rfl⟩
  | advanced advances =>
      apply ledger.carry rfl rfl rfl
      · intro set
        exact absurd set (not_meets_zero _)
      · intro set
        exact absurd set (not_meets_zero _)
  | detached =>
      apply ledger.carry rfl rfl rfl
      · intro set
        exact meets_or.mpr (Or.inl (ledger.paired (meets_of_or set rfl)))
      · intro set
        exact ⟨meets_of_or set rfl, rfl⟩
  | lost =>
      apply ledger.carry rfl rfl rfl
      · intro set
        exact meets_or.mpr (Or.inl (ledger.paired (meets_of_or set rfl)))
      · intro set
        exact ⟨meets_of_or set rfl, rfl⟩

theorem trackLedger_reachable (operations : List TrackOperation) :
    TrackLedger (trackRuns.history .new operations) (trackRuns.final .new operations) := by
  apply trackRuns.history_induction trackLedger_new
  intro past track operation ledger
  exact @TrackLedger.snoc past (trackRuns.event track operation) ledger
    (trackStep_effect track operation)

/-! ## The law -/

theorem admitted_eq_some {record : MediaRecord} :
    admitted? event = some record ↔ event.input = .admitMedia record ∧ event.output = .ok () := by
  obtain ⟨before, operation, result, after⟩ := event
  unfold admitted?
  cases operation with
  | admitMedia other =>
      cases result with
      | error error => simp
      | ok done => simp
  | acceptChannel generation maximumBodyBytes maximumRecords maximumRecordBody => simp
  | advanceChannel expected next => simp
  | detach => simp
  | lose => simp

theorem admissible_of_admitted {record : MediaRecord}
    (effect : TrackEffect event.before event.input event.output event.after)
    (accepted : admitted? event = some record) : event.before.Admissible record := by
  obtain ⟨asked, answered⟩ := admitted_eq_some.mp accepted
  rw [asked, answered] at effect
  generalize event.after = after at effect
  cases effect with
  | admitted flow admissible => exact admissible

/-- The guard covers the first record of a greater epoch. -/
theorem TrackLedger.epoch_law (ledger : TrackLedger past event.before)
    (effect : TrackEffect event.before event.input event.output event.after)
    {record : MediaRecord} (accepted : admitted? event = some record)
    (greater : ∀ earlier ∈ past, ∀ other, admitted? earlier = some other →
      other.epoch < record.epoch) : record.randomAccess = true := by
  apply (admissible_of_admitted effect accepted).recovery
  by_cases unused : event.before.lastMediaId = 0
  · exact Or.inl unused
  · obtain ⟨earlier, inside, other, isMedia, same⟩ := ledger.reached unused
    have above := greater earlier inside other isMedia
    rw [same] at above
    exact Or.inr above

theorem TrackLedger.order_law (ledger : TrackLedger past event.before)
    (effect : TrackEffect event.before event.input event.output event.after)
    {record : MediaRecord} (accepted : admitted? event = some record) :
    ∀ earlier ∈ past, ∀ other, admitted? earlier = some other →
      other.mediaId < record.mediaId ∧ other.epoch ≤ record.epoch := by
  have admissible := admissible_of_admitted effect accepted
  intro earlier inside other isMedia
  have bound := ledger.bounded earlier inside other isMedia
  have later := UInt64.lt_iff_toNat_lt.mp admissible.later
  have epoch := UInt32.le_iff_toNat_le.mp admissible.epoch
  rw [UInt64.lt_iff_toNat_lt, UInt32.le_iff_toNat_le]
  omega

/-- Without the unguarded case, a first record of a generation recovers. -/
theorem recovers_of_guarded
    (effect : TrackEffect event.before event.input event.output event.after)
    (guarded : ¬ UnguardedDelta event) {record : MediaRecord}
    (accepted : admitted? event = some record)
    (first : ¬ Meets event.before.milestones MILESTONE_FIRST_MEDIA) :
    record.randomAccess = true := by
  have admissible := admissible_of_admitted effect accepted
  by_cases begins : event.before.lastMediaId = 0 ∨ event.before.mediaEpoch < record.epoch
  · exact admissible.recovery begins
  · rw [not_or, UInt32.not_lt] at begins
    cases recovers : record.randomAccess with
    | true => rfl
    | false =>
        apply absurd _ guarded
        refine ⟨record, (admitted_eq_some.mp accepted).1, admissible, first, begins.1, ?_,
          recovers⟩
        exact UInt32.le_antisymm begins.2 admissible.epoch

/-- The milestone law of one step, where the step is guarded. -/
theorem milestone_step
    (effect : TrackEffect event.before event.input event.output event.after)
    (guarded : ¬ UnguardedDelta event)
    (before : Meets event.before.milestones MILESTONE_FIRST_MEDIA →
      Meets event.before.milestones MILESTONE_RANDOM_ACCESS) :
    Meets event.after.milestones MILESTONE_FIRST_MEDIA →
      Meets event.after.milestones MILESTONE_RANDOM_ACCESS := by
  have recovers := @recovers_of_guarded event effect guarded
  obtain ⟨track, operation, result, after⟩ := event
  dsimp only at effect before recovers
  intro set
  cases effect with
  | refused error kept unlost closed => exact before set
  | accepted live => exact absurd set not_meets_accepted.1
  | charged error flow inadmissible => exact before set
  | @admitted record flow admissible =>
      apply meets_admitted.mpr
      by_cases first : Meets track.milestones MILESTONE_FIRST_MEDIA
      · exact Or.inl (before first)
      · exact Or.inr (recovers rfl first)
  | advanced advances => exact absurd set (not_meets_zero _)
  | detached => exact meets_or.mpr (Or.inl (before (meets_of_or set rfl)))
  | lost => exact meets_or.mpr (Or.inl (before (meets_of_or set rfl)))

theorem milestone_reachable (operations : List TrackOperation)
    (guarded : ∀ event ∈ trackRuns.history .new operations, ¬ UnguardedDelta event) :
    Meets (trackRuns.final .new operations).milestones MILESTONE_FIRST_MEDIA →
      Meets (trackRuns.final .new operations).milestones MILESTONE_RANDOM_ACCESS := by
  induction operations using List.reverseRecOn with
  | nil => exact fun set => absurd set (not_meets_zero _)
  | append_singleton operations operation ih =>
      rw [trackRuns.history_snoc] at guarded
      have before := ih fun event inside => guarded event (List.mem_append_left _ inside)
      rw [trackRuns.final_snoc]
      exact @milestone_step (trackRuns.event _ operation) (trackStep_effect _ operation)
        (guarded _ (List.mem_append_right _ List.mem_cons_self)) before

/-- An unguarded record is accepted, and leaves the milestones without random access. -/
theorem unguarded_breaks (ledger : TrackLedger past event.before)
    (effect : TrackEffect event.before event.input event.output event.after)
    (unguarded : UnguardedDelta event) :
    Meets event.after.milestones MILESTONE_FIRST_MEDIA ∧
      ¬ Meets event.after.milestones MILESTONE_RANDOM_ACCESS := by
  obtain ⟨record, asked, admissible, first, -, -, delta⟩ := unguarded
  obtain ⟨before, operation, result, after⟩ := event
  dsimp only at ledger effect asked admissible first
  subst asked
  cases effect with
  | refused error kept unlost closed => exact absurd admissible (closed record rfl)
  | charged error flow inadmissible => exact absurd admissible inadmissible
  | admitted flow again =>
      refine ⟨meets_first_admitted, ?_⟩
      rw [meets_admitted]
      rintro (set | recovers)
      · exact first (ledger.paired set)
      · rw [delta] at recovers
        cases recovers

/-- A run obeys the recovery law exactly when every record without random access
is offered while its generation has accepted media. -/
theorem recovery_law_iff (operations : List TrackOperation) :
    Always RecoveryLaw (trackRuns.history .new operations) ↔
      ∀ event ∈ trackRuns.history .new operations, ¬ UnguardedDelta event := by
  constructor
  · intro law event inside unguarded
    obtain ⟨past, future, split⟩ := List.append_of_mem inside
    obtain ⟨first, operation, -, -, -, rfl, -⟩ := trackRuns.history_event split
    obtain ⟨set, clear⟩ := unguarded_breaks (trackLedger_reachable first)
      (trackStep_effect _ operation) unguarded
    exact clear ((law past _ future split).milestone set)
  · intro guarded past event future split
    have inside : event ∈ trackRuns.history .new operations := by
      rw [split]
      exact List.mem_append_right _ List.mem_cons_self
    have isGuarded := guarded event inside
    obtain ⟨first, operation, second, -, rfl, rfl, -⟩ := trackRuns.history_event split
    have ledger := trackLedger_reachable first
    have effect := trackStep_effect (trackRuns.final .new first) operation
    have before : ∀ earlier ∈ trackRuns.history .new first, ¬ UnguardedDelta earlier := by
      intro earlier earlierInside
      apply guarded
      rw [split]
      exact List.mem_append_left _ earlierInside
    refine ⟨?_, ?_, ?_, ?_⟩
    · exact @milestone_step (trackRuns.event _ operation) effect isGuarded
        (milestone_reachable first before)
    · intro record accepted unused
      apply @recovers_of_guarded (trackRuns.event _ operation) effect isGuarded _ accepted
      intro set
      exact unused (ledger.first set)
    · intro record accepted
      exact @TrackLedger.epoch_law _ (trackRuns.event _ operation) ledger effect _ accepted
    · intro record accepted
      exact @TrackLedger.order_law _ (trackRuns.event _ operation) ledger effect _ accepted

def deltaRecord : MediaRecord :=
  { generation := { value := 2 }
    bodyLength := 10
    epoch := 0
    mediaId := 2
    randomAccess := false }

/-- A channel that carried a recovery unit, recovered as generation 2. -/
def recoveredChannel : List TrackOperation :=
  [.acceptChannel .one 100 10 50,
    .admitMedia
      { generation := .one
        bodyLength := 10
        epoch := 0
        mediaId := 1
        randomAccess := true },
    .advanceChannel .one { value := 2 },
    .acceptChannel { value := 2 } 100 10 50]

/-- A delta is accepted as the first record of the recovered generation. -/
theorem recovered_delta_accepted :
    (trackRuns.step (trackRuns.final .new recoveredChannel) (.admitMedia deltaRecord)).1 =
        .ok () ∧
      (trackRuns.final .new (recoveredChannel ++ [.admitMedia deltaRecord])).milestones =
        MILESTONE_CHANNEL_ACCEPTED ||| MILESTONE_FIRST_MEDIA ∧
      ¬ Always RecoveryLaw
        (trackRuns.history .new (recoveredChannel ++ [.admitMedia deltaRecord])) := by
  have milestones :
      (trackRuns.final .new (recoveredChannel ++ [.admitMedia deltaRecord])).milestones =
        MILESTONE_CHANNEL_ACCEPTED ||| MILESTONE_FIRST_MEDIA := by decide
  refine ⟨rfl, milestones, ?_⟩
  intro law
  have last := (law _ _ [] (trackRuns.history_snoc _ _ _)).milestone
  rw [trackRuns.event_after, ← trackRuns.final_snoc, milestones] at last
  have set : Meets (MILESTONE_CHANNEL_ACCEPTED ||| MILESTONE_FIRST_MEDIA)
      MILESTONE_FIRST_MEDIA := by
    unfold Meets
    decide
  exact last set rfl

end VividProtocol.Track

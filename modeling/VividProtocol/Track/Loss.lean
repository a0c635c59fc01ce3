import Mathlib.Tactic
import VividProtocol.Track.State

/-!
# Track loss

A lost track refuses channels and media for good.  The milestone that shows the
loss is in the mask that a channel advance clears, so it stays exactly until a
valid advance is asked of the lost track.
-/

set_option autoImplicit false

namespace VividProtocol.Track

open VividProtocol.Library.Transition

/-- Accepting a channel or media. -/
def Serves (operation : TrackOperation) : Prop :=
  (∃ generation maximumBodyBytes maximumRecords maximumRecordBody,
    operation =
      .acceptChannel generation maximumBodyBytes maximumRecords maximumRecordBody) ∨
    ∃ record, operation = .admitMedia record

/-- The loss shows in the milestones, and no channel or media was accepted. -/
def ShowsLoss (event : TrackEvent) : Prop :=
  Meets event.after.milestones MILESTONE_TRACK_LOST ∧
    (Serves event.input → event.output ≠ .ok ())

/-- From every loss on, each event shows it. -/
def LossPermanent (history : List TrackEvent) : Prop :=
  ∀ past loss future, history = past ++ loss :: future → loss.input = .lose →
    Meets loss.after.milestones MILESTONE_TRACK_LOST ∧ ∀ event ∈ future, ShowsLoss event

/-- After a loss, a call of `advance_channel` with the current generation and its
successor. -/
def AdvancedWhenLost (history : List TrackEvent) : Prop :=
  ∃ past loss future, history = past ++ loss :: future ∧ loss.input = .lose ∧
    ∃ event ∈ future, ∃ expected next, event.input = .advanceChannel expected next ∧
      event.before.Advances expected next

def Marked (track : TrackState) : Prop :=
  track.lost = true ∧ Meets track.milestones MILESTONE_TRACK_LOST

variable {track after : TrackState} {operation : TrackOperation}
  {result : Except MessageError Unit}

theorem lose_marks (effect : TrackEffect track .lose result after) : Marked after := by
  cases effect with
  | refused error kept unlost closed => exact absurd rfl unlost
  | lost =>
      refine ⟨rfl, meets_or.mpr (Or.inr ?_)⟩
      unfold Meets
      decide

/-- A lost track stays marked under every call but a valid advance. -/
theorem marked_step (effect : TrackEffect track operation result after)
    (marked : Marked track)
    (kept : ∀ expected next, operation = .advanceChannel expected next →
      ¬ track.Advances expected next) :
    Marked after ∧ (Serves operation → result ≠ .ok ()) := by
  obtain ⟨lost, set⟩ := marked
  cases effect with
  | refused error kept unlost closed => exact ⟨⟨lost, set⟩, fun _ => by simp⟩
  | accepted live =>
      rw [lost] at live
      cases live
  | charged error flow inadmissible => exact ⟨⟨lost, set⟩, fun _ => by simp⟩
  | admitted flow admissible =>
      have live := admissible.live
      rw [lost] at live
      cases live
  | advanced advances => exact absurd advances (kept _ _ rfl)
  | detached =>
      refine ⟨⟨lost, meets_or.mpr (Or.inl set)⟩, ?_⟩
      rintro (⟨generation, bytes, records, body, same⟩ | ⟨record, same⟩)
      · cases same
      · cases same
  | lost =>
      refine ⟨⟨rfl, meets_or.mpr (Or.inl set)⟩, ?_⟩
      rintro (⟨generation, bytes, records, body, same⟩ | ⟨record, same⟩)
      · cases same
      · cases same

theorem marked_run (marked : Marked track) (operations : List TrackOperation)
    (kept : ∀ event ∈ trackRuns.history track operations, ∀ expected next,
      event.input = .advanceChannel expected next → ¬ event.before.Advances expected next) :
    ∀ event ∈ trackRuns.history track operations, ShowsLoss event := by
  induction operations generalizing track with
  | nil => simp
  | cons operation operations ih =>
      obtain ⟨still, refused⟩ := marked_step (trackStep_effect track operation) marked
        (kept _ List.mem_cons_self)
      intro event inside
      rcases List.mem_cons.mp inside with rfl | inside
      · exact ⟨still.2, refused⟩
      · exact ih still (fun later laterInside => kept later
          (List.mem_cons_of_mem _ laterInside)) event inside

/-- A valid advance clears the mask. -/
theorem advance_clears {expected next : ChannelGeneration}
    (effect : TrackEffect track (.advanceChannel expected next) result after)
    (advances : track.Advances expected next) : after.milestones = 0 := by
  cases effect with
  | refused error kept unlost closed => exact absurd advances (kept expected next rfl)
  | advanced again => rfl

/-- The loss of a track is permanent and visible in a run exactly when no valid
advance follows it. -/
theorem loss_permanent_iff (operations : List TrackOperation) :
    LossPermanent (trackRuns.history .new operations) ↔
      ¬ AdvancedWhenLost (trackRuns.history .new operations) := by
  constructor
  · rintro permanent ⟨past, loss, future, split, lost, event, inside, expected, next, asked,
      advances⟩
    have shown := ((permanent past loss future split lost).2 event inside).1
    have whole : event ∈ trackRuns.history .new operations := by
      rw [split]
      exact List.mem_append_right _ (List.mem_cons_of_mem _ inside)
    obtain ⟨earlier, later, cut⟩ := List.append_of_mem whole
    obtain ⟨first, operation, -, -, -, rfl, -⟩ := trackRuns.history_event cut
    have isAdvance : operation = .advanceChannel expected next := asked
    subst isAdvance
    have cleared := advance_clears (trackStep_effect _ _) advances
    have same : (trackRuns.event (trackRuns.final .new first)
      (.advanceChannel expected next)).after.milestones = 0 := cleared
    rw [same] at shown
    exact not_meets_zero _ shown
  · intro kept past loss future split lost
    have cut := split
    obtain ⟨first, operation, second, -, -, rfl, rfl⟩ := trackRuns.history_event split
    have isLoss : operation = .lose := lost
    subst isLoss
    have marked := lose_marks (trackStep_effect (trackRuns.final .new first) .lose)
    refine ⟨marked.2, marked_run marked second ?_⟩
    intro event inside expected next asked advances
    exact kept ⟨past, _, _, cut, lost, event, inside, expected, next, asked, advances⟩

/-- Advancing right after the loss clears every milestone. -/
theorem advance_hides_loss :
    (trackRuns.final .new [.lose, .advanceChannel .one { value := 2 }]).milestones = 0 ∧
      (trackRuns.final .new [.lose, .advanceChannel .one { value := 2 }]).lost = true ∧
      ¬ LossPermanent
        (trackRuns.history .new [.lose, .advanceChannel .one { value := 2 }]) := by
  refine ⟨rfl, rfl, ?_⟩
  intro permanent
  have shown := ((permanent [] _ _ rfl rfl).2 _ List.mem_cons_self).1
  exact not_meets_zero _ shown

end VividProtocol.Track

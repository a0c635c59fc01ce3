import Mathlib.Tactic
import VividProtocol.Composed.Sound

/-!
# The lane and channel transitions of the composed model

And those of the other owner, which the first owner's state never meets.
-/

set_option autoImplicit false

namespace VividProtocol.Composed

open VividProtocol.Grant
open VividProtocol.Input
open VividProtocol.Lease
open Fired

variable {sha256 : Sha256} {buckets : Buckets} {elapsed : Nat} {model : Model}
  {seen : Finset Case}

/-! ## The lane -/

theorem Sound.epoch_room (sound : Sound sha256 buckets elapsed model) (fit : buckets.Fit) :
    2 * model.epoch.toNat < 2 ^ 64 := by
  have epochs := sound.epochs
  have bound := fit.epochs
  omega

theorem clean_laneOpen (sound : Sound sha256 buckets elapsed model) (fit : buckets.Fit)
    (opens : model.mayFire buckets seen .laneOpen = true) :
    Clean sha256 buckets elapsed (model.fireLaneOpen buckets) := by
  refine clean_unless fun enabled => clean_unless fun counted => ?_
  have active := not_not.mp enabled
  -- A lane within its buckets does not wrap when it is counted on.
  have nonzero (generation : UInt64) (first : model.lane = none → generation = 1)
      (counts : ∀ lane, model.lane = some lane → generation = lane.generation + 1) :
      generation ≠ 0 := by
    cases isLane : model.lane with
    | none =>
        rw [first isLane]
        decide
    | some lane =>
        unfold Model.mayFire at opens
        rw [isLane] at opens
        have below : lane.generation < buckets.maxLaneGeneration := by
          simpa using (Bool.and_eq_true_iff.mp opens).2
        rw [UInt64.lt_iff_toNat_lt] at below
        have bound := buckets.maxLaneGeneration.toNat_lt
        rw [counts lane isLane, Ne, ← UInt64.toNat_inj, toNat_succ (by omega)]
        exact Nat.succ_ne_zero _
  by_cases replaces : model.lane.isSome = true
  · obtain ⟨grant, gate, observed, revoked, idle, paired⟩ :=
      presenterRevoke_spec sound.unbroken (sound.epoch_room fit) sound.paired Reason.LANE_LOSS
    rw [if_pos replaces, revoked]
    refine clean_fired rfl ?_
    exact
      { sound with
        lane := fun _ => active
        lanes := by
          rintro lane ⟨⟩
          exact nonzero _ (fun absent => by rw [absent]) fun lane isLane => by rw [isLane]
        granted := fun _ => rfl
        paired := paired model.surfaceGeneration }
  · rw [if_neg replaces]
    refine clean_fired rfl ?_
    exact
      { sound with
        lane := fun _ => active
        lanes := by
          rintro lane ⟨⟩
          exact nonzero _ (fun absent => by rw [absent]) fun lane isLane => by rw [isLane]
        granted := fun _ => rfl }

theorem clean_laneLoss (sound : Sound sha256 buckets elapsed model) (fit : buckets.Fit) :
    Clean sha256 buckets elapsed model.fireLaneLoss := by
  refine clean_unless fun enabled => ?_
  obtain ⟨grant, gate, observed, revoked, idle, paired⟩ :=
    @presenterRevoke_spec
      { model with lane := model.lane.map fun lane => { lane with live := false } } _
      sound.unbroken (sound.epoch_room fit) sound.paired Reason.LANE_LOSS
  dsimp only
  rw [revoked]
  refine clean_fired rfl ?_
  exact
    { sound with
      lane := by
        intro opened
        rw [Option.isSome_map] at opened
        exact sound.lane opened
      lanes := by
        intro lane isLane
        obtain ⟨before, isBefore, rfl⟩ := Option.map_eq_some_iff.mp isLane
        exact sound.lanes before isBefore
      granted := by
        intro granted
        have present : gate.active.isSome = true := granted
        rw [idle] at present
        cases present
      paired := paired model.surfaceGeneration }

theorem clean_laneRetry (sound : Sound sha256 buckets elapsed model) :
    Clean sha256 buckets elapsed (model.fireLaneRetry seen) := by
  unfold Model.fireLaneRetry
  cases isLane : model.lane with
  | none => exact clean_disabled
  | some lane =>
      refine clean_unless fun down => ?_
      by_cases admitted : lane.admittedInput = true
      · rw [if_pos admitted]
        exact clean_unless fun _ => clean_quiet sound _
      · rw [if_neg admitted]
        refine clean_quiet ?_ _
        exact
          { sound with
            lane := fun _ => sound.lane (Option.isSome_of_eq_some isLane)
            lanes := by
              rintro after ⟨⟩
              exact sound.lanes lane isLane
            granted := fun _ => rfl }

theorem clean_laneStaleRecord (sound : Sound sha256 buckets elapsed model) :
    Clean sha256 buckets elapsed (model.fireLaneStaleRecord seen) := by
  unfold Model.fireLaneStaleRecord
  cases model.lane with
  | none => exact clean_disabled
  | some lane => exact clean_unless fun _ => clean_quiet sound _

/-! ## The channel -/

/-- What a transition of the channel alone leaves of the model. -/
theorem Sound.with_channel (sound : Sound sha256 buckets elapsed model) (channel : Channel) :
    Sound sha256 buckets elapsed { model with channel := channel } :=
  { sound with }

theorem clean_channelAccept (sound : Sound sha256 buckets elapsed model) :
    Clean sha256 buckets elapsed model.fireChannelAccept := by
  refine clean_unless fun _ => clean_quiet ?_ _
  exact
    { sound with
      flow := ⟨Nat.zero_le _, Nat.zero_le _⟩ }

theorem clean_mediaAccept (sound : Sound sha256 buckets elapsed model) :
    Clean sha256 buckets elapsed model.fireMediaAccept := by
  refine clean_unless fun _ => ?_
  rcases model.flow.admitRecord_cases MEDIA_BODY with
    ⟨after, allows, admitted, charged⟩ | ⟨error, -, refused⟩
  · rw [admitted]
    refine clean_quiet ?_ _
    exact
      { sound with
        flow :=
          { bodyBytes := by
              rw [charged.bodyBytes, charged.maximumBodyBytes]
              exact allows.bodyBytes
            records := by
              rw [charged.records, charged.maximumMediaRecords]
              exact allows.records } }
  · rw [refused]
    exact clean_disabled

theorem Within.raise {flow : ChannelFlow} (within : Within flow) (bodyBytes records : UInt64) :
    Within (flow.raiseMaxima bodyBytes records) where
  bodyBytes := by
    show _ ≤ (max flow.maximumBodyBytes bodyBytes).toNat
    rw [toNat_max]
    exact le_trans within.bodyBytes (le_max_left _ _)
  records := by
    show _ ≤ (max flow.maximumMediaRecords records).toNat
    rw [toNat_max]
    exact le_trans within.records (le_max_left _ _)

theorem clean_flowUpdateComplete (sound : Sound sha256 buckets elapsed model) :
    Clean sha256 buckets elapsed model.fireFlowUpdateComplete := by
  refine clean_unless fun _ => clean_quiet ?_ _
  exact { sound with flow := sound.flow.raise _ _ }

/-! ## The other owner -/

theorem clean_otherActivate (sound : Sound sha256 buckets elapsed model) :
    Clean sha256 buckets elapsed (model.fireOtherActivate sha256) := by
  refine clean_unless fun enabled => ?_
  have issued := not_not.mp enabled
  have idle : model.other =
      { lease := issuedLease
        gate := .default
        bound := false } := by
    have phase := sound.other
    generalize model.other = other at phase issued ⊢
    cases phase with
    | idle => rfl
    | active => cases issued
    | bound generation release => cases issued
    | revoked ended => exact absurd (ended.symm.trans issued) (by decide)
  have committed : (sessionLease .reserved 2 .zero
      (some (heldAttempt sha256 none false false))).commitWelcome =
        (.ok (), committedLease sha256) :=
    commitWelcome_reserved (by decide)
  rw [idle, beginActivation_issued]
  dsimp only
  rw [committed]
  exact clean_fired rfl { sound with other := .active }

theorem clean_otherBind (sound : Sound sha256 buckets elapsed model)
    (early : elapsed + MAX_WATCHDOG_US.toNat < 2 ^ 64) :
    Clean sha256 buckets elapsed model.fireOtherBind := by
  refine clean_unless fun enabled => ?_
  rw [not_or, not_not, Bool.not_eq_true] at enabled
  have unbound : model.other =
      { lease := committedLease sha256
        gate := .default
        bound := false } := by
    have phase := sound.other
    generalize model.other = other at phase enabled ⊢
    cases phase with
    | idle => cases enabled.1
    | active => rfl
    | bound generation release => cases enabled.2
    | revoked ended => exact absurd (ended.symm.trans enabled.1) (by decide)
  have far : Far model.now := by
    have clock := sound.clock
    unfold Far Model.now Monotonic.toNat
    dsimp only
    omega
  obtain ⟨deadline, timed⟩ := far.deadline (show WATCHDOG_US ≤ MAX_WATCHDOG_US by decide)
  have accepted : Accepted .default (keyboardBinding model.surfaceGeneration 1) .one 0 :=
    { valid := validate_keyboard sound.named (by decide)
      newer := by
        intro previous impossible
        cases impossible
      next := rfl
      released := rfl }
  have bound := applyBinding_accepted accepted
    (by rw [masked_keyboard]; exact decision_keyboard model.surfaceGeneration 1 _ timed)
  rw [unbound, enabledBinding_eq, bound]
  refine clean_quiet ?_ _
  exact { sound with other := .bound rfl rfl }

theorem clean_otherTeardown (sound : Sound sha256 buckets elapsed model) :
    Clean sha256 buckets elapsed model.fireOtherTeardown := by
  refine clean_unless fun enabled => ?_
  have active := not_not.mp enabled
  obtain ⟨lease, generation, isGeneration, isRelease⟩ :
      model.other.lease = committedLease sha256 ∧
        ∃ generation : GrantGeneration, model.other.gate.grantGeneration = generation ∧
          generation.toNat ≤ 1 ∧ model.other.gate.releaseGeneration = 0 := by
    have phase := sound.other
    generalize model.other = other at phase active ⊢
    cases phase with
    | idle => cases active
    | active => exact ⟨rfl, .zero, rfl, Nat.zero_le 1, rfl⟩
    | bound generation release => exact ⟨rfl, .one, generation, Nat.le_refl 1, release⟩
    | revoked ended => exact absurd (ended.symm.trans active) (by decide)
  obtain ⟨small, release⟩ := isRelease
  have revoked : model.other.lease.revoke =
      (.ok (), { (committedLease sha256).cleared .revoked with revision := 4 }) := by
    rw [lease]
    rfl
  obtain ⟨next, follows⟩ : ∃ next : GrantGeneration, next.toNat = generation.toNat + 1 := by
    refine ⟨{ value := generation.value + 1 }, toNat_succ ?_⟩
    unfold Counter.toNat at small
    omega
  obtain ⟨released, isReleased⟩ : ∃ released, model.other.gate.Released released := by
    unfold InputGate.Released
    rw [release]
    by_cases granted : model.other.gate.active.isSome = true
    · exact ⟨1, by rw [if_pos granted]; rfl⟩
    · exact ⟨0, by rw [if_neg granted]; rfl⟩
  have gateRevoked := revoke_room model.other.gate
    (by rw [isGeneration]; exact follows) isReleased
  rw [revoked, gateRevoked]
  exact clean_fired rfl { sound with other := .revoked rfl }

/-- A gate passes an event only under its own grant's tuple, whoever stamped it. -/
theorem authorize_same_tuple {gate : InputGate} {event : InputEvent}
    {surface : SurfaceGeneration} {now : Monotonic}
    (passed : gate.authorize event surface now = .ok ()) :
    ∃ active, gate.active = some active ∧ event.binding = active.binding ∧
      event.binding.surfaceGeneration = surface ∧ now < active.watchdogDeadline := by
  unfold InputGate.authorize at passed
  cases isActive : gate.active with
  | none =>
      rw [isActive] at passed
      cases passed
  | some active =>
      rw [isActive] at passed
      dsimp only at passed
      refine ⟨active, rfl, ?_⟩
      by_cases stale : event.binding ≠ active.binding
      · rw [if_pos stale] at passed
        cases passed
      rw [if_neg stale] at passed
      by_cases changed : event.binding.surfaceGeneration ≠ surface
      · rw [if_pos changed] at passed
        cases passed
      rw [if_neg changed] at passed
      by_cases late : active.watchdogDeadline ≤ now
      · rw [if_pos late] at passed
        cases passed
      rw [Monotonic.le_iff_toNat] at late
      exact ⟨not_not.mp stale, not_not.mp changed, Monotonic.lt_iff_toNat.mpr (by omega)⟩

theorem clean_crossInject (sound : Sound sha256 buckets elapsed model) :
    Clean sha256 buckets elapsed model.fireCrossInject := by
  refine clean_unless fun _ => clean_fired ?_ sound
  cases passed : model.other.gate.authorize (Model.keyEvent model.currentTuple true)
      { value := model.surfaceGeneration } model.now with
  | error rejection => rfl
  | ok done =>
      obtain ⟨active, isActive, same, -, -⟩ := authorize_same_tuple passed
      have isTuple : active.binding = model.currentTuple := same.symm
      rw [isActive]
      simp [complain, isTuple]

end VividProtocol.Composed

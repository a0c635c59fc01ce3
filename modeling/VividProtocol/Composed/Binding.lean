import Mathlib.Tactic
import VividProtocol.Composed.Transport

/-!
# The input transitions of the composed model

Bindings, renewals, time, focus, surface generations and the events that meet
the producer's gate.
-/

set_option autoImplicit false

namespace VividProtocol.Composed

open VividProtocol.Grant
open VividProtocol.Input
open VividProtocol.Lease
open Fired

variable {sha256 : Sha256} {buckets : Buckets} {elapsed : Nat} {model : Model}
  {seen : Finset Case}

theorem Sound.far (sound : Sound sha256 buckets elapsed model)
    (early : elapsed + MAX_WATCHDOG_US.toNat < 2 ^ 64) : Far model.now := by
  have clock := sound.clock
  unfold Far Model.now Monotonic.toNat
  dsimp only
  omega

/-- An epoch below the buckets' last counts on without wrapping. -/
theorem next_epoch (below : ¬ buckets.maxEpoch ≤ model.epoch) :
    (model.epoch + 1).toNat = model.epoch.toNat + 1 ∧
      model.epoch.toNat + 1 ≤ buckets.maxEpoch.toNat := by
  rw [UInt64.not_le, UInt64.lt_iff_toNat_lt] at below
  have bound := buckets.maxEpoch.toNat_lt
  exact ⟨toNat_succ (by omega), below⟩

theorem Sound.epoch_rooms (sound : Sound sha256 buckets elapsed model) (fit : buckets.Fit) :
    2 * model.epoch.toNat + 2 < 2 ^ 64 := by
  have epochs := sound.epochs
  have bound := fit.epochs
  omega

/-- The presenter of the model is eligible exactly on a live lane in focus. -/
theorem narrowed_model (model : Model) (epoch : UInt64) :
    InputGrant.narrowed (keyboardBinding model.surfaceGeneration epoch) model.eligibility =
      if model.laneLive = true ∧ model.focused = true then INPUT_CLASS_KEYBOARD else 0 := by
  unfold InputGrant.narrowed Eligibility.refusal Model.eligibility keyboardBinding
  cases live : model.laneLive with
  | false => simp
  | true =>
      cases focused : model.focused with
      | false => simp
      | true =>
          have classes : INPUT_CLASS_KEYBOARD &&& INPUT_CLASS_KEYBOARD =
              INPUT_CLASS_KEYBOARD := by decide
          have known : INPUT_CLASS_KEYBOARD &&& INPUT_CLASS_KNOWN_MASK =
              INPUT_CLASS_KEYBOARD := by decide
          have nonzero : INPUT_CLASS_KEYBOARD ≠ 0 := by decide
          simp [classes, known, nonzero]

/-- A generation past every one seen is no step back. -/
theorem observeGeneration_fresh (model : Model) {generation : GrantGeneration}
    (later : model.maxGenerationSeen.toNat < generation.toNat) :
    model.observeGeneration generation.value =
      ({ model with maxGenerationSeen := max model.maxGenerationSeen generation.value },
        []) := by
  have fresh : ¬ (generation.value ≤ model.maxGenerationSeen ∧ generation.value ≠ 0) := by
    rw [UInt64.le_iff_toNat_le]
    unfold Counter.toNat at later
    omega
  unfold Model.observeGeneration
  rw [if_neg fresh]

/-- Where the model's notes on a new binding stand. -/
theorem Sound.with_binding (sound : Sound sha256 buckets elapsed model) {grant : InputGrant}
    {gate : InputGate} {next observed : UInt64} {binding : Option InputBinding}
    {retired : Option InputTuple} {renewed : Bool}
    (epochs : next.toNat ≤ buckets.maxEpoch.toNat)
    (granted : gate.active.isSome = true → model.laneLive = true)
    (paired : Paired grant gate next model.surfaceGeneration observed binding retired false) :
    Sound sha256 buckets elapsed
      { model with
        grant := grant
        gate := gate
        epoch := next
        lastBinding := binding
        retiredTuple := retired
        maxGenerationSeen := observed
        renewed := renewed
        held := false } :=
  { sound with
    granted := granted
    epochs := epochs
    paired := paired }

theorem clean_bindEnable (sound : Sound sha256 buckets elapsed model) (fit : buckets.Fit)
    (early : elapsed + MAX_WATCHDOG_US.toNat < 2 ^ 64) :
    Clean sha256 buckets elapsed (model.fireBindEnable buckets) := by
  refine clean_unless fun enabled => ?_
  rw [not_or, not_not] at enabled
  obtain ⟨counts, epochs⟩ := next_epoch enabled.2
  rw [← counts] at epochs
  have narrowed := narrowed_model model (model.epoch + 1)
  by_cases eligible : model.laneLive = true ∧ model.focused = true
  · rw [if_pos eligible] at narrowed
    obtain ⟨grant, gate, tuple, presented, produced, same, later, paired⟩ :=
      sound.paired.enable sound.named counts (sound.epoch_rooms fit) (sound.far early) narrowed
    have observed := observeGeneration_fresh
      { model with grant := grant, retiredTuple := model.retiring, gate := gate } later
    dsimp only
    rw [enabledBinding_eq, presented]
    dsimp only
    rw [produced]
    dsimp only
    rw [observed]
    refine clean_fired ?_ (sound.with_binding epochs (fun _ => eligible.1) paired)
    simp [complain, same]
  · rw [if_neg eligible] at narrowed
    obtain ⟨reason, grant, gate, tuple, presented, produced, idle, later, paired⟩ :=
      sound.paired.deny sound.named counts (sound.epoch_rooms fit) narrowed
    have observed := observeGeneration_fresh
      { model with grant := grant, retiredTuple := model.retiring, gate := gate } later
    dsimp only
    rw [enabledBinding_eq, presented]
    dsimp only
    rw [produced]
    dsimp only
    rw [observed]
    refine clean_fired rfl (sound.with_binding epochs ?_ paired)
    intro granted
    rw [idle] at granted
    cases granted

theorem clean_bindDisable (sound : Sound sha256 buckets elapsed model) (fit : buckets.Fit) :
    Clean sha256 buckets elapsed (model.fireBindDisable buckets) := by
  refine clean_unless fun enabled => ?_
  rw [not_or] at enabled
  obtain ⟨counts, epochs⟩ := next_epoch enabled.2
  rw [← counts] at epochs
  obtain ⟨grant, gate, presented, produced, idle, paired⟩ :=
    sound.paired.disable counts (sound.epoch_rooms fit)
  dsimp only
  rw [presented, produced]
  refine clean_fired rfl (sound.with_binding epochs ?_ paired)
  intro granted
  rw [idle] at granted
  cases granted

/-! ## Epochs seen before -/

/-- What the presenter refuses leaves the model sound. -/
theorem Sound.with_grant (sound : Sound sha256 buckets elapsed model) {grant : InputGrant}
    (same : grant.gate = model.grant.gate) :
    Sound sha256 buckets elapsed { model with grant := grant } :=
  { sound with paired := sound.paired.same_gate same }

theorem Sound.latest (sound : Sound sha256 buckets elapsed model) :
    model.grant.gate.latestBinding = model.lastBinding := by
  rw [level_latest sound.paired.level, sound.paired.latest]

/-- A stale binding is refused by the presenter, which stays as it was. -/
theorem Sound.refuses (sound : Sound sha256 buckets elapsed model)
    {binding previous : InputBinding} (asked : binding.disabled = false)
    (valid : binding.validate binding.surfaceId = .ok ())
    (last : model.lastBinding = some previous)
    (stale : binding.producerEpoch < previous.producerEpoch ∨
      binding.producerEpoch = previous.producerEpoch ∧ binding ≠ previous) :
    ∃ error, model.grant.apply binding model.eligibility model.now =
      (.error error, model.grant) := by
  apply apply_refused asked
  intro classes watchdogUs
  exact applyBinding_refused classes watchdogUs model.now valid (sound.latest.trans last) stale

theorem clean_bindLowerEpoch (sound : Sound sha256 buckets elapsed model) :
    Clean sha256 buckets elapsed model.fireBindLowerEpoch := by
  refine clean_unless fun enabled => ?_
  have two : (2 : UInt64).toNat = 2 := rfl
  have one : (1 : UInt64).toNat = 1 := rfl
  rw [UInt64.not_lt, UInt64.le_iff_toNat_le, two] at enabled
  have lower : (model.epoch - 1).toNat + 1 = model.epoch.toNat := by
    rw [UInt64.toNat_sub_of_le _ _ (UInt64.le_iff_toNat_le.mpr (by omega)), one]
    omega
  have started : model.epoch - 1 ≠ 0 := by
    rw [Ne, ← UInt64.toNat_inj, show (0 : UInt64).toNat = 0 from rfl]
    omega
  have made := sound.paired.made
  cases last : model.lastBinding with
  | none =>
      rw [last] at made
      generalize model.epoch = epoch at made enabled
      cases made
      simp at enabled
  | some previous =>
      rw [last] at made
      have epoch := congrArg UInt64.toNat made.valid.2
      obtain ⟨error, refused⟩ := sound.refuses (keyboard_asked model.surfaceGeneration _)
        (validate_keyboard sound.named started) last (Or.inl (by
          rw [Counter.lt_iff_toNat]
          show (model.epoch - 1).toNat < previous.producerEpoch.value.toNat
          omega))
      rw [enabledBinding_eq, refused, ← last]
      exact clean_fired rfl sound

theorem clean_bindRetrySame (sound : Sound sha256 buckets elapsed model) :
    Clean sha256 buckets elapsed model.fireBindRetrySame := by
  unfold Model.fireBindRetrySame
  cases last : model.lastBinding with
  | none => exact clean_disabled
  | some binding =>
      obtain ⟨grant, retried, same⟩ := sound.paired.retry last model.eligibility model.now
      dsimp only
      rw [retried]
      refine clean_fired rfl ?_
      rw [← last]
      exact sound.with_grant same

theorem clean_bindRetryDifferent (sound : Sound sha256 buckets elapsed model) :
    Clean sha256 buckets elapsed model.fireBindRetryDifferent := by
  unfold Model.fireBindRetryDifferent
  cases last : model.lastBinding with
  | none => exact clean_disabled
  | some binding =>
      refine clean_unless fun asked => ?_
      have made := sound.paired.made
      rw [last] at made
      have classes : INPUT_CLASS_KEYBOARD <<< 1 ≠ INPUT_CLASS_KEYBOARD := by decide
      have refused : ∃ error,
          model.grant.apply { binding with requestedClasses := INPUT_CLASS_KEYBOARD <<< 1 }
            model.eligibility model.now = (.error error, model.grant) := by
        generalize isEpoch : model.epoch = epoch at made
        cases made with
        | enabled named started =>
            refine sound.refuses (classes_asked _ _ _)
              (validate_classes named started (by decide)) last (Or.inr ⟨rfl, ?_⟩)
            intro same
            exact classes (congrArg InputBinding.requestedClasses same)
        | disabled started => exact absurd rfl asked
      obtain ⟨error, refused⟩ := refused
      rw [refused]
      refine clean_fired rfl ?_
      rw [← last]
      exact sound

/-! ## Renewals and time -/

theorem clean_renewSend (sound : Sound sha256 buckets elapsed model) :
    Clean sha256 buckets elapsed model.fireRenewSend := by
  refine clean_unless fun _ => ?_
  have reported := dueRenewal_reported model.grant model.now
  cases sent : model.grant.dueRenewal model.now with
  | mk renewal grant =>
      cases renewal with
      | none => exact clean_disabled
      | some renewal =>
          rw [sent] at reported
          have same : untimed grant.gate = untimed model.grant.gate := reported
          refine clean_quiet ?_ _
          exact { sound with paired := sound.paired.renewed same rfl }

/-- A renewal of the producer's gate, taken or not, moves its clock only. -/
theorem Sound.with_renewal (sound : Sound sha256 buckets elapsed model) {gate : InputGate}
    (kept : untimed gate = untimed model.gate) (pending : Option Renewal) (renewed : Bool) :
    Sound sha256 buckets elapsed
      { model with
        pendingRenewal := pending
        gate := gate
        renewed := renewed } :=
  { sound with
    granted := by
      intro granted
      rw [level_present kept] at granted
      exact sound.granted granted
    paired := sound.paired.renewed rfl kept }

theorem clean_renewDeliver (sound : Sound sha256 buckets elapsed model) :
    Clean sha256 buckets elapsed model.fireRenewDeliver := by
  unfold Model.fireRenewDeliver
  cases model.pendingRenewal with
  | none => exact clean_disabled
  | some renewal =>
      dsimp only
      cases isActive : model.gate.active with
      | none => exact clean_quiet (sound.with_renewal rfl none _) _
      | some active =>
          have kept : untimed (gateStep model.gate (.renew active.binding renewal.sequence
              renewal.watchdogUs model.now)).2 = untimed model.gate := renew_untimed _ _ _ _
          unfold gateStep at kept
          dsimp only at kept ⊢
          cases renewed : model.gate.renew active.binding renewal.sequence renewal.watchdogUs
              model.now with
          | mk result gate =>
              rw [renewed] at kept
              have ends : { model with pendingRenewal := none }.now = model.now := rfl
              rw [ends, renewed]
              cases result with
              | ok done => exact clean_quiet (sound.with_renewal kept none true) _
              | error error => exact clean_quiet (sound.with_renewal kept none _) _

theorem later_toNat (now step : UInt64) (room : now.toNat + step.toNat < 2 ^ 64) :
    (now + step).toNat = now.toNat + step.toNat := by
  rw [UInt64.toNat_add, Nat.mod_eq_of_lt room]

theorem Sound.at_time {later : Nat} (sound : Sound sha256 buckets elapsed model) {now : UInt64}
    (clock : now.toNat ≤ later) : Sound sha256 buckets later { model with nowUs := now } :=
  { sound with clock := clock }

theorem clean_timePass (sound : Sound sha256 buckets elapsed model)
    (early : elapsed + MAX_WATCHDOG_US.toNat < 2 ^ 64) :
    Clean sha256 buckets (elapsed + TIME_STEP_US.toNat) model.fireTimePass := by
  refine clean_unless fun _ => clean_quiet (sound.at_time ?_) _
  have clock := sound.clock
  have step : TIME_STEP_US.toNat ≤ MAX_WATCHDOG_US.toNat := by decide
  have room : model.nowUs.toNat + TIME_STEP_US.toNat < 2 ^ 64 := by
    generalize TIME_STEP_US.toNat = passed at step ⊢
    generalize MAX_WATCHDOG_US.toNat = longest at step early
    omega
  rw [later_toNat _ _ room]
  exact Nat.add_le_add_right clock _

/-! ## Revocations of the presenter -/

/-- A model whose grant was revoked for whatever reason. -/
theorem Sound.revoked (sound : Sound sha256 buckets elapsed model) (fit : buckets.Fit)
    (focused : Bool) {surface : UInt64} (named : surface ≠ 0) (reason : UInt64) :
    ∃ next, { model with focused := focused, surfaceGeneration := surface }.presenterRevoke
        reason = (next, []) ∧ Sound sha256 buckets elapsed next := by
  obtain ⟨grant, gate, observed, revoked, idle, paired⟩ :=
    @presenterRevoke_spec { model with focused := focused, surfaceGeneration := surface }
      model.surfaceGeneration sound.unbroken (sound.epoch_room fit) sound.paired reason
  refine ⟨_, revoked, ?_⟩
  exact
    { sound with
      granted := by
        intro granted
        have present : gate.active.isSome = true := granted
        rw [idle] at present
        cases present
      named := named
      paired := paired surface }

theorem clean_watchdogFire (sound : Sound sha256 buckets elapsed model) (fit : buckets.Fit) :
    Clean sha256 buckets elapsed model.fireWatchdogFire := by
  refine clean_unless fun _ => ?_
  obtain ⟨next, revoked, after⟩ :=
    sound.revoked fit model.focused sound.named Reason.WATCHDOG
  have run : model.presenterRevoke Reason.WATCHDOG = (next, []) := revoked
  rw [run]
  exact clean_fired rfl after

theorem clean_focusLoss (sound : Sound sha256 buckets elapsed model) (fit : buckets.Fit) :
    Clean sha256 buckets elapsed model.fireFocusLoss := by
  refine clean_unless fun _ => ?_
  dsimp only
  by_cases granted : model.gate.active.isSome = true
  · obtain ⟨next, revoked, after⟩ := sound.revoked fit false sound.named Reason.FOCUS_LOSS
    have run : { model with focused := false }.presenterRevoke Reason.FOCUS_LOSS =
        (next, []) := revoked
    rw [if_pos granted, run]
    exact clean_fired rfl after
  · rw [if_neg granted]
    refine clean_quiet ?_ _
    exact { sound with }

theorem clean_focusGain (sound : Sound sha256 buckets elapsed model) :
    Clean sha256 buckets elapsed model.fireFocusGain := by
  refine clean_unless fun _ => clean_quiet ?_ _
  exact { sound with }

theorem clean_surfaceGenerationChange (sound : Sound sha256 buckets elapsed model)
    (fit : buckets.Fit) :
    Clean sha256 buckets elapsed (model.fireSurfaceGenerationChange buckets) := by
  refine clean_unless fun enabled => ?_
  rw [not_or, UInt64.not_le, UInt64.lt_iff_toNat_lt] at enabled
  have bound := buckets.maxSurfaceGeneration.toNat_lt
  have named : model.surfaceGeneration + 1 ≠ 0 := by
    rw [Ne, ← UInt64.toNat_inj, toNat_succ (by omega)]
    exact Nat.succ_ne_zero _
  obtain ⟨next, revoked, after⟩ :=
    sound.revoked fit model.focused named Reason.GENERATION_CHANGE
  have run : { model with surfaceGeneration := model.surfaceGeneration + 1 }.presenterRevoke
      Reason.GENERATION_CHANGE = (next, []) := revoked
  rw [run]
  exact clean_fired rfl after

/-! ## Events at the producer's gate -/

/-- Past the deadline the gate injects nothing. -/
theorem deadline_of_active {active : ActiveGrant} (isActive : model.gate.active = some active) :
    model.deadline = .expired ↔ active.watchdogDeadline ≤ model.now := by
  unfold Model.deadline
  rw [isActive]
  dsimp only
  by_cases late : active.watchdogDeadline ≤ model.now
  · simp [late]
  · rw [if_neg late]
    split_ifs <;> simp [late]

theorem clean_event (sound : Sound sha256 buckets elapsed model) (pressed : Bool) :
    Clean sha256 buckets elapsed (model.fireEvent seen pressed) := by
  refine clean_unless fun _ => clean_unless fun _ => ?_
  cases passed : model.gate.authorize (Model.keyEvent model.currentTuple pressed)
      { value := model.surfaceGeneration } model.now with
  | error rejection => exact clean_quiet sound _
  | ok done =>
      obtain ⟨active, isActive, -, -, early⟩ := authorize_same_tuple passed
      have granted : model.gate.active.isSome = true := Option.isSome_of_eq_some isActive
      have live := sound.granted granted
      have leased := sound.granted_active granted
      have timely : model.deadline ≠ .expired := by
        rw [Ne, deadline_of_active isActive, Monotonic.le_iff_toNat]
        rw [Monotonic.lt_iff_toNat] at early
        omega
      obtain ⟨lane, isLane, -⟩ := laneLive_eq_true live
      refine clean_fired ?_ ?_
      · simp [complain, live, leased, timely, isActive]
      · exact
          { sound with
            lane := by
              intro opened
              rw [Option.isSome_map] at opened
              exact sound.lane opened
            lanes := by
              intro after isAfter
              obtain ⟨before, isBefore, rfl⟩ := Option.map_eq_some_iff.mp isAfter
              exact sound.lanes before isBefore
            granted := by
              intro still
              have was := sound.granted still
              unfold Model.laneLive at was ⊢
              dsimp only
              rw [Option.any_map]
              exact was
            paired := { sound.paired with pressed := fun _ => granted } }

/-- A tuple that was retired is older than every grant after it. -/
theorem clean_eventOldTuple (sound : Sound sha256 buckets elapsed model) :
    Clean sha256 buckets elapsed model.fireEventOldTuple := by
  unfold Model.fireEventOldTuple
  cases isRetired : model.retiredTuple with
  | none => exact clean_disabled
  | some tuple =>
      dsimp only
      cases passed : model.gate.authorize (Model.keyEvent tuple true)
          { value := model.surfaceGeneration } model.now with
      | error rejection =>
          exact clean_quiet sound _
      | ok done =>
          obtain ⟨active, isActive, same, -, -⟩ := authorize_same_tuple passed
          have isTuple : tuple = active.binding := same
          have older := sound.paired.outdated tuple isRetired
          unfold grants at older
          rw [if_pos (Option.isSome_of_eq_some isActive), isTuple,
            (sound.paired.shape active isActive).1] at older
          exact absurd older (Nat.not_succ_le_self _)

theorem clean_eventWrongSurfaceGeneration (sound : Sound sha256 buckets elapsed model) :
    Clean sha256 buckets elapsed model.fireEventWrongSurfaceGeneration := by
  refine clean_unless fun _ => clean_fired ?_ sound
  cases passed : model.gate.authorize
      (Model.keyEvent
        { model.currentTuple with
          surfaceGeneration := { value := if model.surfaceGeneration = 1 then 2 else 1 } } true)
      { value := model.surfaceGeneration } model.now with
  | error rejection => rfl
  | ok done =>
      obtain ⟨-, -, -, same, -⟩ := authorize_same_tuple passed
      have current : (if model.surfaceGeneration = 1 then 2 else 1) =
          model.surfaceGeneration := congrArg Counter.value same
      by_cases one : model.surfaceGeneration = 1
      · rw [if_pos one, one] at current
        exact absurd current (by decide)
      · rw [if_neg one] at current
        exact absurd current.symm one

end VividProtocol.Composed

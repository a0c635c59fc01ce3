import Mathlib.Tactic
import VividProtocol.Composed.Lease
import VividProtocol.Grant.Control

/-!
# The two gates of the composed model

`Paired` is what the presenter's grant, the producer's gate and the model's
notes about them have in common.  Each way a transition touches them keeps it
and is computed here, without the rest of the model.
-/

set_option autoImplicit false

namespace VividProtocol.Composed

open VividProtocol.Grant
open VividProtocol.Input
open VividProtocol.Library.Result

/-- `enabled_binding`, of the model's surface generation alone. -/
def keyboardBinding (surface epoch : UInt64) : InputBinding :=
  { producerEpoch := { value := epoch }
    contextId := CONTEXT
    surfaceId := SURFACE
    surfaceGeneration := { value := surface }
    requestedClasses := INPUT_CLASS_KEYBOARD
    reason := 0
    requestedWatchdogUs := WATCHDOG_US }

theorem enabledBinding_eq (model : Model) (epoch : UInt64) :
    model.enabledBinding epoch = keyboardBinding model.surfaceGeneration epoch := rfl

/-- The bindings the model keeps, by the epoch it is in. -/
inductive LastBinding : Option InputBinding → UInt64 → Prop where
  | none : LastBinding none 0
  | enabled {surface epoch : UInt64} (named : surface ≠ 0) (started : epoch ≠ 0) :
      LastBinding (some (keyboardBinding surface epoch)) epoch
  | disabled {epoch : UInt64} (started : epoch ≠ 0) :
      LastBinding (some (Model.disabledBinding epoch)) epoch

/-- One while a grant is held. -/
def grants (gate : InputGate) : Nat := if gate.active.isSome then 1 else 0

structure Paired (grant : InputGrant) (gate : InputGate) (epoch surface seen : UInt64)
    (last : Option InputBinding) (retired : Option InputTuple) (held : Bool) : Prop where
  level : untimed grant.gate = untimed gate
  latest : gate.latestBinding = last
  made : LastBinding last epoch
  shape : ∀ active, gate.active = some active →
    active.binding = InputGate.tuple (keyboardBinding surface epoch) gate.grantGeneration ∧
      active.effectiveClasses = INPUT_CLASS_KEYBOARD
  counted : gate.grantGeneration.toNat + grants gate ≤ 2 * epoch.toNat
  released : gate.releaseGeneration.toNat ≤ gate.grantGeneration.toNat
  observed : seen.toNat ≤ gate.grantGeneration.toNat
  outdated : ∀ tuple, retired = some tuple →
    tuple.grantGeneration.toNat + grants gate ≤ gate.grantGeneration.toNat
  pressed : held = true → gate.active.isSome = true

/-! ## Bindings -/

variable {surface epoch seen : UInt64}

theorem context_ne_zero : CONTEXT ≠ 0 := by decide

theorem classes_asked (surface epoch classes : UInt64) :
    ({ keyboardBinding surface epoch with requestedClasses := classes } :
      InputBinding).disabled = false := by
  unfold InputBinding.disabled keyboardBinding
  rfl

theorem keyboard_asked (surface epoch : UInt64) :
    (keyboardBinding surface epoch).disabled = false :=
  classes_asked surface epoch INPUT_CLASS_KEYBOARD

/-- An enabling binding is well formed whatever known classes it asks for. -/
theorem validate_classes {classes : UInt64} (named : surface ≠ 0) (started : epoch ≠ 0)
    (known : ¬ (classes = 0 ∨ classes &&& ~~~ INPUT_CLASS_KNOWN_MASK ≠ 0)) :
    ({ keyboardBinding surface epoch with requestedClasses := classes } :
      InputBinding).validate SURFACE = .ok () := by
  have counted : (keyboardBinding surface epoch).producerEpoch.requireNonzero =
      .ok { value := epoch } := if_neg started
  have object : (keyboardBinding surface epoch).surfaceGeneration.requireNonzero =
      .ok { value := surface } := if_neg named
  have reason : ¬ (keyboardBinding surface epoch).reason > 7 := by
    show ¬ (0 : UInt64) > 7
    decide
  have context : requireNonzero "SET_INPUT_BINDING" 1 (keyboardBinding surface epoch).contextId =
      .ok CONTEXT := requireNonzero_eq_ok.mpr ⟨context_ne_zero, rfl⟩
  have surfaceId : requireNonzero "SET_INPUT_BINDING" 2 (keyboardBinding surface epoch).surfaceId =
      .ok SURFACE := requireNonzero_eq_ok.mpr ⟨context_ne_zero, rfl⟩
  have range : ¬ ¬ (MIN_WATCHDOG_US ≤ WATCHDOG_US ∧ WATCHDOG_US ≤ MAX_WATCHDOG_US) := by decide
  have header : validateHeaderObject SURFACE (keyboardBinding surface epoch).surfaceId = .ok () :=
    validateHeaderObject_self SURFACE
  unfold InputBinding.validate
  rw [counted, object, header, classes_asked]
  simp only [orInvalid, ok_bind]
  rw [if_neg reason, if_neg Bool.false_ne_true, context, ok_bind, surfaceId, ok_bind,
    if_neg known]
  exact if_neg range

theorem validate_keyboard (named : surface ≠ 0) (started : epoch ≠ 0) :
    (keyboardBinding surface epoch).validate (keyboardBinding surface epoch).surfaceId =
      .ok () :=
  validate_classes named started (by decide)

theorem validate_disabled (started : epoch ≠ 0) :
    (Model.disabledBinding epoch).validate (Model.disabledBinding epoch).surfaceId =
      .ok () := by
  have counted : (Model.disabledBinding epoch).producerEpoch.requireNonzero =
      .ok { value := epoch } := if_neg started
  have reason : ¬ (Model.disabledBinding epoch).reason > 7 := by
    show ¬ (0 : UInt64) > 7
    decide
  unfold InputBinding.validate
  rw [counted, validateHeaderObject_self]
  simp only [orInvalid, ok_bind]
  rw [if_neg reason]
  rfl

theorem LastBinding.valid {binding : InputBinding} (made : LastBinding (some binding) epoch) :
    binding.validate binding.surfaceId = .ok () ∧ binding.producerEpoch.value = epoch := by
  cases made with
  | enabled named started => exact ⟨validate_keyboard named started, rfl⟩
  | disabled started => exact ⟨validate_disabled started, rfl⟩

theorem masked_keyboard (surface epoch : UInt64) :
    INPUT_CLASS_KEYBOARD &&& (keyboardBinding surface epoch).requestedClasses =
      INPUT_CLASS_KEYBOARD := by
  show INPUT_CLASS_KEYBOARD &&& INPUT_CLASS_KEYBOARD = _
  decide

/-- What the gates decide on a binding that is granted. -/
theorem decision_keyboard (surface epoch : UInt64) (tuple : InputTuple) {now deadline : Monotonic}
    (timed : now.checkedAddMicros WATCHDOG_US = some deadline) :
    InputGate.decision (keyboardBinding surface epoch) tuple INPUT_CLASS_KEYBOARD WATCHDOG_US
        now =
      .ok (.enabled tuple,
        some
          { binding := tuple
            effectiveClasses := INPUT_CLASS_KEYBOARD
            watchdogTimeoutUs := WATCHDOG_US
            watchdogDeadline := deadline
            renewalSequence := 0 }) := by
  unfold InputGate.decision
  rw [keyboard_asked, if_neg Bool.false_ne_true, if_neg (by decide), timed]

/-- What the gates decide on a binding that is denied. -/
theorem decision_denied (surface epoch : UInt64) (tuple : InputTuple) (watchdogUs : UInt64) (now : Monotonic) :
    InputGate.decision (keyboardBinding surface epoch) tuple 0 watchdogUs now =
      .ok (.denied tuple, none) := by
  unfold InputGate.decision
  rw [keyboard_asked, if_neg Bool.false_ne_true, if_pos (Or.inl rfl)]

theorem decision_disabled (tuple : InputTuple) (classes watchdogUs : UInt64) (now : Monotonic) :
    InputGate.decision (Model.disabledBinding epoch) tuple classes watchdogUs now =
      .ok (.disabled, none) := by
  have asked : (Model.disabledBinding epoch).disabled = true := rfl
  unfold InputGate.decision
  rw [if_pos asked]

/-! ## Level gates -/

section

variable {left right : InputGate} (level : untimed left = untimed right)
include level

theorem level_generation : left.grantGeneration = right.grantGeneration := by
  have same := congrArg InputGate.grantGeneration level
  exact same

theorem level_latest : left.latestBinding = right.latestBinding := by
  have same := congrArg InputGate.latestBinding level
  exact same

theorem level_present : left.active.isSome = right.active.isSome := by
  have same := congrArg InputGate.active level
  unfold untimed at same
  simpa using congrArg Option.isSome same

theorem level_accepted {binding : InputBinding} {generation : GrantGeneration}
    {release : UInt64} (accepted : Accepted right binding generation release) :
    Accepted left binding generation release := by
  rw [← accepted_untimed, level, accepted_untimed]
  exact accepted

end

/-! ## Binding again -/

variable {grant : InputGrant} {gate : InputGate} {last : Option InputBinding}
  {retired : Option InputTuple} {held : Bool}

/-- The gate after a new binding. -/
def boundGate (binding : InputBinding) (generation : GrantGeneration) (release : UInt64)
    (active : Option ActiveGrant) : InputGate :=
  { latestBinding := some binding
    grantGeneration := generation
    active := active
    releaseGeneration := release }

/-- `retiring` of the gate and the tuple retired before. -/
def retiredBy (gate : InputGate) (retired : Option InputTuple) : Option InputTuple :=
  (gate.active.map ActiveGrant.binding).or retired

theorem grants_le (gate : InputGate) : grants gate ≤ 1 := by
  unfold grants
  split <;> omega

/-- Every tuple retired by now is of the gate's generation at most. -/
theorem Paired.retiring (paired : Paired grant gate epoch surface seen last retired held) :
    ∀ tuple, retiredBy gate retired = some tuple →
      tuple.grantGeneration.toNat ≤ gate.grantGeneration.toNat := by
  intro tuple isRetired
  unfold retiredBy at isRetired
  cases active : gate.active with
  | none =>
      rw [active] at isRetired
      have older := paired.outdated tuple isRetired
      omega
  | some current =>
      rw [active] at isRetired
      cases isRetired
      rw [(paired.shape current active).1]
      exact le_refl _

theorem Paired.newer (paired : Paired grant gate epoch surface seen last retired held)
    {binding : InputBinding} (later : epoch.toNat < binding.producerEpoch.toNat) :
    gate.Newer binding := by
  intro previous isPrevious
  have made := paired.made
  rw [← paired.latest, isPrevious] at made
  rw [Counter.lt_iff_toNat]
  have exact := congrArg UInt64.toNat made.valid.2
  unfold Counter.toNat at later ⊢
  omega

/-- A binding of the next epoch is taken by both gates alike. -/
theorem Paired.accepted (paired : Paired grant gate epoch surface seen last retired held)
    {binding : InputBinding} (valid : binding.validate binding.surfaceId = .ok ())
    (next : binding.producerEpoch.toNat = epoch.toNat + 1)
    (room : 2 * epoch.toNat + 2 < 2 ^ 64) :
    ∃ generation release, Accepted gate binding generation release ∧
      Accepted grant.gate binding generation release := by
  have counted := paired.counted
  have released := paired.released
  have few := grants_le gate
  have roomFor : gate.grantGeneration.value.toNat + 1 < 2 ^ 64 := by
    unfold Counter.toNat at counted
    omega
  obtain ⟨release, isReleased⟩ : ∃ release, gate.Released release := by
    refine ⟨.ofNat (gate.releaseGeneration.toNat + grants gate), ?_⟩
    unfold InputGate.Released
    rw [UInt64.toNat_ofNat_of_lt']
    · rfl
    · unfold Counter.toNat at released
      show _ < 2 ^ 64
      omega
  refine ⟨{ value := gate.grantGeneration.value + 1 }, release, ?_⟩
  have accepted : Accepted gate binding { value := gate.grantGeneration.value + 1 } release :=
    { valid := valid
      newer := paired.newer (by omega)
      next := toNat_succ roomFor
      released := isReleased }
  exact ⟨accepted, level_accepted paired.level accepted⟩

/-- Both gates hold what the binding was granted, and nothing else is left of
the grant before it. -/
theorem Paired.rebound (paired : Paired grant gate epoch surface seen last retired held)
    {binding : InputBinding} {generation : GrantGeneration} {release : UInt64}
    {active : Option ActiveGrant} {after : InputGrant} {next surface' seen' : UInt64}
    (accepted : Accepted gate binding generation release)
    (made : LastBinding (some binding) next) (counts : next.toNat = epoch.toNat + 1)
    (shape : ∀ current, active = some current →
      current.binding = InputGate.tuple (keyboardBinding surface' next) generation ∧
        current.effectiveClasses = INPUT_CLASS_KEYBOARD)
    (told : after.gate = boundGate binding generation release active)
    (observed : seen'.toNat ≤ generation.toNat) :
    Paired after (boundGate binding generation release active) next surface' seen'
      (some binding) (retiredBy gate retired) false where
  level := congrArg untimed told
  latest := rfl
  made := made
  shape := shape
  counted := by
    have counted := paired.counted
    have few := grants_le (boundGate binding generation release active)
    have one := accepted.next
    show generation.toNat + _ ≤ _
    omega
  released := by
    have one := accepted.next
    have released := accepted.released
    have before := paired.released
    have few := grants_le gate
    unfold InputGate.Released at released
    unfold grants at few
    show release.toNat ≤ generation.toNat
    omega
  observed := observed
  outdated := by
    intro tuple isRetired
    have older := paired.retiring tuple isRetired
    have few := grants_le (boundGate binding generation release active)
    have one := accepted.next
    show _ + _ ≤ generation.toNat
    omega
  pressed := by
    intro impossible
    cases impossible

theorem clamp_keyboard :
    clamp (keyboardBinding surface epoch).requestedWatchdogUs MIN_WATCHDOG_US MAX_WATCHDOG_US =
      WATCHDOG_US := by
  show clamp WATCHDOG_US MIN_WATCHDOG_US MAX_WATCHDOG_US = WATCHDOG_US
  decide

section

variable {eligibility : Eligibility} {now : Monotonic} {generation : GrantGeneration}
  {release : UInt64} {tuple : InputTuple} {active : Option ActiveGrant}
  (accepted : Accepted grant.gate (keyboardBinding surface epoch) generation release)
include accepted

theorem apply_enabled
    (decided : InputGate.decision (keyboardBinding surface epoch)
      (InputGate.tuple (keyboardBinding surface epoch) generation)
      (InputGrant.narrowed (keyboardBinding surface epoch) eligibility &&&
        (keyboardBinding surface epoch).requestedClasses) WATCHDOG_US now =
      .ok (.enabled tuple, active)) :
    ∃ after, grant.apply (keyboardBinding surface epoch) eligibility now =
        (.ok .enabled, after) ∧
      after.gate = boundGate (keyboardBinding surface epoch) generation release active := by
  unfold InputGrant.apply
  rw [keyboard_asked, if_neg Bool.false_ne_true, clamp_keyboard]
  dsimp only
  rw [applyBinding_accepted accepted decided]
  exact ⟨_, rfl, rfl⟩

theorem apply_denied
    (decided : InputGate.decision (keyboardBinding surface epoch)
      (InputGate.tuple (keyboardBinding surface epoch) generation)
      (InputGrant.narrowed (keyboardBinding surface epoch) eligibility &&&
        (keyboardBinding surface epoch).requestedClasses) WATCHDOG_US now =
      .ok (.denied tuple, active)) :
    ∃ reason after, grant.apply (keyboardBinding surface epoch) eligibility now =
        (.ok (.denied reason), after) ∧
      after.gate = boundGate (keyboardBinding surface epoch) generation release active := by
  unfold InputGrant.apply
  rw [keyboard_asked, if_neg Bool.false_ne_true, clamp_keyboard]
  dsimp only
  rw [applyBinding_accepted accepted decided]
  exact ⟨_, _, rfl, rfl⟩

end

theorem apply_disabled (eligibility : Eligibility) (now : Monotonic)
    {generation : GrantGeneration} {release : UInt64}
    (accepted : Accepted grant.gate (Model.disabledBinding epoch) generation release) :
    ∃ after, grant.apply (Model.disabledBinding epoch) eligibility now =
        (.ok .disabled, after) ∧
      after.gate = boundGate (Model.disabledBinding epoch) generation release none := by
  have asked : (Model.disabledBinding epoch).disabled = true := rfl
  unfold InputGrant.apply InputGrant.applyDisabled
  rw [if_pos asked,
    applyBinding_accepted accepted (decision_disabled _ _ _ _)]
  exact ⟨_, rfl, rfl⟩

/-- An eligible presenter enables the next epoch, and so does the producer. -/
theorem Paired.enable (paired : Paired grant gate epoch surface seen last retired held)
    {eligibility : Eligibility} {now : Monotonic} {next : UInt64} (named : surface ≠ 0)
    (counts : next.toNat = epoch.toNat + 1) (room : 2 * epoch.toNat + 2 < 2 ^ 64)
    (far : Far now)
    (eligible : InputGrant.narrowed (keyboardBinding surface next) eligibility =
      INPUT_CLASS_KEYBOARD) :
    ∃ (after : InputGrant) (bound : InputGate) (tuple : InputTuple),
      grant.apply (keyboardBinding surface next) eligibility now = (.ok .enabled, after) ∧
      gate.applyBinding (keyboardBinding surface next) INPUT_CLASS_KEYBOARD WATCHDOG_US now =
        (.ok (.enabled tuple), bound) ∧
      tuple.grantGeneration.value = after.grantGeneration ∧
      seen.toNat < tuple.grantGeneration.toNat ∧
      Paired after bound next surface (max seen tuple.grantGeneration.value)
        (some (keyboardBinding surface next)) (retiredBy gate retired) false := by
  have started : next ≠ 0 := by
    rw [Ne, ← UInt64.toNat_inj, counts]
    exact Nat.succ_ne_zero _
  obtain ⟨generation, release, accepted, presented⟩ :=
    paired.accepted (validate_keyboard named started) counts room
  obtain ⟨deadline, timed⟩ := far.deadline (show WATCHDOG_US ≤ MAX_WATCHDOG_US by decide)
  have decided := decision_keyboard surface next
    (InputGate.tuple (keyboardBinding surface next) generation) timed
  have later : seen.toNat < generation.toNat := by
    have observed := paired.observed
    have one := accepted.next
    omega
  obtain ⟨after, applied, told⟩ := apply_enabled presented
    (by rw [eligible, masked_keyboard]; exact decided)
  have bound := applyBinding_accepted accepted (by rw [masked_keyboard]; exact decided)
  refine ⟨after, _, _, applied, bound, ?_, later, ?_⟩
  · unfold InputGrant.grantGeneration
    rw [told]
    rfl
  · apply paired.rebound accepted (.enabled named started) counts
    · intro current isCurrent
      cases isCurrent
      exact ⟨rfl, rfl⟩
    · exact told
    · rw [toNat_max]
      exact max_le (le_of_lt later) (le_refl _)

/-- An ineligible presenter denies the next epoch, and so does the producer. -/
theorem Paired.deny (paired : Paired grant gate epoch surface seen last retired held)
    {eligibility : Eligibility} {now : Monotonic} {next : UInt64} (named : surface ≠ 0)
    (counts : next.toNat = epoch.toNat + 1) (room : 2 * epoch.toNat + 2 < 2 ^ 64)
    (ineligible : InputGrant.narrowed (keyboardBinding surface next) eligibility = 0) :
    ∃ (reason : UInt64) (after : InputGrant) (bound : InputGate) (tuple : InputTuple),
      grant.apply (keyboardBinding surface next) eligibility now =
        (.ok (.denied reason), after) ∧
      gate.applyBinding (keyboardBinding surface next) 0 0 now = (.ok (.denied tuple), bound) ∧
      bound.active = none ∧ seen.toNat < tuple.grantGeneration.toNat ∧
      Paired after bound next surface (max seen tuple.grantGeneration.value)
        (some (keyboardBinding surface next)) (retiredBy gate retired) false := by
  have started : next ≠ 0 := by
    rw [Ne, ← UInt64.toNat_inj, counts]
    exact Nat.succ_ne_zero _
  obtain ⟨generation, release, accepted, presented⟩ :=
    paired.accepted (validate_keyboard named started) counts room
  have later : seen.toNat < generation.toNat := by
    have observed := paired.observed
    have one := accepted.next
    omega
  obtain ⟨reason, after, applied, told⟩ := apply_denied presented
    (by rw [ineligible, UInt64.zero_and]; exact decision_denied _ _ _ _ now)
  have bound := applyBinding_accepted accepted
    (by rw [UInt64.zero_and]; exact decision_denied _ _ _ 0 now)
  refine ⟨reason, after, _, _, applied, bound, rfl, later, ?_⟩
  apply paired.rebound accepted (.enabled named started) counts
  · intro current isCurrent
    cases isCurrent
  · exact told
  · rw [toNat_max]
    exact max_le (le_of_lt later) (le_refl _)

theorem Paired.disable (paired : Paired grant gate epoch surface seen last retired held)
    {eligibility : Eligibility} {now : Monotonic} {next : UInt64}
    (counts : next.toNat = epoch.toNat + 1) (room : 2 * epoch.toNat + 2 < 2 ^ 64) :
    ∃ (after : InputGrant) (bound : InputGate),
      grant.apply (Model.disabledBinding next) eligibility now = (.ok .disabled, after) ∧
      gate.applyBinding (Model.disabledBinding next) 0 0 now = (.ok .disabled, bound) ∧
      bound.active = none ∧
      Paired after bound next surface seen (some (Model.disabledBinding next))
        (retiredBy gate retired) false := by
  have started : next ≠ 0 := by
    rw [Ne, ← UInt64.toNat_inj, counts]
    exact Nat.succ_ne_zero _
  obtain ⟨generation, release, accepted, presented⟩ :=
    paired.accepted (validate_disabled started) counts room
  obtain ⟨after, applied, told⟩ := apply_disabled eligibility now presented
  have bound := applyBinding_accepted accepted
    (decision_disabled _ (0 &&& (Model.disabledBinding next).requestedClasses) 0 now)
  refine ⟨after, _, applied, bound, rfl, ?_⟩
  apply paired.rebound accepted (.disabled started) counts
  · intro current isCurrent
    cases isCurrent
  · exact told
  · have observed := paired.observed
    have one := accepted.next
    omega

/-! ## Binding the same epoch, or an earlier one -/

/-- A binding the gate refuses leaves the presenter as it was. -/
theorem apply_refused {binding : InputBinding} {eligibility : Eligibility} {now : Monotonic}
    (asked : binding.disabled = false)
    (refused : ∀ classes watchdogUs, ∃ error,
      grant.gate.applyBinding binding classes watchdogUs now = (.error error, grant.gate)) :
    ∃ error, grant.apply binding eligibility now = (.error error, grant) := by
  obtain ⟨error, run⟩ := refused (InputGrant.narrowed binding eligibility)
    (clamp binding.requestedWatchdogUs MIN_WATCHDOG_US MAX_WATCHDOG_US)
  unfold InputGrant.apply
  rw [asked, if_neg Bool.false_ne_true]
  dsimp only
  rw [run]
  exact ⟨error, rfl⟩

/-- A gate takes no binding of an earlier epoch, and none of the same epoch
that differs from the one it has. -/
theorem applyBinding_refused {binding previous : InputBinding} (classes watchdogUs : UInt64)
    (now : Monotonic) (valid : binding.validate binding.surfaceId = .ok ())
    (latest : gate.latestBinding = some previous)
    (stale : binding.producerEpoch < previous.producerEpoch ∨
      binding.producerEpoch = previous.producerEpoch ∧ binding ≠ previous) :
    ∃ error, gate.applyBinding binding classes watchdogUs now = (.error error, gate) := by
  unfold InputGate.applyBinding
  rw [valid, ok_bind, latest]
  dsimp only
  rcases stale with earlier | ⟨level, different⟩
  · rw [if_pos earlier]
    exact ⟨_, rfl⟩
  · have notEarlier : ¬ binding.producerEpoch < previous.producerEpoch := by
      rw [Counter.lt_iff_toNat, level]
      exact lt_irrefl _
    rw [if_neg notEarlier, if_pos level, if_neg different]
    exact ⟨_, rfl⟩

/-- The binding the gates have is an exact retry to the presenter. -/
theorem Paired.retry (paired : Paired grant gate epoch surface seen last retired held)
    {binding : InputBinding} (kept : last = some binding) (eligibility : Eligibility)
    (now : Monotonic) :
    ∃ after, grant.apply binding eligibility now = (.ok .exactRetry, after) ∧
      after.gate = grant.gate := by
  have made := paired.made
  rw [kept] at made
  have latest : grant.gate.latestBinding = some binding := by
    rw [level_latest paired.level, paired.latest, kept]
  have same : ∀ classes watchdogUs,
      grant.gate.applyBinding binding classes watchdogUs now = (.ok .exactRetry, grant.gate) := by
    intro classes watchdogUs
    unfold InputGate.applyBinding
    rw [made.valid.1, ok_bind, latest]
    dsimp only
    rw [if_neg (by rw [Counter.lt_iff_toNat]; exact lt_irrefl _), if_pos rfl, if_pos rfl]
    rfl
  unfold InputGrant.apply InputGrant.applyDisabled
  by_cases asked : binding.disabled = true
  · rw [if_pos asked, same]
    exact ⟨_, rfl, rfl⟩
  · rw [if_neg asked]
    dsimp only
    rw [same]
    exact ⟨_, rfl, rfl⟩

/-- What the presenter's refusals and retries leave of the pair. -/
theorem Paired.same_gate (paired : Paired grant gate epoch surface seen last retired held)
    {after : InputGrant} (same : after.gate = grant.gate) :
    Paired after gate epoch surface seen last retired held :=
  { paired with level := by rw [same]; exact paired.level }

/-! ## Revoking and renewing -/

/-- The gate after its grant was revoked. -/
def revokedGate (gate : InputGate) (generation : GrantGeneration) (release : UInt64) :
    InputGate :=
  { gate with
    grantGeneration := generation
    releaseGeneration := release
    active := none }

/-- A gate with room ends its grant at the next generation. -/
theorem revoke_room (gate : InputGate) {generation : GrantGeneration} {release : UInt64}
    (next : generation.toNat = gate.grantGeneration.toNat + 1)
    (released : gate.Released release) :
    gate.revoke = (.ok generation, revokedGate gate generation release) := by
  unfold InputGate.revoke
  rw [nextGrantGeneration_eq_ok.mpr next, nextReleaseGeneration_eq_ok.mpr released, ok_bind,
    ok_bind]
  rfl

theorem level_released {left right : InputGate} (level : untimed left = untimed right)
    {release : UInt64} (released : right.Released release) : left.Released release := by
  rw [← released_untimed, level, released_untimed]
  exact released

/-- Both gates end the grant they hold, at one generation. -/
theorem Paired.revoke (paired : Paired grant gate epoch surface seen last retired held)
    (room : 2 * epoch.toNat < 2 ^ 64) (granted : gate.active.isSome = true) (reason : UInt64) :
    ∃ (payload : PayloadMap) (after : InputGrant) (revoked : InputGate)
        (generation : GrantGeneration),
      grant.revoke reason = (some payload, after) ∧
      gate.revoke = (.ok generation, revoked) ∧
      generation.value = after.grantGeneration ∧ seen.toNat < generation.toNat ∧
      revoked.active = none ∧
      ∀ surface', Paired after revoked epoch surface' (max seen generation.value) last
        (retiredBy gate retired) false := by
  have counted := paired.counted
  have before := paired.released
  have observed := paired.observed
  unfold grants at counted
  rw [if_pos granted] at counted
  have roomFor : gate.grantGeneration.value.toNat + 1 < 2 ^ 64 := by
    unfold Counter.toNat at counted
    omega
  have roomRelease : gate.releaseGeneration.toNat + 1 < 2 ^ 64 := by
    unfold Counter.toNat at before
    omega
  obtain ⟨generation, next⟩ : ∃ generation : GrantGeneration,
      generation.toNat = gate.grantGeneration.toNat + 1 :=
    ⟨{ value := gate.grantGeneration.value + 1 }, toNat_succ roomFor⟩
  obtain ⟨release, counts⟩ : ∃ release : UInt64,
      release.toNat = gate.releaseGeneration.toNat + 1 :=
    ⟨gate.releaseGeneration + 1, toNat_succ roomRelease⟩
  have released : gate.Released release := by
    unfold InputGate.Released
    rw [if_pos granted, counts]
  obtain ⟨active, isActive⟩ : ∃ active, grant.gate.active = some active := by
    rw [← Option.isSome_iff_exists, level_present paired.level]
    exact granted
  have presented := revoke_room grant.gate
    (by rw [level_generation paired.level]; exact next)
    (level_released paired.level released)
  have applied : ∃ payload, grant.revoke reason = (some payload,
      { gate := revokedGate grant.gate generation release
        generation := generation.value
        watchdogUs := 0
        renewalSequence := 0
        lastState := STATE_DISABLED
        lastReason := reason }) := by
    unfold InputGrant.revoke
    rw [isActive]
    dsimp only
    rw [presented]
    exact ⟨_, rfl⟩
  obtain ⟨payload, applied⟩ := applied
  have later : seen.toNat < generation.toNat := by omega
  refine ⟨payload, _, _, generation, applied, revoke_room gate next released, rfl, later, rfl, ?_⟩
  intro surface'
  exact
    { level := by
        have latest := level_latest paired.level
        unfold untimed revokedGate
        rw [latest]
      latest := paired.latest
      made := paired.made
      shape := by
        intro current isCurrent
        cases isCurrent
      counted := by
        show generation.toNat + 0 ≤ _
        omega
      released := by
        show release.toNat ≤ generation.toNat
        omega
      observed := by
        rw [toNat_max]
        exact max_le (le_of_lt later) (le_refl _)
      outdated := by
        intro tuple isRetired
        have older := paired.retiring tuple isRetired
        show _ + 0 ≤ generation.toNat
        omega
      pressed := by
        intro impossible
        cases impossible }

/-- Without a grant neither gate has anything to revoke. -/
theorem Paired.revoke_idle (paired : Paired grant gate epoch surface seen last retired held)
    (idle : gate.active = none) (reason : UInt64) :
    grant.revoke reason = (none, grant) ∧ ∀ surface',
      Paired grant gate epoch surface' seen last (retiredBy gate retired) false := by
  have absent : grant.gate.active = none := by
    have present := level_present paired.level
    rw [idle] at present
    exact Option.isSome_eq_false_iff.mp present |> Option.isNone_iff_eq_none.mp
  constructor
  · unfold InputGrant.revoke
    rw [absent]
  · intro surface'
    exact
      { paired with
        shape := by
          intro current isCurrent
          rw [idle] at isCurrent
          cases isCurrent
        outdated := by
          intro tuple isRetired
          unfold retiredBy at isRetired
          rw [idle] at isRetired
          exact paired.outdated tuple isRetired
        pressed := by
          intro impossible
          cases impossible }

/-- A renewal of either gate moves clocks only. -/
theorem Paired.renewed (paired : Paired grant gate epoch surface seen last retired held)
    {after : InputGrant} {bound : InputGate}
    (presenter : untimed after.gate = untimed grant.gate)
    (producer : untimed bound = untimed gate) :
    Paired after bound epoch surface seen last retired held := by
  have generation := level_generation producer
  have present := level_present producer
  have same : grants bound = grants gate := by
    unfold grants
    rw [present]
  have release : bound.releaseGeneration = gate.releaseGeneration := by
    have equal := congrArg InputGate.releaseGeneration producer
    exact equal
  exact
    { level := by rw [presenter, producer, paired.level]
      latest := by rw [level_latest producer, paired.latest]
      made := paired.made
      shape := by
        intro active isActive
        have clocks := congrArg InputGate.active producer
        unfold untimed at clocks
        rw [isActive] at clocks
        obtain ⟨current, isCurrent, renewed⟩ := Option.map_eq_some_iff.mp clocks.symm
        obtain ⟨tuple, classes⟩ := paired.shape current isCurrent
        have binding := congrArg ActiveGrant.binding renewed
        have effective := congrArg ActiveGrant.effectiveClasses renewed
        have isTuple : active.binding = current.binding := binding.symm
        have isClasses : active.effectiveClasses = current.effectiveClasses := effective.symm
        rw [isTuple, isClasses, generation]
        exact ⟨tuple, classes⟩
      counted := by
        rw [generation, same]
        exact paired.counted
      released := by
        rw [generation, release]
        exact paired.released
      observed := by
        rw [generation]
        exact paired.observed
      outdated := by
        rw [generation, same]
        exact paired.outdated
      pressed := by
        rw [present]
        exact paired.pressed }

end VividProtocol.Composed

import Mathlib.Tactic
import VividProtocol.Counters
import VividProtocol.Messages
import VividProtocol.Library.Result
import VividProtocol.Library.Transition

/-!
# The input gate

`InputGate` of `input.rs`: the producer's side of a desktop input grant.  It
holds the latest binding, the session-wide grant generation and at most one
active grant, and it is the last check before an event is injected.
-/

set_option autoImplicit false

namespace VividProtocol.Input

open VividProtocol.Library.Result
open VividProtocol.Library.Transition

def INPUT_CLASS_KEYBOARD : UInt64 := 1
def INPUT_CLASS_POINTER_MOTION : UInt64 := 2
def INPUT_CLASS_POINTER_BUTTON : UInt64 := 4
def INPUT_CLASS_POINTER_AXIS : UInt64 := 8
def INPUT_CLASS_KNOWN_MASK : UInt64 := 15

def MIN_WATCHDOG_US : UInt64 := 250000
def MAX_WATCHDOG_US : UInt64 := 5000000

structure InputBinding where
  producerEpoch : InputEpoch
  contextId : UInt64
  surfaceId : UInt64
  surfaceGeneration : SurfaceGeneration
  requestedClasses : UInt64
  reason : UInt64
  requestedWatchdogUs : UInt64
  deriving Repr, DecidableEq

namespace InputBinding

def disabled (binding : InputBinding) : Bool :=
  decide (binding.contextId = 0) && decide (binding.surfaceId = 0) &&
    decide (binding.surfaceGeneration = .zero) && decide (binding.requestedClasses = 0)

def validate (binding : InputBinding) (headerObjectId : UInt64) :
    Except MessageError Unit := do
  let _ ← orInvalid "SET_INPUT_BINDING" 0 "must be nonzero"
    binding.producerEpoch.requireNonzero
  validateHeaderObject headerObjectId binding.surfaceId
  if binding.reason > 7 then
    .error (invalidValue "SET_INPUT_BINDING" 5 "has an unknown transition reason")
  else if binding.disabled then
    if binding.requestedWatchdogUs ≠ 0 then
      .error (invalidValue "SET_INPUT_BINDING" 6 "must be zero when disabling")
    else .ok ()
  else do
    let _ ← requireNonzero "SET_INPUT_BINDING" 1 binding.contextId
    let _ ← requireNonzero "SET_INPUT_BINDING" 2 binding.surfaceId
    let _ ← orInvalid "SET_INPUT_BINDING" 3 "must be nonzero"
      binding.surfaceGeneration.requireNonzero
    if binding.requestedClasses = 0 ∨
        binding.requestedClasses &&& ~~~ INPUT_CLASS_KNOWN_MASK ≠ 0 then
      .error (invalidValue "SET_INPUT_BINDING" 4 "contains no class or unknown classes")
    else if ¬ (MIN_WATCHDOG_US ≤ binding.requestedWatchdogUs ∧
        binding.requestedWatchdogUs ≤ MAX_WATCHDOG_US) then
      .error (invalidValue "SET_INPUT_BINDING" 6 "is outside the watchdog range")
    else .ok ()

/-- A valid binding that does not disable asks for known classes only. -/
theorem known_of_validate {binding : InputBinding} {headerObjectId : UInt64}
    (valid : binding.validate headerObjectId = .ok ()) (asked : binding.disabled = false) :
    binding.requestedClasses &&& INPUT_CLASS_KNOWN_MASK = binding.requestedClasses := by
  unfold validate at valid
  obtain ⟨epoch, -, valid⟩ := bind_eq_ok_iff.mp valid
  obtain ⟨object, -, valid⟩ := bind_eq_ok_iff.mp valid
  rw [ite_error_eq_ok_iff, asked, if_neg (by simp)] at valid
  obtain ⟨-, valid⟩ := valid
  obtain ⟨context, -, valid⟩ := bind_eq_ok_iff.mp valid
  obtain ⟨surface, -, valid⟩ := bind_eq_ok_iff.mp valid
  obtain ⟨generation, -, valid⟩ := bind_eq_ok_iff.mp valid
  rw [ite_error_eq_ok_iff] at valid
  obtain ⟨classes, -⟩ := valid
  rw [not_or, not_not] at classes
  exact and_mask_of_and_not classes.2

end InputBinding

structure InputTuple where
  producerEpoch : InputEpoch
  grantGeneration : GrantGeneration
  contextId : UInt64
  surfaceId : UInt64
  surfaceGeneration : SurfaceGeneration
  deriving Repr, DecidableEq

inductive InputEvent where
  | key (binding : InputTuple) (usage : UInt16) (pressed : Bool)
  | pointerMotion (binding : InputTuple) (x y : UInt64)
  | pointerButton (binding : InputTuple) (button : UInt8) (pressed : Bool) (x y : UInt64)
  | pointerAxis (binding : InputTuple) (horizontal vertical : Int64) (x y : UInt64)
  deriving DecidableEq

namespace InputEvent

def binding : InputEvent → InputTuple
  | .key binding _ _ => binding
  | .pointerMotion binding _ _ => binding
  | .pointerButton binding _ _ _ _ => binding
  | .pointerAxis binding _ _ _ _ => binding

def «class» : InputEvent → UInt64
  | .key _ _ _ => INPUT_CLASS_KEYBOARD
  | .pointerMotion _ _ _ => INPUT_CLASS_POINTER_MOTION
  | .pointerButton _ _ _ _ _ => INPUT_CLASS_POINTER_BUTTON
  | .pointerAxis _ _ _ _ _ => INPUT_CLASS_POINTER_AXIS

end InputEvent

structure ActiveGrant where
  binding : InputTuple
  effectiveClasses : UInt64
  watchdogTimeoutUs : UInt64
  watchdogDeadline : Monotonic
  renewalSequence : UInt64
  deriving Repr, DecidableEq

inductive BindingOutcome where
  | disabled
  | enabled (tuple : InputTuple)
  | denied (tuple : InputTuple)
  | exactRetry
  deriving Repr, DecidableEq

inductive InjectionRejection where
  | noActiveGrant
  | staleTuple
  | surfaceGenerationChanged
  | watchdogExpired
  | classNotGranted
  deriving Repr, DecidableEq

structure InputGate where
  latestBinding : Option InputBinding
  grantGeneration : GrantGeneration
  active : Option ActiveGrant
  releaseGeneration : UInt64
  deriving DecidableEq

namespace InputGate

/-- `InputGate::default()`. -/
def default : InputGate :=
  { latestBinding := none
    grantGeneration := .zero
    active := none
    releaseGeneration := 0 }

def nextReleaseGeneration (gate : InputGate) : Except MessageError UInt64 :=
  if gate.active.isSome then
    match checkedAdd gate.releaseGeneration 1 with
    | some next => .ok next
    | none => .error (invalidValue "input release" 0 "exhausted")
  else .ok gate.releaseGeneration

def nextGrantGeneration (gate : InputGate) : Except MessageError GrantGeneration :=
  orInvalid "input grant" 1 "exhausted" gate.grantGeneration.advance

/-- The tuple a binding is granted or denied under. -/
def tuple (binding : InputBinding) (grantGeneration : GrantGeneration) : InputTuple :=
  { producerEpoch := binding.producerEpoch
    grantGeneration := grantGeneration
    contextId := binding.contextId
    surfaceId := binding.surfaceId
    surfaceGeneration := binding.surfaceGeneration }

/-- The outcome of a new binding and the grant it leaves active. -/
def decision (binding : InputBinding) (tuple : InputTuple)
    (effectiveClasses effectiveWatchdogUs : UInt64) (now : Monotonic) :
    Except MessageError (BindingOutcome × Option ActiveGrant) :=
  if binding.disabled then .ok (.disabled, none)
  else if effectiveClasses = 0 ∨
      ¬ (MIN_WATCHDOG_US ≤ effectiveWatchdogUs ∧ effectiveWatchdogUs ≤ MAX_WATCHDOG_US) then
    .ok (.denied tuple, none)
  else
    match now.checkedAddMicros effectiveWatchdogUs with
    | none => .error (invalidValue "INPUT_BOUND" 8 "overflows local time")
    | some watchdogDeadline =>
        .ok (.enabled tuple,
          some
            { binding := tuple
              effectiveClasses := effectiveClasses
              watchdogTimeoutUs := effectiveWatchdogUs
              watchdogDeadline := watchdogDeadline
              renewalSequence := 0 })

/-- `apply_binding` past its epoch checks. -/
def rebind (gate : InputGate) (binding : InputBinding)
    (effectiveClasses effectiveWatchdogUs : UInt64) (now : Monotonic) :
    Except MessageError (BindingOutcome × InputGate) := do
  let grantGeneration ← gate.nextGrantGeneration
  let releaseGeneration ← gate.nextReleaseGeneration
  let (outcome, active) ←
    decision binding (tuple binding grantGeneration)
      (effectiveClasses &&& binding.requestedClasses) effectiveWatchdogUs now
  .ok (outcome,
    { latestBinding := some binding
      grantGeneration := grantGeneration
      active := active
      releaseGeneration := releaseGeneration })

def applyBinding (gate : InputGate) (binding : InputBinding)
    (effectiveClasses effectiveWatchdogUs : UInt64) (now : Monotonic) :
    Except MessageError BindingOutcome × InputGate :=
  commit gate do
    binding.validate binding.surfaceId
    match gate.latestBinding with
    | none => gate.rebind binding effectiveClasses effectiveWatchdogUs now
    | some previous =>
        if binding.producerEpoch < previous.producerEpoch then
          .error (invalidValue "SET_INPUT_BINDING" 0 "moves the input epoch backward")
        else if binding.producerEpoch = previous.producerEpoch then
          if binding = previous then .ok (.exactRetry, gate)
          else
            .error (invalidValue "SET_INPUT_BINDING" 0 "reuses an epoch with different bytes")
        else gate.rebind binding effectiveClasses effectiveWatchdogUs now

def renew (gate : InputGate) (binding : InputTuple) (renewalSequence watchdogUs : UInt64)
    (receivedAt : Monotonic) : Except MessageError Unit × InputGate :=
  match gate.active with
  | none => (.error (invalidValue "INPUT_LEASE_RENEW" 0 "has no active grant"), gate)
  | some active =>
      if active.binding ≠ binding ∨ renewalSequence ≤ active.renewalSequence ∨
          active.watchdogDeadline ≤ receivedAt ∨ watchdogUs ≠ active.watchdogTimeoutUs then
        (.error (invalidValue "INPUT_LEASE_RENEW" 5 "is stale, late, or inconsistent"), gate)
      else
        match receivedAt.checkedAddMicros active.watchdogTimeoutUs with
        | none => (.error (invalidValue "INPUT_LEASE_RENEW" 6 "overflows local time"), gate)
        | some watchdogDeadline =>
            (.ok (),
              { gate with
                active := some
                  { active with
                    renewalSequence := renewalSequence
                    watchdogDeadline := watchdogDeadline } })

def revoke (gate : InputGate) : Except MessageError GrantGeneration × InputGate :=
  commit gate do
    let grantGeneration ← gate.nextGrantGeneration
    let releaseGeneration ← gate.nextReleaseGeneration
    .ok (grantGeneration,
      { gate with
        grantGeneration := grantGeneration
        releaseGeneration := releaseGeneration
        active := none })

def authorize (gate : InputGate) (event : InputEvent)
    (currentSurfaceGeneration : SurfaceGeneration) (now : Monotonic) :
    Except InjectionRejection Unit :=
  match gate.active with
  | none => .error .noActiveGrant
  | some active =>
      if event.binding ≠ active.binding then .error .staleTuple
      else if event.binding.surfaceGeneration ≠ currentSurfaceGeneration then
        .error .surfaceGenerationChanged
      else if active.watchdogDeadline ≤ now then .error .watchdogExpired
      else if active.effectiveClasses &&& event.class = 0 then .error .classNotGranted
      else .ok ()

/-- The operation is a function of the event it injects. -/
def dispatch {R : Type} (gate : InputGate) (event : InputEvent)
    (currentSurfaceGeneration : SurfaceGeneration) (now : Monotonic)
    (operation : InputEvent → R) : Except InjectionRejection R :=
  match gate.authorize event currentSurfaceGeneration now with
  | .error rejection => .error rejection
  | .ok () => .ok (operation event)

end InputGate

/-! ## Runs -/

inductive GateOperation where
  | applyBinding (binding : InputBinding) (effectiveClasses effectiveWatchdogUs : UInt64)
      (now : Monotonic)
  | renew (binding : InputTuple) (renewalSequence watchdogUs : UInt64)
      (receivedAt : Monotonic)
  | revoke
  deriving DecidableEq

inductive GateOutcome where
  | bound (result : Except MessageError BindingOutcome)
  | renewed (result : Except MessageError Unit)
  | revoked (result : Except MessageError GrantGeneration)

def gateStep (gate : InputGate) : GateOperation → GateOutcome × InputGate
  | .applyBinding binding effectiveClasses effectiveWatchdogUs now =>
      let (result, gate) :=
        gate.applyBinding binding effectiveClasses effectiveWatchdogUs now
      (.bound result, gate)
  | .renew binding renewalSequence watchdogUs receivedAt =>
      let (result, gate) := gate.renew binding renewalSequence watchdogUs receivedAt
      (.renewed result, gate)
  | .revoke =>
      let (result, gate) := gate.revoke
      (.revoked result, gate)

def gateRuns : Machine InputGate GateOperation GateOutcome := { step := gateStep }

abbrev GateEvent := Event InputGate GateOperation GateOutcome

/-! ## What one operation can do -/

/-- The outcomes of a new binding. -/
inductive Rebinding (binding : InputBinding) (tuple : InputTuple)
    (classes watchdogUs : UInt64) (now : Monotonic) :
    BindingOutcome → Option ActiveGrant → Prop where
  | disabled (asked : binding.disabled = true) :
      Rebinding binding tuple classes watchdogUs now .disabled none
  | denied (asked : binding.disabled = false)
      (empty : classes &&& binding.requestedClasses = 0 ∨
        ¬ (MIN_WATCHDOG_US ≤ watchdogUs ∧ watchdogUs ≤ MAX_WATCHDOG_US)) :
      Rebinding binding tuple classes watchdogUs now (.denied tuple) none
  | enabled {deadline : Monotonic} (asked : binding.disabled = false)
      (granted : classes &&& binding.requestedClasses ≠ 0)
      (range : MIN_WATCHDOG_US ≤ watchdogUs ∧ watchdogUs ≤ MAX_WATCHDOG_US)
      (timed : deadline.toNat = now.toNat + watchdogUs.toNat) :
      Rebinding binding tuple classes watchdogUs now (.enabled tuple)
        (some
          { binding := tuple
            effectiveClasses := classes &&& binding.requestedClasses
            watchdogTimeoutUs := watchdogUs
            watchdogDeadline := deadline
            renewalSequence := 0 })

def InputGate.Newer (gate : InputGate) (binding : InputBinding) : Prop :=
  ∀ previous, gate.latestBinding = some previous →
    previous.producerEpoch < binding.producerEpoch

/-- The release generation counts an active grant that ends. -/
def InputGate.Released (gate : InputGate) (release : UInt64) : Prop :=
  release.toNat = gate.releaseGeneration.toNat + if gate.active.isSome then 1 else 0

inductive GateEffect (gate : InputGate) : GateOperation → GateOutcome → InputGate → Prop where
  | bindingRefused {binding : InputBinding} {classes watchdogUs : UInt64} {now : Monotonic}
      (error : MessageError) :
      GateEffect gate (.applyBinding binding classes watchdogUs now) (.bound (.error error))
        gate
  | retried {binding : InputBinding} {classes watchdogUs : UInt64} {now : Monotonic}
      (valid : binding.validate binding.surfaceId = .ok ())
      (same : gate.latestBinding = some binding) :
      GateEffect gate (.applyBinding binding classes watchdogUs now)
        (.bound (.ok .exactRetry)) gate
  | rebound {binding : InputBinding} {classes watchdogUs : UInt64} {now : Monotonic}
      {generation : GrantGeneration} {release : UInt64} {outcome : BindingOutcome}
      {active : Option ActiveGrant}
      (valid : binding.validate binding.surfaceId = .ok ()) (newer : gate.Newer binding)
      (next : generation.toNat = gate.grantGeneration.toNat + 1)
      (released : gate.Released release)
      (decided : Rebinding binding (InputGate.tuple binding generation) classes watchdogUs
        now outcome active) :
      GateEffect gate (.applyBinding binding classes watchdogUs now) (.bound (.ok outcome))
        { latestBinding := some binding
          grantGeneration := generation
          active := active
          releaseGeneration := release }
  | renewalRefused {binding : InputTuple} {sequence watchdogUs : UInt64}
      {receivedAt : Monotonic} (error : MessageError) :
      GateEffect gate (.renew binding sequence watchdogUs receivedAt)
        (.renewed (.error error)) gate
  | renewed {binding : InputTuple} {active : ActiveGrant} {sequence watchdogUs : UInt64}
      {receivedAt deadline : Monotonic} (held : gate.active = some active)
      (same : active.binding = binding) (later : active.renewalSequence < sequence)
      (early : receivedAt < active.watchdogDeadline)
      (timed : deadline.toNat = receivedAt.toNat + watchdogUs.toNat) :
      GateEffect gate (.renew binding sequence watchdogUs receivedAt) (.renewed (.ok ()))
        { gate with
          active := some
            { active with renewalSequence := sequence, watchdogDeadline := deadline } }
  | revocationRefused (error : MessageError) :
      GateEffect gate .revoke (.revoked (.error error)) gate
  | revoked {generation : GrantGeneration} {release : UInt64}
      (next : generation.toNat = gate.grantGeneration.toNat + 1)
      (released : gate.Released release) :
      GateEffect gate .revoke (.revoked (.ok generation))
        { gate with
          grantGeneration := generation
          releaseGeneration := release
          active := none }

variable (gate : InputGate)

theorem nextGrantGeneration_eq_ok {gate : InputGate} {generation : GrantGeneration} :
    gate.nextGrantGeneration = .ok generation ↔
      generation.toNat = gate.grantGeneration.toNat + 1 := by
  rw [← Counter.advance_eq_ok]
  unfold InputGate.nextGrantGeneration
  cases gate.grantGeneration.advance with
  | error error => simp [orInvalid]
  | ok next => simp [orInvalid]

theorem nextReleaseGeneration_eq_ok {gate : InputGate} {release : UInt64} :
    gate.nextReleaseGeneration = .ok release ↔ gate.Released release := by
  unfold InputGate.nextReleaseGeneration InputGate.Released
  by_cases held : gate.active.isSome = true
  · rw [if_pos held, if_pos held]
    cases sum : checkedAdd gate.releaseGeneration 1 with
    | none =>
        constructor
        · intro impossible
          cases impossible
        · intro counted
          have fits : checkedAdd gate.releaseGeneration 1 = some release :=
            checkedAdd_eq_some.mpr counted
          rw [sum] at fits
          cases fits
    | some next =>
        have exact := checkedAdd_eq_some.mp sum
        rw [Except.ok.injEq, ← UInt64.toNat_inj, exact]
        exact eq_comm
  · rw [if_neg held, if_neg held, Except.ok.injEq, ← UInt64.toNat_inj]
    exact eq_comm

theorem decision_rebinding {binding : InputBinding} {tuple : InputTuple}
    {classes watchdogUs : UInt64} {now : Monotonic} {outcome : BindingOutcome}
    {active : Option ActiveGrant}
    (run : InputGate.decision binding tuple (classes &&& binding.requestedClasses)
      watchdogUs now = .ok (outcome, active)) :
    Rebinding binding tuple classes watchdogUs now outcome active := by
  unfold InputGate.decision at run
  by_cases asked : binding.disabled = true
  · rw [if_pos asked] at run
    cases run
    exact .disabled asked
  rw [if_neg asked] at run
  have kept := Bool.eq_false_iff.mpr asked
  by_cases empty : classes &&& binding.requestedClasses = 0 ∨
      ¬ (MIN_WATCHDOG_US ≤ watchdogUs ∧ watchdogUs ≤ MAX_WATCHDOG_US)
  · rw [if_pos empty] at run
    cases run
    exact .denied kept empty
  rw [if_neg empty] at run
  cases sum : now.checkedAddMicros watchdogUs with
  | none =>
      rw [sum] at run
      cases run
  | some deadline =>
      rw [sum] at run
      cases run
      rw [not_or, not_not] at empty
      exact .enabled kept empty.1 empty.2 (Monotonic.checkedAddMicros_eq_some.mp sum)

theorem rebind_effect {binding : InputBinding} {classes watchdogUs : UInt64}
    {now : Monotonic} {outcome : BindingOutcome} {after : InputGate}
    (valid : binding.validate binding.surfaceId = .ok ()) (newer : gate.Newer binding)
    (run : gate.rebind binding classes watchdogUs now = .ok (outcome, after)) :
    GateEffect gate (.applyBinding binding classes watchdogUs now) (.bound (.ok outcome))
      after := by
  unfold InputGate.rebind at run
  obtain ⟨generation, next, run⟩ := bind_eq_ok_iff.mp run
  obtain ⟨release, released, run⟩ := bind_eq_ok_iff.mp run
  obtain ⟨⟨decided, active⟩, decision, run⟩ := bind_eq_ok_iff.mp run
  cases run
  exact .rebound valid newer (nextGrantGeneration_eq_ok.mp next)
    (nextReleaseGeneration_eq_ok.mp released) (decision_rebinding decision)

theorem applyBinding_effect (binding : InputBinding) (classes watchdogUs : UInt64)
    (now : Monotonic) :
    GateEffect gate (.applyBinding binding classes watchdogUs now)
      (.bound (gate.applyBinding binding classes watchdogUs now).1)
      (gate.applyBinding binding classes watchdogUs now).2 := by
  unfold InputGate.applyBinding
  rcases commit_cases gate _ with ⟨error, -, ends⟩ | ⟨outcome, after, run, ends⟩
  · rw [ends]
    exact .bindingRefused error
  rw [ends]
  obtain ⟨_, valid, run⟩ := bind_eq_ok_iff.mp run
  cases latest : gate.latestBinding with
  | none =>
      rw [latest] at run
      apply rebind_effect gate valid _ run
      intro previous isPrevious
      rw [latest] at isPrevious
      cases isPrevious
  | some previous =>
      rw [latest] at run
      dsimp only at run
      by_cases backward : binding.producerEpoch < previous.producerEpoch
      · rw [if_pos backward] at run
        cases run
      rw [if_neg backward] at run
      by_cases level : binding.producerEpoch = previous.producerEpoch
      · rw [if_pos level] at run
        by_cases same : binding = previous
        · rw [if_pos same] at run
          cases run
          exact .retried valid (latest.trans (congrArg some same.symm))
        · rw [if_neg same] at run
          cases run
      · rw [if_neg level] at run
        apply rebind_effect gate valid _ run
        intro other isOther
        rw [latest] at isOther
        cases isOther
        rw [Counter.lt_iff_toNat] at backward ⊢
        rw [← Counter.toNat_inj] at level
        omega

theorem renew_effect (binding : InputTuple) (sequence watchdogUs : UInt64)
    (receivedAt : Monotonic) :
    GateEffect gate (.renew binding sequence watchdogUs receivedAt)
      (.renewed (gate.renew binding sequence watchdogUs receivedAt).1)
      (gate.renew binding sequence watchdogUs receivedAt).2 := by
  unfold InputGate.renew
  cases held : gate.active with
  | none => exact .renewalRefused _
  | some active =>
      dsimp only
      by_cases stale : active.binding ≠ binding ∨ sequence ≤ active.renewalSequence ∨
          active.watchdogDeadline ≤ receivedAt ∨ watchdogUs ≠ active.watchdogTimeoutUs
      · rw [if_pos stale]
        exact .renewalRefused _
      rw [if_neg stale]
      simp only [not_or, not_not] at stale
      obtain ⟨sameBinding, later, early, sameTimeout⟩ := stale
      subst sameBinding sameTimeout
      cases sum : receivedAt.checkedAddMicros active.watchdogTimeoutUs with
      | none => exact .renewalRefused _
      | some deadline =>
          apply GateEffect.renewed held rfl (UInt64.not_le.mp later)
          · rw [Monotonic.le_iff_toNat] at early
            rw [Monotonic.lt_iff_toNat]
            omega
          · exact Monotonic.checkedAddMicros_eq_some.mp sum

theorem revoke_effect :
    GateEffect gate .revoke (.revoked gate.revoke.1) gate.revoke.2 := by
  unfold InputGate.revoke
  rcases commit_cases gate _ with ⟨error, -, ends⟩ | ⟨generation, after, run, ends⟩
  · rw [ends]
    exact .revocationRefused error
  · rw [ends]
    obtain ⟨next, isNext, run⟩ := bind_eq_ok_iff.mp run
    obtain ⟨release, released, run⟩ := bind_eq_ok_iff.mp run
    cases run
    exact .revoked (nextGrantGeneration_eq_ok.mp isNext)
      (nextReleaseGeneration_eq_ok.mp released)

theorem gateStep_effect (operation : GateOperation) :
    GateEffect gate operation (gateStep gate operation).1 (gateStep gate operation).2 := by
  cases operation with
  | applyBinding binding classes watchdogUs now =>
      exact applyBinding_effect gate binding classes watchdogUs now
  | renew binding sequence watchdogUs receivedAt =>
      exact renew_effect gate binding sequence watchdogUs receivedAt
  | revoke => exact revoke_effect gate

end VividProtocol.Input

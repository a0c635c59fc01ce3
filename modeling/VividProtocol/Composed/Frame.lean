import Mathlib.Tactic
import VividProtocol.Composed.Safety

/-!
# What a transition of the composed model depends on

The first owner's transitions read neither the other owner nor, where there is
no grant to revoke, the injected regression.  From the first follows that the
other owner does not interfere; from the second, that a gate which misses
revocations is reported exactly when a revocation first meets a grant.
-/

set_option autoImplicit false

namespace VividProtocol.Composed

open VividProtocol.Grant
open VividProtocol.Input
open VividProtocol.Lease
open VividProtocol.Library.Transition
open Fired

/-- The other owner's own transitions, and the event that crosses to it. -/
def T.isOther : T → Bool
  | .otherActivate | .otherBind | .otherTeardown | .crossInject => true
  | _ => false

/-- The transitions with which the presenter revokes. -/
def T.revokes : T → Bool
  | .controlLostClean | .controlLostUnclean | .leaseRevoke | .parentRevoke | .laneOpen
  | .laneLoss | .watchdogFire | .focusLoss | .surfaceGenerationChange => true
  | _ => false

/-- The model beside another owner, with or without the regression. -/
def Model.framed (model : Model) (other : OwnerB) (broken : Bool) : Model :=
  { model with other := other, brokenRevocation := broken }

def Fired.framed (fired : Fired) (other : OwnerB) (broken : Bool) : Fired :=
  { fired with next := fired.next.map fun next => next.framed other broken }

/-- The same owners, with or without the regression. -/
def Model.regressed (model : Model) (broken : Bool) : Model := model.framed model.other broken

def Fired.regressed (fired : Fired) (broken : Bool) : Fired :=
  { fired with next := fired.next.map fun next => next.regressed broken }

/-- The regression makes no difference to a revocation. -/
def Model.Agrees (model : Model) (broken : Bool) : Prop :=
  broken = model.brokenRevocation ∨ model.grant.gate.active = none ∧ model.held = false

variable {sha256 : Sha256} {buckets : Buckets} {seen : Finset Case} {model : Model}
  {other : OwnerB} {broken : Bool}

theorem framed_ite {refused : Prop} [Decidable refused] {left right : Fired}
    {left' right' : Fired} (first : left' = left.framed other broken)
    (second : right' = right.framed other broken) :
    (if refused then left' else right') =
      (if refused then left else right).framed other broken := by
  rw [first, second]
  exact (apply_ite (fun fired : Fired => fired.framed other broken) refused left right).symm

/-- The fields a revocation may touch. -/
theorem presenterRevoke_fields (model : Model) (reason : UInt64) :
    ∃ gate observed held violations, model.presenterRevoke reason =
      ({ model with
          grant := (model.grant.revoke reason).2
          gate := gate
          retiredTuple := model.retiring
          pendingRenewal := none
          maxGenerationSeen := observed
          held := held }, violations) := by
  unfold Model.presenterRevoke
  rcases model.grant.revoke reason with ⟨payload, grant⟩
  dsimp only
  rcases model.gate.revoke with ⟨result, gate⟩
  cases payload <;> cases result <;> cases injected : model.brokenRevocation <;>
    exact ⟨_, _, _, _, rfl⟩

theorem presenterRevoke_framed (agrees : model.Agrees broken) (reason : UInt64) :
    (model.framed other broken).presenterRevoke reason =
      ((model.presenterRevoke reason).1.framed other broken,
        (model.presenterRevoke reason).2) := by
  rcases agrees with rfl | ⟨idle, free⟩
  · rcases revoked : model.grant.revoke reason with ⟨payload, grant⟩
    rcases produced : model.gate.revoke with ⟨result, gate⟩
    have presented : (model.framed other model.brokenRevocation).grant.revoke reason =
        (payload, grant) := revoked
    unfold Model.presenterRevoke
    rw [presented, revoked]
    cases payload <;> cases result <;> cases injected : model.brokenRevocation <;>
      simp only [Model.framed, produced] <;> rfl
  · have presented : model.grant.revoke reason = (none, model.grant) := by
      unfold InputGrant.revoke
      rw [idle]
    cases injected : model.brokenRevocation <;> cases broken <;>
      simp [Model.presenterRevoke, Model.framed, presented, injected, Model.retiring, free]

/-! What the model derives from its own fields is the same beside any owner. -/

theorem framed_now : (model.framed other broken).now = model.now := rfl

theorem framed_deadline : (model.framed other broken).deadline = model.deadline := rfl

theorem framed_laneLive : (model.framed other broken).laneLive = model.laneLive := rfl

theorem framed_currentTuple :
    (model.framed other broken).currentTuple = model.currentTuple := rfl

theorem framed_staleGeneration :
    (model.framed other broken).staleGeneration = model.staleGeneration := rfl

theorem resumeRetry_framed (exact : Bool) :
    (model.framed other broken).fireResumeRetry sha256 exact =
      (model.fireResumeRetry sha256 exact).framed other broken := by
  unfold Model.fireResumeRetry
  simp only [framed_staleGeneration]
  simp only [Model.framed]
  exact framed_ite rfl (framed_ite rfl rfl)

theorem revoke_framed (agrees : model.Agrees broken) (parent : Bool) :
    (model.framed other broken).fireRevoke parent =
      (model.fireRevoke parent).framed other broken := by
  have told := @presenterRevoke_framed model other broken agrees Reason.AUTHORITY_LOSS
  obtain ⟨gate, observed, held, violations, revoked⟩ :=
    presenterRevoke_fields model Reason.AUTHORITY_LOSS
  unfold Model.fireRevoke
  dsimp only
  rw [told, revoked]
  refine framed_ite rfl ?_
  simp [Fired.framed, Model.framed, Model.otherProbe, Model.teardownTransports]

theorem bindEnable_framed :
    (model.framed other broken).fireBindEnable buckets =
      (model.fireBindEnable buckets).framed other broken := by
  rcases applied : model.grant.apply (model.enabledBinding (model.epoch + 1)) model.eligibility
    model.now with ⟨result, grant⟩
  have presented : (model.framed other broken).grant.apply
      ((model.framed other broken).enabledBinding ((model.framed other broken).epoch + 1))
      (model.framed other broken).eligibility (model.framed other broken).now =
        (result, grant) := applied
  unfold Model.fireBindEnable
  dsimp only
  rw [presented, applied]
  refine framed_ite rfl ?_
  rcases result with _ | (_ | _ | reason | _)
  · rfl
  · rfl
  · rcases produced : model.gate.applyBinding (model.enabledBinding (model.epoch + 1))
      INPUT_CLASS_KEYBOARD WATCHDOG_US model.now with ⟨bound, gate⟩
    have same : (model.framed other broken).gate.applyBinding
        ((model.framed other broken).enabledBinding ((model.framed other broken).epoch + 1))
        INPUT_CLASS_KEYBOARD WATCHDOG_US (model.framed other broken).now =
          (bound, gate) := produced
    dsimp only
    rw [same]
    rcases bound with _ | (_ | tuple | _ | _) <;> rfl
  · rcases produced : model.gate.applyBinding (model.enabledBinding (model.epoch + 1)) 0 0
      model.now with ⟨bound, gate⟩
    have same : (model.framed other broken).gate.applyBinding
        ((model.framed other broken).enabledBinding ((model.framed other broken).epoch + 1))
        0 0 (model.framed other broken).now = (bound, gate) := produced
    dsimp only
    rw [same]
    rcases bound with _ | (_ | _ | tuple | _) <;> rfl
  · rfl

theorem renewDeliver_framed :
    (model.framed other broken).fireRenewDeliver =
      model.fireRenewDeliver.framed other broken := by
  have sent : (model.framed other broken).pendingRenewal = model.pendingRenewal := rfl
  have granted : (model.framed other broken).gate.active = model.gate.active := rfl
  unfold Model.fireRenewDeliver
  rw [sent]
  rcases model.pendingRenewal with _ | renewal
  · rfl
  · dsimp only
    rw [granted]
    rcases model.gate.active with _ | active
    · rfl
    · rcases produced : model.gate.renew active.binding renewal.sequence renewal.watchdogUs
        ({ model with pendingRenewal := none } : Model).now with ⟨result, gate⟩
      have same : (model.framed other broken).gate.renew active.binding renewal.sequence
          renewal.watchdogUs
          ({ model.framed other broken with pendingRenewal := none } : Model).now =
            (result, gate) := produced
      dsimp only
      rw [same, produced]
      rcases result with _ | _ <;> rfl

theorem event_framed (pressed : Bool) :
    (model.framed other broken).fireEvent seen pressed =
      (model.fireEvent seen pressed).framed other broken := by
  unfold Model.fireEvent
  simp only [framed_now, framed_currentTuple, framed_laneLive, framed_deadline]
  simp only [Model.framed]
  generalize model.gate.authorize _ _ model.now = passed
  refine framed_ite rfl (framed_ite rfl ?_)
  rcases passed with _ | _ <;> rfl

theorem activateRetryExact_framed :
    (model.framed other broken).fireActivateRetryExact sha256 =
      (model.fireActivateRetryExact sha256).framed other broken := by
  unfold Model.fireActivateRetryExact
  simp only [Model.framed]
  generalize model.lease.beginActivation sha256 (attemptRequest ATTEMPT) = decided
  refine framed_ite rfl (framed_ite rfl ?_)
  rcases decided with ⟨_ | _ | _, lease⟩ <;> rfl

theorem resumeValid_framed :
    (model.framed other broken).fireResumeValid sha256 buckets =
      (model.fireResumeValid sha256 buckets).framed other broken := by
  unfold Model.fireResumeValid
  simp only [Model.framed]
  generalize model.lease.beginResume sha256 model.lease.resumeGeneration
    (attemptRequest ATTEMPT) = decided
  refine framed_ite rfl ?_
  rcases decided with ⟨_ | _ | _, lease⟩ <;> rfl

theorem controlLostClean_framed (agrees : model.Agrees broken) :
    (model.framed other broken).fireControlLostClean =
      model.fireControlLostClean.framed other broken := by
  have told := @presenterRevoke_framed model other broken agrees
    Reason.PRESENTER_SHUTDOWN
  unfold Model.fireControlLostClean
  dsimp only
  rw [told]
  exact framed_ite rfl rfl

theorem controlLostUnclean_framed (agrees : model.Agrees broken) :
    (model.framed other broken).fireControlLostUnclean =
      model.fireControlLostUnclean.framed other broken := by
  have told := @presenterRevoke_framed model other broken agrees Reason.SUSPENSION
  unfold Model.fireControlLostUnclean
  dsimp only
  rw [told]
  generalize model.presenterRevoke Reason.SUSPENSION = revoked
  simp only [Model.framed]
  generalize model.lease.confirmTransportLost false = settled
  refine framed_ite rfl (framed_ite rfl ?_)
  rcases settled with ⟨_ | (_ | _ | _ | _ | _ | _ | _), lease⟩ <;> rfl

theorem laneOpen_framed (agrees : model.Agrees broken) :
    (model.framed other broken).fireLaneOpen buckets =
      (model.fireLaneOpen buckets).framed other broken := by
  have told := @presenterRevoke_framed model other broken agrees Reason.LANE_LOSS
  unfold Model.fireLaneOpen
  dsimp only
  rw [told]
  refine framed_ite rfl (framed_ite rfl ?_)
  by_cases replaces : model.lane.isSome = true
  · have framed : (model.framed other broken).lane.isSome = true := replaces
    rw [if_pos replaces, if_pos framed]
    rfl
  · have framed : ¬ (model.framed other broken).lane.isSome = true := replaces
    rw [if_neg replaces, if_neg framed]
    rfl

theorem laneLoss_framed (agrees : model.Agrees broken) :
    (model.framed other broken).fireLaneLoss =
      model.fireLaneLoss.framed other broken := by
  have told := @presenterRevoke_framed
    { model with lane := model.lane.map fun lane => { lane with live := false } } other
    broken agrees Reason.LANE_LOSS
  unfold Model.fireLaneLoss
  refine framed_ite rfl ?_
  have run : ({ model.framed other broken with
      lane := (model.framed other broken).lane.map fun lane =>
        { lane with live := false } } : Model).presenterRevoke Reason.LANE_LOSS = _ := told
  dsimp only
  rw [run]
  rfl

theorem laneRetry_framed :
    (model.framed other broken).fireLaneRetry seen =
      (model.fireLaneRetry seen).framed other broken := by
  have same : (model.framed other broken).lane = model.lane := rfl
  unfold Model.fireLaneRetry
  rw [same]
  rcases model.lane with _ | lane
  · rfl
  · exact framed_ite rfl (framed_ite (framed_ite rfl rfl) rfl)

theorem laneStaleRecord_framed :
    (model.framed other broken).fireLaneStaleRecord seen =
      (model.fireLaneStaleRecord seen).framed other broken := by
  have same : (model.framed other broken).lane = model.lane := rfl
  unfold Model.fireLaneStaleRecord
  rw [same]
  rcases model.lane with _ | lane
  · rfl
  · exact framed_ite rfl rfl

theorem mediaAccept_framed :
    (model.framed other broken).fireMediaAccept =
      model.fireMediaAccept.framed other broken := by
  unfold Model.fireMediaAccept
  simp only [Model.framed]
  generalize model.flow.admitRecord MEDIA_BODY = admitted
  refine framed_ite rfl ?_
  rcases admitted with ⟨_ | _, flow⟩ <;> rfl

theorem bindRetrySame_framed :
    (model.framed other broken).fireBindRetrySame =
      model.fireBindRetrySame.framed other broken := by
  have same : (model.framed other broken).lastBinding = model.lastBinding := rfl
  unfold Model.fireBindRetrySame
  rw [same]
  rcases model.lastBinding with _ | binding
  · rfl
  · rfl

theorem bindRetryDifferent_framed :
    (model.framed other broken).fireBindRetryDifferent =
      model.fireBindRetryDifferent.framed other broken := by
  have same : (model.framed other broken).lastBinding = model.lastBinding := rfl
  unfold Model.fireBindRetryDifferent
  rw [same]
  rcases model.lastBinding with _ | binding
  · rfl
  · exact framed_ite rfl rfl

theorem renewSend_framed :
    (model.framed other broken).fireRenewSend =
      model.fireRenewSend.framed other broken := by
  unfold Model.fireRenewSend
  simp only [framed_now]
  simp only [Model.framed]
  generalize model.grant.dueRenewal model.now = sent
  refine framed_ite rfl ?_
  rcases sent with ⟨_ | renewal, grant⟩ <;> rfl

theorem watchdogFire_framed (agrees : model.Agrees broken) :
    (model.framed other broken).fireWatchdogFire =
      model.fireWatchdogFire.framed other broken := by
  have told := @presenterRevoke_framed model other broken agrees Reason.WATCHDOG
  unfold Model.fireWatchdogFire
  dsimp only
  rw [told]
  exact framed_ite rfl rfl

theorem focusLoss_framed (agrees : model.Agrees broken) :
    (model.framed other broken).fireFocusLoss =
      model.fireFocusLoss.framed other broken := by
  have told := @presenterRevoke_framed { model with focused := false } other broken
    agrees Reason.FOCUS_LOSS
  unfold Model.fireFocusLoss
  have run : ({ model.framed other broken with focused := false } : Model).presenterRevoke
      Reason.FOCUS_LOSS = _ := told
  dsimp only
  rw [run]
  exact framed_ite rfl (framed_ite rfl rfl)

theorem surfaceGenerationChange_framed (agrees : model.Agrees broken) :
    (model.framed other broken).fireSurfaceGenerationChange buckets =
      (model.fireSurfaceGenerationChange buckets).framed other broken := by
  have told := @presenterRevoke_framed
    { model with surfaceGeneration := model.surfaceGeneration + 1 } other broken
    agrees Reason.GENERATION_CHANGE
  unfold Model.fireSurfaceGenerationChange
  have run : ({ model.framed other broken with
      surfaceGeneration := (model.framed other broken).surfaceGeneration + 1 } :
        Model).presenterRevoke Reason.GENERATION_CHANGE = _ := told
  rw [run]
  exact framed_ite rfl rfl

theorem eventOldTuple_framed :
    (model.framed other broken).fireEventOldTuple =
      model.fireEventOldTuple.framed other broken := by
  have same : (model.framed other broken).retiredTuple = model.retiredTuple := rfl
  unfold Model.fireEventOldTuple
  rw [same]
  rcases model.retiredTuple with _ | tuple
  · rfl
  · have passed : (model.framed other broken).gate.authorize (Model.keyEvent tuple true)
        { value := (model.framed other broken).surfaceGeneration }
        (model.framed other broken).now =
          model.gate.authorize (Model.keyEvent tuple true)
            { value := model.surfaceGeneration } model.now := rfl
    dsimp only
    rw [passed]
    rcases model.gate.authorize (Model.keyEvent tuple true)
      { value := model.surfaceGeneration } model.now with _ | _ <;> rfl

/-- The first owner's transitions are the same beside any other owner, and with
or without the regression where it makes no difference. -/
theorem attempt_framed (kind : T) (own : kind.isOther = false)
    (agrees : kind.revokes = true → model.Agrees broken) :
    (model.framed other broken).attempt sha256 buckets seen kind =
      (model.attempt sha256 buckets seen kind).framed other broken := by
  cases kind with
  | activateRetryExact => exact activateRetryExact_framed
  | resumeValid => exact resumeValid_framed
  | resumeRetryExact => exact resumeRetry_framed true
  | resumeRetryDifferent => exact resumeRetry_framed false
  | controlLostClean => exact controlLostClean_framed (agrees rfl)
  | controlLostUnclean => exact controlLostUnclean_framed (agrees rfl)
  | leaseRevoke => exact revoke_framed (agrees rfl) false
  | parentRevoke => exact revoke_framed (agrees rfl) true
  | laneOpen => exact laneOpen_framed (agrees rfl)
  | laneLoss => exact laneLoss_framed (agrees rfl)
  | laneRetry => exact laneRetry_framed
  | laneStaleRecord => exact laneStaleRecord_framed
  | mediaAccept => exact mediaAccept_framed
  | bindEnable => exact bindEnable_framed
  | bindRetrySame => exact bindRetrySame_framed
  | bindRetryDifferent => exact bindRetryDifferent_framed
  | renewSend => exact renewSend_framed
  | renewDeliver => exact renewDeliver_framed
  | watchdogFire => exact watchdogFire_framed (agrees rfl)
  | focusLoss => exact focusLoss_framed (agrees rfl)
  | surfaceGenerationChange => exact surfaceGenerationChange_framed (agrees rfl)
  | eventPress => exact event_framed true
  | eventRelease => exact event_framed false
  | eventOldTuple => exact eventOldTuple_framed
  | otherActivate => cases own
  | otherBind => cases own
  | otherTeardown => cases own
  | crossInject => cases own
  | _ => exact framed_ite rfl rfl

/-! ## The other owner does not interfere -/

theorem mayFire_framed (kind : T) (own : kind.isOther = false) :
    (model.framed other broken).mayFire buckets seen kind =
      model.mayFire buckets seen kind := by
  cases kind <;> first | rfl | cases own

theorem fire_framed (kind : T) (own : kind.isOther = false)
    (agrees : kind.revokes = true → model.Agrees broken) :
    (model.framed other broken).fire sha256 buckets seen kind =
      (model.fire sha256 buckets seen kind).framed other broken := by
  unfold Model.fire
  rw [mayFire_framed kind own]
  exact framed_ite rfl (attempt_framed kind own agrees)

/-- One step of the first owner, beside any other owner. -/
theorem modelStep_framed (tried : Attempted) (own : tried.kind.isOther = false)
    (agrees : tried.kind.revokes = true → model.Agrees broken) :
    modelStep sha256 buckets (model.framed other broken) tried =
      ((modelStep sha256 buckets model tried).1,
        (modelStep sha256 buckets model tried).2.framed other broken) := by
  unfold modelStep
  rw [fire_framed tried.kind own agrees]
  rcases model.fire sha256 buckets tried.seen tried.kind with ⟨_ | next, violations, cases⟩ <;>
    rfl

/-- The first owner's transitions leave the other owner and the regression as
they are. -/
theorem modelStep_own (tried : Attempted) (own : tried.kind.isOther = false) :
    (modelStep sha256 buckets model tried).2.other = model.other ∧
      (modelStep sha256 buckets model tried).2.brokenRevocation = model.brokenRevocation := by
  have same : modelStep sha256 buckets (model.framed model.other model.brokenRevocation) tried =
      _ := modelStep_framed tried own fun _ => .inl rfl
  have back : (modelStep sha256 buckets model tried).2 =
      (modelStep sha256 buckets model tried).2.framed model.other model.brokenRevocation :=
    congrArg Prod.snd same
  rw [back]
  exact ⟨rfl, rfl⟩

theorem attempt_other (kind : T) (others : kind.isOther = true) (next : Model)
    (leads : (model.attempt sha256 buckets seen kind).next = some next) :
    next = { model with other := next.other } := by
  cases kind with
  | otherActivate =>
      unfold Model.attempt Model.fireOtherActivate at leads
      dsimp only at leads
      split at leads
      · cases leads
      · cases leads
        rfl
  | otherBind =>
      unfold Model.attempt Model.fireOtherBind at leads
      dsimp only at leads
      split at leads
      · cases leads
      · split at leads
        · cases leads
          rfl
        · cases leads
          rfl
  | otherTeardown =>
      unfold Model.attempt Model.fireOtherTeardown at leads
      dsimp only at leads
      split at leads
      · cases leads
      · cases leads
        rfl
  | crossInject =>
      unfold Model.attempt Model.fireCrossInject at leads
      dsimp only at leads
      split at leads
      · cases leads
      · cases leads
        rfl
  | _ => cases others

theorem attempt_other_regressed (kind : T) (others : kind.isOther = true) :
    (model.regressed broken).attempt sha256 buckets seen kind =
      (model.attempt sha256 buckets seen kind).regressed broken := by
  cases kind with
  | otherActivate =>
      unfold Model.attempt Model.fireOtherActivate
      by_cases refused : model.other.lease.state ≠ .issued
      · rw [if_pos refused]
        exact if_pos refused
      · rw [if_neg refused]
        exact if_neg refused
  | otherBind =>
      have same : (model.regressed broken).other.gate.applyBinding
          ((model.regressed broken).enabledBinding 1) INPUT_CLASS_KEYBOARD WATCHDOG_US
          (model.regressed broken).now =
            model.other.gate.applyBinding (model.enabledBinding 1) INPUT_CLASS_KEYBOARD
              WATCHDOG_US model.now := rfl
      unfold Model.attempt Model.fireOtherBind
      dsimp only
      rw [same]
      by_cases refused : model.other.lease.state ≠ .active ∨ model.other.bound = true
      · rw [if_pos refused]
        exact if_pos refused
      · rw [if_neg refused]
        refine (if_neg refused).trans ?_
        rcases model.other.gate.applyBinding (model.enabledBinding 1) INPUT_CLASS_KEYBOARD
          WATCHDOG_US model.now with ⟨_ | (_ | _ | _ | _), gate⟩ <;> rfl
  | otherTeardown =>
      unfold Model.attempt Model.fireOtherTeardown
      by_cases refused : model.other.lease.state ≠ .active
      · rw [if_pos refused]
        exact if_pos refused
      · rw [if_neg refused]
        exact if_neg refused
  | crossInject =>
      unfold Model.attempt Model.fireCrossInject
      by_cases refused : model.other.lease.state ≠ .active
      · rw [if_pos refused]
        exact if_pos refused
      · rw [if_neg refused]
        exact if_neg refused
  | _ => cases others

theorem modelStep_other (tried : Attempted) (others : tried.kind.isOther = true) :
    (modelStep sha256 buckets model tried).2 =
      { model with other := (modelStep sha256 buckets model tried).2.other } := by
  unfold modelStep Model.fire
  by_cases refused : (! model.mayFire buckets tried.seen tried.kind) = true
  · rw [if_pos refused]
    rfl
  · rw [if_neg refused]
    dsimp only
    cases leads : (model.attempt sha256 buckets tried.seen tried.kind).next with
    | none => rfl
    | some next => exact attempt_other tried.kind others next leads

theorem modelStep_regressed (tried : Attempted)
    (agrees : tried.kind.revokes = true → model.Agrees broken) :
    modelStep sha256 buckets (model.regressed broken) tried =
      ((modelStep sha256 buckets model tried).1,
        (modelStep sha256 buckets model tried).2.regressed broken) := by
  cases others : tried.kind.isOther with
  | false =>
      have same : modelStep sha256 buckets (model.framed model.other broken) tried = _ :=
        modelStep_framed tried others agrees
      unfold Model.regressed
      rw [(modelStep_own tried others).1]
      exact same
  | true =>
      unfold modelStep Model.fire
      have guarded : (model.regressed broken).mayFire buckets tried.seen tried.kind =
          model.mayFire buckets tried.seen tried.kind := by
        cases kind : tried.kind <;> rfl
      rw [guarded, attempt_other_regressed tried.kind others]
      by_cases refused : (! model.mayFire buckets tried.seen tried.kind) = true
      · rw [if_pos refused, if_pos refused]
        rfl
      · rw [if_neg refused, if_neg refused]
        rcases model.attempt sha256 buckets tried.seen tried.kind with
          ⟨_ | next, violations, cases⟩ <;> rfl

/-- The same owner beside another one. -/
def Model.beside (model : Model) (other : OwnerB) : Model := { model with other := other }

def Attempted.own (tried : Attempted) : Bool := ! tried.kind.isOther

/-- The other owner does not interfere: from any state, its actions left out and
itself replaced by any other, the first owner ends in the same state and each of
its transitions reports the same. -/
theorem other_owner_isolated (sha256 : Sha256) (buckets : Buckets) (model : Model)
    (other : OwnerB) (tried : List Attempted) :
    (modelRuns sha256 buckets).final (model.beside other) (tried.filter Attempted.own) =
        ((modelRuns sha256 buckets).final model tried).beside other ∧
      ((modelRuns sha256 buckets).history (model.beside other)
          (tried.filter Attempted.own)).map Event.output =
        (((modelRuns sha256 buckets).history model tried).filter
          fun event => event.input.own).map Event.output := by
  induction tried generalizing model with
  | nil => exact ⟨rfl, rfl⟩
  | cons first rest ih =>
      cases others : first.kind.isOther with
      | false =>
          have own : first.own = true := by
            unfold Attempted.own
            rw [others]
            rfl
          have stepped : modelStep sha256 buckets (model.beside other) first =
              ((modelStep sha256 buckets model first).1,
                (modelStep sha256 buckets model first).2.beside other) := by
            have same : modelStep sha256 buckets (model.framed other model.brokenRevocation)
                first = _ := modelStep_framed first others fun _ => .inl rfl
            have kept : (modelStep sha256 buckets model first).2.brokenRevocation =
                model.brokenRevocation := (modelStep_own first others).2
            refine same.trans ?_
            rw [← kept]
            rfl
          rw [List.filter_cons_of_pos own]
          obtain ⟨ends, reports⟩ := ih (modelStep sha256 buckets model first).2
          constructor
          · rw [Machine.final_cons,
              show (modelRuns sha256 buckets).step (model.beside other) first = _ from stepped]
            exact ends
          · rw [Machine.history_cons, Machine.history_cons, List.filter_cons_of_pos (by exact own),
              List.map_cons, List.map_cons, Machine.event_output, Machine.event_output,
              show (modelRuns sha256 buckets).step (model.beside other) first = _ from stepped]
            exact congrArg _ reports
      | true =>
          have own : ¬ first.own = true := by
            unfold Attempted.own
            rw [others]
            decide
          rw [List.filter_cons_of_neg own]
          have moved : (modelStep sha256 buckets model first).2 = _ :=
            modelStep_other first others
          have next := ih (modelStep sha256 buckets model first).2
          have same : (modelStep sha256 buckets model first).2.beside other =
              model.beside other := by
            rw [moved]
            rfl
          rw [same] at next
          obtain ⟨ends, reports⟩ := next
          refine ⟨ends, reports.trans ?_⟩
          rw [Machine.history_cons, List.filter_cons_of_neg (by exact own)]
          rfl

end VividProtocol.Composed

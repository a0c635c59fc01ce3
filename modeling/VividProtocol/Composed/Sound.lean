import Mathlib.Tactic
import VividProtocol.Composed.Fire
import VividProtocol.Composed.Grants

/-!
# The invariant of the composed model

`Sound` ties the machines of the model together.  Every transition keeps it and
has nothing to complain of; the transitions are taken in the groups of `fire`.
-/

set_option autoImplicit false

namespace VividProtocol.Composed

open VividProtocol.Grant
open VividProtocol.Input
open VividProtocol.Lease

/-- The counters that the buckets bound do not run out. -/
structure Buckets.Fit (buckets : Buckets) : Prop where
  epochs : 2 * buckets.maxEpoch.toNat + 2 < 2 ^ 64
  resumes : 3 * buckets.maxResumeGeneration.toNat + 6 < 2 ^ 64

/-- A flow within its window. -/
structure Within (flow : ChannelFlow) : Prop where
  bodyBytes : flow.sentBodyBytes.toNat ≤ flow.maximumBodyBytes.toNat
  records : flow.sentMediaRecords.toNat ≤ flow.maximumMediaRecords.toNat

/-- The lease of an owner that was activated and committed once. -/
def committedLease (sha256 : Sha256) : LeaseMachine :=
  sessionLease .active 3 .zero (some (heldAttempt sha256 none false false))

inductive OtherPhase (sha256 : Sha256) : OwnerB → Prop where
  | idle :
      OtherPhase sha256
        { lease := issuedLease
          gate := .default
          bound := false }
  | active :
      OtherPhase sha256
        { lease := committedLease sha256
          gate := .default
          bound := false }
  | bound {gate : InputGate} (generation : gate.grantGeneration = .one)
      (release : gate.releaseGeneration = 0) :
      OtherPhase sha256
        { lease := committedLease sha256
          gate := gate
          bound := true }
  | revoked {other : OwnerB} (ended : other.lease.state = .revoked) : OtherPhase sha256 other

structure Sound (sha256 : Sha256) (buckets : Buckets) (elapsed : Nat) (model : Model) :
    Prop where
  unbroken : model.brokenRevocation = false
  lease : LeasePhase sha256 model.lease model.postHelloAdmitted model.controlLost model.charged
  resumes : model.lease.resumeGeneration.toNat ≤ buckets.maxResumeGeneration.toNat
  lane : model.lane.isSome = true → model.lease.state = .active
  lanes : ∀ lane, model.lane = some lane → lane.generation ≠ 0
  granted : model.gate.active.isSome = true → model.laneLive = true
  named : model.surfaceGeneration ≠ 0
  epochs : model.epoch.toNat ≤ buckets.maxEpoch.toNat
  paired : Paired model.grant model.gate model.epoch model.surfaceGeneration
    model.maxGenerationSeen model.lastBinding model.retiredTuple model.held
  flow : Within model.flow
  other : OtherPhase sha256 model.other
  clock : model.nowUs.toNat ≤ elapsed

/-- Nothing to complain of, and every next state is sound. -/
structure Clean (sha256 : Sha256) (buckets : Buckets) (elapsed : Nat) (fired : Fired) :
    Prop where
  silent : fired.violations = []
  sound : ∀ next, fired.next = some next → Sound sha256 buckets elapsed next

variable {sha256 : Sha256} {buckets : Buckets} {elapsed : Nat} {model : Model}
  {seen : Finset Case}

theorem clean_disabled : Clean sha256 buckets elapsed .disabled where
  silent := rfl
  sound := by
    intro next impossible
    cases impossible

theorem clean_quiet {next : Model} (sound : Sound sha256 buckets elapsed next)
    (cases : List Case) : Clean sha256 buckets elapsed (.quiet next cases) where
  silent := rfl
  sound := by
    rintro after ⟨⟩
    exact sound

theorem clean_fired {next : Model} {violations : List Violation} {cases : List Case}
    (silent : violations = []) (sound : Sound sha256 buckets elapsed next) :
    Clean sha256 buckets elapsed
      { next := some next, violations := violations, cases := cases } where
  silent := silent
  sound := by
    rintro after ⟨⟩
    exact sound

/-- A transition is judged where it applies. -/
theorem clean_unless {refused : Prop} [Decidable refused] {fired : Fired}
    (enabled : ¬ refused → Clean sha256 buckets elapsed fired) :
    Clean sha256 buckets elapsed (if refused then .disabled else fired) := by
  by_cases applies : refused
  · rw [if_pos applies]
    exact clean_disabled
  · rw [if_neg applies]
    exact enabled applies

theorem Sound.mono {later : Nat} (sound : Sound sha256 buckets elapsed model)
    (passed : elapsed ≤ later) : Sound sha256 buckets later model :=
  { sound with clock := le_trans sound.clock passed }

theorem laneLive_eq_true (live : model.laneLive = true) :
    ∃ lane, model.lane = some lane ∧ lane.live = true := by
  unfold Model.laneLive at live
  exact (Option.any_eq_true _ _).mp live

/-- A grant lives on a live lane of an active lease. -/
theorem Sound.granted_active (sound : Sound sha256 buckets elapsed model)
    (granted : model.gate.active.isSome = true) : model.lease.state = .active := by
  obtain ⟨lane, isLane, -⟩ := laneLive_eq_true (sound.granted granted)
  exact sound.lane (Option.isSome_of_eq_some isLane)

theorem holding_iff {state : LeaseState} :
    LeaseState.holding state = true ↔ state = .reserved ∨ state = .active := by
  unfold LeaseState.holding
  simp

theorem terminal_iff {state : LeaseState} :
    LeaseState.terminal state = true ↔ state = .closed ∨ state = .revoked ∨ state = .expired := by
  unfold LeaseState.terminal
  simp [or_assoc]

/-! ## Revocation by the presenter -/

/-- A revocation ends the grant on both sides and touches only what belongs to
it. -/
theorem presenterRevoke_spec {surface : UInt64} (unbroken : model.brokenRevocation = false)
    (room : 2 * model.epoch.toNat < 2 ^ 64)
    (paired : Paired model.grant model.gate model.epoch surface model.maxGenerationSeen
      model.lastBinding model.retiredTuple model.held) (reason : UInt64) :
    ∃ (grant : InputGrant) (gate : InputGate) (observed : UInt64),
      model.presenterRevoke reason =
        ({ model with
            grant := grant
            gate := gate
            retiredTuple := model.retiring
            pendingRenewal := none
            maxGenerationSeen := observed
            held := false }, []) ∧
      gate.active = none ∧
      ∀ surface', Paired grant gate model.epoch surface' observed model.lastBinding
        model.retiring false := by
  unfold Model.presenterRevoke
  by_cases granted : model.gate.active.isSome = true
  · obtain ⟨payload, grant, gate, generation, presented, produced, same, later, ended, kept⟩ :=
      paired.revoke room granted reason
    refine ⟨grant, gate, max model.maxGenerationSeen generation.value, ?_, ended, kept⟩
    have fresh : ¬ (generation.value ≤ model.maxGenerationSeen ∧ generation.value ≠ 0) := by
      rw [UInt64.le_iff_toNat_le]
      unfold Counter.toNat at later
      omega
    rw [presented]
    simp only [unbroken, Option.isSome_some, Bool.not_false, Bool.and_self, if_true, produced,
      Model.observeGeneration, if_neg fresh, if_neg (not_not.mpr same), Bool.false_eq_true,
      if_false, List.append_nil]
  · have idle := Option.not_isSome_iff_eq_none.mp granted
    obtain ⟨presented, kept⟩ := paired.revoke_idle idle reason
    refine ⟨model.grant, model.gate, model.maxGenerationSeen, ?_, idle, kept⟩
    rw [presented]
    simp only [unbroken, Option.isSome_none, Bool.false_and, Bool.false_eq_true, if_false]

end VividProtocol.Composed

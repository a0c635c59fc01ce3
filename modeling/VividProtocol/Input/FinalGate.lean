import Mathlib.Tactic
import VividProtocol.Input.Gate

/-!
# The final injection gate

An accepted event carries the tuple of the last binding that took effect, in
time and within its classes.  `GateLedger` ties the active grant to the history
that granted it.
-/

set_option autoImplicit false

namespace VividProtocol.Input

open VividProtocol.Library.Transition

/-! ## Reading the history -/

/-- A binding took effect or a revocation succeeded. -/
def Rebinds (event : GateEvent) : Prop :=
  (∃ outcome, event.output = .bound (.ok outcome) ∧ outcome ≠ .exactRetry) ∨
    ∃ generation, event.output = .revoked (.ok generation)

/-- The watchdog was started by an enable, or restarted by an accepted renewal. -/
def WatchdogStarted (start : Monotonic) (watchdogUs : UInt64) (event : GateEvent) : Prop :=
  (∃ binding classes tuple, event.input = .applyBinding binding classes watchdogUs start ∧
    event.output = .bound (.ok (.enabled tuple))) ∨
  ∃ tuple sequence, event.input = .renew tuple sequence watchdogUs start ∧
    event.output = .renewed (.ok ())

def StartsWatchdog (event : GateEvent) : Prop :=
  ∃ start watchdogUs, WatchdogStarted start watchdogUs event

def GateOutcome.issued? : GateOutcome → Option GrantGeneration
  | .bound (.ok (.enabled tuple)) => some tuple.grantGeneration
  | .bound (.ok (.denied tuple)) => some tuple.grantGeneration
  | .revoked (.ok generation) => some generation
  | _ => none

/-- The answers that write the gate. -/
def GateOutcome.changed : GateOutcome → Bool
  | .bound (.ok .exactRetry) => false
  | .bound (.ok _) => true
  | .renewed (.ok _) => true
  | .revoked (.ok _) => true
  | _ => false

/-- The grant that was active before the event is not active after it. -/
def EndsGrant (event : GateEvent) : Prop :=
  ∃ grant, event.before.active = some grant ∧
    ∀ next, event.after.active = some next → next.binding ≠ grant.binding

/-- What an accepted event owes to the history before it. -/
def Authorized (history : List GateEvent) (gate : InputGate) (injected : InputEvent)
    (currentSurfaceGeneration : SurfaceGeneration) (now : Monotonic) : Prop :=
  (∃ enable since binding classes watchdogUs enabledAt active,
    Latest Rebinds history enable since ∧
    enable.input = .applyBinding binding classes watchdogUs enabledAt ∧
    enable.output = .bound (.ok (.enabled injected.binding)) ∧
    gate.active = some active ∧
    active.effectiveClasses &&& injected.class ≠ 0 ∧
    active.effectiveClasses &&& binding.requestedClasses = active.effectiveClasses) ∧
  currentSurfaceGeneration = injected.binding.surfaceGeneration ∧
  ∃ last since start watchdogUs,
    Latest StartsWatchdog history last since ∧ WatchdogStarted start watchdogUs last ∧
    now.toNat < start.toNat + watchdogUs.toNat

/-- The law of one answer, given every answer before it. -/
structure GateLaw (past : List GateEvent) (event : GateEvent) : Prop where
  increasing : ∀ generation, event.output.issued? = some generation →
    ∀ earlier ∈ past, ∀ other, earlier.output.issued? = some other → other < generation
  unrepeated : ∀ tuple, event.output = .bound (.ok (.enabled tuple)) →
    ∀ earlier ∈ past, earlier.output ≠ .bound (.ok (.enabled tuple))
  released : EndsGrant event →
    event.after.releaseGeneration.toNat = event.before.releaseGeneration.toNat + 1
  unreleased : ¬ EndsGrant event →
    event.after.releaseGeneration = event.before.releaseGeneration

/-! ## The ledger -/

structure GateLedger (past : List GateEvent) (gate : InputGate) : Prop where
  granted : ∀ active, gate.active = some active →
    ∃ enable since binding classes watchdogUs enabledAt,
      Latest Rebinds past enable since ∧
      enable.input = .applyBinding binding classes watchdogUs enabledAt ∧
      enable.output = .bound (.ok (.enabled active.binding)) ∧
      active.effectiveClasses = classes &&& binding.requestedClasses
  watchdog : ∀ active, gate.active = some active →
    ∃ last since start watchdogUs,
      Latest StartsWatchdog past last since ∧ WatchdogStarted start watchdogUs last ∧
      active.watchdogDeadline.toNat = start.toNat + watchdogUs.toNat
  issued : ∀ event ∈ past, ∀ generation, event.output.issued? = some generation →
    generation.toNat ≤ gate.grantGeneration.toNat
  current : ∀ active, gate.active = some active →
    active.binding.grantGeneration = gate.grantGeneration

variable {past : List GateEvent} {event : GateEvent}

theorem gateLedger_default : GateLedger [] .default where
  granted := by
    intro active held
    cases held
  watchdog := by
    intro active held
    cases held
  issued := by
    intro event inside
    cases inside
  current := by
    intro active held
    cases held

theorem not_rebinds_of_unchanged (idle : event.output.changed = false) : ¬ Rebinds event := by
  rintro (⟨outcome, answer, effective⟩ | ⟨generation, answer⟩)
  · rw [answer] at idle
    cases outcome with
    | exactRetry => exact effective rfl
    | disabled => cases idle
    | enabled tuple => cases idle
    | denied tuple => cases idle
  · rw [answer] at idle
    cases idle

theorem not_startsWatchdog_of_unchanged (idle : event.output.changed = false) :
    ¬ StartsWatchdog event := by
  rintro ⟨start, watchdogUs, ⟨binding, classes, tuple, -, answer⟩ | ⟨tuple, sequence, -, answer⟩⟩
  · rw [answer] at idle
    cases idle
  · rw [answer] at idle
    cases idle

theorem issued_of_unchanged {outcome : GateOutcome} (idle : outcome.changed = false) :
    outcome.issued? = none := by
  unfold GateOutcome.issued?
  split
  · cases idle
  · cases idle
  · cases idle
  · rfl

/-- An answer that writes nothing keeps the ledger. -/
theorem GateLedger.idle (ledger : GateLedger past event.before)
    (same : event.after = event.before) (idle : event.output.changed = false) :
    GateLedger (past ++ [event]) event.after := by
  rw [same]
  exact
    { granted := by
        intro active held
        obtain ⟨enable, since, binding, classes, watchdogUs, enabledAt, latest, rest⟩ :=
          ledger.granted active held
        exact ⟨enable, since ++ [event], binding, classes, watchdogUs, enabledAt,
          latest.snoc (not_rebinds_of_unchanged idle), rest⟩
      watchdog := by
        intro active held
        obtain ⟨last, since, start, watchdogUs, latest, rest⟩ := ledger.watchdog active held
        exact ⟨last, since ++ [event], start, watchdogUs,
          latest.snoc (not_startsWatchdog_of_unchanged idle), rest⟩
      issued := by
        apply forall_snoc ledger.issued
        intro generation isIssued
        rw [issued_of_unchanged idle] at isIssued
        cases isIssued
      current := ledger.current }

/-- The generation a rebinding issues is the next one. -/
theorem Rebinding.issued_le {binding : InputBinding} {generation : GrantGeneration}
    {classes watchdogUs : UInt64} {now : Monotonic} {outcome : BindingOutcome}
    {active : Option ActiveGrant}
    (decided : Rebinding binding (InputGate.tuple binding generation) classes watchdogUs now
      outcome active) {issued : GrantGeneration}
    (isIssued : (GateOutcome.bound (.ok outcome)).issued? = some issued) :
    issued = generation := by
  cases decided with
  | disabled asked => cases isIssued
  | denied asked empty => exact (Option.some.inj isIssued).symm
  | enabled asked granted range timed => exact (Option.some.inj isIssued).symm

theorem GateLedger.snoc (ledger : GateLedger past event.before)
    (effect : GateEffect event.before event.input event.output event.after) :
    GateLedger (past ++ [event]) event.after := by
  obtain ⟨before, operation, outcome, after⟩ := event
  dsimp only at ledger effect
  cases effect with
  | bindingRefused error => exact ledger.idle rfl rfl
  | retried valid same => exact ledger.idle rfl rfl
  | renewalRefused error => exact ledger.idle rfl rfl
  | revocationRefused error => exact ledger.idle rfl rfl
  | rebound valid newer next released decided =>
      have issued : ∀ event ∈ past, ∀ generation, event.output.issued? = some generation →
          generation.toNat ≤ before.grantGeneration.toNat + 1 := by
        intro event inside generation isIssued
        have bound := ledger.issued event inside generation isIssued
        omega
      rw [← next] at issued
      refine ⟨?_, ?_, ?_, ?_⟩
      · intro active held
        dsimp only at held
        subst held
        cases decided with
        | enabled asked granted range timed =>
            refine ⟨_, [], _, _, _, _, latest_snoc_self past ?_, rfl, rfl, rfl⟩
            exact Or.inl ⟨_, rfl, by simp⟩
      · intro active held
        dsimp only at held
        subst held
        cases decided with
        | enabled asked granted range timed =>
            refine ⟨_, [], _, _, latest_snoc_self past ?_, Or.inl ⟨_, _, _, rfl, rfl⟩, timed⟩
            exact ⟨_, _, Or.inl ⟨_, _, _, rfl, rfl⟩⟩
      · apply forall_snoc issued
        intro generation isIssued
        rw [decided.issued_le isIssued]
      · intro active held
        dsimp only at held
        subst held
        cases decided with
        | enabled asked granted range timed => rfl
  | @renewed binding active sequence watchdogUs receivedAt deadline held same later early timed =>
      refine ⟨?_, ?_, ?_, ?_⟩
      · intro active isActive
        cases isActive
        obtain ⟨enable, since, binding, classes, watchdogUs, enabledAt, latest, rest⟩ :=
          ledger.granted _ held
        refine ⟨enable, _, binding, classes, watchdogUs, enabledAt, latest.snoc ?_, rest⟩
        simp [Rebinds]
      · intro active isActive
        cases isActive
        refine ⟨_, [], _, _, latest_snoc_self past ?_, Or.inr ⟨_, _, rfl, rfl⟩, timed⟩
        exact ⟨_, _, Or.inr ⟨_, _, rfl, rfl⟩⟩
      · apply forall_snoc ledger.issued
        intro generation isIssued
        cases isIssued
      · intro active isActive
        cases isActive
        exact ledger.current active held
  | revoked next released =>
      refine ⟨?_, ?_, ?_, ?_⟩
      · intro active held
        cases held
      · intro active held
        cases held
      · apply forall_snoc
        · intro event inside generation isIssued
          have bound := ledger.issued event inside generation isIssued
          dsimp only
          omega
        · intro generation isIssued
          rw [Option.some.inj isIssued]
      · intro active held
        cases held

theorem gateLedger_reachable (operations : List GateOperation) :
    GateLedger (gateRuns.history .default operations)
      (gateRuns.final .default operations) := by
  apply gateRuns.history_induction
  · exact gateLedger_default
  · intro past gate operation ledger
    exact @GateLedger.snoc past (gateRuns.event gate operation) ledger
      (gateStep_effect gate operation)

/-! ## The law -/

theorem GateLaw.idle (same : event.after = event.before)
    (idle : event.output.changed = false) : GateLaw past event where
  increasing := by
    intro generation isIssued
    rw [issued_of_unchanged idle] at isIssued
    cases isIssued
  unrepeated := by
    intro tuple answer
    rw [answer] at idle
    cases idle
  released := by
    rintro ⟨grant, held, gone⟩
    rw [same] at gone
    exact absurd rfl (gone grant held)
  unreleased := by
    intro _
    rw [same]

/-- A grant ends whenever the next one is under a new generation, or there is none. -/
theorem GateLedger.release_counts (ledger : GateLedger past event.before)
    (fresh : ∀ next, event.after.active = some next →
      next.binding.grantGeneration.toNat = event.before.grantGeneration.toNat + 1)
    (released : event.before.Released event.after.releaseGeneration) :
    (EndsGrant event →
      event.after.releaseGeneration.toNat = event.before.releaseGeneration.toNat + 1) ∧
    (¬ EndsGrant event →
      event.after.releaseGeneration = event.before.releaseGeneration) := by
  unfold InputGate.Released at released
  cases held : event.before.active with
  | none =>
      rw [held, Option.isSome_none, if_neg (by simp)] at released
      constructor
      · rintro ⟨grant, isGrant, -⟩
        rw [held] at isGrant
        cases isGrant
      · intro _
        exact UInt64.toNat_inj.mp released
  | some grant =>
      rw [held, Option.isSome_some, if_pos rfl] at released
      constructor
      · intro _
        exact released
      · intro kept
        apply absurd _ kept
        refine ⟨grant, held, ?_⟩
        intro next isNext same
        have moved := fresh next isNext
        rw [same, ledger.current grant held] at moved
        omega

theorem GateLedger.law (ledger : GateLedger past event.before)
    (effect : GateEffect event.before event.input event.output event.after) :
    GateLaw past event := by
  have counts := ledger.release_counts
  obtain ⟨before, operation, outcome, after⟩ := event
  dsimp only at ledger effect counts
  cases effect with
  | bindingRefused error => exact GateLaw.idle rfl rfl
  | retried valid same => exact GateLaw.idle rfl rfl
  | renewalRefused error => exact GateLaw.idle rfl rfl
  | revocationRefused error => exact GateLaw.idle rfl rfl
  | @rebound binding classes watchdogUs now generation release outcome grant valid newer next
      released decided =>
      have above : ∀ issued earlier, earlier ∈ past →
          GateOutcome.issued? earlier.output = some issued →
          issued.toNat ≤ before.grantGeneration.toNat := by
        intro issued earlier inside isIssued
        exact ledger.issued earlier inside issued isIssued
      have fresh : ∀ active, grant = some active →
          active.binding.grantGeneration.toNat = before.grantGeneration.toNat + 1 := by
        intro active isActive
        cases decided with
        | disabled asked => cases isActive
        | denied asked empty => cases isActive
        | enabled asked granted range timed =>
            cases isActive
            exact next
      obtain ⟨ends, keeps⟩ := counts fresh released
      refine ⟨?_, ?_, ends, keeps⟩
      · intro generation isIssued earlier inside other isOther
        rw [decided.issued_le isIssued, Counter.lt_iff_toNat]
        have bound := above other earlier inside isOther
        omega
      · intro tuple answer earlier inside repeated
        cases answer
        have bound := above tuple.grantGeneration earlier inside (by rw [repeated]; rfl)
        rw [decided.issued_le rfl] at bound
        omega
  | renewed held same later early timed =>
      refine ⟨?_, ?_, ?_, ?_⟩
      · intro generation isIssued
        cases isIssued
      · intro tuple answer
        cases answer
      · rintro ⟨grant, isGrant, gone⟩
        dsimp only at isGrant gone
        rw [held] at isGrant
        cases isGrant
        have other := gone _ rfl
        exact absurd rfl other
      · intro _
        rfl
  | revoked next released =>
      obtain ⟨ends, keeps⟩ := counts (by intro active isActive; cases isActive) released
      refine ⟨?_, ?_, ends, keeps⟩
      · intro generation isIssued earlier inside other isOther
        have bound := ledger.issued earlier inside other isOther
        cases isIssued
        rw [Counter.lt_iff_toNat]
        omega
      · intro tuple answer
        cases answer

theorem rebinds_advances
    (effect : GateEffect event.before event.input event.output event.after)
    (rebinds : Rebinds event) :
    event.after.grantGeneration.toNat = event.before.grantGeneration.toNat + 1 := by
  by_cases idle : event.output.changed = false
  · exact absurd rebinds (not_rebinds_of_unchanged idle)
  obtain ⟨before, operation, outcome, after⟩ := event
  dsimp only at effect idle
  cases effect with
  | bindingRefused error => exact absurd rfl idle
  | retried valid same => exact absurd rfl idle
  | renewalRefused error => exact absurd rfl idle
  | revocationRefused error => exact absurd rfl idle
  | rebound valid newer next released decided => exact next
  | renewed held same later early timed => simp [Rebinds] at rebinds
  | revoked next released => exact next

theorem generation_le_step (gate : InputGate) (operation : GateOperation) :
    gate.grantGeneration.toNat ≤ (gateStep gate operation).2.grantGeneration.toNat := by
  have effect := gateStep_effect gate operation
  generalize (gateStep gate operation).2 = after at effect
  generalize (gateStep gate operation).1 = outcome at effect
  cases effect with
  | bindingRefused error => exact le_refl _
  | retried valid same => exact le_refl _
  | renewalRefused error => exact le_refl _
  | revocationRefused error => exact le_refl _
  | rebound valid newer next released decided =>
      dsimp only
      omega
  | renewed held same later early timed => exact le_refl _
  | revoked next released =>
      dsimp only
      omega

theorem generation_le_final (gate : InputGate) (operations : List GateOperation) :
    gate.grantGeneration.toNat ≤ (gateRuns.final gate operations).grantGeneration.toNat := by
  induction operations generalizing gate with
  | nil => exact le_refl _
  | cons operation operations ih =>
      exact le_trans (generation_le_step gate operation) (ih (gateStep gate operation).2)

/-- An accepted event has an active grant, on its tuple, in time and of its class. -/
theorem authorize_eq_ok {gate : InputGate} {injected : InputEvent}
    {currentSurfaceGeneration : SurfaceGeneration} {now : Monotonic} :
    gate.authorize injected currentSurfaceGeneration now = .ok () ↔
      ∃ active, gate.active = some active ∧ injected.binding = active.binding ∧
        injected.binding.surfaceGeneration = currentSurfaceGeneration ∧
        now < active.watchdogDeadline ∧ active.effectiveClasses &&& injected.class ≠ 0 := by
  unfold InputGate.authorize
  cases held : gate.active with
  | none => simp
  | some active =>
      have late : active.watchdogDeadline ≤ now ↔ ¬ now < active.watchdogDeadline := by
        rw [Monotonic.le_iff_toNat, Monotonic.lt_iff_toNat]
        omega
      dsimp only
      split_ifs with stale moved expired outside
      · simp [stale]
      · simp [moved]
      · simp [late.mp expired]
      · simp [outside]
      · simp only [not_not] at stale moved
        rw [late, not_not] at expired
        simp only [true_iff]
        exact ⟨active, rfl, stale, moved, expired, outside⟩

theorem GateLedger.authorized {gate : InputGate} (ledger : GateLedger past gate)
    {injected : InputEvent} {currentSurfaceGeneration : SurfaceGeneration} {now : Monotonic}
    (accepted : gate.authorize injected currentSurfaceGeneration now = .ok ()) :
    Authorized past gate injected currentSurfaceGeneration now := by
  obtain ⟨active, held, sameTuple, sameSurface, early, granted⟩ :=
    authorize_eq_ok.mp accepted
  obtain ⟨enable, since, binding, classes, watchdogUs, enabledAt, latest, asked, answer,
    effective⟩ := ledger.granted active held
  obtain ⟨last, rest, start, timeoutUs, started, isStart, deadline⟩ :=
    ledger.watchdog active held
  rw [← sameTuple] at answer
  refine ⟨⟨enable, since, binding, classes, watchdogUs, enabledAt, active, latest, asked,
    answer, held, granted, ?_⟩, sameSurface.symm, last, rest, start, timeoutUs, started,
    isStart, ?_⟩
  · rw [effective, UInt64.and_assoc, UInt64.and_self]
  · rw [← deadline]
    exact Monotonic.lt_iff_toNat.mp early

/-- A tuple granted before a rebinding is below the gate's generation ever after. -/
theorem granted_before_rebinding {operations : List GateOperation} {cut enable : GateEvent}
    {future : List GateEvent}
    (split : gateRuns.history .default operations = past ++ cut :: future)
    (rebinds : Rebinds cut) (inside : enable ∈ past) {tuple : InputTuple}
    (granted : enable.output = .bound (.ok (.enabled tuple))) :
    tuple.grantGeneration.toNat <
      (gateRuns.final .default operations).grantGeneration.toNat := by
  obtain ⟨first, operation, second, rfl, rfl, rfl, -⟩ := gateRuns.history_event split
  have issued := (gateLedger_reachable first).issued enable inside tuple.grantGeneration
    (by rw [granted]; rfl)
  have advanced := rebinds_advances
    (gateStep_effect (gateRuns.final .default first) operation) rebinds
  have kept := generation_le_final
    (gateRuns.step (gateRuns.final .default first) operation).2 second
  rw [gateRuns.final_append]
  calc tuple.grantGeneration.toNat
      ≤ (gateRuns.final .default first).grantGeneration.toNat := issued
    _ < (gateRuns.step (gateRuns.final .default first) operation).2.grantGeneration.toNat := by
        have same : (gateRuns.event (gateRuns.final .default first) operation).after =
            (gateRuns.step (gateRuns.final .default first) operation).2 := rfl
        rw [← same, advanced]
        exact Nat.lt_succ_self _
    _ ≤ _ := kept

/-- In every run of the gate: the grant and release generations obey their law,
an accepted event is authorized by the last rebinding, and nothing tagged before
a rebinding or a revocation is accepted after it. -/
theorem input_gate_final_injection (operations : List GateOperation) :
    let history := gateRuns.history .default operations
    let gate := gateRuns.final .default operations
    Always GateLaw history ∧
      (∀ injected currentSurfaceGeneration now,
        gate.authorize injected currentSurfaceGeneration now = .ok () →
          Authorized history gate injected currentSurfaceGeneration now) ∧
      (∀ (R : Type) (operation : InputEvent → R) injected currentSurfaceGeneration now result,
        gate.dispatch injected currentSurfaceGeneration now operation = .ok result →
          Authorized history gate injected currentSurfaceGeneration now ∧
            result = operation injected) ∧
      ∀ past cut future, history = past ++ cut :: future → Rebinds cut →
        ∀ enable ∈ past, ∀ injected,
          enable.output = .bound (.ok (.enabled (InputEvent.binding injected))) →
          ∀ currentSurfaceGeneration now,
            gate.authorize injected currentSurfaceGeneration now ≠ .ok () := by
  intro history gate
  have ledger : GateLedger history gate := gateLedger_reachable operations
  refine ⟨?_, ?_, ?_, ?_⟩
  · refine gateRuns.always_history ?_ operations
    intro earlier operation
    exact @GateLedger.law _ (gateRuns.event _ operation) (gateLedger_reachable earlier)
      (gateStep_effect _ operation)
  · intro injected currentSurfaceGeneration now accepted
    exact ledger.authorized accepted
  · intro R operation injected currentSurfaceGeneration now result run
    unfold InputGate.dispatch at run
    cases accepted : gate.authorize injected currentSurfaceGeneration now with
    | error rejection =>
        rw [accepted] at run
        cases run
    | ok done =>
        rw [accepted] at run
        exact ⟨ledger.authorized accepted, (Except.ok.inj run).symm⟩
  · intro past cut future split rebinds enable inside injected granted
      currentSurfaceGeneration now accepted
    obtain ⟨active, held, sameTuple, -⟩ := authorize_eq_ok.mp accepted
    have below : _ < gate.grantGeneration.toNat :=
      granted_before_rebinding split rebinds inside granted
    rw [sameTuple, ledger.current active held] at below
    exact lt_irrefl _ below

end VividProtocol.Input

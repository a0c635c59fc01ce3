import Mathlib.Tactic
import VividProtocol.Composed.Frame

/-!
# The injected regression is caught

With `broken_revocation` the producer's gate does not hear of a revocation.
A run reports something exactly when a revocation fires against a grant, and
then it reports that the two sides disagree on the grant.
-/

set_option autoImplicit false

namespace VividProtocol.Composed

open VividProtocol.Grant
open VividProtocol.Input
open VividProtocol.Lease
open VividProtocol.Library.Transition
open Fired

/-- A revocation that fires while the presenter holds a grant. -/
structure RevokesGrant (sha256 : Sha256) (buckets : Buckets)
    (event : Event Model Attempted (List Violation)) : Prop where
  revokes : event.input.kind.revokes = true
  fires : (event.before.fire sha256 buckets event.input.seen event.input.kind).next.isSome = true
  granted : event.before.grant.active.isSome = true

/-- The presenter let go of its grant and the gate is as it was. -/
structure Unheard (gate : InputGate) (next : Model) : Prop where
  gate : next.gate = gate
  released : next.grant.active = none

variable {sha256 : Sha256} {buckets : Buckets} {elapsed : Nat} {model : Model}
  {seen : Finset Case}

theorem unheard_presenterRevoke {surface : UInt64} (model : Model) (injected : model.brokenRevocation = true)
    (room : 2 * model.epoch.toNat < 2 ^ 64)
    (paired : Paired model.grant model.gate model.epoch surface model.maxGenerationSeen
      model.lastBinding model.retiredTuple model.held)
    (granted : model.gate.active.isSome = true) (reason : UInt64) :
    Unheard model.gate (model.presenterRevoke reason).1 := by
  obtain ⟨payload, grant, gate, generation, presented, -, -, -, ended, kept⟩ :=
    paired.revoke room granted reason
  have released : grant.active = none := by
    have present := level_present (kept surface).level
    rw [ended] at present
    unfold InputGrant.active
    simpa using present
  have revoked : (model.presenterRevoke reason).1 =
      { model with
        retiredTuple := model.retiring
        pendingRenewal := none
        grant := grant } := by
    unfold Model.presenterRevoke
    rw [presented]
    simp only [injected, Option.isSome_some, Bool.not_true, Bool.and_false, Bool.false_eq_true,
      if_false, if_true]
  rw [revoked]
  exact ⟨rfl, released⟩

/-- Nothing fires, or the revocation went unheard. -/
theorem unheard_unless {gate : InputGate} {refused : Prop} [Decidable refused] {fired : Fired}
    (enabled : ∀ next, fired.next = some next → Unheard gate next) :
    ∀ next, (if refused then disabled else fired).next = some next → Unheard gate next := by
  intro next leads
  by_cases applies : refused
  · rw [if_pos applies] at leads
    cases leads
  · rw [if_neg applies] at leads
    exact enabled next leads

theorem unheard_attempt (sound : Sound sha256 buckets elapsed model) (fit : buckets.Fit)
    (granted : model.gate.active.isSome = true) (kind : T) (revokes : kind.revokes = true)
    (next : Model)
    (leads : ((model.regressed true).attempt sha256 buckets seen kind).next = some next) :
    Unheard model.gate next := by
  have room : 2 * model.epoch.toNat < 2 ^ 64 := by
    have epochs := sound.epochs
    have bound := fit.epochs
    omega
  have revoked (reason : UInt64) :
      Unheard model.gate ((model.regressed true).presenterRevoke reason).1 :=
    unheard_presenterRevoke (model.regressed true) rfl room sound.paired granted reason
  revert next leads
  cases kind with
  | controlLostClean =>
      refine unheard_unless ?_
      rintro next ⟨⟩
      exact ⟨(revoked _).gate, (revoked _).released⟩
  | controlLostUnclean =>
      refine unheard_unless ?_
      intro next leads
      dsimp only at leads
      split at leads
      · cases leads
        exact ⟨(revoked _).gate, (revoked _).released⟩
      · split at leads
        · cases leads
          exact ⟨(revoked _).gate, (revoked _).released⟩
        · cases leads
          exact ⟨(revoked _).gate, (revoked _).released⟩
  | leaseRevoke =>
      refine unheard_unless ?_
      rintro next ⟨⟩
      exact ⟨(revoked _).gate, (revoked _).released⟩
  | parentRevoke =>
      refine unheard_unless ?_
      rintro next ⟨⟩
      exact ⟨(revoked _).gate, (revoked _).released⟩
  | laneOpen =>
      have replaces : (model.regressed true).lane.isSome = true := by
        obtain ⟨lane, isLane, -⟩ := laneLive_eq_true (sound.granted granted)
        exact Option.isSome_of_eq_some isLane
      refine unheard_unless (unheard_unless ?_)
      rw [if_pos replaces]
      rintro next ⟨⟩
      exact ⟨(revoked _).gate, (revoked _).released⟩
  | laneLoss =>
      refine unheard_unless ?_
      rintro next ⟨⟩
      exact unheard_presenterRevoke
        { model.regressed true with
          lane := model.lane.map fun lane => { lane with live := false } }
        rfl room sound.paired granted _
  | watchdogFire =>
      refine unheard_unless ?_
      rintro next ⟨⟩
      exact ⟨(revoked _).gate, (revoked _).released⟩
  | focusLoss =>
      have shown : (model.regressed true).gate.active.isSome = true := granted
      refine unheard_unless ?_
      dsimp only
      rw [if_pos shown]
      rintro next ⟨⟩
      exact unheard_presenterRevoke { model.regressed true with focused := false }
        rfl room sound.paired granted _
  | surfaceGenerationChange =>
      refine unheard_unless ?_
      rintro next ⟨⟩
      exact unheard_presenterRevoke
        { model.regressed true with surfaceGeneration := model.surfaceGeneration + 1 }
        rfl room sound.paired granted _
  | _ => cases revokes

/-! ## Runs with the regression -/

/-- Where the regression makes a difference the presenter holds a grant. -/
theorem Sound.agrees (sound : Sound sha256 buckets elapsed model)
    (idle : ¬ model.grant.active.isSome = true) : model.Agrees true := by
  have absent : model.grant.gate.active = none := by
    unfold InputGrant.active at idle
    simpa using idle
  refine Or.inr ⟨absent, ?_⟩
  cases held : model.held with
  | false => rfl
  | true =>
      have granted := sound.paired.pressed held
      rw [← level_present sound.paired.level, absent] at granted
      cases granted

theorem refused_of_none {refused : Prop} [Decidable refused] {fired : Fired}
    (fires : fired.next ≠ none) (ends : (if refused then disabled else fired).next = none) :
    refused := by
  by_contra enabled
  rw [if_neg enabled] at ends
  exact fires ends

/-- A revocation that does not fire is disabled, with and without the regression. -/
theorem disabled_attempt (kind : T) (revokes : kind.revokes = true)
    (ends : ((model.regressed true).attempt sha256 buckets seen kind).next = none) :
    (model.regressed true).attempt sha256 buckets seen kind = disabled ∧
      model.attempt sha256 buckets seen kind = disabled := by
  cases kind with
  | controlLostClean =>
      have refused := refused_of_none (Option.some_ne_none _) ends
      exact ⟨if_pos refused, if_pos refused⟩
  | controlLostUnclean =>
      have refused := refused_of_none (by
        dsimp only
        split
        · exact Option.some_ne_none _
        · split <;> exact Option.some_ne_none _) ends
      exact ⟨if_pos refused, if_pos refused⟩
  | leaseRevoke =>
      have refused := refused_of_none (Option.some_ne_none _) ends
      exact ⟨if_pos refused, if_pos refused⟩
  | parentRevoke =>
      have refused := refused_of_none (Option.some_ne_none _) ends
      exact ⟨if_pos refused, if_pos refused⟩
  | laneOpen =>
      by_cases inactive : model.lease.state ≠ .active
      · exact ⟨if_pos inactive, if_pos inactive⟩
      · have inner := (congrArg Fired.next (if_neg inactive)).symm.trans ends
        have refused := refused_of_none (Option.some_ne_none _) inner
        exact ⟨(if_neg inactive).trans (if_pos refused), (if_neg inactive).trans (if_pos refused)⟩
  | laneLoss =>
      have refused := refused_of_none (Option.some_ne_none _) ends
      exact ⟨if_pos refused, if_pos refused⟩
  | watchdogFire =>
      have refused := refused_of_none (Option.some_ne_none _) ends
      exact ⟨if_pos refused, if_pos refused⟩
  | focusLoss =>
      have refused := refused_of_none (by
        dsimp only
        split <;> exact Option.some_ne_none _) ends
      exact ⟨if_pos refused, if_pos refused⟩
  | surfaceGenerationChange =>
      have refused := refused_of_none (Option.some_ne_none _) ends
      exact ⟨if_pos refused, if_pos refused⟩
  | _ => cases revokes

theorem own_of_revokes {kind : T} (revokes : kind.revokes = true) : kind.isOther = false := by
  cases kind <;> first | rfl | cases revokes

theorem disabled_fire (kind : T) (revokes : kind.revokes = true)
    (ends : ((model.regressed true).fire sha256 buckets seen kind).next = none) :
    (model.regressed true).fire sha256 buckets seen kind = disabled ∧
      model.fire sha256 buckets seen kind = disabled := by
  have guarded : (model.regressed true).mayFire buckets seen kind =
      model.mayFire buckets seen kind := mayFire_framed kind (own_of_revokes revokes)
  unfold Model.fire at ends ⊢
  rw [guarded] at ends ⊢
  by_cases refused : (! model.mayFire buckets seen kind) = true
  · exact ⟨if_pos refused, if_pos refused⟩
  · rw [if_neg refused] at ends
    rw [if_neg refused, if_neg refused]
    exact disabled_attempt kind revokes ends

/-- One step with the regression that revokes no grant is the step without it. -/
theorem Sound.undetected (sound : Sound sha256 buckets elapsed model) (tried : Attempted)
    (harmless : ¬ RevokesGrant sha256 buckets
      ((modelRuns sha256 buckets).event (model.regressed true) tried)) :
    modelStep sha256 buckets (model.regressed true) tried =
      ((modelStep sha256 buckets model tried).1,
        (modelStep sha256 buckets model tried).2.regressed true) := by
  by_cases agrees : tried.kind.revokes = true → model.Agrees true
  · exact modelStep_regressed tried agrees
  · obtain ⟨revokes, disagrees⟩ := Classical.not_imp.mp agrees
    have granted : model.grant.active.isSome = true := by
      by_contra idle
      exact disagrees (sound.agrees idle)
    have ends : ((model.regressed true).fire sha256 buckets tried.seen tried.kind).next =
        none := by
      by_contra fires
      exact harmless ⟨revokes, Option.isSome_iff_ne_none.mpr fires, granted⟩
    obtain ⟨broken, plain⟩ := disabled_fire tried.kind revokes ends
    unfold modelStep
    rw [broken, plain]
    rfl

/-- A revocation of a grant that goes unheard is reported at once. -/
theorem Sound.detected (sound : Sound sha256 buckets elapsed model) (fit : buckets.Fit)
    (tried : Attempted)
    (harmful : RevokesGrant sha256 buckets
      ((modelRuns sha256 buckets).event (model.regressed true) tried)) :
    .i12PresenceDiverged ∈ (modelStep sha256 buckets (model.regressed true) tried).1 := by
  have presented : model.grant.active.isSome = true := harmful.granted
  have granted : model.gate.active.isSome = true := by
    rw [← level_present sound.paired.level]
    exact presented
  obtain ⟨next, leads⟩ := Option.isSome_iff_exists.mp harmful.fires
  have unheard : Unheard model.gate next := by
    have fired : ((model.regressed true).fire sha256 buckets tried.seen tried.kind).next =
        some next := leads
    unfold Model.fire at fired
    exact unheard_unless (fun next leads =>
      unheard_attempt sound fit granted tried.kind harmful.revokes next leads) next fired
  have diverged : .i12PresenceDiverged ∈ next.checkInvariants.1 := by
    have held : next.gate.active.isSome = true := by
      rw [unheard.gate]
      exact granted
    unfold Model.checkInvariants
    simp [complain, unheard.released, held]
  have reported : (modelStep sha256 buckets (model.regressed true) tried).1 =
      ((model.regressed true).fire sha256 buckets tried.seen tried.kind).violations ++
        next.checkInvariants.1 := by
    unfold modelStep
    dsimp only
    rw [show ((model.regressed true).fire sha256 buckets tried.seen tried.kind).next =
      some next from leads]
  rw [reported]
  exact List.mem_append_right _ diverged

/-- Until a revocation fires against a grant, a run with the regression is the
run without it. -/
theorem undetected_run (fit : buckets.Fit) (tried : List Attempted)
    (early : elapsedBy tried + MAX_WATCHDOG_US.toNat < 2 ^ 64)
    (harmless : ∀ event ∈ (modelRuns sha256 buckets).history (.new true) tried,
      ¬ RevokesGrant sha256 buckets event) :
    (modelRuns sha256 buckets).final (.new true) tried =
        ((modelRuns sha256 buckets).final (.new false) tried).regressed true ∧
      ∀ event ∈ (modelRuns sha256 buckets).history (.new true) tried, event.output = [] := by
  induction tried using List.reverseRecOn with
  | nil =>
      refine ⟨rfl, ?_⟩
      intro event impossible
      cases impossible
  | append_singleton tried last ih =>
      rw [elapsedBy_snoc] at early
      rw [Machine.history_snoc] at harmless ⊢
      obtain ⟨same, silent⟩ := ih (by omega) fun event inside =>
        harmless event (List.mem_append_left _ inside)
      have sound := @sound_reachable sha256 buckets fit tried (by omega)
      rw [same] at harmless ⊢
      have stepped := sound.undetected last (harmless _ (List.mem_append_right _ (.head _)))
      constructor
      · rw [Machine.final_snoc, Machine.final_snoc, same]
        exact congrArg Prod.snd stepped
      · intro event inside
        rcases List.mem_append.mp inside with before | here
        · exact silent event before
        · rw [List.mem_singleton.mp here]
          exact (congrArg Prod.fst stepped).trans (sound.step fit (by omega) last).1

theorem detected_run (fit : buckets.Fit) (tried : List Attempted)
    (early : elapsedBy tried + MAX_WATCHDOG_US.toNat < 2 ^ 64)
    (harmful : ∃ event ∈ (modelRuns sha256 buckets).history (.new true) tried,
      RevokesGrant sha256 buckets event) :
    ∃ event ∈ (modelRuns sha256 buckets).history (.new true) tried,
      .i12PresenceDiverged ∈ event.output := by
  induction tried using List.reverseRecOn with
  | nil =>
      obtain ⟨event, impossible, -⟩ := harmful
      cases impossible
  | append_singleton tried last ih =>
      rw [elapsedBy_snoc] at early
      rw [Machine.history_snoc] at harmful ⊢
      by_cases earlier : ∃ event ∈ (modelRuns sha256 buckets).history (.new true) tried,
          RevokesGrant sha256 buckets event
      · obtain ⟨event, inside, reported⟩ := ih (by omega) earlier
        exact ⟨event, List.mem_append_left _ inside, reported⟩
      · -- The last transition is the first to revoke a grant.
        have harmless : ∀ event ∈ (modelRuns sha256 buckets).history (.new true) tried,
            ¬ RevokesGrant sha256 buckets event := fun event inside revokes =>
          earlier ⟨event, inside, revokes⟩
        have same := (undetected_run fit tried (by omega) harmless).1
        have sound := @sound_reachable sha256 buckets fit tried (by omega)
        obtain ⟨event, inside, revokes⟩ := harmful
        rcases List.mem_append.mp inside with before | here
        · exact absurd revokes (harmless event before)
        · rw [List.mem_singleton.mp here, same] at revokes
          refine ⟨_, List.mem_append_right _ (.head _), ?_⟩
          rw [same]
          exact sound.detected fit last revokes

/-- The regression is caught: a run reports something exactly when one of its
revocations fires against a grant, and the two sides' disagreement is then among
the reports. -/
theorem regression_caught (sha256 : Sha256) (buckets : Buckets) (fit : buckets.Fit)
    (tried : List Attempted) (early : elapsedBy tried + MAX_WATCHDOG_US.toNat < 2 ^ 64) :
    ((∃ event ∈ (modelRuns sha256 buckets).history (.new true) tried, event.output ≠ []) ↔
        ∃ event ∈ (modelRuns sha256 buckets).history (.new true) tried,
          RevokesGrant sha256 buckets event) ∧
      ((∃ event ∈ (modelRuns sha256 buckets).history (.new true) tried,
          RevokesGrant sha256 buckets event) →
        ∃ event ∈ (modelRuns sha256 buckets).history (.new true) tried,
          .i12PresenceDiverged ∈ event.output) := by
  have caught := @detected_run sha256 buckets fit tried early
  refine ⟨⟨?_, ?_⟩, caught⟩
  · rintro ⟨event, inside, reported⟩
    by_contra harmless
    have silent := (undetected_run fit tried early fun event inside revokes =>
      harmless ⟨event, inside, revokes⟩).2
    exact reported (silent event inside)
  · intro harmful
    obtain ⟨event, inside, reported⟩ := caught harmful
    exact ⟨event, inside, List.ne_nil_of_mem reported⟩

theorem regression_caught_loss :
    ∃ event ∈ (modelRuns (fun _ => helloDigest) .explored).history (.new true)
        (pressing ++ [{ kind := .laneLoss, seen := ∅ }]),
      .i12PresenceDiverged ∈ event.output := by
  refine (regression_caught (fun _ => helloDigest) .explored ⟨by decide, by decide⟩
    (pressing ++ [{ kind := .laneLoss, seen := ∅ }]) (by decide)).2 ?_
  rw [Machine.history_snoc]
  exact ⟨_, List.mem_append_right _ (.head _), rfl, by decide +kernel, by decide +kernel⟩

end VividProtocol.Composed

import Mathlib.Tactic
import VividProtocol.Lease.Invariant

/-!
# Single use and exact replay

A lease credential is activated once and resumed once for each resume
generation, and a replayed answer is the answer of the last fresh decision.
The `Ledger` ties what the machine remembers to the history that wrote it.
-/

set_option autoImplicit false

namespace VividProtocol.Lease

open VividProtocol.Library.Transition

/-! ## Reading the history -/

def LeaseOutcome.session? : LeaseOutcome → Option UInt64
  | .decided (.ok (.fresh session _ _)) => some session
  | .decided (.ok (.exactReplay session _ _)) => some session
  | _ => none

def LeaseOutcome.IsFresh (outcome : LeaseOutcome) : Prop :=
  ∃ session nonce welcome, outcome = .decided (.ok (.fresh session nonce welcome))

def DecidedFresh (event : LeaseEvent) : Prop := event.output.IsFresh

def ActivatedFresh (event : LeaseEvent) : Prop :=
  (∃ request, event.input = .beginActivation request) ∧ event.output.IsFresh

def ResumedFresh (generation : ResumeGeneration) (event : LeaseEvent) : Prop :=
  (∃ request, event.input = .beginResume generation request) ∧ event.output.IsFresh

def AdmittedTraffic (event : LeaseEvent) : Prop :=
  event.input = .admitPostHello ∧ event.output.succeeded = true

def helloBytesPresented (history : List LeaseEvent) : Set (List UInt8) :=
  { bytes | ∃ event ∈ history, ∃ request,
    event.input.request? = some request ∧ request.helloBytes = bytes }

/-- A retry presents the attempt of the original request.  Equal hashes are
equal HELLO bytes where SHA-256 separates the bytes the run presented. -/
structure SameAttempt (sha256 : Sha256) (presented : Set (List UInt8))
    (original request : AttemptRequest) : Prop where
  attemptId : request.attemptId = original.attemptId
  clientNonce : request.clientNonce = original.clientNonce
  helloHash : sha256 request.helloBytes = sha256 original.helloBytes
  helloBytes : Set.InjOn sha256 presented → request.helloBytes = original.helloBytes

/-- An answer repeats the last fresh decision to the same attempt, and no
traffic was admitted in between. -/
def RepeatsLatest (sha256 : Sha256) (past : List LeaseEvent) (event : LeaseEvent)
    (session : UInt64) (nonce : Bytes 32) (welcome : List UInt8) : Prop :=
  ∃ fresh since original request,
    Latest DecidedFresh past fresh since ∧
    fresh.output = .decided (.ok (.fresh session nonce welcome)) ∧
    fresh.input.request? = some original ∧
    event.input.request? = some request ∧
    SameAttempt sha256 (helloBytesPresented (past ++ [event])) original request ∧
    ∀ between ∈ since, ¬ AdmittedTraffic between

/-- The law of one answer, given every answer before it. -/
structure SingleUse (sha256 : Sha256) (past : List LeaseEvent) (event : LeaseEvent) :
    Prop where
  activation : ActivatedFresh event → ∀ earlier ∈ past, ¬ ActivatedFresh earlier
  resume : ∀ generation, ResumedFresh generation event →
    ∀ earlier ∈ past, ¬ ResumedFresh generation earlier
  advanced : (∃ generation, ResumedFresh generation event) →
    event.after.resumeGeneration.toNat = event.before.resumeGeneration.toNat + 1
  unmoved : (¬ ∃ generation, ResumedFresh generation event) →
    event.after.resumeGeneration = event.before.resumeGeneration
  replay : ∀ session nonce welcome,
    event.output = .decided (.ok (.exactReplay session nonce welcome)) →
    RepeatsLatest sha256 past event session nonce welcome
  session : ∀ session, event.output.session? = some session →
    ∀ earlier ∈ past, ∀ other, earlier.output.session? = some other → other = session

/-! ## The ledger -/

/-- The attempt is the one the last fresh decision recorded, and it is marked as
followed by traffic if traffic was admitted since. -/
def Attempt.RecordedBy (sha256 : Sha256) (past : List LeaseEvent) (attempt : Attempt) :
    Prop :=
  ∃ fresh since original,
    Latest DecidedFresh past fresh since ∧
    fresh.output =
      .decided (.ok (.fresh attempt.sessionId attempt.serverNonce attempt.welcome)) ∧
    fresh.input.request? = some original ∧
    attempt.attemptId = original.attemptId ∧
    attempt.clientNonce = original.clientNonce ∧
    attempt.helloHash = sha256 original.helloBytes ∧
    (attempt.postHelloAdmitted = false → ∀ between ∈ since, ¬ AdmittedTraffic between)

structure Ledger (sha256 : Sha256) (past : List LeaseEvent) (machine : LeaseMachine) :
    Prop where
  invariant : machine.Invariant
  unused : machine.state = .issued → ∀ event ∈ past, event.output.session? = none
  recorded : ∀ attempt, machine.attempt = some attempt → attempt.RecordedBy sha256 past
  session : ∀ session, machine.logicalSessionId = some session →
    ∀ event ∈ past, ∀ other, event.output.session? = some other → other = session
  resumed : ∀ event ∈ past, ∀ generation, ResumedFresh generation event →
    generation < machine.resumeGeneration

variable {sha256 : Sha256} {past : List LeaseEvent} {event : LeaseEvent}

theorem session_of_fresh {outcome : LeaseOutcome} (fresh : outcome.IsFresh) :
    outcome.session? ≠ none := by
  obtain ⟨session, nonce, welcome, rfl⟩ := fresh
  simp [LeaseOutcome.session?]

theorem session_of_failed {outcome : LeaseOutcome} (failed : outcome.succeeded = false) :
    outcome.session? = none := by
  cases outcome with
  | done result => rfl
  | settled result => rfl
  | decided result =>
      cases result with
      | error error => rfl
      | ok decision => cases failed

theorem Attempt.RecordedBy.remark {attempt : Attempt}
    (recorded : attempt.RecordedBy sha256 past) (stale : ¬ DecidedFresh event)
    (live admitted : Bool)
    (quiet : admitted = false →
      attempt.postHelloAdmitted = false ∧ ¬ AdmittedTraffic event) :
    ({ attempt with transportLive := live, postHelloAdmitted := admitted }).RecordedBy
      sha256 (past ++ [event]) := by
  obtain ⟨fresh, since, original, latest, answer, asked, id, nonce, hash, silent⟩ := recorded
  refine ⟨fresh, since ++ [event], original, latest.snoc stale, answer, asked, id, nonce,
    hash, ?_⟩
  intro unmarked
  obtain ⟨before, silentNow⟩ := quiet unmarked
  exact forall_snoc (silent before) silentNow

/-- Every step that is not a fresh decision keeps the ledger, if it only marks
the stored attempt or drops it. -/
theorem Ledger.carry (ledger : Ledger sha256 past event.before)
    (stale : ¬ DecidedFresh event) (invariant : event.after.Invariant)
    (issued : event.after.state = .issued →
      event.before.state = .issued ∧ event.output.session? = none)
    (marked : ∀ kept, event.after.attempt = some kept →
      ∃ attempt live admitted, event.before.attempt = some attempt ∧
        kept = { attempt with transportLive := live, postHelloAdmitted := admitted } ∧
        (admitted = false → attempt.postHelloAdmitted = false ∧ ¬ AdmittedTraffic event))
    (session : ∀ session, event.after.logicalSessionId = some session →
      event.before.logicalSessionId = some session ∧
        ∀ other, event.output.session? = some other → other = session)
    (generation : event.after.resumeGeneration = event.before.resumeGeneration) :
    Ledger sha256 (past ++ [event]) event.after where
  invariant := invariant
  unused := by
    intro still
    exact forall_snoc (ledger.unused (issued still).1) (issued still).2
  recorded := by
    intro kept stored
    obtain ⟨attempt, live, admitted, isStored, rfl, quiet⟩ := marked kept stored
    exact (ledger.recorded attempt isStored).remark stale live admitted quiet
  session := by
    intro current isCurrent
    exact forall_snoc (ledger.session current (session current isCurrent).1)
      (session current isCurrent).2
  resumed := by
    rw [generation]
    apply forall_snoc ledger.resumed
    intro resumed fresh
    exact absurd fresh.2 stale

/-- A fresh decision opens a new ledger entry for the request it answered. -/
theorem Ledger.record {request : AttemptRequest} (asked : event.input.request? = some request)
    (answer : event.output =
      .decided (.ok (.fresh request.sessionId request.serverNonce request.welcome)))
    {resumeFrom : Option ResumeGeneration}
    (stored : event.after.attempt = some (request.attempt sha256 resumeFrom))
    (invariant : event.after.Invariant) (reserved : event.after.state = .reserved)
    (session : event.after.logicalSessionId = some request.sessionId)
    (known : ∀ earlier ∈ past, ∀ other, earlier.output.session? = some other →
      other = request.sessionId)
    (resumed : ∀ earlier ∈ past ++ [event], ∀ generation,
      ResumedFresh generation earlier → generation < event.after.resumeGeneration) :
    Ledger sha256 (past ++ [event]) event.after where
  invariant := invariant
  unused := by
    intro issued
    rw [reserved] at issued
    cases issued
  recorded := by
    intro attempt isStored
    rw [stored] at isStored
    cases isStored
    have fresh : DecidedFresh event := ⟨_, _, _, answer⟩
    refine ⟨event, [], request, latest_snoc_self past fresh, answer, asked, rfl, rfl, rfl, ?_⟩
    intro _ between inside
    cases inside
  session := by
    intro current isCurrent
    rw [session] at isCurrent
    cases isCurrent
    apply forall_snoc known
    intro other isOther
    rw [answer] at isOther
    exact (Option.some.inj isOther).symm
  resumed := resumed

theorem not_fresh_of_session {event : LeaseEvent} (undecided : event.output.session? = none) :
    ¬ DecidedFresh event := by
  intro fresh
  exact session_of_fresh fresh undecided

/-- Steps that decide nothing and drop or keep the attempt. -/
theorem Ledger.carry_undecided (ledger : Ledger sha256 past event.before)
    (undecided : event.output.session? = none) (invariant : event.after.Invariant)
    (issued : event.after.state = .issued → event.before.state = .issued)
    (marked : ∀ kept, event.after.attempt = some kept →
      event.before.attempt = some kept ∧
        (kept.postHelloAdmitted = false → ¬ AdmittedTraffic event))
    (session : ∀ session, event.after.logicalSessionId = some session →
      event.before.logicalSessionId = some session)
    (generation : event.after.resumeGeneration = event.before.resumeGeneration) :
    Ledger sha256 (past ++ [event]) event.after := by
  refine ledger.carry (not_fresh_of_session undecided) invariant ?_ ?_ ?_ generation
  · intro still
    exact ⟨issued still, undecided⟩
  · intro kept stored
    obtain ⟨isStored, quiet⟩ := marked kept stored
    exact ⟨kept, kept.transportLive, kept.postHelloAdmitted, isStored, rfl,
      fun unmarked => ⟨unmarked, quiet unmarked⟩⟩
  · intro current isCurrent
    refine ⟨session current isCurrent, ?_⟩
    intro other isOther
    rw [undecided] at isOther
    cases isOther

theorem Ledger.snoc (ledger : Ledger sha256 past event.before)
    (effect : Effect sha256 event.before event.input event.output event.after) :
    Ledger sha256 (past ++ [event]) event.after := by
  have invariant := effect.preserves_invariant ledger.invariant
  obtain ⟨before, operation, outcome, after⟩ := event
  dsimp only at ledger effect invariant
  cases effect with
  | refused failed =>
      refine ledger.carry_undecided (session_of_failed failed) invariant (fun still => still)
        ?_ (fun _ same => same) rfl
      intro kept stored
      refine ⟨stored, fun _ admitted => ?_⟩
      have success := admitted.2
      rw [failed] at success
      cases success
  | activated issued exact =>
      refine Ledger.record rfl rfl rfl invariant rfl rfl ?_ ?_
      · intro earlier inside other decided
        rw [ledger.unused issued earlier inside] at decided
        cases decided
      · apply forall_snoc ledger.resumed
        intro generation resumed
        obtain ⟨⟨request, asked⟩, -⟩ := resumed
        cases asked
  | activationExhausted issued full =>
      exact False.elim (not_exhausted_first (ledger.invariant.first issued) full)
  | replayed asked held stored exact quiet =>
      obtain ⟨fingerprint, isSession, -⟩ := ledger.invariant.stored_session held stored
      refine ledger.carry ?_ invariant ?_ ?_ ?_ rfl
      · rintro ⟨session, nonce, welcome, answer⟩
        cases answer
      · intro still
        rcases held with reserved | active
        · exact absurd (reserved.symm.trans still) (by simp)
        · exact absurd (active.symm.trans still) (by simp)
      · intro kept isKept
        cases isKept
        refine ⟨_, true, _, stored, rfl, ?_⟩
        intro unmarked
        refine ⟨unmarked, ?_⟩
        rintro ⟨isAdmission, -⟩
        dsimp only at isAdmission
        rw [isAdmission] at asked
        cases asked
      · intro current isCurrent
        refine ⟨isCurrent, ?_⟩
        intro other isOther
        have sameOther : _ = other := Option.some.inj isOther
        have same := Option.some.inj (isSession.symm.trans isCurrent)
        rw [← sameOther, same]
  | committed reserved bump =>
      refine ledger.carry_undecided rfl invariant ?_ ?_ (fun _ same => same) rfl
      · intro still
        cases still
      · intro kept isStored
        refine ⟨isStored, fun _ admitted => ?_⟩
        cases admitted.1
  | admitted active stored =>
      refine ledger.carry (not_fresh_of_session rfl) invariant ?_ ?_ ?_ rfl
      · intro still
        exact absurd (active.symm.trans still) (by simp)
      · intro kept isKept
        cases isKept
        refine ⟨_, _, true, stored, rfl, ?_⟩
        intro unmarked
        cases unmarked
      · intro current isCurrent
        refine ⟨isCurrent, ?_⟩
        intro other isOther
        cases isOther
  | detached held =>
      obtain ⟨attempt, -, -, stored, -⟩ := ledger.invariant.held held
      refine ledger.carry (not_fresh_of_session rfl) invariant ?_ ?_ ?_ rfl
      · intro still
        exact ⟨still, rfl⟩
      · intro kept isKept
        dsimp only at isKept
        rw [stored, Option.map_some] at isKept
        cases isKept
        refine ⟨attempt, false, attempt.postHelloAdmitted, stored, rfl, ?_⟩
        intro unmarked
        refine ⟨unmarked, ?_⟩
        rintro ⟨isAdmission, -⟩
        cases isAdmission
      · intro current isCurrent
        refine ⟨isCurrent, ?_⟩
        intro other isOther
        cases isOther
  | closed held bump =>
      refine ledger.carry_undecided rfl invariant ?_ ?_ ?_ rfl
      · intro still
        cases still
      · intro kept isKept
        cases isKept
      · intro current isCurrent
        cases isCurrent
  | suspended active bump =>
      refine ledger.carry_undecided rfl invariant ?_ ?_ (fun _ same => same) rfl
      · intro still
        cases still
      · intro kept isKept
        cases isKept
  | resumed suspended session exact next =>
      refine Ledger.record rfl rfl rfl invariant rfl session ?_ ?_
      · exact ledger.session _ session
      · apply forall_snoc
        · intro earlier inside generation resumed
          have below := Counter.lt_iff_toNat.mp (ledger.resumed earlier inside generation resumed)
          apply Counter.lt_iff_toNat.mpr
          dsimp only
          omega
        · intro generation resumed
          obtain ⟨⟨request, asked⟩, -⟩ := resumed
          cases asked
          apply Counter.lt_iff_toNat.mpr
          dsimp only
          omega
  | ended finish live bump =>
      refine ledger.carry_undecided rfl invariant ?_ ?_ ?_ rfl
      · intro still
        rcases finish with ⟨-, rfl⟩ | ⟨-, rfl⟩ <;> cases still
      · intro kept isKept
        cases isKept
      · intro current isCurrent
        cases isCurrent

theorem ledger_reachable (sha256 : Sha256) (cleanupPolicy : CleanupPolicy)
    (disconnectGraceUs : UInt64) (operations : List LeaseOperation) :
    Ledger sha256
      ((leaseRuns sha256).history (.new cleanupPolicy disconnectGraceUs) operations)
      ((leaseRuns sha256).final (.new cleanupPolicy disconnectGraceUs) operations) := by
  apply (leaseRuns sha256).history_induction
  · exact
      { invariant := invariant_new cleanupPolicy disconnectGraceUs
        unused := by simp
        recorded := by
          intro attempt stored
          cases stored
        session := by simp
        resumed := by simp }
  · intro past machine operation ledger
    exact @Ledger.snoc sha256 past ((leaseRuns sha256).event machine operation) ledger
      (leaseStep_effect sha256 machine operation)

/-! ## The law -/

theorem exact_eq_true {attempt : Attempt} {request : AttemptRequest} :
    attempt.exact sha256 request = true ↔
      attempt.attemptId = request.attemptId ∧ attempt.clientNonce = request.clientNonce ∧
        attempt.helloHash = sha256 request.helloBytes := by
  simp [Attempt.exact, and_assoc]

/-- What a replay owes the fresh decision it repeats. -/
theorem Ledger.replays (ledger : Ledger sha256 past event.before)
    {request : AttemptRequest} {attempt : Attempt}
    (asked : event.input.request? = some request)
    (stored : event.before.attempt = some attempt)
    (exact : attempt.exact sha256 request = true)
    (quiet : event.before.state = .active → attempt.postHelloAdmitted = false) :
    RepeatsLatest sha256 past event attempt.sessionId attempt.serverNonce
      attempt.welcome := by
  obtain ⟨fresh, since, original, latest, answer, asked', id, nonce, hash, silent⟩ :=
    ledger.recorded attempt stored
  obtain ⟨sameId, sameNonce, sameHash⟩ := exact_eq_true.mp exact
  have unmarked : attempt.postHelloAdmitted = false := by
    cases admitted : attempt.postHelloAdmitted with
    | false => rfl
    | true =>
        have active := ledger.invariant.admitted attempt stored admitted
        rw [quiet active] at admitted
        cases admitted
  refine ⟨fresh, since, original, request, latest, answer, asked', asked, ?_,
    silent unmarked⟩
  refine ⟨sameId.symm.trans id, sameNonce.symm.trans nonce, sameHash.symm.trans hash, ?_⟩
  intro separates
  apply separates
  · exact ⟨event, by simp, request, asked, rfl⟩
  · exact ⟨fresh, List.mem_append_left _ latest.mem, original, asked', rfl⟩
  · exact sameHash.symm.trans hash

/-- An operation that decides nothing fresh and leaves the resume generation
alone owes only its replay and its session. -/
theorem SingleUse.of_stale (stale : ¬ DecidedFresh event)
    (generation : event.after.resumeGeneration = event.before.resumeGeneration)
    (replay : ∀ session nonce welcome,
      event.output = .decided (.ok (.exactReplay session nonce welcome)) →
      RepeatsLatest sha256 past event session nonce welcome)
    (session : ∀ session, event.output.session? = some session →
      ∀ earlier ∈ past, ∀ other, earlier.output.session? = some other →
        other = session) :
    SingleUse sha256 past event where
  activation := fun fresh => absurd fresh.2 stale
  resume := fun _ fresh => absurd fresh.2 stale
  advanced := fun fresh => by
    obtain ⟨_, fresh⟩ := fresh
    exact absurd fresh.2 stale
  unmoved := fun _ => generation
  replay := replay
  session := session

theorem SingleUse.of_undecided (undecided : event.output.session? = none)
    (generation : event.after.resumeGeneration = event.before.resumeGeneration) :
    SingleUse sha256 past event := by
  apply SingleUse.of_stale (not_fresh_of_session undecided) generation
  · intro session nonce welcome answer
    rw [answer] at undecided
    cases undecided
  · intro session decided
    rw [undecided] at decided
    cases decided

theorem Ledger.singleUse (ledger : Ledger sha256 past event.before)
    (effect : Effect sha256 event.before event.input event.output event.after) :
    SingleUse sha256 past event := by
  obtain ⟨before, operation, outcome, after⟩ := event
  dsimp only at ledger effect
  cases effect with
  | refused failed => exact .of_undecided (session_of_failed failed) rfl
  | activated issued exact =>
      have first : ∀ earlier ∈ past, ¬ DecidedFresh earlier := by
        intro earlier inside
        exact not_fresh_of_session (ledger.unused issued earlier inside)
      exact
        { activation := fun _ earlier inside fresh => first earlier inside fresh.2
          resume := fun _ _ earlier inside fresh => first earlier inside fresh.2
          advanced := by
            rintro ⟨generation, ⟨request, asked⟩, -⟩
            cases asked
          unmoved := fun _ => rfl
          replay := by
            intro session nonce welcome answer
            cases answer
          session := by
            intro session _ earlier inside other decided
            rw [ledger.unused issued earlier inside] at decided
            cases decided }
  | activationExhausted issued full => exact .of_undecided rfl rfl
  | replayed asked held stored exact quiet =>
      apply SingleUse.of_stale _ rfl
      · intro session nonce welcome answer
        cases answer
        exact ledger.replays asked stored exact quiet
      · intro session decided earlier inside other isOther
        obtain ⟨fingerprint, isSession, -⟩ := ledger.invariant.stored_session held stored
        have same := ledger.session _ isSession earlier inside other isOther
        rw [same]
        exact Option.some.inj decided
      · rintro ⟨session, nonce, welcome, answer⟩
        cases answer
  | committed reserved bump => exact .of_undecided rfl rfl
  | admitted active stored => exact .of_undecided rfl rfl
  | detached held => exact .of_undecided rfl rfl
  | closed held bump => exact .of_undecided rfl rfl
  | suspended active bump => exact .of_undecided rfl rfl
  | resumed suspended session exact next =>
      exact
        { activation := by
            rintro ⟨⟨request, asked⟩, -⟩
            cases asked
          resume := by
            rintro generation ⟨⟨request, asked⟩, -⟩ earlier inside repeated
            cases asked
            have below := Counter.lt_iff_toNat.mp
              (ledger.resumed earlier inside _ repeated)
            omega
          advanced := fun _ => next
          unmoved := fun unmoved => absurd ⟨_, ⟨_, rfl⟩, _, _, _, rfl⟩ unmoved
          replay := by
            intro session nonce welcome answer
            cases answer
          session := by
            intro current decided earlier inside other isOther
            have same := ledger.session _ session earlier inside other isOther
            rw [same]
            exact Option.some.inj decided }
  | ended finish live bump => exact .of_undecided rfl rfl

/-- In every run of a lease each answer obeys the single-use law. -/
theorem lease_single_use (sha256 : Sha256) (cleanupPolicy : CleanupPolicy)
    (disconnectGraceUs : UInt64) (operations : List LeaseOperation) :
    Always (SingleUse sha256)
      ((leaseRuns sha256).history (.new cleanupPolicy disconnectGraceUs) operations) := by
  refine (leaseRuns sha256).always_history ?_ operations
  intro earlier operation
  have ledger := ledger_reachable sha256 cleanupPolicy disconnectGraceUs earlier
  exact @Ledger.singleUse sha256 _ ((leaseRuns sha256).event _ operation) ledger
    (leaseStep_effect sha256 _ operation)

end VividProtocol.Lease

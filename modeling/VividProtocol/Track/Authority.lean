import Mathlib.Tactic
import VividProtocol.Track.ChannelOpen

/-!
# Channel opening authority

Over runs whose current generation never falls and rises with every advance, a
generation is opened once, replayed only after its transport was lost, and
closed for good once it carried media.
-/

set_option autoImplicit false

namespace VividProtocol.Track

open VividProtocol.Library.Transition

/-! ## Reading the history -/

def currentOf : ChannelOperation → Option ChannelGeneration
  | .open current _ => some current
  | _ => none

/-- The current generation given to `open` never decreases, and strictly
increases across an `advance`. -/
def CurrentsAdvance (past : List ChannelEvent) (event : ChannelEvent) : Prop :=
  ∀ before earlier between, past = before ++ earlier :: between →
    ∀ old, currentOf earlier.input = some old →
      ∀ current, currentOf event.input = some current →
        old ≤ current ∧ ((∃ moved ∈ between, moved.input = .advance) → old < current)

def DecidesFresh (event : ChannelEvent) : Prop :=
  ∃ acceptance, event.output = .opened (.fresh acceptance)

/-- Fresh or ExactReplay. -/
def Grants (event : ChannelEvent) : Prop :=
  ∃ decision, event.output = .opened decision ∧ decision.grants = true

def GrantsTo (generation : ChannelGeneration) (event : ChannelEvent) : Prop :=
  Grants event ∧ ∃ current request, event.input = .open current request ∧
    request.generation = generation

def OpensFresh (generation : ChannelGeneration) (event : ChannelEvent) : Prop :=
  DecidesFresh event ∧ ∃ current request, event.input = .open current request ∧
    request.generation = generation

def AdmitsMedia (generation : ChannelGeneration) (event : ChannelEvent) : Prop :=
  event.input = .admitMedia generation ∧ event.output = .admitted (.ok ())

/-- The transports live after one more event: a grant adds one and supersedes
those of other generations. -/
def liveAfter (live : List ChannelGeneration) (event : ChannelEvent) :
    List ChannelGeneration :=
  match event.input, event.output with
  | .open _ request, .opened decision =>
      if decision.grants then
        live.filter (fun other => other = request.generation) ++ [request.generation]
      else live
  | .transportLost generation, _ => live.filter fun other => other ≠ generation
  | .advance, _ => []
  | _, _ => live

def liveTransports (history : List ChannelEvent) : List ChannelGeneration :=
  history.foldl liveAfter []

def openBytesPresented (history : List ChannelEvent) : Set (List UInt8) :=
  { bytes | ∃ event ∈ history, ∃ current request,
    event.input = .open current request ∧ request.completeOpenBytes = bytes }

/-- A replay repeats the last fresh opening to the same nonce and bytes, after a
loss of its transport since the last grant. -/
def RepeatsOpening (sha256 : Sha256) (past : List ChannelEvent) (event : ChannelEvent)
    (request : OpenRequest) (acceptance : PayloadMap) : Prop :=
  (∃ fresh since current original,
    Latest DecidesFresh past fresh since ∧ fresh.input = .open current original ∧
    fresh.output = .opened (.fresh acceptance) ∧
    original.generation = request.generation ∧ original.nonce = request.nonce ∧
    sha256 original.completeOpenBytes = sha256 request.completeOpenBytes ∧
    (Set.InjOn sha256 (openBytesPresented (past ++ [event])) →
      original.completeOpenBytes = request.completeOpenBytes)) ∧
  ∃ grant after, Latest Grants past grant after ∧
    ∃ loss ∈ after, loss.input = .transportLost request.generation

structure OpeningLaw (sha256 : Sha256) (past : List ChannelEvent) (event : ChannelEvent) :
    Prop where
  once : ∀ generation, OpensFresh generation event →
    ∀ earlier ∈ past, ¬ OpensFresh generation earlier
  replay : ∀ current request acceptance, event.input = .open current request →
    event.output = .opened (.exactReplay acceptance) →
    RepeatsOpening sha256 past event request acceptance
  closed : ∀ generation, GrantsTo generation event →
    ∀ earlier ∈ past, ¬ AdmitsMedia generation earlier
  single : (liveTransports (past ++ [event])).length ≤ 1
  media : ∀ generation, AdmitsMedia generation event →
    generation ∈ liveTransports past ∧
      ∃ fresh since, Latest DecidesFresh past fresh since ∧ OpensFresh generation fresh

/-! ## Spent generations -/

/-- Every later current generation is above this one. -/
def Spent (generation : ChannelGeneration) (past : List ChannelEvent) : Prop :=
  ∃ before earlier between old, past = before ++ earlier :: between ∧
    currentOf earlier.input = some old ∧
    (generation < old ∨ generation ≤ old ∧ ∃ moved ∈ between, moved.input = .advance)

variable {sha256 : Sha256} {past : List ChannelEvent} {event : ChannelEvent}
  {generation : ChannelGeneration}

theorem Spent.snoc (spent : Spent generation past) : Spent generation (past ++ [event]) := by
  obtain ⟨before, earlier, between, old, rfl, isOld, above⟩ := spent
  refine ⟨before, earlier, between ++ [event], old, by simp, isOld, ?_⟩
  rcases above with above | ⟨atLeast, moved, inside, isAdvance⟩
  · exact Or.inl above
  · exact Or.inr ⟨atLeast, moved, List.mem_append_left _ inside, isAdvance⟩

theorem Spent.exceeded (spent : Spent generation past)
    (lawful : CurrentsAdvance past event) {current : ChannelGeneration}
    (isCurrent : currentOf event.input = some current) : generation < current := by
  obtain ⟨before, earlier, between, old, split, isOld, above⟩ := spent
  obtain ⟨kept, raised⟩ := lawful before earlier between split old isOld current isCurrent
  rw [Counter.le_iff_toNat] at kept
  rw [Counter.lt_iff_toNat]
  rcases above with above | ⟨atLeast, moved⟩
  · rw [Counter.lt_iff_toNat] at above
    omega
  · have strict := Counter.lt_iff_toNat.mp (raised moved)
    rw [Counter.le_iff_toNat] at atLeast
    omega

/-! ## The ledger -/

/-- What the stored opening owes to the history. -/
structure StoredBy (sha256 : Sha256) (past : List ChannelEvent) (accepted : AcceptedOpen) :
    Prop where
  opened : ∃ fresh since request, Latest DecidesFresh past fresh since ∧
    fresh.input = .open accepted.generation request ∧
    fresh.output = .opened (.fresh accepted.acceptance) ∧
    request.generation = accepted.generation ∧ request.nonce = accepted.nonce ∧
    sha256 request.completeOpenBytes = accepted.openHash
  lost : ∃ grant after, Latest Grants past grant after ∧
    (accepted.transportLive = false →
      ∃ loss ∈ after, loss.input = .transportLost accepted.generation)
  carried : ∀ earlier ∈ past, AdmitsMedia accepted.generation earlier →
    accepted.mediaAdmitted = true

def ChannelOpenState.transports (state : ChannelOpenState) : List ChannelGeneration :=
  match state.accepted with
  | none => []
  | some accepted => if accepted.transportLive then [accepted.generation] else []

structure ChannelLedger (sha256 : Sha256) (past : List ChannelEvent)
    (state : ChannelOpenState) : Prop where
  stored : ∀ accepted, state.accepted = some accepted → StoredBy sha256 past accepted
  live : liveTransports past = state.transports
  spent : ∀ earlier ∈ past, ∀ generation, OpensFresh generation earlier →
    (∃ accepted, state.accepted = some accepted ∧ accepted.generation = generation) ∨
      Spent generation past
  media : ∀ earlier ∈ past, ∀ generation, AdmitsMedia generation earlier →
    ∃ fresh ∈ past, OpensFresh generation fresh

theorem liveTransports_snoc :
    liveTransports (past ++ [event]) = liveAfter (liveTransports past) event := by
  unfold liveTransports
  rw [List.foldl_append]
  rfl

theorem grants_of_fresh (fresh : DecidesFresh event) : Grants event := by
  obtain ⟨acceptance, answer⟩ := fresh
  exact ⟨_, answer, rfl⟩

theorem declined_of_output (other : ∀ decision, event.output ≠ .opened decision) :
    ¬ Grants event := by
  intro granted
  obtain ⟨decision, answer, -⟩ := granted
  exact other decision answer

theorem declined_of_refused {decision : ChannelOpenDecision}
    (answer : event.output = .opened decision) (refused : decision.grants = false) :
    ¬ Grants event := by
  intro granted
  obtain ⟨same, isSame, grants⟩ := granted
  rw [answer] at isSame
  cases isSame
  rw [refused] at grants
  cases grants

theorem silent_of_output (other : event.output ≠ .admitted (.ok ())) :
    ∀ generation, ¬ AdmitsMedia generation event := by
  intro generation admits
  exact other admits.2

theorem StoredBy.lost_snoc {accepted : AcceptedOpen}
    (stored : StoredBy sha256 past accepted) (declined : ¬ Grants event) :
    ∃ grant after, Latest Grants (past ++ [event]) grant after ∧
      (accepted.transportLive = false →
        ∃ loss ∈ after, loss.input = .transportLost accepted.generation) := by
  obtain ⟨grant, after, latest, lost⟩ := stored.lost
  refine ⟨grant, after ++ [event], latest.snoc declined, ?_⟩
  intro dead
  obtain ⟨loss, inside, isLoss⟩ := lost dead
  exact ⟨loss, List.mem_append_left _ inside, isLoss⟩

/-- A stored opening keeps its past when the step grants nothing. -/
theorem StoredBy.snoc {accepted : AcceptedOpen} (stored : StoredBy sha256 past accepted)
    (declined : ¬ Grants event)
    (silent : AdmitsMedia accepted.generation event → accepted.mediaAdmitted = true) :
    StoredBy sha256 (past ++ [event]) accepted where
  opened := by
    obtain ⟨fresh, since, request, latest, rest⟩ := stored.opened
    refine ⟨fresh, since ++ [event], request, latest.snoc ?_, rest⟩
    exact fun isFresh => declined (grants_of_fresh isFresh)
  lost := stored.lost_snoc declined
  carried := forall_snoc stored.carried silent

/-- Media stay behind openings of their generation as the history grows. -/
theorem ChannelLedger.media_snoc {state : ChannelOpenState}
    (ledger : ChannelLedger sha256 past state)
    (new : ∀ generation, AdmitsMedia generation event →
      ∃ fresh ∈ past ++ [event], OpensFresh generation fresh) :
    ∀ earlier ∈ past ++ [event], ∀ generation, AdmitsMedia generation earlier →
      ∃ fresh ∈ past ++ [event], OpensFresh generation fresh := by
  apply forall_snoc
  · intro earlier inside generation admits
    obtain ⟨fresh, freshInside, opens⟩ := ledger.media earlier inside generation admits
    exact ⟨fresh, List.mem_append_left _ freshInside, opens⟩
  · exact new

/-- A step that grants nothing and admits nothing keeps what is known of openings. -/
theorem ChannelLedger.carry (ledger : ChannelLedger sha256 past event.before)
    (declined : ¬ Grants event) (silent : ∀ generation, ¬ AdmitsMedia generation event)
    (same : event.after = event.before)
    (live : liveAfter (liveTransports past) event = liveTransports past) :
    ChannelLedger sha256 (past ++ [event]) event.after where
  stored := by
    rw [same]
    intro accepted isStored
    exact (ledger.stored accepted isStored).snoc declined fun admits =>
      absurd admits (silent _)
  live := by
    rw [same, liveTransports_snoc, live]
    exact ledger.live
  spent := by
    rw [same]
    apply forall_snoc
    · intro earlier inside generation opens
      rcases ledger.spent earlier inside generation opens with held | spent
      · exact Or.inl held
      · exact Or.inr spent.snoc
    · intro generation opens
      exact absurd (grants_of_fresh opens.1) declined
  media := ledger.media_snoc fun generation admits => absurd admits (silent generation)

/-- A step that only marks the stored opening. -/
theorem ChannelLedger.mark (ledger : ChannelLedger sha256 past event.before)
    {accepted marked : AcceptedOpen} (isStored : event.before.accepted = some accepted)
    (isMarked : event.after.accepted = some marked)
    (generation : marked.generation = accepted.generation)
    (nonce : marked.nonce = accepted.nonce) (hash : marked.openHash = accepted.openHash)
    (acceptance : marked.acceptance = accepted.acceptance) (stale : ¬ DecidesFresh event)
    (lost : ∃ grant after, Latest Grants (past ++ [event]) grant after ∧
      (marked.transportLive = false →
        ∃ loss ∈ after, loss.input = .transportLost accepted.generation))
    (carried : (accepted.mediaAdmitted = true ∨ AdmitsMedia accepted.generation event) →
      marked.mediaAdmitted = true)
    (admits : ∀ other, AdmitsMedia other event → other = accepted.generation)
    (live : liveAfter event.before.transports event = event.after.transports) :
    ChannelLedger sha256 (past ++ [event]) event.after where
  stored := by
    intro other isOther
    rw [isMarked] at isOther
    cases isOther
    have stored := ledger.stored accepted isStored
    obtain ⟨fresh, since, request, latest, rest⟩ := stored.opened
    refine ⟨⟨fresh, since ++ [event], request, latest.snoc stale, ?_⟩, ?_, ?_⟩
    · rw [generation, nonce, hash, acceptance]
      exact rest
    · rw [generation]
      exact lost
    · rw [generation]
      apply forall_snoc
      · intro earlier inside admitted
        exact carried (Or.inl (stored.carried earlier inside admitted))
      · intro admitted
        exact carried (Or.inr admitted)
  live := by
    rw [liveTransports_snoc, ledger.live, live]
  spent := by
    apply forall_snoc
    · intro earlier inside opened opens
      rcases ledger.spent earlier inside opened opens with ⟨held, isHeld, same⟩ | spent
      · rw [isStored] at isHeld
        cases isHeld
        exact Or.inl ⟨marked, isMarked, generation.trans same⟩
      · exact Or.inr spent.snoc
    · intro opened opens
      exact absurd opens.1 stale
  media := by
    apply ledger.media_snoc
    intro admitted isAdmitted
    obtain ⟨fresh, since, request, latest, asked, answer, same, -⟩ :=
      (ledger.stored accepted isStored).opened
    refine ⟨fresh, List.mem_append_left _ latest.mem, latest.kind, _, request, asked, ?_⟩
    rw [same, admits admitted isAdmitted]

/-- A generation that `open` accepts afresh was never opened before. -/
theorem ChannelLedger.unopened (ledger : ChannelLedger sha256 past event.before)
    (lawful : CurrentsAdvance past event)
    (isCurrent : currentOf event.input = some generation)
    (other : ∀ accepted, event.before.accepted = some accepted →
      accepted.generation ≠ generation) :
    ∀ earlier ∈ past, ¬ OpensFresh generation earlier := by
  intro earlier inside opens
  rcases ledger.spent earlier inside generation opens with ⟨accepted, held, same⟩ | spent
  · exact other accepted held same
  · have above := Counter.lt_iff_toNat.mp (spent.exceeded lawful isCurrent)
    exact lt_irrefl _ above

/-- The stored opening was current when it was recorded. -/
theorem ChannelLedger.below (ledger : ChannelLedger sha256 past event.before)
    (lawful : CurrentsAdvance past event)
    (isCurrent : currentOf event.input = some generation) {accepted : AcceptedOpen}
    (held : event.before.accepted = some accepted)
    (other : accepted.generation ≠ generation) : accepted.generation < generation := by
  obtain ⟨fresh, since, request, ⟨⟨earlier, split⟩, -⟩, asked, -⟩ :=
    (ledger.stored accepted held).opened
  have kept := (lawful earlier fresh since split accepted.generation (by rw [asked]; rfl)
    generation isCurrent).1
  rw [Counter.le_iff_toNat] at kept
  rw [ne_eq, ← Counter.toNat_inj] at other
  rw [Counter.lt_iff_toNat]
  omega

theorem ChannelLedger.open_fresh (ledger : ChannelLedger sha256 past event.before)
    (lawful : CurrentsAdvance past event) {request : OpenRequest}
    (asked : event.input = .open request.generation request)
    (answer : event.output = .opened (.fresh request.acceptance))
    (recorded : event.after.accepted = some (ChannelOpenState.record sha256 request))
    (other : ∀ accepted, event.before.accepted = some accepted →
      accepted.generation ≠ request.generation) :
    ChannelLedger sha256 (past ++ [event]) event.after := by
  have isCurrent : currentOf event.input = some request.generation := by
    rw [asked]
    rfl
  have fresh : DecidesFresh event := ⟨_, answer⟩
  have noMedia : ∀ generation, ¬ AdmitsMedia generation event := by
    apply silent_of_output
    rw [answer]
    nofun
  have unopened := ledger.unopened lawful isCurrent other
  refine ⟨?_, ?_, ?_, ?_⟩
  · intro accepted isStored
    rw [recorded] at isStored
    cases isStored
    refine ⟨⟨event, [], request, latest_snoc_self past fresh, asked, answer, rfl, rfl, rfl⟩,
      ⟨event, [], latest_snoc_self past (grants_of_fresh fresh), ?_⟩, ?_⟩
    · intro dead
      cases dead
    · apply forall_snoc
      · intro earlier inside admits
        obtain ⟨opening, openingInside, opens⟩ := ledger.media earlier inside _ admits
        exact absurd opens (unopened opening openingInside)
      · intro admits
        exact absurd admits (noMedia _)
  · rw [liveTransports_snoc, ledger.live]
    unfold liveAfter ChannelOpenState.transports
    rw [asked, answer, recorded]
    cases held : event.before.accepted with
    | none => simp [ChannelOpenDecision.grants, ChannelOpenState.record]
    | some accepted =>
        have different := other accepted held
        cases live : accepted.transportLive with
        | false => simp [ChannelOpenDecision.grants, ChannelOpenState.record, live]
        | true => simp [ChannelOpenDecision.grants, ChannelOpenState.record, live, different]
  · apply forall_snoc
    · intro earlier inside opened opens
      right
      rcases ledger.spent earlier inside opened opens with ⟨accepted, held, same⟩ | spent
      · have below := ledger.below lawful isCurrent held (other accepted held)
        rw [same] at below
        exact ⟨past, event, [], request.generation, rfl, isCurrent, Or.inl below⟩
      · exact spent.snoc
    · rintro opened ⟨-, current, again, isAsked, same⟩
      rw [asked] at isAsked
      cases isAsked
      exact Or.inl ⟨_, recorded, same⟩
  · apply ledger.media_snoc
    intro admitted isAdmitted
    exact absurd isAdmitted (noMedia admitted)

/-- The stored opening was current, and the advance leaves it behind. -/
theorem StoredBy.spent_of_advance {accepted : AcceptedOpen}
    (stored : StoredBy sha256 past accepted) (isAdvance : event.input = .advance) :
    Spent accepted.generation (past ++ [event]) := by
  obtain ⟨fresh, since, request, ⟨⟨first, split⟩, -⟩, asked, -⟩ := stored.opened
  refine ⟨first, fresh, since ++ [event], accepted.generation, ?_, ?_, Or.inr ⟨?_, ?_⟩⟩
  · rw [split, List.append_assoc, List.cons_append]
  · rw [asked]
    rfl
  · rw [Counter.le_iff_toNat]
  · exact ⟨event, List.mem_append_right since List.mem_cons_self, isAdvance⟩

theorem transports_of_other {state : ChannelOpenState}
    (other : ∀ accepted, state.accepted = some accepted → accepted.generation ≠ generation) :
    state.transports.filter (fun live => live ≠ generation) = state.transports := by
  unfold ChannelOpenState.transports
  cases held : state.accepted with
  | none => rfl
  | some accepted =>
      have different := other accepted held
      cases live : accepted.transportLive with
      | false => simp [live]
      | true => simp [live, different]

theorem transports_of_lost {state : ChannelOpenState} {accepted : AcceptedOpen}
    (stored : state.accepted = some accepted) :
    state.transports.filter (fun live => live ≠ accepted.generation) = [] := by
  unfold ChannelOpenState.transports
  rw [stored]
  cases live : accepted.transportLive with
  | false => simp [live]
  | true => simp [live]

theorem ChannelLedger.snoc (ledger : ChannelLedger sha256 past event.before)
    (lawful : CurrentsAdvance past event)
    (effect : ChannelEffect sha256 event.before event.input event.output event.after) :
    ChannelLedger sha256 (past ++ [event]) event.after := by
  have opens := @ChannelLedger.open_fresh sha256 past event ledger lawful
  obtain ⟨before, operation, outcome, after⟩ := event
  dsimp only at ledger effect opens
  cases effect with
  | declined refused =>
      apply ledger.carry
      · exact declined_of_refused rfl refused
      · exact silent_of_output nofun
      · rfl
      · unfold liveAfter
        simp [refused]
  | fresh other => exact opens rfl rfl rfl other
  | @replayed request accepted stored generation nonce hash dead quiet =>
      refine ledger.mark stored rfl rfl rfl rfl rfl ?_ ?_ ?_ ?_ ?_
      · rintro ⟨acceptance, answer⟩
        cases answer
      · refine ⟨_, [], latest_snoc_self past ⟨_, rfl, rfl⟩, ?_⟩
        intro isDead
        cases isDead
      · intro marked
        exact marked.resolve_right (silent_of_output (by nofun) _)
      · intro other admits
        exact absurd admits (silent_of_output (by nofun) other)
      · unfold liveAfter ChannelOpenState.transports
        simp [stored, dead, ChannelOpenDecision.grants, generation]
  | mediaRefused error =>
      apply ledger.carry
      · exact declined_of_output nofun
      · exact silent_of_output nofun
      · rfl
      · rfl
  | mediaAdmitted stored live =>
      refine ledger.mark stored rfl rfl rfl rfl rfl ?_ ?_ ?_ ?_ ?_
      · intro fresh
        exact declined_of_output (by nofun) (grants_of_fresh fresh)
      · apply (ledger.stored _ stored).lost_snoc
        exact declined_of_output nofun
      · exact fun _ => rfl
      · intro other admits
        cases admits.1
        rfl
      · unfold liveAfter ChannelOpenState.transports
        simp [stored]
  | lost stored =>
      refine ledger.mark stored rfl rfl rfl rfl rfl ?_ ?_ ?_ ?_ ?_
      · intro fresh
        exact declined_of_output (by nofun) (grants_of_fresh fresh)
      · obtain ⟨grant, since, latest, -⟩ := (ledger.stored _ stored).lost
        refine ⟨grant, since ++ [_], latest.snoc ?_, ?_⟩
        · exact declined_of_output nofun
        · intro _
          exact ⟨_, List.mem_append_right since List.mem_cons_self, rfl⟩
      · intro marked
        exact marked.resolve_right (silent_of_output (by nofun) _)
      · intro other admits
        exact absurd admits (silent_of_output (by nofun) other)
      · exact transports_of_lost stored
  | unrelated other =>
      apply ledger.carry
      · exact declined_of_output nofun
      · exact silent_of_output nofun
      · rfl
      · rw [ledger.live]
        exact transports_of_other other
  | advanced =>
      refine ⟨?_, ?_, ?_, ?_⟩
      · intro accepted isStored
        cases isStored
      · rw [liveTransports_snoc]
        rfl
      · apply forall_snoc
        · intro earlier inside opened isOpened
          right
          rcases ledger.spent earlier inside opened isOpened with ⟨accepted, held, same⟩ | spent
          · rw [← same]
            exact (ledger.stored accepted held).spent_of_advance rfl
          · exact spent.snoc
        · intro opened opening
          exact absurd (grants_of_fresh opening.1) (declined_of_output (by nofun))
      · apply ledger.media_snoc
        intro admitted admits
        exact absurd admits (silent_of_output (by nofun) admitted)

theorem channelLedger_reachable (sha256 : Sha256) (operations : List ChannelOperation)
    (lawful : Always CurrentsAdvance
      ((channelRuns sha256).history .default operations)) :
    ChannelLedger sha256 ((channelRuns sha256).history .default operations)
      ((channelRuns sha256).final .default operations) := by
  induction operations using List.reverseRecOn with
  | nil =>
      refine ⟨?_, rfl, ?_, ?_⟩
      · intro accepted isStored
        cases isStored
      · intro earlier inside
        cases inside
      · intro earlier inside
        cases inside
  | append_singleton operations operation ih =>
      rw [(channelRuns sha256).history_snoc] at lawful ⊢
      rw [(channelRuns sha256).final_snoc]
      exact @ChannelLedger.snoc sha256 _ ((channelRuns sha256).event _ operation)
        (ih lawful.left) lawful.last (channelStep_effect sha256 _ operation)

/-! ## The law -/

theorem transports_length (state : ChannelOpenState) : state.transports.length ≤ 1 := by
  unfold ChannelOpenState.transports
  cases state.accepted with
  | none => simp
  | some accepted =>
      dsimp only
      split_ifs <;> simp

theorem ChannelLedger.repeats (ledger : ChannelLedger sha256 past event.before)
    {request : OpenRequest} {accepted : AcceptedOpen}
    (asked : event.input = .open request.generation request)
    (stored : event.before.accepted = some accepted)
    (generation : accepted.generation = request.generation)
    (nonce : accepted.nonce = request.nonce)
    (hash : accepted.openHash = sha256 request.completeOpenBytes)
    (dead : accepted.transportLive = false) :
    RepeatsOpening sha256 past event request accepted.acceptance := by
  have isStored := ledger.stored accepted stored
  obtain ⟨fresh, since, original, latest, isOpen, answer, sameGeneration, sameNonce,
    sameHash⟩ := isStored.opened
  obtain ⟨grant, after, granted, lost⟩ := isStored.lost
  have equalHash := sameHash.trans hash
  refine ⟨⟨fresh, since, _, original, latest, isOpen, answer, sameGeneration.trans generation,
    sameNonce.trans nonce, equalHash, ?_⟩, grant, after, granted, ?_⟩
  · intro separates
    apply separates _ _ equalHash
    · exact ⟨fresh, List.mem_append_left _ latest.mem, _, original, isOpen, rfl⟩
    · exact ⟨event, List.mem_append_right past List.mem_cons_self, _, request, asked, rfl⟩
  · rw [← generation]
    exact lost dead

/-- An answer that grants nothing owes only its media. -/
theorem OpeningLaw.of_declined (declined : ¬ Grants event)
    (single : (liveTransports (past ++ [event])).length ≤ 1)
    (media : ∀ generation, AdmitsMedia generation event →
      generation ∈ liveTransports past ∧
        ∃ fresh since, Latest DecidesFresh past fresh since ∧ OpensFresh generation fresh) :
    OpeningLaw sha256 past event where
  once := fun _ opens => absurd (grants_of_fresh opens.1) declined
  replay := fun _ _ _ _ answer => absurd ⟨_, answer, rfl⟩ declined
  closed := fun _ granted => absurd granted.1 declined
  single := single
  media := media

theorem ChannelLedger.law (ledger : ChannelLedger sha256 past event.before)
    (lawful : CurrentsAdvance past event)
    (effect : ChannelEffect sha256 event.before event.input event.output event.after) :
    OpeningLaw sha256 past event := by
  have unopened := @ChannelLedger.unopened sha256 past event
  have repeats := @ChannelLedger.repeats sha256 past event ledger
  have single : (liveTransports (past ++ [event])).length ≤ 1 := by
    rw [(ledger.snoc lawful effect).live]
    exact transports_length event.after
  obtain ⟨before, operation, outcome, after⟩ := event
  dsimp only at ledger effect unopened repeats
  cases effect with
  | declined refused =>
      refine .of_declined (declined_of_refused rfl refused) single ?_
      intro generation admits
      exact absurd admits (silent_of_output (by nofun) generation)
  | @fresh request other =>
      have new := unopened ledger lawful rfl other
      refine ⟨?_, ?_, ?_, single, ?_⟩
      · rintro generation ⟨-, current, again, asked, same⟩
        cases asked
        subst same
        exact new
      · intro current again acceptance _ answer
        cases answer
      · rintro generation ⟨-, current, again, asked, same⟩ earlier inside admits
        cases asked
        subst same
        obtain ⟨opening, openingInside, opens⟩ := ledger.media earlier inside _ admits
        exact new opening openingInside opens
      · intro generation admits
        exact absurd admits (silent_of_output (by nofun) generation)
  | @replayed request accepted stored generation nonce hash dead quiet =>
      refine ⟨?_, ?_, ?_, single, ?_⟩
      · rintro opened ⟨⟨acceptance, answer⟩, -⟩
        cases answer
      · intro current again acceptance asked answer
        cases asked
        cases answer
        exact repeats rfl stored generation nonce hash dead
      · rintro opened ⟨-, current, again, asked, same⟩ earlier inside admits
        cases asked
        rw [← same, ← generation] at admits
        have carried := (ledger.stored accepted stored).carried earlier inside admits
        rw [quiet] at carried
        cases carried
      · intro opened admits
        exact absurd admits (silent_of_output (by nofun) opened)
  | mediaRefused error =>
      refine .of_declined (declined_of_output (by nofun)) single ?_
      intro generation admits
      exact absurd admits (silent_of_output (by nofun) generation)
  | @mediaAdmitted accepted stored live =>
      refine .of_declined (declined_of_output (by nofun)) single ?_
      intro generation admits
      cases admits.1
      constructor
      · rw [ledger.live]
        unfold ChannelOpenState.transports
        simp [stored, live]
      · obtain ⟨fresh, since, request, latest, asked, -, same, -⟩ :=
          (ledger.stored accepted stored).opened
        exact ⟨fresh, since, latest, latest.kind, _, request, asked, same⟩
  | lost stored =>
      refine .of_declined (declined_of_output (by nofun)) single ?_
      intro generation admits
      exact absurd admits (silent_of_output (by nofun) generation)
  | unrelated other =>
      refine .of_declined (declined_of_output (by nofun)) single ?_
      intro generation admits
      exact absurd admits (silent_of_output (by nofun) generation)
  | advanced =>
      refine .of_declined (declined_of_output (by nofun)) single ?_
      intro generation admits
      exact absurd admits (silent_of_output (by nofun) generation)

/-- In a run whose current generation never falls and rises with every advance,
each answer obeys the opening law. -/
theorem channel_opening_authority (sha256 : Sha256) (operations : List ChannelOperation)
    (lawful : Always CurrentsAdvance
      ((channelRuns sha256).history .default operations)) :
    Always (OpeningLaw sha256) ((channelRuns sha256).history .default operations) := by
  intro past event future split
  have isLawful := lawful past event future split
  have pastLawful : Always CurrentsAdvance past := by
    rw [split] at lawful
    exact lawful.left
  obtain ⟨first, operation, second, -, rfl, rfl, -⟩ :=
    (channelRuns sha256).history_event split
  exact @ChannelLedger.law sha256 _ ((channelRuns sha256).event _ operation)
    (channelLedger_reachable sha256 first pastLawful) isLawful
    (channelStep_effect sha256 _ operation)

/-- The SHA-256 digest of no bytes. -/
def digestOfNothing : Bytes 32 :=
  ⟨⟨[0xe3, 0xb0, 0xc4, 0x42, 0x98, 0xfc, 0x1c, 0x14, 0x9a, 0xfb, 0xf4, 0xc8, 0x99, 0x6f, 0xb9,
      0x24, 0x27, 0xae, 0x41, 0xe4, 0x64, 0x9b, 0x93, 0x4c, 0xa4, 0x95, 0x99, 0x1b, 0x78, 0x52,
      0xb8, 0x55]⟩, rfl⟩

def emptyOpen : OpenRequest :=
  { generation := .one
    nonce := Vector.replicate 16 0
    completeOpenBytes := []
    acceptance := [] }

/-- An opening whose transport is lost and which is then retried. -/
def retriedOpening : List ChannelOperation :=
  [.open .one emptyOpen, .transportLost .one, .open .one emptyOpen]

theorem retried_opening_authority :
    Always (OpeningLaw fun _ => digestOfNothing)
      ((channelRuns fun _ => digestOfNothing).history .default retriedOpening) := by
  apply channel_opening_authority
  have inputs : ∀ event ∈
      (channelRuns fun _ => digestOfNothing).history .default retriedOpening,
      event.input ≠ .advance ∧ ∀ current, currentOf event.input = some current →
        current = .one := by
    intro event inside
    simp only [retriedOpening, Machine.history, List.mem_cons, List.not_mem_nil, or_false]
      at inside
    rcases inside with rfl | rfl | rfl
    · simp [currentOf]
    · simp [currentOf]
    · simp [currentOf]
  intro past event future split before earlier between cut old isOld current isCurrent
  rw [split, cut] at inputs
  have oldIsOne := (inputs earlier (by simp)).2 old isOld
  have currentIsOne := (inputs event (by simp)).2 current isCurrent
  rw [oldIsOne, currentIsOne]
  refine ⟨Counter.le_iff_toNat.mpr (le_refl _), ?_⟩
  rintro ⟨moved, inside, isAdvance⟩
  exact absurd isAdvance (inputs moved (by simp [inside])).1

end VividProtocol.Track

import Mathlib.Tactic
import VividProtocol.Library.Exploration
import VividProtocol.Library.Transition

/-!
# The life of a dropped file

The finite model of `file_drop_model.rs`.  Two owners use the same numbers, and
connections, replies and credit are lost and retried in any order.  What a run
does to an owner is what its own steps do, and a file becomes visible once for
an acceptance and whole.
-/

set_option autoImplicit false

namespace VividProtocol.FileDrop.Lifecycle

open VividProtocol.Library.Exploration
open VividProtocol.Library.Transition

inductive Phase where
  | unbound
  | bound
  | offered
  | accepted
  | transferring
  | committed
  | cancelled
  | failed
  deriving Repr, DecidableEq

structure DropState where
  phase : Phase
  generation : UInt8
  offset : UInt8
  sourceOpen : Bool
  temporaryVisible : Bool
  finalVisible : Bool
  resultCached : Bool
  deriving Repr, DecidableEq

namespace DropState

/-- `DropState::default`. -/
def default : DropState :=
  { phase := .unbound
    generation := 0
    offset := 0
    sourceOpen := false
    temporaryVisible := false
    finalVisible := false
    resultCached := false }

/-- Every assertion of `check` passes. -/
def check (state : DropState) : Bool :=
  (state.finalVisible == decide (state.phase = .committed)) &&
    (! state.temporaryVisible || decide (state.phase = .transferring)) &&
    (! state.sourceOpen || [.offered, .accepted, .transferring].contains state.phase) &&
    (decide (state.generation = 0) ==
      ! [Phase.accepted, .transferring, .committed].contains state.phase) &&
    (! state.resultCached || [.committed, .cancelled, .failed].contains state.phase) &&
    decide (state.offset ≤ 2)

def terminate (state : DropState) (phase : Phase) : DropState :=
  { state with
    phase := phase
    generation := 0
    sourceOpen := false
    temporaryVisible := false
    resultCached := true }

end DropState

/-- The same IDs and generations in both slots. -/
structure Model where
  owners : Vector DropState 2
  deriving Repr, DecidableEq

def Model.default : Model := ⟨Vector.replicate 2 .default⟩

inductive Transition where
  | bind
  | offer
  | accept
  | loseAcceptReply
  | open
  | giveCreditAndData
  | loseConnection
  | advanceGeneration
  | staleConnectionData
  | finishValid
  | finishCorrupt
  | loseResultReply
  | query
  | cancel
  | revoke
  | timeout
  | expireResult
  deriving Repr, DecidableEq

def TRANSITIONS : List Transition :=
  [.bind, .offer, .accept, .loseAcceptReply, .open, .giveCreditAndData, .loseConnection,
    .advanceGeneration, .staleConnectionData, .finishValid, .finishCorrupt, .loseResultReply,
    .query, .cancel, .revoke, .timeout, .expireResult]

/-- The arms of `apply`, on the state of the owner. -/
def DropState.apply (state : DropState) : Transition → Option DropState
  | .bind => if state.phase = .unbound then some { state with phase := .bound } else none
  | .offer =>
      if state.phase = .bound then some { state with phase := .offered, sourceOpen := true }
      else none
  | .accept =>
      if state.phase = .offered then some { state with phase := .accepted, generation := 1 }
      else none
  | .loseAcceptReply => if state.phase = .accepted then some state else none
  | .open =>
      if state.phase = .accepted then
        some { state with phase := .transferring, temporaryVisible := true }
      else none
  | .giveCreditAndData =>
      if state.phase = .transferring ∧ state.offset < 2 then
        some { state with offset := state.offset + 1 }
      else none
  -- The transfer and its committed prefix outlive the connection.
  | .loseConnection =>
      if state.phase = .transferring then
        some { state with phase := .accepted, temporaryVisible := false }
      else none
  | .advanceGeneration =>
      if state.phase = .accepted ∧ state.generation < 2 then
        some { state with generation := state.generation + 1 }
      else none
  | .staleConnectionData => if state.generation = 2 then some state else none
  | .finishValid =>
      if state.phase = .transferring ∧ state.offset = 2 then
        some
          { state with
            phase := .committed
            sourceOpen := false
            temporaryVisible := false
            finalVisible := true
            resultCached := true }
      else none
  | .finishCorrupt =>
      if state.phase = .transferring then some (state.terminate .failed) else none
  | .loseResultReply => if state.resultCached = true then some state else none
  | .query => if state.resultCached = true then some state else none
  | .cancel =>
      if state.phase = .offered ∨ state.phase = .accepted ∨ state.phase = .transferring then
        some (state.terminate .cancelled)
      else none
  | .revoke =>
      if state.phase = .bound then some .default
      else if state.phase = .offered ∨ state.phase = .accepted ∨ state.phase = .transferring then
        some (state.terminate .cancelled)
      else none
  | .timeout =>
      if state.phase = .offered ∨ state.phase = .accepted ∨ state.phase = .transferring then
        some (state.terminate .cancelled)
      else none
  | .expireResult => if state.resultCached = true then some .default else none

def apply (model : Model) (owner : Fin 2) (transition : Transition) : Option Model :=
  (model.owners[owner].apply transition).map fun state => ⟨model.owners.set owner state⟩

/-! ## Runs -/

/-- A transition that is not enabled leaves the owner as it is. -/
def drops : Machine DropState Transition Bool where
  step state transition :=
    match state.apply transition with
    | some next => (true, next)
    | none => (false, state)

/-- Steps of both owners in any order. -/
def interleaved : Machine Model (Fin 2 × Transition) Bool where
  step model move :=
    match apply model move.1 move.2 with
    | some next => (true, next)
    | none => (false, model)

/-- The steps of one owner. -/
def own (owner : Fin 2) (moves : List (Fin 2 × Transition)) : List Transition :=
  (moves.filter fun move => move.1 = owner).map Prod.snd

theorem own_snoc (owner : Fin 2) (moves : List (Fin 2 × Transition)) (move : Fin 2 × Transition) :
    own owner (moves ++ [move]) =
      own owner moves ++ if move.1 = owner then [move.2] else [] := by
  unfold own
  rw [List.filter_append, List.map_append]
  by_cases same : move.1 = owner
  · rw [if_pos same, List.filter_cons_of_pos (by simpa using same)]
    rfl
  · rw [if_neg same, List.filter_cons_of_neg (by simpa using same)]
    rfl

/-- A step of the model is a step of one owner. -/
theorem step_owner (model : Model) (move : Fin 2 × Transition) (owner : Fin 2) :
    (interleaved.step model move).2.owners[owner] =
      if move.1 = owner then (drops.step model.owners[owner] move.2).2 else model.owners[owner] := by
  obtain ⟨mover, transition⟩ := move
  unfold interleaved drops apply
  dsimp only
  by_cases same : mover = owner
  · rw [if_pos same, same]
    cases model.owners[owner].apply transition with
    | none => rfl
    | some next => simp
  · rw [if_neg same]
    cases model.owners[mover].apply transition with
    | none => rfl
    | some next =>
        have apart : (mover : Nat) ≠ owner := fun equal => same (Fin.ext equal)
        simp [Vector.getElem_set_ne, apart]

theorem final_owner (model : Model) (moves : List (Fin 2 × Transition)) (owner : Fin 2) :
    (interleaved.final model moves).owners[owner] =
      drops.final model.owners[owner] (own owner moves) := by
  induction moves using List.reverseRecOn with
  | nil => rfl
  | append_singleton moves move ih =>
      rw [interleaved.final_snoc, step_owner, own_snoc, ih]
      by_cases same : move.1 = owner
      · rw [if_pos same, if_pos same, drops.final_snoc]
      · rw [if_neg same, if_neg same, List.append_nil]

/-! ## Stages -/

/-- The states an owner comes to, by phase. -/
inductive Stage : DropState → Prop where
  | unbound : Stage .default
  | bound : Stage { DropState.default with phase := .bound }
  | offered : Stage { DropState.default with phase := .offered, sourceOpen := true }
  | accepted (generation offset : UInt8) (live : generation = 1 ∨ generation = 2)
      (within : offset ≤ 2) :
      Stage
        { DropState.default with
          phase := .accepted
          generation := generation
          offset := offset
          sourceOpen := true }
  | transferring (generation offset : UInt8) (live : generation = 1 ∨ generation = 2)
      (within : offset ≤ 2) :
      Stage
        { DropState.default with
          phase := .transferring
          generation := generation
          offset := offset
          sourceOpen := true
          temporaryVisible := true }
  | committed (generation : UInt8) (live : generation = 1 ∨ generation = 2) :
      Stage
        { DropState.default with
          phase := .committed
          generation := generation
          offset := 2
          finalVisible := true
          resultCached := true }
  | cancelled (offset : UInt8) (within : offset ≤ 2) :
      Stage { DropState.default with phase := .cancelled, offset := offset, resultCached := true }
  | failed (offset : UInt8) (within : offset ≤ 2) :
      Stage { DropState.default with phase := .failed, offset := offset, resultCached := true }

theorem Stage.check {state : DropState} (stage : Stage state) : state.check = true := by
  cases stage with
  | unbound => rfl
  | bound => rfl
  | offered => rfl
  | accepted generation offset live within =>
      rcases live with rfl | rfl <;> simpa [DropState.check, DropState.default] using within
  | transferring generation offset live within =>
      rcases live with rfl | rfl <;> simpa [DropState.check, DropState.default] using within
  | committed generation live =>
      rcases live with rfl | rfl <;> rfl
  | cancelled offset within => simpa [DropState.check, DropState.default] using within
  | failed offset within => simpa [DropState.check, DropState.default] using within

theorem succ_le {value : UInt8} (below : value < 2) : value + 1 ≤ 2 := by
  rw [UInt8.lt_iff_toNat_lt] at below
  rw [UInt8.le_iff_toNat_le, UInt8.toNat_add]
  have two : UInt8.toNat 2 = 2 := rfl
  have one : UInt8.toNat 1 = 1 := rfl
  omega

theorem Stage.apply {state next : DropState} {transition : Transition} (stage : Stage state)
    (applied : state.apply transition = some next) : Stage next := by
  cases stage with
  | unbound =>
      cases transition <;> cases applied
      exact .bound
  | bound =>
      cases transition <;> cases applied
      · exact .offered
      · exact .unbound
  | offered =>
      cases transition <;> cases applied
      · exact .accepted 1 0 (.inl rfl) (by decide)
      · exact .cancelled 0 (by decide)
      · exact .cancelled 0 (by decide)
      · exact .cancelled 0 (by decide)
  | accepted generation offset live within =>
      rcases live with rfl | rfl <;> cases transition <;> cases applied
      · exact .accepted 1 offset (.inl rfl) within
      · exact .transferring 1 offset (.inl rfl) within
      · exact .accepted 2 offset (.inr rfl) within
      · exact .cancelled offset within
      · exact .cancelled offset within
      · exact .cancelled offset within
      · exact .accepted 2 offset (.inr rfl) within
      · exact .transferring 2 offset (.inr rfl) within
      · exact .accepted 2 offset (.inr rfl) within
      · exact .cancelled offset within
      · exact .cancelled offset within
      · exact .cancelled offset within
  | transferring generation offset live within =>
      cases transition with
      | giveCreditAndData =>
          obtain ⟨⟨-, below⟩, same⟩ := Option.ite_none_right_eq_some.mp applied
          cases same
          exact .transferring generation (offset + 1) live (succ_le below)
      | loseConnection =>
          cases applied
          exact .accepted generation offset live within
      | staleConnectionData =>
          obtain ⟨-, same⟩ := Option.ite_none_right_eq_some.mp applied
          cases same
          exact .transferring generation offset live within
      | finishValid =>
          obtain ⟨⟨-, whole⟩, same⟩ := Option.ite_none_right_eq_some.mp applied
          have whole : offset = 2 := whole
          rw [whole] at same
          cases same
          exact .committed generation live
      | finishCorrupt =>
          cases applied
          exact .failed offset within
      | cancel =>
          cases applied
          exact .cancelled offset within
      | revoke =>
          cases applied
          exact .cancelled offset within
      | timeout =>
          cases applied
          exact .cancelled offset within
      | _ => cases applied
  | committed generation live =>
      rcases live with rfl | rfl <;> cases transition <;> cases applied
      · exact .committed 1 (.inl rfl)
      · exact .committed 1 (.inl rfl)
      · exact .unbound
      · exact .committed 2 (.inr rfl)
      · exact .committed 2 (.inr rfl)
      · exact .committed 2 (.inr rfl)
      · exact .unbound
  | cancelled offset within =>
      cases transition <;> cases applied
      · exact .cancelled offset within
      · exact .cancelled offset within
      · exact .unbound
  | failed offset within =>
      cases transition <;> cases applied
      · exact .failed offset within
      · exact .failed offset within
      · exact .unbound

theorem drops_stage (transitions : List Transition) :
    Stage (drops.final .default transitions) := by
  refine drops.invariant_final Stage.unbound ?_ transitions
  intro state transition stage
  unfold drops
  dsimp only
  cases applied : state.apply transition with
  | none => exact stage
  | some next => exact stage.apply applied

/-! ## What a run does to a file -/

/-- How often the transition was applied. -/
def applied (transition : Transition) (history : List (Event DropState Transition Bool)) : Nat :=
  history.countP fun event => event.output && decide (event.input = transition)

/-- A transfer that was accepted and is not decided. -/
def DropState.live (state : DropState) : Bool :=
  decide (state.phase = .accepted ∨ state.phase = .transferring)

def DropState.waiting (state : DropState) : Bool := decide (state.phase = .offered)

/-- An acceptance uses up an offer and a commit an acceptance, of a whole file. -/
theorem apply_counts {state next : DropState} {transition : Transition}
    (steps : state.apply transition = some next) :
    (decide (transition = .accept)).toNat + next.waiting.toNat ≤
        (decide (transition = .offer)).toNat + state.waiting.toNat ∧
      (decide (transition = .finishValid)).toNat + next.live.toNat ≤
        (decide (transition = .accept)).toNat + state.live.toNat ∧
      (transition = .finishValid → state.offset = 2) := by
  cases transition <;> dsimp only [DropState.apply] at steps <;> split_ifs at steps with phase <;>
    cases steps <;>
    simp_all [DropState.waiting, DropState.live, DropState.terminate, DropState.default]

theorem le_succ {value : UInt8} (below : value < 2) : value ≤ value + 1 := by
  rw [UInt8.lt_iff_toNat_lt] at below
  rw [UInt8.le_iff_toNat_le, UInt8.toNat_add]
  have two : UInt8.toNat 2 = 2 := rfl
  have one : UInt8.toNat 1 = 1 := rfl
  omega

/-- A live transfer keeps its prefix and never goes back to an old generation. -/
theorem apply_live {state next : DropState} {transition : Transition}
    (steps : state.apply transition = some next) (before : state.live = true)
    (after : next.live = true) : state.offset ≤ next.offset ∧ state.generation ≤ next.generation := by
  cases transition <;> dsimp only [DropState.apply] at steps <;> split_ifs at steps with phase <;>
    cases steps <;>
    simp_all [DropState.live, DropState.terminate, DropState.default, le_succ]

/-- What holds of an owner along a run. -/
structure Kept (past : List (Event DropState Transition Bool)) (state : DropState) : Prop where
  stage : Stage state
  offers : applied .accept past + state.waiting.toNat ≤ applied .offer past
  commits : applied .finishValid past + state.live.toNat ≤ applied .accept past
  whole : ∀ event ∈ past, event.input = .finishValid → event.output = true →
    event.before.offset = 2
  prefixes : ∀ event ∈ past, event.before.live = true → event.after.live = true →
    event.before.offset ≤ event.after.offset ∧ event.before.generation ≤ event.after.generation

theorem applied_snoc (transition : Transition) (past : List (Event DropState Transition Bool))
    (event : Event DropState Transition Bool) :
    applied transition (past ++ [event]) =
      applied transition past + (event.output && decide (event.input = transition)).toNat := by
  unfold applied
  rw [List.countP_append, List.countP_singleton]
  cases event.output && decide (event.input = transition) <;> rfl

theorem Kept.step {past : List (Event DropState Transition Bool)} {state : DropState}
    (kept : Kept past state) (transition : Transition) :
    Kept (past ++ [drops.event state transition]) (drops.step state transition).2 := by
  have offers := kept.offers
  have commits := kept.commits
  cases steps : state.apply transition with
  | none =>
      have idle : drops.step state transition = (false, state) := by
        unfold drops
        dsimp only
        rw [steps]
      rw [Machine.event, idle]
      refine ⟨kept.stage, ?_, ?_, ?_, ?_⟩
      · simpa only [applied_snoc, Bool.false_and, Bool.toNat_false, Nat.add_zero] using offers
      · simpa only [applied_snoc, Bool.false_and, Bool.toNat_false, Nat.add_zero] using commits
      · exact forall_snoc kept.whole nofun
      · exact forall_snoc kept.prefixes fun _ _ => ⟨UInt8.le_refl _, UInt8.le_refl _⟩
  | some next =>
      have moves : drops.step state transition = (true, next) := by
        unfold drops
        dsimp only
        rw [steps]
      obtain ⟨offered, committed, whole⟩ := apply_counts steps
      rw [Machine.event, moves]
      refine ⟨kept.stage.apply steps, ?_, ?_, ?_, ?_⟩
      · simp only [applied_snoc, Bool.true_and]
        omega
      · simp only [applied_snoc, Bool.true_and]
        omega
      · exact forall_snoc kept.whole fun same _ => whole same
      · exact forall_snoc kept.prefixes fun before after => apply_live steps before after

theorem kept_run (transitions : List Transition) :
    Kept (drops.history .default transitions) (drops.final .default transitions) := by
  have start : Kept [] .default :=
    { stage := .unbound
      offers := Nat.le_refl 0
      commits := Nat.le_refl 0
      whole := fun _ among => nomatch among
      prefixes := fun _ among => nomatch among }
  have step : ∀ past state transition, Kept past state →
      Kept (past ++ [drops.event state transition]) (drops.step state transition).2 :=
    fun _ _ transition kept => kept.step transition
  exact drops.history_induction start step transitions

/-- Whatever the owners do, in any order: what became of one is what its own steps
make of it, and it passes every check.  It commits at most once for an acceptance,
which it has at most once for an offer, and only the whole file.  While a transfer is
live, lost connections and new generations keep the prefix. -/
theorem lifecycle_safe (moves : List (Fin 2 × Transition)) (owner : Fin 2) :
    let state := (interleaved.final .default moves).owners[owner]
    let history := drops.history .default (own owner moves)
    state = drops.final .default (own owner moves) ∧ state.check = true ∧
      applied .accept history ≤ applied .offer history ∧
      applied .finishValid history ≤ applied .accept history ∧
      (∀ event ∈ history, event.input = .finishValid → event.output = true →
        event.before.offset = 2) ∧
      ∀ event ∈ history, event.before.live = true → event.after.live = true →
        event.before.offset ≤ event.after.offset ∧
          event.before.generation ≤ event.after.generation := by
  intro state history
  have same : state = drops.final .default (own owner moves) := by
    have start : Model.default.owners[owner] = DropState.default := by simp [Model.default]
    have final := final_owner .default moves owner
    rw [start] at final
    exact final
  have kept := kept_run (own owner moves)
  refine ⟨same, ?_, ?_, ?_, kept.whole, kept.prefixes⟩
  · rw [same]
    exact kept.stage.check
  · exact (Nat.le_add_right _ _).trans kept.offers
  · exact (Nat.le_add_right _ _).trans kept.commits

end VividProtocol.FileDrop.Lifecycle

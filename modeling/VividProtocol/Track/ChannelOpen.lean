import Mathlib.Tactic
import VividProtocol.Messages
import VividProtocol.Library.Transition

/-!
# Channel opening

`ChannelOpenState` of `track.rs`: the one accepted opening of a track channel,
whether its transport is live and whether it carried media.
-/

set_option autoImplicit false

namespace VividProtocol.Track

open VividProtocol.Library.Transition

structure AcceptedOpen where
  generation : ChannelGeneration
  nonce : Bytes 16
  openHash : Bytes 32
  acceptance : PayloadMap
  transportLive : Bool
  mediaAdmitted : Bool

inductive ChannelOpenDecision where
  | fresh (acceptance : PayloadMap)
  | exactReplay (acceptance : PayloadMap)
  | busy
  | differentBytes
  | staleGeneration

structure ChannelOpenState where
  accepted : Option AcceptedOpen

/-- The arguments of `open` beside the current generation. -/
structure OpenRequest where
  generation : ChannelGeneration
  nonce : Bytes 16
  completeOpenBytes : List UInt8
  acceptance : PayloadMap

namespace ChannelOpenState

/-- `ChannelOpenState::default()`. -/
def default : ChannelOpenState := { accepted := none }

/-- The opening a fresh decision records. -/
def record (sha256 : Sha256) (request : OpenRequest) : AcceptedOpen :=
  { generation := request.generation
    nonce := request.nonce
    openHash := sha256 request.completeOpenBytes
    acceptance := request.acceptance
    transportLive := true
    mediaAdmitted := false }

def «open» (sha256 : Sha256) (state : ChannelOpenState)
    (currentGeneration : ChannelGeneration) (request : OpenRequest) :
    ChannelOpenDecision × ChannelOpenState :=
  if request.generation ≠ currentGeneration then (.staleGeneration, state)
  else
    match state.accepted with
    | none => (.fresh request.acceptance, { accepted := some (record sha256 request) })
    | some accepted =>
        if accepted.generation ≠ request.generation then
          (.fresh request.acceptance, { accepted := some (record sha256 request) })
        else if accepted.nonce ≠ request.nonce ∨
            accepted.openHash ≠ sha256 request.completeOpenBytes then
          (.differentBytes, state)
        else if accepted.transportLive then (.busy, state)
        else if accepted.mediaAdmitted then (.staleGeneration, state)
        else
          (.exactReplay accepted.acceptance,
            { accepted := some { accepted with transportLive := true } })

def admitMedia (state : ChannelOpenState) (generation : ChannelGeneration) :
    Except MessageError Unit × ChannelOpenState :=
  match state.accepted with
  | none => (.error (invalidValue "media record" 0 "has no accepted channel"), state)
  | some accepted =>
      if accepted.generation ≠ generation ∨ accepted.transportLive = false then
        (.error (invalidValue "media record" 0 "does not use the accepted live channel"), state)
      else (.ok (), { accepted := some { accepted with mediaAdmitted := true } })

def transportLost (state : ChannelOpenState) (generation : ChannelGeneration) :
    ChannelOpenState :=
  match state.accepted with
  | none => state
  | some accepted =>
      if accepted.generation = generation then
        { accepted := some { accepted with transportLive := false } }
      else state

def advance (_ : ChannelOpenState) : ChannelOpenState := { accepted := none }

end ChannelOpenState

/-! ## Runs -/

inductive ChannelOperation where
  | «open» (currentGeneration : ChannelGeneration) (request : OpenRequest)
  | admitMedia (generation : ChannelGeneration)
  | transportLost (generation : ChannelGeneration)
  | advance

inductive ChannelOutcome where
  | opened (decision : ChannelOpenDecision)
  | admitted (result : Except MessageError Unit)
  | done

def channelStep (sha256 : Sha256) (state : ChannelOpenState) :
    ChannelOperation → ChannelOutcome × ChannelOpenState
  | .open currentGeneration request =>
      let (decision, state) := state.open sha256 currentGeneration request
      (.opened decision, state)
  | .admitMedia generation =>
      let (result, state) := state.admitMedia generation
      (.admitted result, state)
  | .transportLost generation => (.done, state.transportLost generation)
  | .advance => (.done, state.advance)

def channelRuns (sha256 : Sha256) :
    Machine ChannelOpenState ChannelOperation ChannelOutcome :=
  { step := channelStep sha256 }

abbrev ChannelEvent := Event ChannelOpenState ChannelOperation ChannelOutcome

/-! ## What one operation can do -/

def ChannelOpenDecision.grants : ChannelOpenDecision → Bool
  | .fresh _ => true
  | .exactReplay _ => true
  | _ => false

inductive ChannelEffect (sha256 : Sha256) (state : ChannelOpenState) :
    ChannelOperation → ChannelOutcome → ChannelOpenState → Prop where
  | declined {current : ChannelGeneration} {request : OpenRequest}
      {decision : ChannelOpenDecision} (refused : decision.grants = false) :
      ChannelEffect sha256 state (.open current request) (.opened decision) state
  | fresh {request : OpenRequest}
      (other : ∀ accepted, state.accepted = some accepted →
        accepted.generation ≠ request.generation) :
      ChannelEffect sha256 state (.open request.generation request)
        (.opened (.fresh request.acceptance))
        { accepted := some (ChannelOpenState.record sha256 request) }
  | replayed {request : OpenRequest} {accepted : AcceptedOpen}
      (stored : state.accepted = some accepted)
      (generation : accepted.generation = request.generation)
      (nonce : accepted.nonce = request.nonce)
      (hash : accepted.openHash = sha256 request.completeOpenBytes)
      (dead : accepted.transportLive = false) (quiet : accepted.mediaAdmitted = false) :
      ChannelEffect sha256 state (.open request.generation request)
        (.opened (.exactReplay accepted.acceptance))
        { accepted := some { accepted with transportLive := true } }
  | mediaRefused {generation : ChannelGeneration} (error : MessageError) :
      ChannelEffect sha256 state (.admitMedia generation) (.admitted (.error error)) state
  | mediaAdmitted {accepted : AcceptedOpen} (stored : state.accepted = some accepted)
      (live : accepted.transportLive = true) :
      ChannelEffect sha256 state (.admitMedia accepted.generation) (.admitted (.ok ()))
        { accepted := some { accepted with mediaAdmitted := true } }
  | lost {accepted : AcceptedOpen} (stored : state.accepted = some accepted) :
      ChannelEffect sha256 state (.transportLost accepted.generation) .done
        { accepted := some { accepted with transportLive := false } }
  | unrelated {generation : ChannelGeneration}
      (other : ∀ accepted, state.accepted = some accepted →
        accepted.generation ≠ generation) :
      ChannelEffect sha256 state (.transportLost generation) .done state
  | advanced : ChannelEffect sha256 state .advance .done { accepted := none }

variable (sha256 : Sha256) (state : ChannelOpenState)

theorem open_effect (current : ChannelGeneration) (request : OpenRequest) :
    ChannelEffect sha256 state (.open current request)
      (.opened (state.open sha256 current request).1)
      (state.open sha256 current request).2 := by
  unfold ChannelOpenState.open
  by_cases stale : request.generation ≠ current
  · rw [if_pos stale]
    exact .declined rfl
  rw [if_neg stale]
  have same := not_not.mp stale
  subst same
  cases stored : state.accepted with
  | none =>
      apply ChannelEffect.fresh
      intro accepted isStored
      rw [stored] at isStored
      cases isStored
  | some accepted =>
      dsimp only
      by_cases moved : accepted.generation ≠ request.generation
      · rw [if_pos moved]
        apply ChannelEffect.fresh
        intro other isStored
        rw [stored] at isStored
        cases isStored
        exact moved
      rw [if_neg moved]
      by_cases different : accepted.nonce ≠ request.nonce ∨
          accepted.openHash ≠ sha256 request.completeOpenBytes
      · rw [if_pos different]
        exact .declined rfl
      rw [if_neg different]
      rw [not_or, not_not, not_not] at different
      by_cases live : accepted.transportLive = true
      · rw [if_pos live]
        exact .declined rfl
      rw [if_neg live]
      by_cases media : accepted.mediaAdmitted = true
      · rw [if_pos media]
        exact .declined rfl
      rw [if_neg media]
      exact .replayed stored (not_not.mp moved) different.1 different.2
        (Bool.eq_false_iff.mpr live) (Bool.eq_false_iff.mpr media)

theorem admitChannelMedia_effect (generation : ChannelGeneration) :
    ChannelEffect sha256 state (.admitMedia generation)
      (.admitted (state.admitMedia generation).1) (state.admitMedia generation).2 := by
  unfold ChannelOpenState.admitMedia
  cases stored : state.accepted with
  | none => exact .mediaRefused _
  | some accepted =>
      dsimp only
      by_cases wrong : accepted.generation ≠ generation ∨ accepted.transportLive = false
      · rw [if_pos wrong]
        exact .mediaRefused _
      · rw [if_neg wrong]
        rw [not_or, not_not, Bool.not_eq_false] at wrong
        obtain ⟨same, live⟩ := wrong
        subst same
        exact .mediaAdmitted stored live

theorem transportLost_effect (generation : ChannelGeneration) :
    ChannelEffect sha256 state (.transportLost generation) .done
      (state.transportLost generation) := by
  unfold ChannelOpenState.transportLost
  cases stored : state.accepted with
  | none =>
      apply ChannelEffect.unrelated
      intro accepted isStored
      rw [stored] at isStored
      cases isStored
  | some accepted =>
      dsimp only
      by_cases same : accepted.generation = generation
      · rw [if_pos same]
        subst same
        exact .lost stored
      · rw [if_neg same]
        apply ChannelEffect.unrelated
        intro other isStored
        rw [stored] at isStored
        cases isStored
        exact same

theorem channelStep_effect (operation : ChannelOperation) :
    ChannelEffect sha256 state operation (channelStep sha256 state operation).1
      (channelStep sha256 state operation).2 := by
  cases operation with
  | «open» current request => exact open_effect sha256 state current request
  | admitMedia generation => exact admitChannelMedia_effect sha256 state generation
  | transportLost generation => exact transportLost_effect sha256 state generation
  | advance => exact .advanced

end VividProtocol.Track

import Mathlib.Tactic
import VividProtocol.Overlay.State

/-!
# Emitting and revoking

An event that is invalid or does not fit the queue revokes its owner, the loss
of a focused owner hands the focus on, and the window that gains it is sent an
event in turn.  The source recurses through `emit`, `revoke_owner`,
`restore_focus` and `change_focus`; here the part that recurses is the loop
`refocusWithin`, bounded by the focus history, which every round shortens.
-/

set_option autoImplicit false

namespace VividProtocol.Overlay

open VividProtocol.Library

namespace Windows

variable (state : Windows)

/-- The event of a live window as it is queued. -/
def stamp (window : Window) (id : SurfaceIdentity) (event : Event) : WindowEvent :=
  { window := id
    generation := window.generation
    revision := window.revision
    sceneRevision := window.sceneRevision
    event := event }

/-- A queue replaced by one that ends in a new event. -/
def push (owner : SessionIdentity) (queue : List WindowEvent) (event : WindowEvent) : Windows :=
  { state with
    events := state.events.insert owner queue
    journal := state.journal ++ [.queued event] }

/-- `emit` up to the point where it revokes the owner, which is `none`. -/
def deliver (id : SurfaceIdentity) (event : Event) : Option Windows :=
  if ! validEvent event then none
  else
    match state.windows[id]? with
    | none => some state
    | some window =>
        match state.events[id.context.session]? with
        | none => some state
        | some queue =>
            (enqueue queue (stamp window id event)).map fun queue =>
              state.push id.context.session queue (stamp window id event)

/-- `revoke_owner` up to the focus. -/
def dropOwner (owner : SessionIdentity) : Windows :=
  let ids := state.stack.filter (ownedBy owner)
  let kept : Windows :=
    { state with
      overflowed := state.overflowed.erase owner
      events := state.events.erase owner
      focusHistory := state.focusHistory.filter fun id => ! ownedBy owner id }
  let removed := ids.foldl remove kept
  { removed with
    capture := state.capture.filter fun capture => ! ownedBy owner capture.window }

def clearFocus : Windows := { state with focus := none }

/-- The owner is marked as overflowed. -/
def markOverflow (owner : SessionIdentity) : Windows :=
  { state with overflowed := insert owner state.overflowed }

/-- `restore_focus` while nothing is focused: the candidate is told, and where
that overflows its owner is revoked and the next candidate is tried. -/
def refocusWithin : Nat → Windows → Windows
  | 0, state => state
  | rounds + 1, state =>
      match state.focusCandidate with
      | none => state
      | some next =>
          let focused := { state with focus := some next }
          match focused.deliver next (.focus true) with
          | some told => told
          | none =>
              let owner := next.context.session
              (refocusWithin rounds (focused.dropOwner owner).clearFocus).markOverflow owner

def refocus : Windows := refocusWithin state.focusHistory.length state

def revokeOwner (owner : SessionIdentity) : Windows :=
  let dropped := state.dropOwner owner
  if dropped.focusOwnedBy owner then dropped.clearFocus.refocus else dropped

def emit (id : SurfaceIdentity) (event : Event) : Windows :=
  match state.deliver id event with
  | some told => told
  | none => (state.revokeOwner id.context.session).markOverflow id.context.session

/-! ## Focus -/

/-- The window that loses the focus is told. -/
def leaveFocus : Windows :=
  match state.focus with
  | none => state
  | some old => (state.clearFocus.emit old .cancel).emit old (.focus false)

def changeFocus (next : Option SurfaceIdentity) : Windows :=
  if state.focus = next then state
  else
    let moved := { state.leaveFocus with focus := next }
    match next with
    | none => moved
    | some id => moved.emit id (.focus true)

def restoreFocus : Windows := state.changeFocus state.focusCandidate

/-- `request_focus` of an eligible window. -/
def takeFocus (id : SurfaceIdentity) : Windows :=
  ((state.raiseGroup id).remember id).changeFocus (some id)

def requestFocus (id : SurfaceIdentity) : Except InvalidScene Unit × Windows :=
  if ! state.eligible id then
    (.error ⟨"window is hidden or blocked by a modal"⟩, state)
  else (.ok (), state.takeFocus id)

/-! ## Hover and capture -/

/-- Both are absent, or both are the same region of the same window. -/
def sameHover : Option Hover → Option Hover → Bool
  | none, none => true
  | some left, some right =>
      decide (left.window = right.window) && decide (left.region = right.region)
  | _, _ => false

/-- The region the pointer leaves is told. -/
def leaveHover : Windows :=
  match state.hover with
  | none => state
  | some previous => state.emit previous.window (.hover previous.region false)

def setHover (next : Option Hover) : Windows :=
  if sameHover state.hover next then { state with hover := next }
  else
    let moved := { state.leaveHover with hover := next }
    match next with
    | none => moved
    | some current => moved.emit current.window (.hover current.region true)

/-- The pointer is captured by a window. -/
def capturedBy (id : SurfaceIdentity) : Bool :=
  state.capture.any fun capture => decide (capture.window = id)

/-- The pointer is in a window. -/
def hovers (id : SurfaceIdentity) : Bool :=
  state.hover.any fun hover => decide (hover.window = id)

def releasePointer (id : SurfaceIdentity) : Windows :=
  if state.capturedBy id then { state with capture := none } else state

def cancelCapture (id : SurfaceIdentity) : Windows :=
  if state.capturedBy id then { state with capture := none }.emit id .cancel else state

/-! ## Closing -/

def forget (id : SurfaceIdentity) : Windows :=
  { state.remove id with
    focusHistory := state.focusHistory.filter fun key => decide (key ≠ id) }

/-- `remove_one` up to the removal. -/
def dismiss (id : SurfaceIdentity) (reason : DismissReason) : Windows :=
  let released := state.cancelCapture id
  let left := if released.hovers id then released.setHover none else released
  let unfocused := if left.focus = some id then left.changeFocus none else left
  unfocused.emit id (.dismissed reason)

def removeOne (id : SurfaceIdentity) (reason : DismissReason) : Windows :=
  (state.dismiss id reason).forget id

/-- The descendants of a window without itself, topmost first. -/
def children (id : SurfaceIdentity) : List SurfaceIdentity :=
  state.stack.reverse.filter fun child => decide (child ≠ id) && state.descendant child id

/-- `close` up to the focus. -/
def removeGroup (id : SurfaceIdentity) (reason : DismissReason) : Windows :=
  ((state.children id).foldl (fun state child => state.removeOne child .parentClosed)
    state).removeOne id reason

def close (id : SurfaceIdentity) (reason : DismissReason) : Windows :=
  (state.removeGroup id reason).restoreFocus

end Windows

end VividProtocol.Overlay

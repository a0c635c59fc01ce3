import Mathlib.Tactic
import VividProtocol.Library.OrderedMap
import VividProtocol.Overlay.Event

/-!
# The window state

`Windows` of `overlay.rs` with the questions it answers: which modal is on top,
which windows are eligible for input, and what lies under a point.
-/

set_option autoImplicit false

namespace VividProtocol.Overlay

open VividProtocol.Library

/-- An entry of the journal: a window was created, or an event was queued. -/
inductive Note where
  | created (id : SurfaceIdentity)
  | queued (event : WindowEvent)
  deriving Repr, DecidableEq

/-- The fields of the source, and a journal of what was created and queued that
the source does not keep: it is only written, and no function reads it. -/
structure Windows where
  windows : OrderedMap SurfaceIdentity Window
  stack : List SurfaceIdentity
  focus : Option SurfaceIdentity
  hover : Option Hover
  focusHistory : List SurfaceIdentity
  swallowedButtons : Finset UInt16
  swallowedEscape : Bool
  capture : Option Capture
  events : OrderedMap SessionIdentity (List WindowEvent)
  overflowed : Finset SessionIdentity
  journal : List Note

/-- The session of a window. -/
def ownedBy (owner : SessionIdentity) (id : SurfaceIdentity) : Bool :=
  decide (id.context.session = owner)

namespace Windows

/-- `Windows::default()`. -/
def default : Windows :=
  { windows := ∅
    stack := []
    focus := none
    hover := none
    focusHistory := []
    swallowedButtons := ∅
    swallowedEscape := false
    capture := none
    events := ∅
    overflowed := ∅
    journal := [] }

variable (state : Windows)

def get (id : SurfaceIdentity) : Option Window := state.windows[id]?

/-- The parent a window names, if it is live and names one. -/
def parent? (id : SurfaceIdentity) : Option SurfaceIdentity :=
  (state.windows[id]?).bind fun window => window.options.parent

/-- The loop of `descendant`, with the rounds that are left. -/
def descendantWithin : Nat → SurfaceIdentity → SurfaceIdentity → Bool
  | 0, _, _ => false
  | rounds + 1, id, parent =>
      if id = parent then true
      else
        match state.parent? id with
        | none => false
        | some next => descendantWithin rounds next parent

def descendant (id parent : SurfaceIdentity) : Bool :=
  state.descendantWithin MAX_WINDOWS id parent

/-- The loop of `effectively_visible`, with the rounds that are left. -/
def visibleWithin : Nat → SurfaceIdentity → Bool
  | 0, _ => false
  | rounds + 1, id =>
      match state.windows[id]? with
      | none => false
      | some window =>
          if ! window.options.visible then false
          else
            match window.options.parent with
            | some parent => visibleWithin rounds parent
            | none => true

def effectivelyVisible (id : SurfaceIdentity) : Bool := state.visibleWithin MAX_WINDOWS id

def visible : List Window :=
  (state.stack.filterMap state.get).filter fun window =>
    state.effectivelyVisible window.identity

def topModal : Option SurfaceIdentity :=
  ((state.visible.filter fun window => decide (window.options.mode = .modal)).getLast?).map
    fun window => window.identity

def eligible (id : SurfaceIdentity) : Bool :=
  state.effectivelyVisible id && state.topModal.all fun modal => state.descendant id modal

def focusCandidate : Option SurfaceIdentity := state.focusHistory.reverse.find? state.eligible

/-- `top_modal().is_some()`. -/
def blocked : Bool := state.topModal.isSome

/-- `top_modal().is_some_and(|m| m.context.session != owner)`. -/
def modalOfAnother (owner : SessionIdentity) : Bool :=
  state.topModal.any fun modal => ! ownedBy owner modal

def localPoint (id : SurfaceIdentity) (point : Point) : Option Point :=
  match state.windows[id]? with
  | none => none
  | some window =>
      match Point.new (point.x.raw - window.options.bounds.origin.x.raw)
          (point.y.raw - window.options.bounds.origin.y.raw) with
      | .ok point => some point
      | .error _ => none

/-- The closure of `wheel` and `target_at`: a window that contains a point and is
hit there by a region that is not transparent. -/
def touch {Region : Type} (role : Region → HitRole) (position : Point)
    (hit : SurfaceIdentity → Point → Option Region) (id : SurfaceIdentity) :
    Option (SurfaceIdentity × Point × Region) :=
  match state.windows[id]? with
  | none => none
  | some window =>
      if ! window.options.bounds.contains position then none
      else
        match state.localPoint id position with
        | none => none
        | some inside =>
            match hit id inside with
            | none => none
            | some target => if role target = .transparent then none else some (id, inside, target)

/-- The search of `wheel` and `target_at`, from the top of the stack. -/
def topmostHit {Region : Type} (role : Region → HitRole) (position : Point)
    (hit : SurfaceIdentity → Point → Option Region) :
    Option (SurfaceIdentity × Point × Region) :=
  (state.stack.reverse.filter state.eligible).findSome? (state.touch role position hit)

def targetAt (position : Point) (hit : SurfaceIdentity → Point → Option HitRegion) :
    Option (SurfaceIdentity × Point × HitRegion) :=
  state.topmostHit HitRegion.role position hit

/-- `visible()` with the mode of a popup that may take input, the last of them. -/
def foremostPopup : Option Window :=
  (state.visible.filter fun window =>
    decide (window.options.mode = .popup) && state.eligible window.identity).getLast?

def hoveredWindow : Option SurfaceIdentity := state.hover.map Hover.window

def cursor : Option CursorShape :=
  (state.capture.bind Capture.cursor).or (state.hover.bind Hover.cursor)

/-- A slot names a window of an owner. -/
def focusOwnedBy (owner : SessionIdentity) : Bool := state.focus.any (ownedBy owner)

/-! ## Single changes -/

/-- A window leaves the map and the stack. -/
def remove (id : SurfaceIdentity) : Windows :=
  { state with
    windows := state.windows.erase id
    stack := state.stack.filter fun key => decide (key ≠ id) }

/-- The descendants of a window, itself included, in stack order. -/
def group (id : SurfaceIdentity) : List SurfaceIdentity :=
  state.stack.filter fun child => state.descendant child id

/-- The stack without a group. -/
def outside (group : List SurfaceIdentity) : List SurfaceIdentity :=
  state.stack.filter fun key => ! group.contains key

def raiseGroup (id : SurfaceIdentity) : Windows :=
  { state with stack := state.outside (state.group id) ++ state.group id }

/-- The arm of `apply_action` that lowers: behind its siblings, or right above its parent. -/
def lowerGroup (id : SurfaceIdentity) : Windows :=
  let group := state.group id
  let rest := state.outside group
  let index :=
    match (state.parent? id).bind fun parent => rest.findIdx? fun key => decide (key = parent) with
    | none => 0
    | some index => index + 1
  { state with stack := rest.take index ++ group ++ rest.drop index }

/-- A window becomes the latest of the focus history. -/
def remember (id : SurfaceIdentity) : Windows :=
  { state with focusHistory := (state.focusHistory.filter fun key => decide (key ≠ id)) ++ [id] }

end Windows

end VividProtocol.Overlay

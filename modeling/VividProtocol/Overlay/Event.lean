import Mathlib.Tactic
import VividProtocol.Identity
import VividProtocol.Overlay.Geometry

/-!
# Windows and their events

The window options, the events and the limits of `overlay.rs`, with the checks
an event passes before it is queued.
-/

set_option autoImplicit false

namespace VividProtocol.Overlay

def MAX_WINDOWS : Nat := 256
def MAX_WINDOWS_PER_OWNER : Nat := 32
def MAX_PENDING_EVENTS : Nat := 256
def MAX_CLICKS : UInt8 := 3
def MAX_EVENT_TEXT_BYTES : Nat := 4096
def MAX_EVENT_QUEUE_BYTES : Nat := 128 * 1024
def MAX_OWNERS : Nat := 16

/-- `modifiers::KNOWN_MASK`. -/
def MODIFIERS_KNOWN_MASK : UInt32 := 63

/-- `buttons::MAXIMUM`. -/
def BUTTONS_MAXIMUM : UInt16 := 31

/-- `keys::valid`. -/
def validKey (usage : UInt32) : Bool :=
  decide (usage = 0) || (decide (0x04 ≤ usage) && decide (usage ≤ 0xe7))

/-! ## Options -/

inductive WindowMode where
  | floating
  | popup
  | modal
  deriving Repr, DecidableEq

structure WindowOptions where
  bounds : Rect
  mode : WindowMode
  visible : Bool
  parent : Option SurfaceIdentity
  minWidth : Scalar
  minHeight : Scalar
  deriving Repr, DecidableEq

namespace WindowOptions

def new (bounds : Rect) (mode : WindowMode) : WindowOptions :=
  { bounds := bounds
    mode := mode
    visible := true
    parent := none
    minWidth := .ONE
    minHeight := .ONE }

def validate (options : WindowOptions) : Except InvalidScene Unit := do
  options.bounds.validate
  if options.minWidth ≤ Scalar.ZERO ∨ options.minHeight ≤ Scalar.ZERO ∨
      options.bounds.width < options.minWidth ∨ options.bounds.height < options.minHeight then
    .error ⟨"window bounds are smaller than minimum size"⟩
  else .ok ()

end WindowOptions

structure Window where
  identity : SurfaceIdentity
  generation : UInt64
  revision : UInt64
  sceneRevision : UInt64
  options : WindowOptions
  deriving Repr, DecidableEq

/-! ## Events -/

inductive ScrollPhase where
  | none
  | began
  | changed
  | ended
  | cancelled
  deriving Repr, DecidableEq

structure Scroll where
  dx : Scalar
  dy : Scalar
  precise : Bool
  phase : ScrollPhase
  deriving Repr, DecidableEq

inductive DismissReason where
  | escape
  | outsidePress
  | closed
  | ownerLost
  | parentClosed
  deriving Repr, DecidableEq

inductive AccessibleAction where
  | default
  | focus
  | click
  | increment
  | decrement
  | expand
  | collapse
  deriving Repr, DecidableEq

inductive Event where
  | focus (gained : Bool)
  | pointer (position : Point) (region : UInt64) (button : Option (UInt16 × Bool))
      (modifiers : UInt32) (clicks : UInt8) (pressure : Option Scalar)
  | accessibility (node : UInt64) (action : AccessibleAction)
  | hover (region : UInt64) (entered : Bool)
  | wheel (position : Point) (dx dy : Scalar) (modifiers : UInt32) (precise : Bool)
      (phase : ScrollPhase)
  | key (physical : UInt32) (down repeated : Bool) (modifiers : UInt32)
  | text (text : String)
  | ime (preedit : String) (selection : Option (UInt32 × UInt32))
  | geometry (bounds : Rect) (settled : Bool)
  | dismissed (reason : DismissReason)
  | cancel
  deriving Repr, DecidableEq

structure WindowEvent where
  window : SurfaceIdentity
  generation : UInt64
  revision : UInt64
  sceneRevision : UInt64
  event : Event
  deriving Repr, DecidableEq

def eventBytes (event : Event) : Nat :=
  128 + match event with
    | .text text => text.utf8ByteSize
    | .ime preedit _ => preedit.utf8ByteSize
    | _ => 0

/-- `str::is_char_boundary`. -/
def isCharBoundary (text : String) (index : Nat) : Bool :=
  String.Pos.Raw.isValid text ⟨index⟩

/-- The selection of an input method lies in its text. -/
def validSelection (preedit : String) : Option (UInt32 × UInt32) → Bool
  | none => true
  | some (first, last) =>
      decide (first ≤ last) && decide (last.toNat ≤ preedit.utf8ByteSize) &&
        isCharBoundary preedit first.toNat && isCharBoundary preedit last.toNat

def knownModifiers (modifiers : UInt32) : Bool :=
  decide (modifiers &&& ~~~ MODIFIERS_KNOWN_MASK = 0)

def validEvent : Event → Bool
  | .pointer _ _ button modifiers clicks pressure =>
      knownModifiers modifiers && button.all (fun pair => decide (pair.1 ≤ BUTTONS_MAXIMUM)) &&
        decide (clicks ≤ MAX_CLICKS) &&
        pressure.all fun value => decide (Scalar.ZERO ≤ value) && decide (value ≤ Scalar.ONE)
  | .wheel _ _ _ modifiers _ _ => knownModifiers modifiers
  | .key physical _ _ modifiers => knownModifiers modifiers && validKey physical
  | .accessibility node _ => decide (node ≠ 0)
  | .geometry bounds _ => bounds.validate.isOk
  | .text text => decide (text.utf8ByteSize ≤ MAX_EVENT_TEXT_BYTES)
  | .ime preedit selection =>
      decide (preedit.utf8ByteSize ≤ MAX_EVENT_TEXT_BYTES) && validSelection preedit selection
  | .focus _ => true
  | .hover _ _ => true
  | .dismissed _ => true
  | .cancel => true

/-! ## Reports -/

structure PointerReport where
  position : Point
  button : Option (UInt16 × Bool)
  modifiers : UInt32
  clicks : UInt8
  pressure : Option Scalar
  deriving Repr, DecidableEq

/-- The button of a report goes down. -/
def PointerReport.presses (report : PointerReport) : Bool := report.button.any fun pair => pair.2

/-- The button of a report goes up. -/
def PointerReport.releases (report : PointerReport) : Bool :=
  report.button.any fun pair => ! pair.2

structure Capture where
  window : SurfaceIdentity
  role : HitRole
  start : Point
  bounds : Rect
  region : UInt64
  cursor : Option CursorShape
  deriving Repr, DecidableEq

structure Hover where
  window : SurfaceIdentity
  region : UInt64
  cursor : Option CursorShape
  deriving Repr, DecidableEq

/-! ## Queues -/

/-- Both events report motion, or both report geometry that is still moving. -/
def replaces : Event → Event → Bool
  | .pointer _ _ none _ _ _, .pointer _ _ none _ _ _ => true
  | .geometry _ false, .geometry _ false => true
  | _, _ => false

def coalesces (queue : List WindowEvent) (event : WindowEvent) : Bool :=
  queue.getLast?.any fun last =>
    decide (last.window = event.window) && decide (last.sceneRevision = event.sceneRevision) &&
      replaces last.event event.event

def queueBytes (queue : List WindowEvent) : Nat :=
  (queue.map fun event => eventBytes event.event).sum

/-- The queue with an event at its end, where the limits allow it. -/
def enqueue (queue : List WindowEvent) (event : WindowEvent) : Option (List WindowEvent) :=
  let queue := if coalesces queue event then queue.dropLast else queue
  if MAX_PENDING_EVENTS ≤ queue.length ∨
      MAX_EVENT_QUEUE_BYTES < queueBytes queue + eventBytes event.event then
    none
  else some (queue ++ [event])

end VividProtocol.Overlay

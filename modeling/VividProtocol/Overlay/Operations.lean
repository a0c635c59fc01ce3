import Mathlib.Tactic
import VividProtocol.Messages
import VividProtocol.Overlay.Emit
import VividProtocol.Library.Transition

/-!
# The operations of the window state

The public methods of `Windows`, the part of `overlay/wire.rs` that
`apply_action` checks, and the machine that runs them.  A refused call returns
the state it has reached, which the source does not roll back.
-/

set_option autoImplicit false

namespace VividProtocol.Overlay

open VividProtocol.Library
open VividProtocol.Library.Transition

/-! ## Actions on the wire -/

/-- `bad`. -/
def badOverlay (key : UInt64) (reason : String) : MessageError :=
  invalidValue "overlay" key reason

structure WindowAddress where
  contextId : UInt64
  surfaceId : UInt64
  generation : UInt64
  deriving Repr, DecidableEq

namespace WindowAddress

/-- `WindowAddress::identity`. -/
def toIdentity (address : WindowAddress) (owner : SessionIdentity) :
    Except MessageError SurfaceIdentity :=
  orInvalid "overlay" 0 "window identity must be nonzero" do
    let context ← owner.toContext address.contextId
    context.toSurface address.surfaceId

def validate (address : WindowAddress) (object : UInt64) : Except MessageError Unit := do
  validateHeaderObject object address.surfaceId
  if address.contextId = 0 ∨ address.surfaceId = 0 ∨ address.generation = 0 then
    .error (badOverlay 0 "identity and generation must be nonzero")
  else .ok ()

def payload (address : WindowAddress) : PayloadMap :=
  [(0, .unsigned address.contextId),
    (1, .unsigned address.surfaceId),
    (2, .unsigned address.generation)]

end WindowAddress

inductive WindowAction where
  | close
  | focus
  | raise
  | lower
  | center
  deriving Repr, DecidableEq

def WindowAction.index : WindowAction → UInt64
  | .close => 0
  | .focus => 1
  | .raise => 2
  | .lower => 3
  | .center => 4

structure Action where
  address : WindowAddress
  expectedRevision : UInt64
  action : WindowAction
  deriving Repr, DecidableEq

def Action.payload (action : Action) : Except MessageError PayloadMap := do
  action.address.validate action.address.surfaceId
  let _ ← requireNonzero "overlay" 3 action.expectedRevision
  .ok (action.address.payload ++
    [(3, .unsigned action.expectedRevision), (4, .unsigned action.action.index)])

structure Viewport where
  width : Scalar
  height : Scalar
  scaleNumerator : UInt32
  scaleDenominator : UInt32
  deriving Repr, DecidableEq

def Viewport.validate (viewport : Viewport) : Except MessageError Unit :=
  if viewport.width ≤ Scalar.ZERO ∨ viewport.height ≤ Scalar.ZERO ∨
      viewport.scaleNumerator = 0 ∨ viewport.scaleDenominator = 0 then
    .error (badOverlay 9 "viewport extent and scale must be positive")
  else .ok ()

/-- `map_err` to an `InvalidScene`. -/
def orScene {ε α : Type} (message : String) : Except ε α → Except InvalidScene α
  | .ok value => .ok value
  | .error _ => .error ⟨message⟩

namespace Windows

variable (state : Windows)

/-! ## Focus of the pane -/

/-- `set_pane_focus(false)`. -/
def losePaneFocus : Windows :=
  let released :=
    match state.capture with
    | none => state
    | some capture => { state with capture := none }.emit capture.window .cancel
  { released.changeFocus none with
    swallowedButtons := ∅
    swallowedEscape := false }

def setPaneFocus (focused : Bool) : Windows :=
  if focused then state.restoreFocus else state.losePaneFocus

/-! ## Windows -/

/-- The windows of a session, as `create` counts them. -/
def ownedCount (owner : SessionIdentity) : Nat :=
  (state.windows.keys.filter (ownedBy owner)).length

/-- `create` takes the focus for it. -/
def takesFocus (options : WindowOptions) : Bool :=
  options.visible && decide (options.mode ≠ .floating)

/-- The checks of `create`. -/
def admitCreate (id : SurfaceIdentity) (generation : UInt64) (options : WindowOptions) :
    Except InvalidScene Unit := do
  options.validate
  if generation = 0 ∨ id.context.contextId = 0 ∨ id.surfaceId = 0 then
    .error ⟨"window identity and generation must be nonzero"⟩
  else if state.windows.contains id then .error ⟨"window already exists"⟩
  else if id.context.session ∈ state.overflowed then
    .error ⟨"overlay owner input was revoked"⟩
  else if ¬ state.events.contains id.context.session ∧
      MAX_OWNERS ≤ state.events.size + state.overflowed.card then
    .error ⟨"overlay owner limit exceeded"⟩
  else if MAX_WINDOWS ≤ state.windows.size ∨
      MAX_WINDOWS_PER_OWNER ≤ state.ownedCount id.context.session then
    .error ⟨"window limit exceeded"⟩
  else if options.parent.any fun parent =>
      ! ownedBy id.context.session parent || ! state.windows.contains parent then
    .error ⟨"invalid parent owner or lifecycle"⟩
  else if options.visible ∧ options.mode = .modal ∧
      state.modalOfAnother id.context.session then
    .error ⟨"another owner holds the modal focus"⟩
  else if takesFocus options ∧ options.mode = .popup ∧
      (state.topModal.any fun modal =>
        ! options.parent.any fun parent => state.descendant parent modal) then
    .error ⟨"popup must descend from the active modal"⟩
  else .ok ()

/-- The window is inserted on top of the stack. -/
def insertWindow (id : SurfaceIdentity) (generation : UInt64) (options : WindowOptions) :
    Windows :=
  { state with
    windows :=
      state.windows.insert id
        { identity := id
          generation := generation
          revision := 1
          sceneRevision := 0
          options := options }
    events :=
      if state.events.contains id.context.session then state.events
      else state.events.insert id.context.session []
    stack := state.stack ++ [id]
    journal := state.journal ++ [.created id] }

def create (id : SurfaceIdentity) (generation : UInt64) (options : WindowOptions) :
    Except InvalidScene Unit × Windows :=
  match state.admitCreate id generation options with
  | .error error => (.error error, state)
  | .ok () =>
      let inserted := state.insertWindow id generation options
      if takesFocus options then inserted.requestFocus id else (.ok (), inserted)

/-- A live window is replaced by another version of itself. -/
def setWindow (id : SurfaceIdentity) (window : Window) : Windows :=
  { state with windows := state.windows.insert id window }

def publishScene (id : SurfaceIdentity) (generation sceneRevision : UInt64) :
    Except InvalidScene Unit × Windows :=
  match state.windows[id]? with
  | none => (.error ⟨"window does not exist"⟩, state)
  | some window =>
      if window.generation ≠ generation ∨ sceneRevision = 0 ∨
          sceneRevision ≤ window.sceneRevision then
        (.error ⟨"stale scene generation or revision"⟩, state)
      else (.ok (), state.setWindow id { window with sceneRevision := sceneRevision })

/-- The checks of `update` on a live window, and the revision it moves to. -/
def admitUpdate (id : SurfaceIdentity) (old : Window) (generation revision : UInt64)
    (options : WindowOptions) : Except InvalidScene UInt64 :=
  if old.generation ≠ generation ∨ old.revision ≠ revision then
    .error ⟨"stale window generation or revision"⟩
  else if options.parent ≠ old.options.parent ∨ options.mode ≠ old.options.mode then
    .error ⟨"window parent and mode are immutable"⟩
  else if options.visible ∧ options.mode = .modal ∧
      state.modalOfAnother id.context.session then
    .error ⟨"another owner holds modal focus"⟩
  else if options.visible ∧ options.mode = .popup ∧
      (state.topModal.any fun modal => ! state.descendant id modal) then
    .error ⟨"popup is blocked by the active modal"⟩
  else
    match checkedAdd revision 1 with
    | none => .error ⟨"window revision exhausted"⟩
    | some next => .ok next

/-- A window that was hidden loses the captures and the focus below it. -/
def hideGroup (id : SurfaceIdentity) : Windows :=
  let released := (state.group id).foldl cancelCapture state
  if released.focus.any fun focused => released.descendant focused id then
    (released.changeFocus none).restoreFocus
  else released

def update (id : SurfaceIdentity) (generation revision : UInt64) (options : WindowOptions) :
    Except InvalidScene UInt64 × Windows :=
  match options.validate with
  | .error error => (.error error, state)
  | .ok () =>
      match state.windows[id]? with
      | none => (.error ⟨"window does not exist"⟩, state)
      | some old =>
          match state.admitUpdate id old generation revision options with
          | .error error => (.error error, state)
          | .ok next =>
              let updated := state.setWindow id { old with options := options, revision := next }
              if old.options.visible ∧ ¬ options.visible then
                (.ok next, updated.hideGroup id)
              else if ¬ old.options.visible ∧ options.visible ∧ options.mode ≠ .floating then
                match updated.requestFocus id with
                | (.error error, refused) => (.error error, refused)
                | (.ok (), focused) => (.ok next, focused)
              else (.ok next, updated)

/-! ## Actions -/

/-- `(value / 2.).max(0.)`, rounded as `Scalar::new` rounds. -/
def halfOrZero (value : Int) : Int := if value ≤ 0 then 0 else (value + 1) / 2

/-- The bounds of a centered window. -/
def centered (viewport : Viewport) (bounds : Rect) : Except InvalidScene Rect := do
  let _ ← orScene "invalid viewport" viewport.validate
  Rect.new (halfOrZero (viewport.width.raw - bounds.width.raw))
    (halfOrZero (viewport.height.raw - bounds.height.raw)) bounds.width.raw bounds.height.raw

/-- The second `match` of `apply_action`: the action itself, before the revision moves. -/
def perform (id : SurfaceIdentity) : WindowAction → Except InvalidScene Unit × Windows
  | .focus => state.requestFocus id
  | .raise =>
      if ! state.eligible id then
        (.error ⟨"window is hidden or blocked by a modal"⟩, state)
      else (.ok (), state.raiseGroup id)
  | .lower =>
      if ! state.eligible id || state.blocked then
        (.error ⟨"lowering is blocked by visibility or an active modal"⟩, state)
      else (.ok (), state.lowerGroup id)
  | .center => (.ok (), state)
  | .close => (.ok (), state)

/-- The end of `apply_action`: the revision moves, and new bounds are told. -/
def settle (id : SurfaceIdentity) (next : UInt64) (bounds : Option Rect) :
    Except InvalidScene (Option UInt64) × Windows :=
  match state.windows[id]? with
  | none => (.error ⟨"window lost during action"⟩, state)
  | some window =>
      match bounds with
      | none => (.ok (some next), state.setWindow id { window with revision := next })
      | some bounds =>
          (.ok (some next),
            (state.setWindow id
              { window with
                revision := next
                options := { window.options with bounds := bounds } }).emit id
                  (.geometry bounds true))

def applyAction (owner : SessionIdentity) (action : Action) (viewport : Viewport) :
    Except InvalidScene (Option UInt64) × Windows :=
  match orScene "invalid window action" action.payload with
  | .error error => (.error error, state)
  | .ok _ =>
      match orScene "invalid window identity" (action.address.toIdentity owner) with
      | .error error => (.error error, state)
      | .ok id =>
          match state.windows[id]? with
          | none => (.error ⟨"window does not exist"⟩, state)
          | some old =>
              if old.generation ≠ action.address.generation ∨
                  old.revision ≠ action.expectedRevision then
                (.error ⟨"stale window generation or revision"⟩, state)
              else if action.action = .close then (.ok none, state.close id .closed)
              else
                match checkedAdd old.revision 1 with
                | none => (.error ⟨"window revision exhausted"⟩, state)
                | some next =>
                    let bounds :=
                      if action.action = .center then
                        (centered viewport old.options.bounds).map some
                      else .ok none
                    match bounds with
                    | .error error => (.error error, state)
                    | .ok bounds =>
                        match state.perform id action.action with
                        | (.error error, refused) => (.error error, refused)
                        | (.ok (), performed) => performed.settle id next bounds

/-! ## Queues -/

def takeOverflow (owner : SessionIdentity) : Bool × Windows :=
  (decide (owner ∈ state.overflowed),
    { state with overflowed := state.overflowed.erase owner })

def takeEvent (owner : SessionIdentity) : Option WindowEvent × Windows :=
  match state.events[owner]? with
  | none => (none, state)
  | some queue =>
      let rest := queue.tail
      let popped := { state with events := state.events.insert owner rest }
      if rest.isEmpty ∧ ¬ state.windows.keys.any (ownedBy owner) then
        (queue.head?, { popped with events := popped.events.erase owner })
      else (queue.head?, popped)

/-! ## Input -/

def capturePointer (id : SurfaceIdentity) (position : Point) :
    Except InvalidScene Unit × Windows :=
  if ! state.eligible id || decide (state.focus ≠ some id) then
    (.error ⟨"pointer capture requires eligible focus"⟩, state)
  else
    match state.windows[id]? with
    | none => (.error ⟨"window does not exist"⟩, state)
    | some window =>
        (.ok (),
          { state with
            capture :=
              some
                { window := id
                  role := .input
                  start := position
                  bounds := window.options.bounds
                  region := 0
                  cursor :=
                    (state.hover.filter fun hover => decide (hover.window = id)).bind
                      Hover.cursor } })

/-- `Event::Key { down: false, .. }`. -/
def releasesKey : Event → Bool
  | .key _ down _ _ => ! down
  | _ => false

/-- `Event::Key { down: true, repeat: false, .. }`. -/
def pressesKey : Event → Bool
  | .key _ down repeated _ => down && ! repeated
  | _ => false

/-- A live window that is a popup or a modal. -/
def dismissible (id : SurfaceIdentity) : Bool :=
  (state.get id).any fun window => decide (window.options.mode ≠ .floating)

def keyboard (event : Event) (escape : Bool) : Bool × Windows :=
  if escape && state.swallowedEscape then
    (true, if releasesKey event then { state with swallowedEscape := false } else state)
  else
    match state.focus.filter state.eligible with
    | none => (state.blocked, state)
    | some id =>
        if escape && pressesKey event && state.dismissible id then
          (true, { state with swallowedEscape := true }.close id .escape)
        else (true, state.emit id event)

def wheel (position : Point) (scroll : Scroll) (modifiers : UInt32)
    (hit : SurfaceIdentity → Point → Option (UInt64 × HitRole)) : Bool × Windows :=
  match state.topmostHit Prod.snd position hit with
  | some (id, inside, _) =>
      (true,
        state.emit id
          (.wheel inside scroll.dx scroll.dy modifiers scroll.precise scroll.phase))
  | none => (state.blocked, state)

/-- `self.set_hover` of what `target_at` finds. -/
def refreshHover (position : Point) (hit : SurfaceIdentity → Point → Option HitRegion) :
    Windows :=
  match state.targetAt position hit with
  | some (id, _, target) =>
      state.setHover (some { window := id, region := target.id, cursor := target.cursor })
  | none => state.setHover none

/-- An edge of a resized window, and its extent along that axis. -/
def resizeAxis (low high : Bool) (origin extent delta least : Int) : Int × Int :=
  let (origin, length) :=
    if low then
      (origin + (extent - max (extent - delta) least), max (extent - delta) least)
    else (origin, extent)
  if high then (origin, max (length + delta) least) else (origin, length)

/-- The bounds a gesture asks for, by its role. -/
def gestureBounds (capture : Capture) (options : WindowOptions) (point : Point) :
    Option (Except InvalidScene Rect) :=
  let dx := point.x.raw - capture.start.x.raw
  let dy := point.y.raw - capture.start.y.raw
  let bounds := capture.bounds
  match capture.role with
  | .drag =>
      some (Rect.new (bounds.origin.x.raw + dx) (bounds.origin.y.raw + dy) bounds.width.raw
        bounds.height.raw)
  | .resize edges =>
      let (x, width) :=
        resizeAxis (decide (edges &&& 1 ≠ 0)) (decide (edges &&& 4 ≠ 0)) bounds.origin.x.raw
          bounds.width.raw dx options.minWidth.raw
      let (y, height) :=
        resizeAxis (decide (edges &&& 2 ≠ 0)) (decide (edges &&& 8 ≠ 0)) bounds.origin.y.raw
          bounds.height.raw dy options.minHeight.raw
      some (Rect.new x y width height)
  | .input => none
  | .transparent => none

def gesture (capture : Capture) (point : Point) (settled : Bool) : Windows :=
  match state.windows[capture.window]? with
  | none => state
  | some window =>
      match gestureBounds capture window.options point with
      | some (.ok bounds) =>
          match checkedAdd window.revision 1 with
          | none => state.close capture.window .closed
          | some revision =>
              (state.setWindow capture.window
                { window with
                  options := { window.options with bounds := bounds }
                  revision := revision }).emit capture.window (.geometry bounds settled)
      | _ => state

/-- The event of a report at a point of a region. -/
def pointerEvent (report : PointerReport) (inside : Point) (region : UInt64) : Event :=
  .pointer inside region report.button report.modifiers report.clicks report.pressure

/-- A captured report is a step of the gesture, or goes to the captured window. -/
def captureMotion (capture : Capture) (report : PointerReport) : Windows :=
  if capture.role.gestures then state.gesture capture report.position report.releases
  else
    match state.localPoint capture.window report.position with
    | none => state
    | some inside => state.emit capture.window (pointerEvent report inside capture.region)

/-- The arm of `pointer` that a capture takes. -/
def pointerCaptured (capture : Capture) (report : PointerReport)
    (hit : SurfaceIdentity → Point → Option HitRegion) : Bool × Windows :=
  if ! state.eligible capture.window then
    let cancelled := state.cancelCapture capture.window
    (cancelled.blocked, cancelled)
  else
    let moved := state.captureMotion capture report
    if report.releases then
      (true, { moved with capture := none }.refreshHover report.position hit)
    else (true, moved)

/-- The arm of `pointer` in which nothing is hit. -/
def pointerMissed (report : PointerReport) : Bool × Windows :=
  let left := state.setHover none
  if ! left.blocked && report.presses then
    (left.blocked, { left.changeFocus none with focusHistory := [] })
  else (left.blocked, left)

/-- A press focuses the window and may start a gesture. -/
def pressTarget (id : SurfaceIdentity) (position : Point) (target : HitRegion) : Windows :=
  let focused := (state.requestFocus id).2
  match focused.windows[id]? with
  | none => focused
  | some window =>
      if target.role.gestures then
        { focused with
          capture :=
            some
              { window := id
                role := target.role
                start := position
                bounds := window.options.bounds
                region := target.id
                cursor := target.cursor } }
      else focused

/-- The arm of `pointer` in which a region is hit. -/
def pointerHit (report : PointerReport) (id : SurfaceIdentity) (inside : Point)
    (target : HitRegion) : Bool × Windows :=
  let pressed := if report.presses then state.pressTarget id report.position target else state
  let entered :=
    pressed.setHover (some { window := id, region := target.id, cursor := target.cursor })
  (true, entered.emit id (pointerEvent report inside target.id))

/-- `pointer` without a capture. -/
def pointerFree (report : PointerReport) (hit : SurfaceIdentity → Point → Option HitRegion) :
    Bool × Windows :=
  match state.foremostPopup.filter fun popup =>
      report.presses && ! popup.options.bounds.contains report.position with
  | some popup =>
      let swallowed :=
        match report.button with
        | none => state
        | some (button, _) =>
            { state with swallowedButtons := insert button state.swallowedButtons }
      (true, swallowed.close popup.identity .outsidePress)
  | none =>
      match state.targetAt report.position hit with
      | none => state.pointerMissed report
      | some (id, inside, target) => state.pointerHit report id inside target

/-- The button of a report is being swallowed. -/
def swallows (report : PointerReport) : Bool :=
  report.button.any fun pair => decide (pair.1 ∈ state.swallowedButtons)

def pointer (report : PointerReport) (hit : SurfaceIdentity → Point → Option HitRegion) :
    Bool × Windows :=
  match report.button.filter fun pair => decide (pair.1 ∈ state.swallowedButtons) with
  | some (button, down) =>
      (true,
        if down then state
        else { state with swallowedButtons := state.swallowedButtons.erase button })
  | none =>
      match state.capture with
      | some capture => state.pointerCaptured capture report hit
      | none => state.pointerFree report hit

end Windows

/-! ## Runs -/

inductive Operation where
  | setPaneFocus (focused : Bool)
  | create (id : SurfaceIdentity) (generation : UInt64) (options : WindowOptions)
  | publishScene (id : SurfaceIdentity) (generation sceneRevision : UInt64)
  | applyAction (owner : SessionIdentity) (action : Action) (viewport : Viewport)
  | update (id : SurfaceIdentity) (generation revision : UInt64) (options : WindowOptions)
  | requestFocus (id : SurfaceIdentity)
  | close (id : SurfaceIdentity) (reason : DismissReason)
  | revokeOwner (owner : SessionIdentity)
  | takeOverflow (owner : SessionIdentity)
  | takeEvent (owner : SessionIdentity)
  | capturePointer (id : SurfaceIdentity) (position : Point)
  | releasePointer (id : SurfaceIdentity)
  | keyboard (event : Event) (escape : Bool)
  | wheel (position : Point) (scroll : Scroll) (modifiers : UInt32)
      (hit : SurfaceIdentity → Point → Option (UInt64 × HitRole))
  | pointer (report : PointerReport) (hit : SurfaceIdentity → Point → Option HitRegion)
  | refreshHover (position : Point) (hit : SurfaceIdentity → Point → Option HitRegion)

inductive Answer where
  | done (result : Except InvalidScene Unit)
  | revised (result : Except InvalidScene UInt64)
  | acted (result : Except InvalidScene (Option UInt64))
  | flag (value : Bool)
  | taken (event : Option WindowEvent)

def windowsStep (state : Windows) : Operation → Answer × Windows
  | .setPaneFocus focused => (.done (.ok ()), state.setPaneFocus focused)
  | .create id generation options =>
      let (result, state) := state.create id generation options
      (.done result, state)
  | .publishScene id generation sceneRevision =>
      let (result, state) := state.publishScene id generation sceneRevision
      (.done result, state)
  | .applyAction owner action viewport =>
      let (result, state) := state.applyAction owner action viewport
      (.acted result, state)
  | .update id generation revision options =>
      let (result, state) := state.update id generation revision options
      (.revised result, state)
  | .requestFocus id =>
      let (result, state) := state.requestFocus id
      (.done result, state)
  | .close id reason => (.done (.ok ()), state.close id reason)
  | .revokeOwner owner => (.done (.ok ()), state.revokeOwner owner)
  | .takeOverflow owner =>
      let (result, state) := state.takeOverflow owner
      (.flag result, state)
  | .takeEvent owner =>
      let (event, state) := state.takeEvent owner
      (.taken event, state)
  | .capturePointer id position =>
      let (result, state) := state.capturePointer id position
      (.done result, state)
  | .releasePointer id => (.done (.ok ()), state.releasePointer id)
  | .keyboard event escape =>
      let (result, state) := state.keyboard event escape
      (.flag result, state)
  | .wheel position scroll modifiers hit =>
      let (result, state) := state.wheel position scroll modifiers hit
      (.flag result, state)
  | .pointer report hit =>
      let (result, state) := state.pointer report hit
      (.flag result, state)
  | .refreshHover position hit => (.done (.ok ()), state.refreshHover position hit)

def windowsRuns : Machine Windows Operation Answer := { step := windowsStep }

/-! ## Sample calls -/

/-- A surface of a numbered session. -/
def sampleSurface (session surface : UInt64) : SurfaceIdentity :=
  { context :=
      { session := { presenter := ⟨Vector.replicate 16 0⟩, sessionId := session }
        contextId := 1 }
    surfaceId := surface }

/-- Two units, and twenty. -/
def sampleNear : Scalar := ⟨2 * 4294967296, by decide⟩
def sampleFar : Scalar := ⟨20 * 4294967296, by decide⟩

/-- A window of ten units at the origin. -/
def sampleOptions (mode : WindowMode) : WindowOptions :=
  let extent : Scalar := ⟨10 * 4294967296, by decide⟩
  .new { origin := ⟨.ZERO, .ZERO⟩, width := extent, height := extent } mode

/-- A report of the first button at a point of the diagonal. -/
def sampleReport (place : Scalar) (down : Bool) : PointerReport :=
  { position := ⟨place, place⟩
    button := some (0, down)
    modifiers := 0
    clicks := if down then 1 else 0
    pressure := none }

end VividProtocol.Overlay

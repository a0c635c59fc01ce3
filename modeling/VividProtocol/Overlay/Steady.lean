import Mathlib.Tactic
import VividProtocol.Overlay.Minding

/-!
# Steady steps

A step is steady if the session of the window under the pointer is not revoked,
if no window that takes the focus or the pointer is revoked on the way, and if
the host types no focus or hover event.  Each predicate follows the function it
is named after.
-/

set_option autoImplicit false

namespace VividProtocol.Overlay

open VividProtocol.Library

namespace Windows

variable (state : Windows)

/-- The window under the pointer is not in a session that is lost, or it goes
together with the pointer. -/
def hoverSpared (lost : List SessionIdentity) (gone : List SurfaceIdentity) : Bool :=
  state.hover.all fun hover =>
    decide (hover.window ∈ gone) || decide (hover.window.context.session ∉ lost)

/-! ## Focus -/

/-- The state in which `request_focus` changes the focus. -/
def raised (id : SurfaceIdentity) : Windows := (state.raiseGroup id).remember id

def takeFocusSteady (id : SurfaceIdentity) : Bool :=
  (state.raised id).aims (some id) && state.hoverSpared (state.takeFocusLosses id) []

def requestFocusSteady (id : SurfaceIdentity) : Bool :=
  ! state.eligible id || state.takeFocusSteady id

def restoreFocusSteady : Bool :=
  state.aims state.focusCandidate && state.hoverSpared state.restoreFocusLosses []

def losePaneFocusLosses : List SessionIdentity :=
  match state.capture with
  | none => state.changeFocusLosses none
  | some capture =>
      let released := { state with capture := none }
      released.emitLosses capture.window .cancel ++
        (released.emit capture.window .cancel).changeFocusLosses none

def setPaneFocusSteady (focused : Bool) : Bool :=
  if focused then state.restoreFocusSteady else state.hoverSpared state.losePaneFocusLosses []

/-! ## Windows -/

def createSteady (id : SurfaceIdentity) (generation : UInt64) (options : WindowOptions) : Bool :=
  match state.admitCreate id generation options with
  | .error _ => true
  | .ok () =>
      ! takesFocus options || (state.insertWindow id generation options).requestFocusSteady id

def updateSteady (id : SurfaceIdentity) (generation revision : UInt64)
    (options : WindowOptions) : Bool :=
  match options.validate with
  | .error _ => true
  | .ok () =>
      match state.windows[id]? with
      | none => true
      | some old =>
          match state.admitUpdate id old generation revision options with
          | .error _ => true
          | .ok next =>
              let replaced := state.setWindow id (updated old options next)
              if old.options.visible ∧ ¬ options.visible then
                replaced.hoverSpared (replaced.hideGroupLosses id) []
              else if ¬ old.options.visible ∧ options.visible ∧ options.mode ≠ .floating then
                replaced.requestFocusSteady id
              else true

/-- The focus that `close` restores is not revoked on the way. -/
def closeAims (id : SurfaceIdentity) (reason : DismissReason) : Bool :=
  (state.removeGroup id reason).aims (state.removeGroup id reason).focusCandidate

/-- The windows that `close` takes away. -/
def closeGone (id : SurfaceIdentity) : List SurfaceIdentity := state.children id ++ [id]

def closeSteady (id : SurfaceIdentity) (reason : DismissReason) : Bool :=
  state.closeAims id reason &&
    state.hoverSpared (state.closeLosses id reason) (state.closeGone id)

/-! ## Actions -/

def performSteady (id : SurfaceIdentity) : WindowAction → Bool
  | .focus => state.requestFocusSteady id
  | _ => true

def settleSteady (id : SurfaceIdentity) (next : UInt64) (bounds : Option Rect) : Bool :=
  match state.windows[id]? with
  | none => true
  | some window =>
      match bounds with
      | none => true
      | some bounds =>
          state.hoverSpared
            ((state.setWindow id (placed window bounds next)).emitLosses id (.geometry bounds true))
            []

def applyActionSteady (owner : SessionIdentity) (action : Action) (viewport : Viewport) : Bool :=
  match orScene "invalid window action" action.payload with
  | .error _ => true
  | .ok _ =>
      match orScene "invalid window identity" (action.address.toIdentity owner) with
      | .error _ => true
      | .ok id =>
          match state.windows[id]? with
          | none => true
          | some old =>
              if old.generation ≠ action.address.generation ∨
                  old.revision ≠ action.expectedRevision then
                true
              else if action.action = .close then state.closeSteady id .closed
              else
                match checkedAdd old.revision 1 with
                | none => true
                | some next =>
                    match actionBounds action.action viewport old.options.bounds with
                    | .error _ => true
                    | .ok bounds =>
                        match state.perform id action.action with
                        | (.error _, _) => true
                        | (.ok (), performed) =>
                            state.performSteady id action.action &&
                              performed.settleSteady id next bounds

/-! ## Input -/

/-- An event that tells nothing of focus and pointer, or that does not arrive. -/
def quietEvent (id : SurfaceIdentity) (event : Event) : Bool :=
  (event.focusMark.isNone && event.hoverMark.isNone) || (state.deliver id event).isNone

def keyboardSteady (event : Event) (escape : Bool) : Bool :=
  if escape && state.swallowedEscape then true
  else
    match state.focus.filter state.eligible with
    | none => true
    | some id =>
        if escape && pressesKey event && state.dismissible id then
          { state with swallowedEscape := true }.closeSteady id .escape
        else state.quietEvent id event && state.hoverSpared (state.emitLosses id event) []

def wheelSteady (position : Point) (scroll : Scroll) (modifiers : UInt32)
    (hit : SurfaceIdentity → Point → Option (UInt64 × HitRole)) : Bool :=
  match state.topmostHit Prod.snd position hit with
  | none => true
  | some (id, inside, _) =>
      state.hoverSpared
        (state.emitLosses id
          (.wheel inside scroll.dx scroll.dy modifiers scroll.precise scroll.phase))
        []

/-- A window that the pointer enters is not revoked on the way. -/
def setHoverSteady (next : Option Hover) : Bool :=
  next.all fun hover => decide (hover.window.context.session ∉ state.setHoverLosses next)

def refreshHoverSteady (position : Point) (hit : SurfaceIdentity → Point → Option HitRegion) :
    Bool :=
  match state.targetAt position hit with
  | some (id, _, target) =>
      state.setHoverSteady (some { window := id, region := target.id, cursor := target.cursor })
  | none => true

/-- The bounds of a gesture, and the revision that the window would move to. -/
def gestureStep (capture : Capture) (point : Point) : Option (Window × Rect × Option UInt64) :=
  match state.windows[capture.window]? with
  | none => none
  | some window =>
      match gestureBounds capture window.options point with
      | some (.ok bounds) => some (window, bounds, checkedAdd window.revision 1)
      | _ => none

def gestureLosses (capture : Capture) (point : Point) (settled : Bool) : List SessionIdentity :=
  match state.gestureStep capture point with
  | none => []
  | some (_, _, none) => state.closeLosses capture.window .closed
  | some (window, bounds, some revision) =>
      (state.setWindow capture.window (placed window bounds revision)).emitLosses capture.window
        (.geometry bounds settled)

/-- The windows that a gesture takes away whose window has no revision left. -/
def gestureGone (capture : Capture) (point : Point) : List SurfaceIdentity :=
  match state.gestureStep capture point with
  | some (_, _, none) => state.closeGone capture.window
  | _ => []

def gestureAims (capture : Capture) (point : Point) : Bool :=
  match state.gestureStep capture point with
  | some (_, _, none) => state.closeAims capture.window .closed
  | _ => true

def captureMotionLosses (capture : Capture) (report : PointerReport) : List SessionIdentity :=
  if capture.role.gestures then state.gestureLosses capture report.position report.releases
  else
    match state.localPoint capture.window report.position with
    | none => []
    | some inside => state.emitLosses capture.window (pointerEvent report inside capture.region)

def captureMotionGone (capture : Capture) (report : PointerReport) : List SurfaceIdentity :=
  if capture.role.gestures then state.gestureGone capture report.position else []

def captureMotionAims (capture : Capture) (report : PointerReport) : Bool :=
  if capture.role.gestures then state.gestureAims capture report.position else true

def pointerCapturedSteady (capture : Capture) (report : PointerReport)
    (hit : SurfaceIdentity → Point → Option HitRegion) : Bool :=
  if ! state.eligible capture.window then
    state.hoverSpared (state.cancelCaptureLosses capture.window) []
  else
    state.captureMotionAims capture report &&
      if report.releases then
        { state.captureMotion capture report with capture := none }.refreshHoverSteady
          report.position hit
      else
        state.hoverSpared (state.captureMotionLosses capture report)
          (state.captureMotionGone capture report)

def pointerHitSteady (report : PointerReport) (id : SurfaceIdentity) (inside : Point)
    (target : HitRegion) : Bool :=
  let next : Hover := { window := id, region := target.id, cursor := target.cursor }
  let pressed := if report.presses then state.pressTarget id report.position target else state
  (! report.presses || (state.raised id).aims (some id)) &&
    decide (id.context.session ∉
      (if report.presses then state.takeFocusLosses id else []) ++
        pressed.setHoverLosses (some next) ++
        (pressed.setHover (some next)).emitLosses id (pointerEvent report inside target.id))

def pointerFreeSteady (report : PointerReport)
    (hit : SurfaceIdentity → Point → Option HitRegion) : Bool :=
  match state.foremostPopup.filter fun popup =>
      report.presses && ! popup.options.bounds.contains report.position with
  | some popup =>
      let swallowed :=
        match report.button with
        | none => state
        | some (button, _) =>
            { state with swallowedButtons := insert button state.swallowedButtons }
      swallowed.closeSteady popup.identity .outsidePress
  | none =>
      match state.targetAt report.position hit with
      | none => true
      | some (id, inside, target) => state.pointerHitSteady report id inside target

def pointerSteady (report : PointerReport) (hit : SurfaceIdentity → Point → Option HitRegion) :
    Bool :=
  state.swallows report ||
    match state.capture with
    | some capture => state.pointerCapturedSteady capture report hit
    | none => state.pointerFreeSteady report hit

def steady : Operation → Bool
  | .setPaneFocus focused => state.setPaneFocusSteady focused
  | .create id generation options => state.createSteady id generation options
  | .applyAction owner action viewport => state.applyActionSteady owner action viewport
  | .update id generation revision options => state.updateSteady id generation revision options
  | .requestFocus id => state.requestFocusSteady id
  | .close id reason => state.closeSteady id reason
  | .revokeOwner owner => state.hoverSpared (state.revokeLosses owner) []
  | .keyboard event escape => state.keyboardSteady event escape
  | .wheel position scroll modifiers hit => state.wheelSteady position scroll modifiers hit
  | .pointer report hit => state.pointerSteady report hit
  | .refreshHover position hit => state.refreshHoverSteady position hit
  | .publishScene .. => true
  | .takeOverflow _ => true
  | .takeEvent _ => true
  | .capturePointer .. => true
  | .releasePointer _ => true

end Windows

end VividProtocol.Overlay

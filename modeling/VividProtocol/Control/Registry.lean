import Mathlib.Tactic
import VividProtocol.Control.Maps

/-!
# Profiles

The profile names of `registry.rs` with their prerequisites, and the checks of
profile lists in `messages.rs`.
-/

set_option autoImplicit false

namespace VividProtocol.Registry

def GENERIC_CONTENT : String := "generic-content-v1"
def TERMINAL_CONTENT : String := "terminal-content-v1"
def DESKTOP_CONTENT : String := "desktop-content-v1"
def CANVAS_CONTENT : String := "canvas-content-v1"

def CORE_CONTROL : String := "vivid-core-control-v1"
def TERMINAL_SURFACE : String := "terminal-surface-v1"
def DESKTOP_SURFACE : String := "desktop-surface-v1"
def CANVAS_SURFACE : String := "canvas-surface-v1"
def LIVE_MEDIA : String := "live-media-v1"
def TIMED_MEDIA : String := "timed-media-v1"
def TIMED_MEDIA_SYNC : String := "timed-media-sync-v1"
def AUDIO_GAIN : String := "audio-gain-v1"
def AUDIO_INPUT : String := "audio-input-v1"
def DESKTOP_INPUT : String := "desktop-input-v1"
def FILE_DROP : String := "file-drop-v1"
def FILE_DROP_PATH : String := "file-drop-path-v1"
def OBSERVABILITY : String := "observability-v1"
def WEB_CARRIER : String := "web-carrier-v1"
def MULTIPLEXED_SESSION_CARRIER : String := "multiplexed-session-carrier-v1"
def TERMINAL_OVERLAY : String := "terminal-overlay-v1"
def VECTOR_SCENE : String := "vector-scene-v1"
def OVERLAY_INPUT : String := "overlay-input-v1"
def OVERLAY_TEXT : String := "overlay-text-v1"
def OVERLAY_TEXT_LAYOUT : String := "overlay-text-layout-v1"
def OVERLAY_TYPOGRAPHY : String := "overlay-typography-v1"
def OVERLAY_PAINT : String := "overlay-paint-v1"
def OVERLAY_POINTER : String := "overlay-pointer-v1"
def OVERLAY_CLIPBOARD : String := "overlay-clipboard-v1"
def OVERLAY_ENV : String := "overlay-env-v1"
def OVERLAY_A11Y : String := "overlay-a11y-v1"

/-- The arms of `prerequisites`. -/
def prerequisiteArms : List (String × List String) :=
  [(CORE_CONTROL, []),
    (TERMINAL_OVERLAY, [TERMINAL_SURFACE, VECTOR_SCENE]),
    (VECTOR_SCENE, [LIVE_MEDIA]),
    (OVERLAY_INPUT, [TERMINAL_OVERLAY]),
    (OVERLAY_TEXT, [OVERLAY_INPUT]),
    (OVERLAY_TEXT_LAYOUT, [OVERLAY_TEXT]),
    (OVERLAY_TYPOGRAPHY, [OVERLAY_TEXT_LAYOUT]),
    (OVERLAY_PAINT, [TERMINAL_OVERLAY]),
    (OVERLAY_POINTER, [TERMINAL_OVERLAY]),
    (OVERLAY_CLIPBOARD, [OVERLAY_INPUT]),
    (OVERLAY_ENV, [OVERLAY_INPUT]),
    (OVERLAY_A11Y, [TERMINAL_OVERLAY]),
    (TERMINAL_SURFACE, [CORE_CONTROL]),
    (DESKTOP_SURFACE, [CORE_CONTROL]),
    (CANVAS_SURFACE, [CORE_CONTROL]),
    (LIVE_MEDIA, [CORE_CONTROL]),
    (OBSERVABILITY, [CORE_CONTROL]),
    (WEB_CARRIER, [CORE_CONTROL]),
    (FILE_DROP, [CORE_CONTROL]),
    (MULTIPLEXED_SESSION_CARRIER, [CORE_CONTROL]),
    (FILE_DROP_PATH, [FILE_DROP]),
    (TIMED_MEDIA, [LIVE_MEDIA]),
    (AUDIO_INPUT, [LIVE_MEDIA]),
    (AUDIO_GAIN, [TIMED_MEDIA]),
    (TIMED_MEDIA_SYNC, [TIMED_MEDIA]),
    (DESKTOP_INPUT, [DESKTOP_SURFACE, LIVE_MEDIA])]

def prerequisites (profile : String) : Option (List String) := prerequisiteArms.lookup profile

inductive ProfileError where
  | unknown (profile : String)
  | missingPrerequisite (profile prerequisite : String)
  | notSortedUnique
  deriving Repr, DecidableEq

/-- `profiles.windows(2).any(|pair| pair[0] >= pair[1])`. -/
def unsortedProfiles (profiles : List String) : Bool :=
  (profiles.zip profiles.tail).any fun pair => decide (pair.2 ≤ pair.1)

/-- The loop over the profiles of a set. -/
def checkSet (set : List String) : List String → Except ProfileError Unit
  | [] => .ok ()
  | profile :: rest =>
      match prerequisites profile with
      | none => .error (.unknown profile)
      | some required =>
          match required.find? fun prerequisite => ! set.contains prerequisite with
          | some prerequisite => .error (.missingPrerequisite profile prerequisite)
          | none => checkSet set rest

def validateProfileSet (profiles : List String) : Except ProfileError Unit :=
  if unsortedProfiles profiles then .error .notSortedUnique else checkSet profiles profiles

end VividProtocol.Registry

namespace VividProtocol

open VividProtocol.Registry

def validateProfiles (schema : String) (key : UInt64) (profiles : List String) :
    Except MessageError Unit :=
  if unsortedProfiles profiles then .error (invalidValue schema key "is not sorted and unique")
  else orInvalid schema key "is not prerequisite-closed" (validateProfileSet profiles)

def validateSortedProfiles (schema : String) (key : UInt64) (profiles : List String) :
    Except MessageError Unit :=
  if unsortedProfiles profiles then .error (invalidValue schema key "is not sorted and unique")
  else .ok ()

end VividProtocol

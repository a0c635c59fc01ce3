import Mathlib.Tactic
import VividProtocol.Overlay.Calm

/-!
# What a window was told

The events queued for a window since its creation, read off the journal.
-/

set_option autoImplicit false

namespace VividProtocol.Overlay

open VividProtocol.Library
open VividProtocol.Library.OrderedForest

open Windows

namespace Windows

/-- A note adds an event to what a window was told, or the window begins anew. -/
def tell (id : SurfaceIdentity) (events : List WindowEvent) : Note → List WindowEvent
  | .created other => if other = id then [] else events
  | .queued event => if event.window = id then events ++ [event] else events

/-- The events queued for a window since it was created last. -/
def told (state : Windows) (id : SurfaceIdentity) : List WindowEvent :=
  state.journal.foldl (tell id) []

variable {state : Windows}

theorem told_push (owner : SessionIdentity) (queue : List WindowEvent) (window : Window)
    (id probe : SurfaceIdentity) (event : Event) :
    (state.push owner queue (stamp window id event)).told probe =
      if id = probe then state.told probe ++ [stamp window id event] else state.told probe := by
  unfold told push
  rw [List.foldl_append]
  rfl

theorem told_insertWindow (id probe : SurfaceIdentity) (generation : UInt64)
    (options : WindowOptions) :
    (state.insertWindow id generation options).told probe =
      if id = probe then [] else state.told probe := by
  unfold told insertWindow
  rw [List.foldl_append]
  rfl

theorem told_of_journal {after : Windows} (same : after.journal = state.journal)
    (id : SurfaceIdentity) : after.told id = state.told id := by
  unfold told
  rw [same]

end Windows

end VividProtocol.Overlay

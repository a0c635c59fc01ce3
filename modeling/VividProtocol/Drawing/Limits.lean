import Mathlib.Tactic
import VividProtocol.Control.Contract
import VividProtocol.Drawing.Legal

/-!
# Display lists under negotiated limits

`validate_with_limits` of `vector.rs`, a second walk over a display list.  Its
counters stay below the ceilings that the first walk has checked, so none of its
sums leaves a `u64`.
-/

set_option autoImplicit false

namespace VividProtocol.Drawing

open VividProtocol.Overlay

/-- One of the limits, by its key. -/
def Limits.limit (limits : Limits) (key : Fin 12) : Nat := (limits.values.get key).toNat

/-- The default limits are the ceilings of the first walk. -/
theorem default_limit :
    Limits.default.limit 0 = MAX_SCENE_BYTES ∧ Limits.default.limit 1 = MAX_COMMANDS ∧
      Limits.default.limit 2 = MAX_PATH_SEGMENTS ∧ Limits.default.limit 3 = MAX_TOTAL_SEGMENTS ∧
      Limits.default.limit 4 = MAX_STACK_DEPTH ∧ Limits.default.limit 5 = MAX_TEXT_BYTES ∧
      Limits.default.limit 6 = MAX_GRADIENT_STOPS := by
  decide +kernel

/-! ## The second walk -/

/-- What the loop of `validate_with_limits` keeps. -/
structure Walk where
  segments : Nat
  textBytes : Nat
  clips : Nat
  stack : List Nat
  deriving Repr, DecidableEq

def Walk.start : Walk := { segments := 0, textBytes := 0, clips := 0, stack := [] }

def stopCount : Brush → Nat
  | .solid _ => 0
  | .image _ _ _ => 0
  | .linear _ _ stops _ => stops.length
  | .radial _ _ stops _ => stops.length

/-- The first `match` of the loop. -/
def nest (limits : Limits) (walk : Walk) : Command → Except InvalidScene Walk
  | .save =>
      if limits.limit 4 < walk.stack.length + 1 then .error ⟨"negotiated save depth exceeded"⟩
      else .ok { walk with stack := walk.clips :: walk.stack }
  | .restore =>
      match walk.stack with
      | [] => .error ⟨"unbalanced restore"⟩
      | clips :: stack => .ok { walk with clips := clips, stack := stack }
  | .clip _ =>
      if limits.limit 4 < walk.clips + 1 then .error ⟨"negotiated clip depth exceeded"⟩
      else .ok { walk with clips := walk.clips + 1 }
  | .text text => .ok { walk with textBytes := walk.textBytes + text.text.utf8ByteSize }
  | _ => .ok walk

def painted (limits : Limits) (path : Path) (brush : Brush) : Except InvalidScene (Option Path) :=
  if limits.limit 6 < stopCount brush then .error ⟨"negotiated gradient limit exceeded"⟩
  else .ok (some path)

/-- The second `match` of the loop: the path of a command. -/
def drawn (limits : Limits) : Command → Except InvalidScene (Option Path)
  | .fill path brush => painted limits path brush
  | .stroke path brush _ => painted limits path brush
  | .styledStroke path brush _ => painted limits path brush
  | .hit _ path _ _ => .ok (some path)
  | .clip path => .ok (some path)
  | _ => .ok none

def countWithin (limits : Limits) (walk : Walk) : Option Path → Except InvalidScene Walk
  | none => .ok walk
  | some path =>
      if limits.limit 2 < path.segments.length then .error ⟨"negotiated path limit exceeded"⟩
      else .ok { walk with segments := walk.segments + path.segments.length }

def walkCommands (limits : Limits) : Walk → List Command → Except InvalidScene Walk
  | walk, [] => .ok walk
  | walk, command :: rest => do
      let walk ← nest limits walk command
      let path ← drawn limits command
      let walk ← countWithin limits walk path
      walkCommands limits walk rest

def Canvas.validateWithLimits (validRect : Rect → Except InvalidScene Unit) (canvas : Canvas)
    (limits : Limits) : Except InvalidScene Unit := do
  let exceeded : InvalidScene := ⟨"scene exceeds negotiated byte or command limits"⟩
  canvas.validate validRect
  if limits.limit 1 < canvas.commands.length then .error exceeded
  else do
    let bytes ← canvas.encode validRect
    if limits.limit 0 < bytes.length then .error exceeded
    else do
      let walk ← walkCommands limits .start canvas.commands
      if limits.limit 3 < walk.segments ∨ limits.limit 5 < walk.textBytes then
        .error ⟨"negotiated aggregate scene limit exceeded"⟩
      else .ok ()

end VividProtocol.Drawing

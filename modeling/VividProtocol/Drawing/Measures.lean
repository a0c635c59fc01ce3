import Mathlib.Tactic
import VividProtocol.Drawing.Limits

/-!
# What the limits measure

The nesting of saves and clips is a walk of its own, which knows no limit.  Both
walks of the source follow it, so each is a statement about the greatest values
that it takes.
-/

set_option autoImplicit false

namespace VividProtocol.Drawing

open VividProtocol.Overlay
open VividProtocol.Library.Result

/-! ## Nesting -/

/-- The clips in force, and the counts that the open saves keep. -/
structure Nesting where
  clips : Nat
  saved : List Nat
  deriving Repr, DecidableEq

namespace Nesting

def start : Nesting := ⟨0, []⟩

/-- A restore without a save changes nothing. -/
def after (nesting : Nesting) : Command → Nesting
  | .save => ⟨nesting.clips, nesting.clips :: nesting.saved⟩
  | .restore =>
      match nesting.saved with
      | [] => nesting
      | clips :: saved => ⟨clips, saved⟩
  | .clip _ => ⟨nesting.clips + 1, nesting.saved⟩
  | _ => nesting

def depth (nesting : Nesting) : Nat := nesting.saved.length

/-- Nothing in force or kept is beyond a bound. -/
def Shallow (bound : Nat) (nesting : Nesting) : Prop :=
  nesting.clips ≤ bound ∧ nesting.depth ≤ bound ∧ ∀ clips ∈ nesting.saved, clips ≤ bound

end Nesting

/-- The greatest value of a measure after any command. -/
def deepest (measure : Nesting → Nat) : Nesting → List Command → Nat
  | _, [] => 0
  | nesting, command :: rest =>
      max (measure (nesting.after command)) (deepest measure (nesting.after command) rest)

/-- Every restore has a save. -/
def Balanced : Nesting → List Command → Prop
  | _, [] => True
  | nesting, command :: rest =>
      (command = .restore → nesting.saved ≠ []) ∧ Balanced (nesting.after command) rest

theorem Nesting.Shallow.after {bound : Nat} {nesting : Nesting} {command : Command}
    (shallow : nesting.Shallow bound) (clips : (nesting.after command).clips ≤ bound)
    (depth : (nesting.after command).depth ≤ bound) : (nesting.after command).Shallow bound := by
  refine ⟨clips, depth, ?_⟩
  obtain ⟨now, -, kept⟩ := shallow
  cases command with
  | save => exact List.forall_mem_cons.mpr ⟨now, kept⟩
  | restore =>
      obtain ⟨count, saved⟩ := nesting
      cases saved with
      | nil => exact kept
      | cons first others => exact (List.forall_mem_cons.mp kept).2
  | _ => exact kept

/-! ## Counts of a command -/

def pathOf : Command → Option Path
  | .fill path _ => some path
  | .stroke path _ _ => some path
  | .styledStroke path _ _ => some path
  | .hit _ path _ _ => some path
  | .clip path => some path
  | _ => none

def pathLength : Option Path → Nat
  | none => 0
  | some path => path.segments.length

def segmentCount (command : Command) : Nat := pathLength (pathOf command)

def gradientCount : Command → Nat
  | .fill _ brush => stopCount brush
  | .stroke _ brush _ => stopCount brush
  | .styledStroke _ brush _ => stopCount brush
  | _ => 0

def textSize : Command → Nat
  | .text text => text.text.utf8ByteSize
  | _ => 0

def longest (count : Command → Nat) (commands : List Command) : Nat :=
  (commands.map count).foldr max 0

def total (count : Command → Nat) (commands : List Command) : Nat := (commands.map count).sum

theorem longest_le_iff {count : Command → Nat} {commands : List Command} {bound : Nat} :
    longest count commands ≤ bound ↔ ∀ command ∈ commands, count command ≤ bound := by
  unfold longest
  induction commands with
  | nil => simp
  | cons first rest ih =>
      rw [List.map_cons, List.foldr_cons, Nat.max_le, ih, List.forall_mem_cons]

/-! ## The second walk -/

def Walk.nesting (walk : Walk) : Nesting := ⟨walk.clips, walk.stack⟩

/-- The walk past a command that no limit stops. -/
def Walk.past (walk : Walk) (command : Command) : Walk :=
  { segments := walk.segments + segmentCount command
    textBytes := walk.textBytes + textSize command
    clips := (walk.nesting.after command).clips
    stack := (walk.nesting.after command).saved }

/-- No limit stops the walk at a command. -/
structure Passes (limits : Limits) (nesting : Nesting) (command : Command) : Prop where
  saved : command = .restore → nesting.saved ≠ []
  clips : (nesting.after command).clips ≤ limits.limit 4
  depth : (nesting.after command).depth ≤ limits.limit 4
  gradient : gradientCount command ≤ limits.limit 6
  path : segmentCount command ≤ limits.limit 2

theorem nest_eq_ok {limits : Limits} {walk next : Walk} {command : Command}
    (shallow : walk.nesting.Shallow (limits.limit 4)) :
    nest limits walk command = .ok next ↔
      (command = .restore → walk.stack ≠ []) ∧
        (walk.nesting.after command).clips ≤ limits.limit 4 ∧
        (walk.nesting.after command).depth ≤ limits.limit 4 ∧
        next = { walk.past command with segments := walk.segments } := by
  obtain ⟨segments, textBytes, count, stack⟩ := walk
  obtain ⟨clips, depth, kept⟩ := shallow
  simp only [Walk.nesting, Nesting.depth] at clips depth kept
  have built : ∀ {first : Walk}, (Except.ok first : Except InvalidScene Walk) = .ok next ↔
      next = first := by
    intro first
    rw [Except.ok.injEq, eq_comm]
  cases command with
  | save =>
      simp [nest, ite_error_eq_ok_iff, built, Walk.past, Walk.nesting, Nesting.after, Nesting.depth,
        textSize, clips]
  | restore =>
      cases stack with
      | nil => simp [nest]
      | cons first others =>
          obtain ⟨least, rest⟩ := List.forall_mem_cons.mp kept
          have shorter : others.length ≤ limits.limit 4 := by
            rw [List.length_cons] at depth
            omega
          simp [nest, built, Walk.past, Walk.nesting, Nesting.after, Nesting.depth, textSize, least,
            shorter]
  | clip path =>
      simp [nest, ite_error_eq_ok_iff, built, Walk.past, Walk.nesting, Nesting.after, Nesting.depth,
        textSize, depth]
  | text text =>
      simp [nest, built, Walk.past, Walk.nesting, Nesting.after, Nesting.depth, textSize, clips,
        depth]
  | _ =>
      simp [nest, built, Walk.past, Walk.nesting, Nesting.after, Nesting.depth, textSize, clips,
        depth]

theorem drawn_eq_ok {limits : Limits} {command : Command} {path : Option Path} :
    drawn limits command = .ok path ↔
      gradientCount command ≤ limits.limit 6 ∧ path = pathOf command := by
  have painted_eq_ok : ∀ {shape : Path} {brush : Brush}, painted limits shape brush = .ok path ↔
      stopCount brush ≤ limits.limit 6 ∧ path = some shape := by
    intro shape brush
    rw [painted, ite_error_eq_ok_iff, Nat.not_lt, Except.ok.injEq, eq_comm (a := path)]
  cases command with
  | fill shape brush => exact painted_eq_ok
  | stroke shape brush width => exact painted_eq_ok
  | styledStroke shape brush style => exact painted_eq_ok
  | _ => simp [drawn, gradientCount, pathOf, eq_comm]

theorem countWithin_eq_ok {limits : Limits} {walk next : Walk} {path : Option Path} :
    countWithin limits walk path = .ok next ↔
      pathLength path ≤ limits.limit 2 ∧
        next = { walk with segments := walk.segments + pathLength path } := by
  cases path with
  | none =>
      rw [countWithin, Except.ok.injEq, eq_comm (a := next)]
      simp [pathLength]
  | some path =>
      rw [countWithin, ite_error_eq_ok_iff, Nat.not_lt, Except.ok.injEq, eq_comm (a := next)]
      rfl

theorem walkCommands_cons {limits : Limits} {walk final : Walk} {command : Command}
    {rest : List Command} (shallow : walk.nesting.Shallow (limits.limit 4)) :
    walkCommands limits walk (command :: rest) = .ok final ↔
      Passes limits walk.nesting command ∧ walkCommands limits (walk.past command) rest =
        .ok final := by
  rw [walkCommands]
  simp only [bind_eq_ok_iff, nest_eq_ok shallow, drawn_eq_ok, countWithin_eq_ok]
  constructor
  · intro found
    obtain ⟨_, ⟨saved, clips, depth, rfl⟩, _, ⟨gradient, rfl⟩, _, ⟨path, rfl⟩, others⟩ := found
    exact ⟨⟨saved, clips, depth, gradient, path⟩, others⟩
  · intro held
    obtain ⟨⟨saved, clips, depth, gradient, path⟩, others⟩ := held
    exact ⟨_, ⟨saved, clips, depth, rfl⟩, _, ⟨gradient, rfl⟩, _, ⟨path, rfl⟩, others⟩

theorem Walk.shallow_past {bound : Nat} {walk : Walk} {command : Command}
    (shallow : walk.nesting.Shallow bound) (clips : (walk.nesting.after command).clips ≤ bound)
    (depth : (walk.nesting.after command).depth ≤ bound) :
    (walk.past command).nesting.Shallow bound := shallow.after clips depth

/-- What the walk has counted at its end. -/
theorem walkCommands_counts {limits : Limits} {walk final : Walk} {commands : List Command}
    (shallow : walk.nesting.Shallow (limits.limit 4))
    (walked : walkCommands limits walk commands = .ok final) :
    final.segments = walk.segments + total segmentCount commands ∧
      final.textBytes = walk.textBytes + total textSize commands := by
  induction commands generalizing walk with
  | nil =>
      cases walked
      exact ⟨rfl, rfl⟩
  | cons command rest ih =>
      obtain ⟨passes, walked⟩ := (walkCommands_cons shallow).mp walked
      obtain ⟨segments, textBytes⟩ := ih (Walk.shallow_past shallow passes.clips passes.depth) walked
      rw [segments, textBytes, Walk.past]
      unfold total
      rw [List.map_cons, List.sum_cons, List.map_cons, List.sum_cons, Nat.add_assoc, Nat.add_assoc]
      exact ⟨rfl, rfl⟩

/-- The walk ends if no measure is beyond its limit. -/
theorem walkCommands_ends {limits : Limits} {walk : Walk} {commands : List Command}
    (shallow : walk.nesting.Shallow (limits.limit 4)) :
    (∃ final, walkCommands limits walk commands = .ok final) ↔
      Balanced walk.nesting commands ∧
        deepest Nesting.clips walk.nesting commands ≤ limits.limit 4 ∧
        deepest Nesting.depth walk.nesting commands ≤ limits.limit 4 ∧
        longest gradientCount commands ≤ limits.limit 6 ∧
        longest segmentCount commands ≤ limits.limit 2 := by
  induction commands generalizing walk with
  | nil => simp [walkCommands, Balanced, deepest, longest]
  | cons command rest ih =>
      simp only [walkCommands_cons shallow, exists_and_left, Balanced, deepest, Nat.max_le,
        longest_le_iff, List.forall_mem_cons]
      constructor
      · intro held
        obtain ⟨⟨saved, clips, depth, gradient, path⟩, others⟩ := held
        obtain ⟨balanced, restClips, restDepth, restGradient, restPath⟩ :=
          (ih (Walk.shallow_past shallow clips depth)).mp others
        exact ⟨⟨saved, balanced⟩, ⟨clips, restClips⟩, ⟨depth, restDepth⟩,
          ⟨gradient, longest_le_iff.mp restGradient⟩, path, longest_le_iff.mp restPath⟩
      · intro held
        obtain ⟨⟨saved, balanced⟩, ⟨clips, restClips⟩, ⟨depth, restDepth⟩,
          ⟨gradient, restGradient⟩, path, restPath⟩ := held
        exact ⟨⟨saved, clips, depth, gradient, path⟩,
          (ih (Walk.shallow_past shallow clips depth)).mpr ⟨balanced, restClips, restDepth,
            longest_le_iff.mpr restGradient, longest_le_iff.mpr restPath⟩⟩

/-! ## The first walk -/

def Pass.nesting (pass : Pass) : Nesting := ⟨pass.clips, pass.clipStack⟩

/-- What the first walk keeps below the ceilings. -/
structure Pass.Kept (pass : Pass) : Prop where
  depth : pass.depth = pass.clipStack.length
  shallow : pass.nesting.Shallow MAX_STACK_DEPTH
  segments : pass.segments ≤ MAX_TOTAL_SEGMENTS
  textBytes : pass.textBytes ≤ MAX_TEXT_BYTES

theorem Pass.kept_start : Pass.start.Kept :=
  ⟨rfl, ⟨Nat.zero_le _, Nat.zero_le _, by simp [Pass.nesting, Pass.start]⟩, Nat.zero_le _,
    Nat.zero_le _⟩

/-- A pass that is the same but for its hits and its path. -/
theorem Pass.Kept.entered {pass : Pass} (kept : pass.Kept) (hits : List UInt64) :
    ({ pass with hits := hits } : Pass).Kept :=
  ⟨kept.depth, kept.shallow, kept.segments, kept.textBytes⟩

/-- What a command that the loop lets pass does to the pass. -/
structure Moves (pass visited : Pass) (path : Option Path) (command : Command) : Prop where
  balanced : command = .restore → pass.clipStack ≠ []
  nesting : visited.nesting = pass.nesting.after command
  path : path = pathOf command
  segments : visited.segments = pass.segments
  textBytes : visited.textBytes = pass.textBytes + textSize command
  kept : visited.Kept

variable {validRect : Rect → Except InvalidScene Unit}

theorem moves_of_visit {pass visited : Pass} {path : Option Path} {command : Command}
    (kept : pass.Kept) (seen : visit validRect pass command = .ok (visited, path)) :
    Moves pass visited path command := by
  cases command with
  | fill shape brush =>
      obtain ⟨_, _, same⟩ := bind_eq_ok_iff.mp seen
      cases same
      exact ⟨by simp, rfl, rfl, rfl, rfl, kept⟩
  | stroke shape brush width =>
      obtain ⟨_, _, rest⟩ := bind_eq_ok_iff.mp seen
      obtain ⟨_, same⟩ := ite_error_eq_ok_iff.mp rest
      cases same
      exact ⟨by simp, rfl, rfl, rfl, rfl, kept⟩
  | clip shape =>
      obtain ⟨few, same⟩ := ite_error_eq_ok_iff.mp seen
      cases same
      exact ⟨by simp, rfl, rfl, rfl, rfl, ⟨kept.depth,
        ⟨Nat.not_lt.mp few, kept.shallow.2.1, kept.shallow.2.2⟩, kept.segments, kept.textBytes⟩⟩
  | save =>
      obtain ⟨few, same⟩ := ite_error_eq_ok_iff.mp seen
      cases same
      refine ⟨by simp, rfl, rfl, rfl, rfl, ⟨?_, ?_, kept.segments, kept.textBytes⟩⟩
      · rw [List.length_cons, ← kept.depth]
      · refine ⟨kept.shallow.1, ?_, List.forall_mem_cons.mpr ⟨kept.shallow.1, kept.shallow.2.2⟩⟩
        have depth := kept.depth
        change (pass.clips :: pass.clipStack).length ≤ _
        rw [List.length_cons]
        omega
  | restore =>
      obtain ⟨some_depth, seen⟩ := ite_error_eq_ok_iff.mp seen
      obtain ⟨depth, clips, clipStack, segments, textBytes, hits⟩ := pass
      cases clipStack with
      | nil => cases seen
      | cons first others =>
          cases seen
          obtain ⟨same, ⟨now, deep, saved⟩, few, short⟩ := kept
          obtain ⟨least, rest⟩ := List.forall_mem_cons.mp saved
          refine ⟨by simp, rfl, rfl, rfl, rfl, ⟨?_, ⟨least, ?_, rest⟩, few, short⟩⟩
          · dsimp only at same ⊢
            rw [same, List.length_cons, Nat.add_sub_cancel]
          · change (first :: others).length ≤ _ at deep
            rw [List.length_cons] at deep
            exact Nat.le_of_succ_le deep
  | text run =>
      obtain ⟨counted, checked, same⟩ := bind_eq_ok_iff.mp seen
      obtain ⟨bytes, sum, checked⟩ := bind_eq_ok_iff.mp checked
      obtain ⟨short, built⟩ := ite_error_eq_ok_iff.mp checked
      unfold checkedSize at sum
      split_ifs at sum
      cases sum
      cases built
      cases same
      simp only [not_or, Nat.not_lt] at short
      exact ⟨by simp, rfl, rfl, rfl, rfl, ⟨kept.depth, kept.shallow, kept.segments, short.1⟩⟩
  | hit id shape role cursor =>
      obtain ⟨_, seen⟩ := ite_error_eq_ok_iff.mp seen
      cases role with
      | resize edges =>
          obtain ⟨_, same⟩ := ite_error_eq_ok_iff.mp seen
          cases same
          exact ⟨by simp, rfl, rfl, rfl, rfl, kept.entered _⟩
      | _ =>
          cases seen
          exact ⟨by simp, rfl, rfl, rfl, rfl, kept.entered _⟩
  | styledStroke shape brush style =>
      obtain ⟨_, _, rest⟩ := bind_eq_ok_iff.mp seen
      obtain ⟨_, _, same⟩ := bind_eq_ok_iff.mp rest
      cases same
      exact ⟨by simp, rfl, rfl, rfl, rfl, kept⟩
  | textLayout layout origin =>
      obtain ⟨_, same⟩ := ite_error_eq_ok_iff.mp seen
      cases same
      exact ⟨by simp, rfl, rfl, rfl, rfl, kept⟩
  | image asset rect opacity =>
      obtain ⟨_, rest⟩ := ite_error_eq_ok_iff.mp seen
      obtain ⟨_, _, same⟩ := bind_eq_ok_iff.mp rest
      cases same
      exact ⟨by simp, rfl, rfl, rfl, rfl, kept⟩
  | shadow shadow =>
      obtain ⟨_, _, same⟩ := bind_eq_ok_iff.mp seen
      cases same
      exact ⟨by simp, rfl, rfl, rfl, rfl, kept⟩
  | transform transform =>
      cases seen
      exact ⟨by simp, rfl, rfl, rfl, rfl, kept⟩
  | opacity opacity =>
      cases seen
      exact ⟨by simp, rfl, rfl, rfl, rfl, kept⟩

theorem countPath_moves {pass counted : Pass} {path : Option Path}
    (done : countPath pass path = .ok counted) :
    counted = { pass with segments := pass.segments + pathLength path } := by
  cases path with
  | none =>
      cases done
      rfl
  | some path =>
      obtain ⟨_, _, summed⟩ := bind_eq_ok_iff.mp done
      obtain ⟨segments, sum, same⟩ := bind_eq_ok_iff.mp summed
      unfold checkedSize at sum
      split_ifs at sum
      cases sum
      cases same
      rfl

/-- The first walk stays below the ceilings, and its counts are the measures. -/
theorem validateCommands_moves {pass final : Pass} {commands : List Command} (kept : pass.Kept)
    (valid : validateCommands validRect pass commands = .ok final) :
    Balanced pass.nesting commands ∧
      deepest Nesting.clips pass.nesting commands ≤ MAX_STACK_DEPTH ∧
      deepest Nesting.depth pass.nesting commands ≤ MAX_STACK_DEPTH ∧
      pass.segments + total segmentCount commands ≤ MAX_TOTAL_SEGMENTS ∧
      pass.textBytes + total textSize commands ≤ MAX_TEXT_BYTES := by
  induction commands generalizing pass with
  | nil =>
      exact ⟨trivial, Nat.zero_le _, Nat.zero_le _, kept.segments, kept.textBytes⟩
  | cons command rest ih =>
      obtain ⟨⟨visited, path⟩, seen, valid⟩ := bind_eq_ok_iff.mp valid
      obtain ⟨counted, drawn, valid⟩ := bind_eq_ok_iff.mp valid
      obtain ⟨few, valid⟩ := ite_error_eq_ok_iff.mp valid
      have moves := moves_of_visit kept seen
      have built := countPath_moves drawn
      have nesting : counted.nesting = pass.nesting.after command := by
        rw [built]
        exact moves.nesting
      have segments : counted.segments = pass.segments + segmentCount command := by
        rw [built, segmentCount, ← moves.path, ← moves.segments]
      have textBytes : counted.textBytes = pass.textBytes + textSize command := by
        rw [built]
        exact moves.textBytes
      have countedKept : counted.Kept := by
        rw [built] at few ⊢
        exact ⟨moves.kept.depth, moves.kept.shallow, Nat.not_lt.mp few, moves.kept.textBytes⟩
      obtain ⟨balanced, clips, depth, restSegments, restText⟩ := ih countedKept valid
      have shallow := countedKept.shallow
      rw [nesting] at balanced clips depth shallow
      rw [segments] at restSegments
      rw [textBytes] at restText
      unfold total at restSegments restText ⊢
      rw [List.map_cons, List.sum_cons, List.map_cons, List.sum_cons]
      exact ⟨⟨moves.balanced, balanced⟩, Nat.max_le.mpr ⟨shallow.1, clips⟩,
        Nat.max_le.mpr ⟨shallow.2.1, depth⟩, by omega, by omega⟩

theorem counts_of_legal {command : Command} (legal : command.Legal) :
    segmentCount command ≤ MAX_PATH_SEGMENTS ∧ gradientCount command ≤ MAX_GRADIENT_STOPS := by
  have stops : ∀ {brush : Brush}, brush.Legal → stopCount brush ≤ MAX_GRADIENT_STOPS := by
    intro brush bounded
    cases brush with
    | solid color => exact Nat.zero_le _
    | image asset transform extend => exact Nat.zero_le _
    | linear start finish stops colorSpace => exact bounded
    | radial center radius stops colorSpace => exact bounded
  cases command with
  | fill path brush => exact ⟨legal.1, stops legal.2⟩
  | stroke path brush width => exact ⟨legal.1, stops legal.2⟩
  | styledStroke path brush style => exact ⟨legal.1, stops legal.2.1⟩
  | clip path => exact ⟨legal, Nat.zero_le _⟩
  | hit id path role cursor => exact ⟨legal.1, Nat.zero_le _⟩
  | _ => exact ⟨Nat.zero_le _, Nat.zero_le _⟩

/-! ## The result -/

/-- Every measure of a display list is at most its limit. -/
structure WithinLimits (canvas : Canvas) (bytes : List UInt8) (limits : Limits) : Prop where
  encoded : bytes.length ≤ limits.limit 0
  commands : canvas.commands.length ≤ limits.limit 1
  path : longest segmentCount canvas.commands ≤ limits.limit 2
  segments : total segmentCount canvas.commands ≤ limits.limit 3
  saves : deepest Nesting.depth .start canvas.commands ≤ limits.limit 4
  clips : deepest Nesting.clips .start canvas.commands ≤ limits.limit 4
  text : total textSize canvas.commands ≤ limits.limit 5
  gradient : longest gradientCount canvas.commands ≤ limits.limit 6

theorem shallow_start (bound : Nat) : Walk.start.nesting.Shallow bound :=
  ⟨Nat.zero_le _, Nat.zero_le _, by simp [Walk.nesting, Walk.start]⟩

theorem validate_of_encode {canvas : Canvas} {bytes : List UInt8}
    (encoded : canvas.encode validRect = .ok bytes) : canvas.validate validRect = .ok () := by
  obtain ⟨_, valid, _⟩ := bind_eq_ok_iff.mp encoded
  exact valid

theorem encode_short {canvas : Canvas} {bytes : List UInt8}
    (encoded : canvas.encode validRect = .ok bytes) : bytes.length ≤ MAX_SCENE_BYTES := by
  obtain ⟨_, _, encoded⟩ := bind_eq_ok_iff.mp encoded
  cases written : Cbor.encode (.array (canvas.commands.map commandValue)) with
  | error _ =>
      rw [written] at encoded
      cases encoded
  | ok held =>
      rw [written] at encoded
      obtain ⟨short, same⟩ := ite_error_eq_ok_iff.mp encoded
      rw [← Except.ok.inj same]
      exact Nat.not_lt.mp short

/-- The ceilings themselves, for a list that is encoded. -/
theorem measures_of_encode {canvas : Canvas} {bytes : List UInt8}
    (encoded : canvas.encode validRect = .ok bytes) :
    Balanced .start canvas.commands ∧ WithinLimits canvas bytes .default := by
  have valid := validate_of_encode encoded
  obtain ⟨few, legal⟩ := Canvas.legal_of_validate valid
  obtain ⟨_, checked⟩ := ite_error_eq_ok_iff.mp valid
  obtain ⟨pass, checked, _⟩ := bind_eq_ok_iff.mp checked
  obtain ⟨balanced, clips, depth, segments, textBytes⟩ :=
    validateCommands_moves Pass.kept_start checked
  rw [Pass.start, Nat.zero_add] at segments textBytes
  have counts := fun command held => counts_of_legal (legal command held)
  obtain ⟨bytesLimit, commandsLimit, pathLimit, segmentsLimit, depthLimit, textLimit,
    gradientLimit⟩ := default_limit
  refine ⟨balanced, ?_⟩
  constructor
  · rw [bytesLimit]
    exact encode_short encoded
  · rw [commandsLimit]
    exact few
  · rw [pathLimit]
    exact longest_le_iff.mpr fun command held => (counts command held).1
  · rw [segmentsLimit]
    exact segments
  · rw [depthLimit]
    exact depth
  · rw [depthLimit]
    exact clips
  · rw [textLimit]
    exact textBytes
  · rw [gradientLimit]
    exact longest_le_iff.mpr fun command held => (counts command held).2

theorem validateWithLimits_eq_ok {canvas : Canvas} {limits : Limits} :
    canvas.validateWithLimits validRect limits = .ok () ↔
      ∃ bytes, canvas.encode validRect = .ok bytes ∧ WithinLimits canvas bytes limits := by
  rw [Canvas.validateWithLimits, check_bind_eq_ok_iff, ite_error_eq_ok_iff, bind_eq_ok_iff]
  constructor
  · intro held
    obtain ⟨-, few, bytes, encoded, rest⟩ := held
    obtain ⟨short, rest⟩ := ite_error_eq_ok_iff.mp rest
    obtain ⟨final, walked, rest⟩ := bind_eq_ok_iff.mp rest
    obtain ⟨sums, -⟩ := ite_error_eq_ok_iff.mp rest
    obtain ⟨segments, textBytes⟩ := walkCommands_counts (shallow_start _) walked
    obtain ⟨-, clips, depth, gradient, path⟩ :=
      (walkCommands_ends (shallow_start _)).mp ⟨final, walked⟩
    rw [segments, textBytes, not_or, Nat.not_lt, Nat.not_lt, Walk.start, Nat.zero_add,
      Nat.zero_add] at sums
    exact ⟨bytes, encoded, Nat.not_lt.mp short, Nat.not_lt.mp few, path, sums.1, depth, clips,
      sums.2, gradient⟩
  · intro held
    obtain ⟨bytes, encoded, within⟩ := held
    obtain ⟨balanced, -⟩ := measures_of_encode encoded
    obtain ⟨final, walked⟩ := (walkCommands_ends (shallow_start (limits.limit 4))).mpr
      ⟨balanced, within.clips, within.saves, within.gradient, within.path⟩
    obtain ⟨segments, textBytes⟩ := walkCommands_counts (shallow_start _) walked
    refine ⟨validate_of_encode encoded, Nat.not_lt.mpr within.commands, bytes, encoded, ?_⟩
    rw [if_neg (Nat.not_lt.mpr within.encoded), walked, ok_bind, segments, textBytes, Walk.start,
      Nat.zero_add, Nat.zero_add, if_neg]
    rw [not_or]
    exact ⟨Nat.not_lt.mpr within.segments, Nat.not_lt.mpr within.text⟩

theorem WithinLimits.mono {canvas : Canvas} {bytes : List UInt8} {limits larger : Limits}
    (within : WithinLimits canvas bytes limits)
    (grows : ∀ key, limits.limit key ≤ larger.limit key) : WithinLimits canvas bytes larger :=
  ⟨within.encoded.trans (grows 0), within.commands.trans (grows 1), within.path.trans (grows 2),
    within.segments.trans (grows 3), within.saves.trans (grows 4), within.clips.trans (grows 4),
    within.text.trans (grows 5), within.gradient.trans (grows 6)⟩

/-- The negotiated limits are the ceilings made smaller: a list is accepted if it is
encoded and measures no more than each limit. -/
theorem negotiated_limits (canvas : Canvas) (limits : Limits) :
    (canvas.validateWithLimits validRect limits = .ok () ↔
        ∃ bytes, canvas.encode validRect = .ok bytes ∧ WithinLimits canvas bytes limits) ∧
      (∀ larger : Limits, (∀ key, limits.limit key ≤ larger.limit key) →
        canvas.validateWithLimits validRect limits = .ok () →
        canvas.validateWithLimits validRect larger = .ok ()) ∧
      (canvas.validateWithLimits validRect .default = .ok () ↔
        ∃ bytes, canvas.encode validRect = .ok bytes) := by
  refine ⟨validateWithLimits_eq_ok, fun larger grows accepted => ?_, ?_⟩
  · obtain ⟨bytes, encoded, within⟩ := validateWithLimits_eq_ok.mp accepted
    exact validateWithLimits_eq_ok.mpr ⟨bytes, encoded, within.mono grows⟩
  · rw [validateWithLimits_eq_ok]
    constructor
    · intro held
      obtain ⟨bytes, encoded, -⟩ := held
      exact ⟨bytes, encoded⟩
    · intro encoded
      obtain ⟨bytes, encoded⟩ := encoded
      exact ⟨bytes, encoded, (measures_of_encode encoded).2⟩

def sampleTriangle : Path :=
  ⟨[.move ⟨Scalar.ZERO, Scalar.ZERO⟩, .line ⟨Scalar.ONE, Scalar.ZERO⟩,
    .line ⟨Scalar.ONE, Scalar.ONE⟩, .close], false⟩

def sampleGradient : Brush :=
  .linear ⟨Scalar.ZERO, Scalar.ZERO⟩ ⟨Scalar.ONE, Scalar.ONE⟩ [⟨0, ⟨255⟩⟩, ⟨65535, ⟨0⟩⟩] .oklab

def sampleWord : Text :=
  { text := "word"
    origin := ⟨Scalar.ZERO, Scalar.ONE⟩
    size := Scalar.ONE
    family := "serif"
    weight := 400
    italic := false
    color := ⟨255⟩
    maxWidth := none }

/-- A clipped triangle with a gradient, and a word on it. -/
def sampleScene : Canvas :=
  ⟨[.save, .clip sampleTriangle, .fill sampleTriangle sampleGradient, .text sampleWord, .restore]⟩

/-- The ceilings made as small as the scene measures, but for its bytes. -/
def tightLimits : Limits :=
  ⟨(((((Limits.default.values.set 1 5).set 2 4).set 3 8).set 4 1).set 5 4).set 6 2⟩

theorem negotiated_limits_tight :
    Limits.new tightLimits.values = .ok tightLimits ∧
      (∃ bytes, sampleScene.encode Rect.validate = .ok bytes ∧
        WithinLimits sampleScene bytes tightLimits) ∧
      sampleScene.validateWithLimits Rect.validate .default = .ok () ∧
      ∀ key ∈ [1, 2, 3, 4, 5, 6], sampleScene.validateWithLimits Rect.validate
        ⟨tightLimits.values.setIfInBounds key (tightLimits.values.getD key 0 - 1)⟩ ≠ .ok () := by
  have accepted : sampleScene.validateWithLimits Rect.validate tightLimits = .ok () := by
    decide +kernel
  obtain ⟨exact, grows, -⟩ := @negotiated_limits Rect.validate sampleScene tightLimits
  exact ⟨by decide +kernel, exact.mp accepted, grows .default (by decide +kernel) accepted,
    by decide +kernel⟩

end VividProtocol.Drawing

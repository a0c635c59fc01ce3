import Mathlib.Tactic
import VividProtocol.Drawing.Codec

/-!
# Commands that pass the checks of a list

What the checks of a whole display list imply for each command, as far as the
codec depends on it: lengths below the ceilings and known resize edges.
-/

set_option autoImplicit false

namespace VividProtocol.Drawing

open VividProtocol.Overlay
open VividProtocol.Library.Result

def Path.Legal (path : Path) : Prop := path.segments.length ≤ MAX_PATH_SEGMENTS

def Brush.Legal : Brush → Prop
  | .linear _ _ stops _ => stops.length ≤ MAX_GRADIENT_STOPS
  | .radial _ _ stops _ => stops.length ≤ MAX_GRADIENT_STOPS
  | _ => True

def LegalRole : HitRole → Prop
  | .resize edges => edges ≠ 0 ∧ edges ≤ 15
  | _ => True

def Command.Legal : Command → Prop
  | .fill path brush => path.Legal ∧ brush.Legal
  | .stroke path brush _ => path.Legal ∧ brush.Legal
  | .clip path => path.Legal
  | .text run => run.text.utf8ByteSize ≤ MAX_TEXT_BYTES ∧ run.family.utf8ByteSize ≤ 256
  | .hit _ path role _ => path.Legal ∧ LegalRole role
  | .styledStroke path brush style =>
      path.Legal ∧ brush.Legal ∧ style.dashes.length ≤ MAX_DASH_ENTRIES
  | _ => True

theorem Path.legal_of_validate {path : Path} {done : Unit} (valid : path.validate = .ok done) :
    path.Legal := by
  have bounded := (ite_error_eq_ok_iff.mp valid).1
  exact Nat.le_of_not_lt (mt Or.inr bounded)

theorem stops_of_validate {stops : List GradientStop} {done : Unit}
    (valid : validateStops stops = .ok done) : stops.length ≤ MAX_GRADIENT_STOPS := by
  have bounded := (ite_error_eq_ok_iff.mp valid).1
  exact (Decidable.not_not.mp (mt Or.inl bounded)).2

theorem Brush.legal_of_validate {brush : Brush} {done : Unit} (valid : brush.validate = .ok done) :
    brush.Legal := by
  cases brush with
  | solid color => trivial
  | image asset transform extend => trivial
  | linear start finish stops colorSpace =>
      exact stops_of_validate (ite_error_eq_ok_iff.mp valid).2
  | radial center radius stops colorSpace =>
      exact stops_of_validate (ite_error_eq_ok_iff.mp valid).2

theorem legal_of_countPath {pass counted : Pass} {path : Path}
    (done : countPath pass (some path) = .ok counted) : path.Legal := by
  obtain ⟨_, valid, _⟩ := bind_eq_ok_iff.mp done
  exact Path.legal_of_validate valid

section Checks

variable {validRect : Rect → Except InvalidScene Unit} {pass visited counted : Pass}
  {command : Command} {path : Option Path}

/-- A command that the loop lets pass is legal. -/
theorem legal_of_visit (seen : visit validRect pass command = .ok (visited, path))
    (done : countPath visited path = .ok counted) : command.Legal := by
  cases command with
  | fill path brush =>
      obtain ⟨_, valid, same⟩ := bind_eq_ok_iff.mp seen
      cases same
      exact ⟨legal_of_countPath done, Brush.legal_of_validate valid⟩
  | stroke path brush width =>
      obtain ⟨_, valid, rest⟩ := bind_eq_ok_iff.mp seen
      obtain ⟨_, same⟩ := ite_error_eq_ok_iff.mp rest
      cases same
      exact ⟨legal_of_countPath done, Brush.legal_of_validate valid⟩
  | clip path =>
      obtain ⟨_, same⟩ := ite_error_eq_ok_iff.mp seen
      cases same
      exact legal_of_countPath done
  | text text =>
      obtain ⟨_, counted, same⟩ := bind_eq_ok_iff.mp seen
      obtain ⟨bytes, sum, checked⟩ := bind_eq_ok_iff.mp counted
      obtain ⟨short, _⟩ := ite_error_eq_ok_iff.mp checked
      unfold checkedSize at sum
      split_ifs at sum
      cases sum
      simp only [not_or, Nat.not_lt] at short
      exact ⟨le_trans (Nat.le_add_left _ _) short.1, short.2.1⟩
  | hit id path role cursor =>
      obtain ⟨_, seen⟩ := ite_error_eq_ok_iff.mp seen
      cases role with
      | resize edges =>
          obtain ⟨known, same⟩ := ite_error_eq_ok_iff.mp seen
          cases same
          simp only [not_or, UInt8.not_lt] at known
          exact ⟨legal_of_countPath done, known⟩
      | _ =>
          cases seen
          exact ⟨legal_of_countPath done, trivial⟩
  | styledStroke path brush style =>
      obtain ⟨_, valid, rest⟩ := bind_eq_ok_iff.mp seen
      obtain ⟨_, styled, same⟩ := bind_eq_ok_iff.mp rest
      cases same
      obtain ⟨_, styled⟩ := ite_error_eq_ok_iff.mp styled
      obtain ⟨_, styled⟩ := ite_error_eq_ok_iff.mp styled
      obtain ⟨few, _⟩ := ite_error_eq_ok_iff.mp styled
      exact ⟨legal_of_countPath done, Brush.legal_of_validate valid,
        Nat.le_of_not_lt (mt Or.inl few)⟩
  | _ => trivial

theorem legal_of_validateCommands {commands : List Command}
    (valid : validateCommands validRect pass commands = .ok counted) :
    ∀ command ∈ commands, command.Legal := by
  induction commands generalizing pass with
  | nil => simp
  | cons first rest ih =>
      obtain ⟨⟨visited, path⟩, seen, valid⟩ := bind_eq_ok_iff.mp valid
      obtain ⟨next, drawn, valid⟩ := bind_eq_ok_iff.mp valid
      obtain ⟨_, valid⟩ := ite_error_eq_ok_iff.mp valid
      exact List.forall_mem_cons.mpr ⟨legal_of_visit seen drawn, ih valid⟩

/-- A list that passes is of legal commands, and not too many. -/
theorem Canvas.legal_of_validate {canvas : Canvas} {done : Unit}
    (valid : canvas.validate validRect = .ok done) :
    canvas.commands.length ≤ MAX_COMMANDS ∧ ∀ command ∈ canvas.commands, command.Legal := by
  obtain ⟨few, valid⟩ := ite_error_eq_ok_iff.mp valid
  obtain ⟨pass, checked, _⟩ := bind_eq_ok_iff.mp valid
  exact ⟨Nat.le_of_not_lt few, legal_of_validateCommands checked⟩

end Checks

end VividProtocol.Drawing

import Mathlib.Tactic
import VividProtocol.FileDrop.LaneAgreement
import VividProtocol.Library.Paths

/-!
# What a result discloses

A result names a file only if it was committed.  The path that goes with the name
is a directory and that name, and whoever follows it never climbs.
-/

set_option autoImplicit false

namespace VividProtocol.FileDrop

open VividProtocol.Library.Paths
open VividProtocol.Library.Result

def dots : Dots Char := ⟨['.'], ['.', '.']⟩

/-! ## Names -/

/-- A name that is one component of a path and leads into a directory. -/
structure Plain (name : String) : Prop where
  nonempty : name.toList ≠ []
  noSeparator : '/' ∉ name.toList
  notHere : name.toList ≠ ['.']
  notParent : name.toList ≠ ['.', '.']

theorem plain_of_suggested {name : String} {done : Unit}
    (checked : validateSuggestedName name = .ok done) : Plain name := by
  unfold validateSuggestedName at checked
  have passed := (ite_error_eq_ok_iff.mp checked).1
  simp only [not_or] at passed
  obtain ⟨nonempty, -, here, parent, -, -, safe, -⟩ := passed
  have spelled (text : String) : name.toList = text.toList → name = text := String.toList_inj.mp
  refine ⟨mt (spelled "") nonempty, ?_, mt (spelled ".") here, mt (spelled "..") parent⟩
  intro among
  refine safe (List.any_eq_true.mpr ⟨'/', among, ?_⟩)
  decide

theorem Plain.step {name : String} (plain : Plain name) (place : List (List Char)) :
    step dots place name.toList = place ++ [name.toList] := by
  have stays : ¬ (name.toList = [] ∨ name.toList = dots.here) := by
    rintro (none | same)
    · exact plain.nonempty none
    · exact plain.notHere same
  have climbs : ¬ name.toList = dots.parent := plain.notParent
  unfold Library.Paths.step
  rw [if_neg stays, if_neg climbs]

/-! ## Paths -/

/-- What the check of a path lets pass. -/
structure SafePath (path finalName : String) : Prop where
  short : path.utf8ByteSize ≤ MAX_COMMITTED_PATH_BYTES
  absolute : path.toList.head? = some '/'
  printable : ∀ character ∈ path.toList, isControl character = false
  descends : ['.', '.'] ∉ path.toList.splitOn '/'
  ends : (path.toList.splitOn '/').getLast? = some finalName.toList

theorem validateCommittedPath_eq_ok {path finalName : String} {done : Unit} :
    validateCommittedPath path finalName = .ok done ↔ SafePath path finalName := by
  unfold validateCommittedPath
  rw [ite_error_eq_ok_iff]
  constructor
  · intro checked
    have passed := checked.1
    simp only [not_or, not_not, List.any_eq_true, not_exists, not_and, Bool.not_eq_true,
      Nat.not_lt] at passed
    obtain ⟨-, short, absolute, printable, descends, ends⟩ := passed
    exact ⟨short, absolute, printable, descends, ends⟩
  · intro safe
    refine ⟨?_, rfl⟩
    simp only [not_or, not_not, List.any_eq_true, not_exists, not_and, Bool.not_eq_true,
      Nat.not_lt]
    refine ⟨?_, safe.short, safe.absolute, safe.printable, safe.descends, safe.ends⟩
    rintro rfl
    exact absurd safe.absolute (by simp)

/-- A safe path is a directory and the name in it. -/
theorem SafePath.exists_directory {path finalName : String} (safe : SafePath path finalName)
    (plain : Plain finalName) :
    ∃ directory, path.toList = directory ++ '/' :: finalName.toList ∧
      (directory = [] ∨ directory.head? = some '/') ∧
      walk dots (path.toList.splitOn '/') =
        walk dots (directory.splitOn '/') ++ [finalName.toList] := by
  have parted : path.toList ≠ finalName.toList := by
    intro same
    have first := List.mem_of_mem_head? safe.absolute
    rw [same] at first
    exact plain.noSeparator first
  obtain ⟨directory, whole⟩ := Library.Paths.exists_directory safe.ends parted
  refine ⟨directory, whole, ?_, ?_⟩
  · have absolute := safe.absolute
    rw [whole] at absolute
    cases directory with
    | nil => exact .inl rfl
    | cons first rest => exact .inr absolute
  · rw [whole, splitOn_directory plain.noSeparator, walk_concat, plain.step]

/-- What is read of a result discloses a file only if the file is there.  Its path
is a directory followed by its final name, has no control characters, leads to that
name in that directory, and every part of it leads to a place on the way. -/
theorem file_result_discloses (body : List UInt8) (result : FileResult)
    (read : FileResult.decode body = .ok result) :
    (result.committed = false → result.finalName = "" ∧ result.committedPath = none) ∧
      ∀ path, result.committedPath = some path →
        (∀ character ∈ path.toList, isControl character = false) ∧
        (∃ directory, path.toList = directory ++ '/' :: result.finalName.toList ∧
          (directory = [] ∨ directory.head? = some '/') ∧
          walk dots (path.toList.splitOn '/') =
            walk dots (directory.splitOn '/') ++ [result.finalName.toList]) ∧
        ∀ before after, path.toList.splitOn '/' = before ++ after →
          walk dots before <+: walk dots (path.toList.splitOn '/') := by
  have valid := (FileResult.encode_eq_ok.mp (FileResult.exact.mp read)).1
  have name := valid.finalName
  unfold FileResult.validateFinalName at name
  constructor
  · intro failed
    rw [if_neg (by rw [failed]; decide), ite_error_eq_ok_iff, not_not] at name
    refine ⟨name.1, Option.eq_none_iff_forall_ne_some.mpr ?_⟩
    intro path held
    have committed := (valid.committedPath path held).1
    rw [failed] at committed
    cases committed
  · intro path held
    obtain ⟨committed, checked⟩ := valid.committedPath path held
    rw [if_pos committed] at name
    have safe := validateCommittedPath_eq_ok.mp checked
    refine ⟨safe.printable, safe.exists_directory (plain_of_suggested name), ?_⟩
    intro before after split
    have descends := safe.descends
    rw [split] at descends ⊢
    exact walk_prefix descends

def committedNotes : FileResult where
  transferId := 1
  transferGeneration := .one
  result := .committed
  committedLength := 5
  finalName := "notes"
  committedPath := some "/home/./a//notes"

theorem file_result_discloses_notes :
    ∃ directory, "/home/./a//notes".toList = directory ++ '/' :: "notes".toList ∧
      walk dots ("/home/./a//notes".toList.splitOn '/') =
        walk dots (directory.splitOn '/') ++ ["notes".toList] := by
  obtain ⟨body, sent⟩ : ∃ body, committedNotes.encode = .ok body := ⟨_, rfl⟩
  have disclosed := (file_result_discloses body committedNotes (FileResult.exact.mpr sent)).2
  obtain ⟨-, ⟨directory, whole, -, leads⟩, -⟩ := disclosed "/home/./a//notes" rfl
  exact ⟨directory, whole, leads⟩

end VividProtocol.FileDrop

import Mathlib.Tactic

/-!
# Checked arithmetic on signed words

A checked operation gives the word that stands for the exact integer, and
nothing if there is none.  So each has one lemma: what it gives stands for the
integer.
-/

set_option autoImplicit false

namespace VividProtocol.Library.SignedWords

/-- The word for an integer. -/
def wordOf (value : Int) : Option Int64 :=
  if -2 ^ 63 ≤ value ∧ value < 2 ^ 63 then some (Int64.ofInt value) else none

def signedAdd (left right : Int64) : Option Int64 := wordOf (left.toInt + right.toInt)

def signedSub (left right : Int64) : Option Int64 := wordOf (left.toInt - right.toInt)

def signedMul (left right : Int64) : Option Int64 := wordOf (left.toInt * right.toInt)

/-- Division toward zero. -/
def signedDiv (left right : Int64) : Option Int64 :=
  if right = 0 then none else wordOf (left.toInt.tdiv right.toInt)

/-- A word without a sign, in a signed one that is twice as wide. -/
def wordOfUInt32 (value : UInt32) : Int64 := Int64.ofInt value.toNat

variable {left right word : Int64} {value : Int}

theorem wordOf_eq_some : wordOf value = some word ↔ word.toInt = value := by
  unfold wordOf
  constructor
  · intro found
    split_ifs at found with fits
    rw [← Option.some.inj found, Int64.toInt_ofInt_of_le fits.1 fits.2]
  · intro same
    have least := word.le_toInt
    have most := word.toInt_lt
    rw [if_pos ⟨by omega, by omega⟩, ← same, Int64.ofInt_toInt]

theorem exists_wordOf :
    (∃ word, wordOf value = some word) ↔ -2 ^ 63 ≤ value ∧ value < 2 ^ 63 := by
  constructor
  · intro found
    obtain ⟨word, same⟩ := found
    rw [← wordOf_eq_some.mp same]
    exact ⟨word.le_toInt, word.toInt_lt⟩
  · intro fits
    exact ⟨_, if_pos fits⟩

theorem signedAdd_eq_some :
    signedAdd left right = some word ↔ word.toInt = left.toInt + right.toInt := wordOf_eq_some

theorem signedMul_eq_some :
    signedMul left right = some word ↔ word.toInt = left.toInt * right.toInt := wordOf_eq_some

theorem signedDiv_eq_some :
    signedDiv left right = some word ↔
      right.toInt ≠ 0 ∧ word.toInt = left.toInt.tdiv right.toInt := by
  have zero : right = 0 ↔ right.toInt = 0 := Int64.toInt_inj.symm
  unfold signedDiv
  split_ifs with none_left
  · simp [zero.mp none_left]
  · rw [wordOf_eq_some, and_iff_right (mt zero.mpr none_left)]

@[simp] theorem toInt_wordOfUInt32 (value : UInt32) : (wordOfUInt32 value).toInt = value.toNat := by
  have small := value.toNat_lt
  exact Int64.toInt_ofInt_of_le (by omega) (by omega)

theorem toInt_max (left right : Int64) : (max left right).toInt = max left.toInt right.toInt := by
  change (if left ≤ right then right else left).toInt = _
  split_ifs with ordered
  · rw [Int64.le_iff_toInt_le] at ordered
    omega
  · rw [Int64.le_iff_toInt_le] at ordered
    omega

theorem toInt_min (left right : Int64) : (min left right).toInt = min left.toInt right.toInt := by
  change (if left ≤ right then left else right).toInt = _
  split_ifs with ordered
  · rw [Int64.le_iff_toInt_le] at ordered
    omega
  · rw [Int64.le_iff_toInt_le] at ordered
    omega

/-- A difference that is exact if it fits. -/
theorem toInt_sub (fits : -2 ^ 63 ≤ left.toInt - right.toInt ∧ left.toInt - right.toInt < 2 ^ 63) :
    (left - right).toInt = left.toInt - right.toInt := by
  rw [Int64.toInt_sub]
  exact Int.bmod_eq_of_le (by omega) (by omega)

end VividProtocol.Library.SignedWords

import Mathlib.Tactic
import VividProtocol.Library.BigEndian

/-!
# Base 64 for URLs

The URL-safe alphabet without padding.  Three bytes are four letters, and bits
that a last group leaves over must be zero.  Decoding is the inverse of encoding.
-/

set_option autoImplicit false

namespace VividProtocol.Library.Base64Url

open BigEndian

/-- The letter of six bits. -/
def letter (bits : Nat) : UInt8 :=
  if bits < 26 then UInt8.ofNat (bits + 65)
  else if bits < 52 then UInt8.ofNat (bits + 71)
  else if bits < 62 then UInt8.ofNat (bits - 4)
  else if bits = 62 then 45
  else 95

/-- The six bits of a letter. -/
def bits (byte : UInt8) : Option Nat :=
  if 65 ≤ byte ∧ byte ≤ 90 then some (byte.toNat - 65)
  else if 97 ≤ byte ∧ byte ≤ 122 then some (byte.toNat - 71)
  else if 48 ≤ byte ∧ byte ≤ 57 then some (byte.toNat + 4)
  else if byte = 45 then some 62
  else if byte = 95 then some 63
  else none

/-- The letters of a number of bytes, first letter first. -/
def letters (count group : Nat) : List UInt8 :=
  match count with
  | 0 => []
  | count + 1 => letter (group / 64 ^ count % 64) :: letters count group

def encode : List UInt8 → List UInt8
  | [] => []
  | [first] => letters 2 (ofBytes [first] * 16)
  | [first, second] => letters 3 (ofBytes [first, second] * 4)
  | first :: second :: third :: rest => letters 4 (ofBytes [first, second, third]) ++ encode rest

/-- The number that letters stand for. -/
def group : List UInt8 → Option Nat
  | [] => some 0
  | byte :: rest => do
      let high ← bits byte
      let low ← group rest
      return high * 64 ^ rest.length + low

def decode : List UInt8 → Option (List UInt8)
  | [] => some []
  | [_] => none
  | [first, second] => do
      let group ← group [first, second]
      if group % 16 = 0 then some (toBytes 1 (group / 16)) else none
  | [first, second, third] => do
      let group ← group [first, second, third]
      if group % 4 = 0 then some (toBytes 2 (group / 4)) else none
  | first :: second :: third :: fourth :: rest => do
      let group ← group [first, second, third, fourth]
      let rest ← decode rest
      return toBytes 3 group ++ rest

/-! ## Letters -/

theorem bits_letter {value : Nat} (small : value < 64) : bits (letter value) = some value := by
  have all : ∀ value : Fin 64, bits (letter value) = some value.val := by decide
  exact all ⟨value, small⟩

theorem length_letters (count group : Nat) : (letters count group).length = count := by
  induction count with
  | zero => rfl
  | succ count ih => rw [letters, List.length_cons, ih]

theorem group_letters (count value : Nat) : group (letters count value) = some (value % 64 ^ count) := by
  induction count with
  | zero => simp [letters, group, Nat.mod_one]
  | succ count ih =>
      have small : value / 64 ^ count % 64 < 64 := Nat.mod_lt _ (by norm_num)
      simp only [letters, group, bits_letter small, ih, length_letters, Option.bind_eq_bind,
        Option.bind_some, Option.pure_def, Option.some.injEq]
      rw [pow_succ, Nat.mod_mul, Nat.mul_comm, Nat.add_comm]

theorem decode_encode (input : List UInt8) : decode (encode input) = some input := by
  induction input using encode.induct with
  | case1 => rfl
  | case2 first =>
      have whole := group_letters 2 (ofBytes [first] * 16)
      have small := ofBytes_lt [first]
      rw [List.length_singleton, pow_one] at small
      rw [Nat.mod_eq_of_lt (by omega)] at whole
      unfold encode
      simp only [letters] at whole ⊢
      simp only [decode, whole, Option.bind_eq_bind, Option.bind_some, Nat.mul_mod_left, if_true]
      rw [Nat.mul_div_cancel _ (by norm_num)]
      exact congrArg some (toBytes_ofBytes [first])
  | case3 first second =>
      have whole := group_letters 3 (ofBytes [first, second] * 4)
      have small := ofBytes_lt [first, second]
      rw [show [first, second].length = 2 from rfl] at small
      rw [Nat.mod_eq_of_lt (by omega)] at whole
      unfold encode
      simp only [letters] at whole ⊢
      simp only [decode, whole, Option.bind_eq_bind, Option.bind_some, Nat.mul_mod_left, if_true]
      rw [Nat.mul_div_cancel _ (by norm_num)]
      exact congrArg some (toBytes_ofBytes [first, second])
  | case4 first second third rest ih =>
      have whole := group_letters 4 (ofBytes [first, second, third])
      have small := ofBytes_lt [first, second, third]
      rw [show [first, second, third].length = 3 from rfl] at small
      rw [Nat.mod_eq_of_lt (by omega)] at whole
      unfold encode
      simp only [letters, List.cons_append, List.nil_append] at whole ⊢
      simp only [decode, whole, ih, Option.bind_eq_bind, Option.bind_some, Option.pure_def]
      exact congrArg (fun head => some (head ++ rest)) (toBytes_ofBytes [first, second, third])

/-! ## The alphabet -/

/-- A letter of the alphabet. -/
def isLetter (byte : UInt8) : Bool := (bits byte).isSome

theorem isLetter_letter (value : Nat) : isLetter (letter (value % 64)) = true := by
  unfold isLetter
  rw [bits_letter (Nat.mod_lt _ (by norm_num))]
  rfl

theorem isLetter_of_letters {count group : Nat} {byte : UInt8} (inside : byte ∈ letters count group) :
    isLetter byte = true := by
  induction count with
  | zero => cases inside
  | succ count ih =>
      rw [letters, List.mem_cons] at inside
      rcases inside with rfl | inside
      · exact isLetter_letter _
      · exact ih inside

theorem isLetter_of_encode {input : List UInt8} {byte : UInt8} (inside : byte ∈ encode input) :
    isLetter byte = true := by
  induction input using encode.induct with
  | case1 => cases inside
  | case2 first => exact isLetter_of_letters inside
  | case3 first second => exact isLetter_of_letters inside
  | case4 first second third rest ih =>
      rw [encode, List.mem_append] at inside
      rcases inside with inside | inside
      · exact isLetter_of_letters inside
      · exact ih inside

theorem length_encode (input : List UInt8) :
    (encode input).length = (4 * input.length + 2) / 3 := by
  induction input using encode.induct with
  | case1 => rfl
  | case2 first =>
      rw [encode, length_letters]
      simp
  | case3 first second =>
      rw [encode, length_letters]
      simp
  | case4 first second third rest ih =>
      rw [encode, List.length_append, length_letters, ih]
      simp only [List.length_cons]
      omega

theorem isLetter_of_group {input : List UInt8} {value : Nat} (read : group input = some value)
    {byte : UInt8} (inside : byte ∈ input) : isLetter byte = true := by
  induction input generalizing value with
  | nil => cases inside
  | cons first rest ih =>
      simp only [group, Option.bind_eq_bind, Option.bind_eq_some_iff] at read
      obtain ⟨high, known, low, following, -⟩ := read
      rcases List.mem_cons.mp inside with rfl | inside
      · exact Option.isSome_iff_exists.mpr ⟨high, known⟩
      · exact ih following inside

theorem isLetter_of_decode {input output : List UInt8} (read : decode input = some output)
    {byte : UInt8} (inside : byte ∈ input) : isLetter byte = true := by
  induction input using decode.induct generalizing output with
  | case1 => cases inside
  | case2 => cases read
  | case3 first second =>
      simp only [decode, Option.bind_eq_bind, Option.bind_eq_some_iff] at read
      obtain ⟨value, known, -⟩ := read
      exact isLetter_of_group known inside
  | case4 first second third =>
      simp only [decode, Option.bind_eq_bind, Option.bind_eq_some_iff] at read
      obtain ⟨value, known, -⟩ := read
      exact isLetter_of_group known inside
  | case5 first second third fourth rest ih =>
      simp only [decode, Option.bind_eq_bind, Option.bind_eq_some_iff] at read
      obtain ⟨value, known, bytes, following, -⟩ := read
      have split : first :: second :: third :: fourth :: rest =
          [first, second, third, fourth] ++ rest := rfl
      rw [split, List.mem_append] at inside
      rcases inside with inside | inside
      · exact isLetter_of_group known inside
      · exact ih following inside

end VividProtocol.Library.Base64Url

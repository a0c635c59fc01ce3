import Mathlib.Tactic

/-!
# Fixed-width big-endian bytes

`toBytes width n` writes the low `width` bytes of `n`, most significant byte
first; `ofBytes` reads any byte string back.  On `width` bytes the two are
inverse, which is all a header or length-prefix codec needs.
-/

set_option autoImplicit false

namespace VividProtocol.Library.BigEndian

/-- The low `width` bytes of `n`, most significant first. -/
def toBytes : Nat → Nat → List UInt8
  | 0, _ => []
  | width + 1, n => UInt8.ofNat (n / 256 ^ width) :: toBytes width n

def ofBytes : List UInt8 → Nat
  | [] => 0
  | byte :: rest => byte.toNat * 256 ^ rest.length + ofBytes rest

@[simp] theorem length_toBytes (width n : Nat) :
    (toBytes width n).length = width := by
  induction width with
  | zero => rfl
  | succ width ih => simp [toBytes, ih]

theorem ofBytes_toBytes_mod (width n : Nat) :
    ofBytes (toBytes width n) = n % 256 ^ width := by
  induction width with
  | zero => simp [toBytes, ofBytes, Nat.mod_one]
  | succ width ih =>
      have digit : (UInt8.ofNat (n / 256 ^ width)).toNat =
          n / 256 ^ width % 256 := by simp
      simp only [toBytes, ofBytes, length_toBytes, ih, digit]
      rw [pow_succ, Nat.mod_mul, Nat.mul_comm, Nat.add_comm]

theorem ofBytes_toBytes (width n : Nat) (fits : n < 256 ^ width) :
    ofBytes (toBytes width n) = n := by
  rw [ofBytes_toBytes_mod, Nat.mod_eq_of_lt fits]

theorem ofBytes_lt (bytes : List UInt8) : ofBytes bytes < 256 ^ bytes.length := by
  induction bytes with
  | nil => simp [ofBytes]
  | cons byte rest ih =>
      have top : byte.toNat ≤ 255 := by have := byte.toNat_lt; omega
      have scaled : byte.toNat * 256 ^ rest.length ≤ 255 * 256 ^ rest.length :=
        Nat.mul_le_mul_right _ top
      simp only [ofBytes, List.length_cons, pow_succ]
      omega

/-- Bytes above the written width do not change what is written. -/
theorem toBytes_add_mul (width high n : Nat) :
    toBytes width (high * 256 ^ width + n) = toBytes width n := by
  induction width generalizing high with
  | zero => rfl
  | succ width ih =>
      have split : high * 256 ^ (width + 1) + n =
          (high * 256) * 256 ^ width + n := by ring
      have digit : UInt8.ofNat ((high * 256 * 256 ^ width + n) / 256 ^ width) =
          UInt8.ofNat (n / 256 ^ width) := by
        rw [Nat.add_comm, Nat.add_mul_div_right _ _ (by positivity)]
        apply UInt8.toNat_inj.mp
        simp
      simp only [toBytes, split, digit, ih]

theorem toBytes_ofBytes (bytes : List UInt8) :
    toBytes bytes.length (ofBytes bytes) = bytes := by
  induction bytes with
  | nil => rfl
  | cons byte rest ih =>
      have digit : (byte.toNat * 256 ^ rest.length + ofBytes rest) /
          256 ^ rest.length = byte.toNat := by
        rw [Nat.add_comm, Nat.add_mul_div_right _ _ (by positivity),
          Nat.div_eq_of_lt (ofBytes_lt rest), Nat.zero_add]
      simp only [ofBytes, List.length_cons, toBytes, digit, toBytes_add_mul, ih,
        UInt8.ofNat_toNat]

theorem toBytes_of_length {width : Nat} {bytes : List UInt8}
    (exact : bytes.length = width) : toBytes width (ofBytes bytes) = bytes := by
  subst exact
  exact toBytes_ofBytes bytes

end VividProtocol.Library.BigEndian

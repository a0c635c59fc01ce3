import Mathlib.Tactic

/-!
# Checked words, counters and time

`u64` arithmetic that refuses to wrap, the revision and generation domains of
`revision.rs`, and the monotonic instants of `time.rs`.
-/

set_option autoImplicit false

namespace VividProtocol

/-- A fixed-size byte array of the source. -/
abbrev Bytes (length : Nat) := Vector UInt8 length

/-- `Sha256::digest`, a parameter of what hashes. -/
abbrev Sha256 := List UInt8 → Bytes 32

/-! ## Checked `u64` arithmetic -/

def checkedAdd (left right : UInt64) : Option UInt64 :=
  if left.toNat + right.toNat < 2 ^ 64 then some (left + right) else none

def checkedSub (left right : UInt64) : Option UInt64 :=
  if right.toNat ≤ left.toNat then some (left - right) else none

def checkedMul (left right : UInt64) : Option UInt64 :=
  if right.toNat * left.toNat < 2 ^ 64 then some (left * right) else none

def saturatingAdd (left right : UInt64) : UInt64 :=
  if left.toNat + right.toNat < 2 ^ 64 then left + right else ⟨BitVec.allOnes 64⟩

theorem saturatingAdd_toNat {left right : UInt64}
    (fits : left.toNat + right.toNat < 2 ^ 64) :
    (saturatingAdd left right).toNat = left.toNat + right.toNat := by
  unfold saturatingAdd
  rw [if_pos fits, UInt64.toNat_add, Nat.mod_eq_of_lt fits]

theorem checkedAdd_eq_some {left right total : UInt64} :
    checkedAdd left right = some total ↔
      total.toNat = left.toNat + right.toNat := by
  unfold checkedAdd
  split_ifs with fits
  · rw [Option.some.injEq, ← UInt64.toNat_inj, UInt64.toNat_add,
      Nat.mod_eq_of_lt fits]
    exact eq_comm
  · have bound := total.toNat_lt
    constructor
    · intro impossible
      cases impossible
    · intro same
      omega

theorem checkedSub_eq_some {left right difference : UInt64} :
    checkedSub left right = some difference ↔
      left.toNat = difference.toNat + right.toNat := by
  unfold checkedSub
  split_ifs with fits
  · have exact := UInt64.toNat_sub_of_le left right (UInt64.le_iff_toNat_le.mpr fits)
    rw [Option.some.injEq, ← UInt64.toNat_inj, exact]
    omega
  · constructor
    · intro impossible
      cases impossible
    · intro same
      omega

theorem checkedMul_eq_some {left right product : UInt64} :
    checkedMul left right = some product ↔ product.toNat = left.toNat * right.toNat := by
  unfold checkedMul
  rw [Nat.mul_comm right.toNat]
  by_cases fits : left.toNat * right.toNat < 2 ^ 64
  · rw [if_pos fits, Option.some.injEq, ← UInt64.toNat_inj, UInt64.toNat_mul,
      Nat.mod_eq_of_lt fits]
    exact eq_comm
  · rw [if_neg fits]
    have bound := product.toNat_lt
    constructor
    · intro impossible
      cases impossible
    · intro same
      omega

theorem checkedMul_fits {left right : UInt64} (fits : left.toNat * right.toNat < 2 ^ 64) :
    checkedMul left right = some (left * right) := by
  rw [checkedMul_eq_some, UInt64.toNat_mul, Nat.mod_eq_of_lt fits]

theorem toNat_max (left right : UInt64) :
    (max left right).toNat = max left.toNat right.toNat := by
  have cases : max left right = if left ≤ right then right else left := rfl
  rw [cases]
  by_cases below : left ≤ right
  · have bound := UInt64.le_iff_toNat_le.mp below
    rw [if_pos below]
    omega
  · have bound := mt UInt64.le_iff_toNat_le.mpr below
    rw [if_neg below]
    omega

/-! ## Masks -/

/-- A value with no bit outside a mask is unchanged by it. -/
theorem and_mask_of_and_not {value mask : UInt64} (outside : value &&& ~~~ mask = 0) :
    value &&& mask = value := by
  apply UInt64.toBitVec_inj.mp
  rw [UInt64.toBitVec_and]
  ext bit inside
  have cleared := congrArg (fun word : UInt64 => word.toBitVec[bit]) outside
  simp only [UInt64.toBitVec_and, UInt64.toBitVec_not, BitVec.getElem_and,
    BitVec.getElem_not] at cleared
  rw [BitVec.getElem_and]
  cases isSet : value.toBitVec[bit] with
  | false => rfl
  | true =>
      rw [isSet] at cleared
      simpa using cleared

/-- A mask that covers a value still does with more bits. -/
theorem and_or_of_covered {value mask more : UInt64} (covered : value &&& mask = value) :
    value &&& (mask ||| more) = value := by
  apply UInt64.toBitVec_inj.mp
  have bits := congrArg UInt64.toBitVec covered
  rw [UInt64.toBitVec_and] at bits
  rw [UInt64.toBitVec_and, UInt64.toBitVec_or]
  ext bit inside
  have kept := congrArg (fun word : BitVec 64 => word[bit]) bits
  simp only [BitVec.getElem_and] at kept
  simp only [BitVec.getElem_and, BitVec.getElem_or]
  cases isSet : value.toBitVec[bit] with
  | false => rfl
  | true =>
      rw [isSet, Bool.true_and] at kept
      rw [kept]
      rfl

/-- Some bit of the mask is set in the value. -/
def Meets (value mask : UInt64) : Prop := value &&& mask ≠ 0

theorem meets_or {left right mask : UInt64} :
    Meets (left ||| right) mask ↔ Meets left mask ∨ Meets right mask := by
  have distributed : (left ||| right) &&& mask = (left &&& mask) ||| (right &&& mask) := by
    apply UInt64.toBitVec_inj.mp
    simp only [UInt64.toBitVec_and, UInt64.toBitVec_or]
    exact BitVec.and_or_distrib_right
  unfold Meets
  rw [distributed, ne_eq, UInt64.or_eq_zero_iff, not_and_or]

theorem not_meets_zero (mask : UInt64) : ¬ Meets 0 mask := by
  unfold Meets
  rw [UInt64.zero_and]
  exact fun nonzero => nonzero rfl

/-! ## Errors of `std::io` -/

inductive IoErrorKind where
  | invalidInput
  | invalidData
  | brokenPipe
  | writeZero
  | unexpectedEof
  | other
  deriving Repr, DecidableEq

structure IoError where
  kind : IoErrorKind
  message : String
  deriving Repr, DecidableEq

/-! ## Revision and generation domains -/

/-- `counter_type!(Name, label)`: one type for each label. -/
structure Counter (label : String) where
  value : UInt64
  deriving Repr, DecidableEq

namespace Counter

variable {label : String}

def zero : Counter label := { value := 0 }
def one : Counter label := { value := 1 }

def toNat (counter : Counter label) : Nat := counter.value.toNat

instance : LT (Counter label) := ⟨fun left right => left.value < right.value⟩
instance : LE (Counter label) := ⟨fun left right => left.value ≤ right.value⟩

instance (left right : Counter label) : Decidable (left < right) :=
  inferInstanceAs (Decidable (left.value < right.value))

instance (left right : Counter label) : Decidable (left ≤ right) :=
  inferInstanceAs (Decidable (left.value ≤ right.value))

def advance (counter : Counter label) : Except IoError (Counter label) :=
  match checkedAdd counter.value 1 with
  | some value => .ok { value := value }
  | none => .error ⟨.invalidData, label ++ " exhausted"⟩

def requireNonzero (counter : Counter label) : Except IoError (Counter label) :=
  if counter.value = 0 then
    .error ⟨.invalidData, label ++ " must be nonzero"⟩
  else .ok counter

theorem lt_iff_toNat {left right : Counter label} :
    left < right ↔ left.toNat < right.toNat :=
  UInt64.lt_iff_toNat_lt

theorem le_iff_toNat {left right : Counter label} :
    left ≤ right ↔ left.toNat ≤ right.toNat :=
  UInt64.le_iff_toNat_le

theorem toNat_inj {left right : Counter label} :
    left.toNat = right.toNat ↔ left = right := by
  cases left
  cases right
  simp [toNat, UInt64.toNat_inj]

theorem advance_eq_ok {counter next : Counter label} :
    counter.advance = .ok next ↔ next.toNat = counter.toNat + 1 := by
  unfold advance
  cases sum : checkedAdd counter.value 1 with
  | none =>
      constructor
      · intro impossible
        cases impossible
      · intro same
        have fits : checkedAdd counter.value 1 = some next.value :=
          checkedAdd_eq_some.mpr same
        rw [fits] at sum
        cases sum
  | some value =>
      have exact : value.toNat = counter.toNat + 1 := checkedAdd_eq_some.mp sum
      rw [Except.ok.injEq, ← toNat_inj, ← exact]
      exact eq_comm

theorem advance_eq_error {counter : Counter label} {error : IoError}
    (exhausted : counter.advance = .error error) : counter.toNat + 1 = 2 ^ 64 := by
  unfold advance checkedAdd at exhausted
  have bound : counter.value.toNat < 2 ^ 64 := counter.value.toNat_lt
  by_cases fits : counter.value.toNat + (1 : UInt64).toNat < 2 ^ 64
  · simp only [fits, if_true] at exhausted
    cases exhausted
  · have one : (1 : UInt64).toNat = 1 := rfl
    unfold toNat
    omega

end Counter

abbrev ContextRevision := Counter "context revision"
abbrev SurfaceRevision := Counter "surface revision"
abbrev SurfaceGeneration := Counter "surface generation"
abbrev TrackRevision := Counter "track revision"
abbrev SceneRevision := Counter "scene revision"
abbrev TargetGeneration := Counter "target generation"
abbrev ResumeGeneration := Counter "lease resume generation"
abbrev ChannelGeneration := Counter "channel generation"
abbrev InputEpoch := Counter "input epoch"
abbrev GrantGeneration := Counter "presenter grant generation"
abbrev FileDropEpoch := Counter "file-drop epoch"
abbrev FileDropGrantGeneration := Counter "file-drop grant generation"
abbrev FileTransferGeneration := Counter "file-transfer generation"

/-! ## Instants -/

/-- Microseconds from an origin the caller chose. -/
structure Monotonic where
  micros : UInt64
  deriving Repr, DecidableEq

namespace Monotonic

def toNat (instant : Monotonic) : Nat := instant.micros.toNat

instance : LT Monotonic := ⟨fun left right => left.micros < right.micros⟩
instance : LE Monotonic := ⟨fun left right => left.micros ≤ right.micros⟩

instance (left right : Monotonic) : Decidable (left < right) :=
  inferInstanceAs (Decidable (left.micros < right.micros))

instance (left right : Monotonic) : Decidable (left ≤ right) :=
  inferInstanceAs (Decidable (left.micros ≤ right.micros))

def checkedAddMicros (instant : Monotonic) (micros : UInt64) : Option Monotonic :=
  match checkedAdd instant.micros micros with
  | some value => some { micros := value }
  | none => none

def checkedSubMicros (instant : Monotonic) (micros : UInt64) : Option Monotonic :=
  match checkedSub instant.micros micros with
  | some value => some { micros := value }
  | none => none

def saturatingElapsedSince (instant earlier : Monotonic) : UInt64 :=
  if earlier.micros ≤ instant.micros then instant.micros - earlier.micros else 0

theorem lt_iff_toNat {left right : Monotonic} :
    left < right ↔ left.toNat < right.toNat :=
  UInt64.lt_iff_toNat_lt

theorem le_iff_toNat {left right : Monotonic} :
    left ≤ right ↔ left.toNat ≤ right.toNat :=
  UInt64.le_iff_toNat_le

theorem checkedAddMicros_eq_some {instant later : Monotonic} {micros : UInt64} :
    instant.checkedAddMicros micros = some later ↔
      later.toNat = instant.toNat + micros.toNat := by
  obtain ⟨later⟩ := later
  have sums := @checkedAdd_eq_some instant.micros micros later
  unfold checkedAddMicros
  cases sum : checkedAdd instant.micros micros with
  | none => simpa [sum, toNat] using sums
  | some value => simpa [sum, toNat] using sums

theorem checkedSubMicros_eq_some {instant earlier : Monotonic} {micros : UInt64} :
    instant.checkedSubMicros micros = some earlier ↔
      instant.toNat = earlier.toNat + micros.toNat := by
  obtain ⟨earlier⟩ := earlier
  have differences := @checkedSub_eq_some instant.micros micros earlier
  unfold checkedSubMicros
  cases difference : checkedSub instant.micros micros with
  | none => simpa [difference, toNat] using differences
  | some value => simpa [difference, toNat] using differences

end Monotonic

end VividProtocol

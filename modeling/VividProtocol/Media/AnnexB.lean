import Mathlib.Tactic
import VividProtocol.Library.Bounds
import VividProtocol.Media.Packet

/-!
# Access units in Annex B form

`ensure_annexb` of `media.rs`, which guesses the form of an access unit from its
first bytes.  A length prefix can look like a start code, and then an access
unit with length prefixes is passed through as it is.
-/

set_option autoImplicit false

namespace VividProtocol.Media

open VividProtocol.Library.BigEndian
open VividProtocol.Library.Bounds
open VividProtocol.Library.Result

/-! ## Normalisation -/

def annexbInvalid (message : String) : IoError := ⟨.invalidData, "H.264: " ++ message⟩

/-- `checked_add(..).filter(|end| *end <= size).ok_or_else(..)`; no size passes
`isize::MAX`, so the sum does not overflow where the filter lets it through. -/
def endWithin (cursor length size : Nat) (message : String) : Except (Fault IoError) Nat :=
  if cursor + length ≤ size then .ok (cursor + length) else refuse (annexbInvalid message)

def startsWithStartCode (unit : List UInt8) : Bool :=
  [0, 0, 0, 1].isPrefixOf unit || [0, 0, 1].isPrefixOf unit

/-- One round of the loop: the NAL unit at the cursor and the cursor after it. -/
def takePrefixedNal (unit : List UInt8) (cursor : Nat) :
    Except (Fault IoError) (List UInt8 × Nat) := do
  let lengthEnd ← endWithin cursor 4 unit.length "access unit is neither Annex-B nor AVCC"
  let field ← range unit cursor lengthEnd
  if ofBytes field = 0 then
    refuse (annexbInvalid "AVCC access unit contains an empty NAL unit")
  else do
    let stop ← endWithin lengthEnd (ofBytes field) unit.length "AVCC access unit is truncated"
    let nal ← range unit lengthEnd stop
    .ok (nal, stop)

theorem endWithin_eq_ok {cursor length size stop : Nat} {message : String} :
    endWithin cursor length size message = .ok stop ↔
      stop = cursor + length ∧ cursor + length ≤ size := by
  unfold endWithin
  by_cases fits : cursor + length ≤ size
  · simp [fits, eq_comm]
  · simp [fits]

theorem takePrefixedNal_moves {unit nal : List UInt8} {cursor next : Nat}
    (taken : takePrefixedNal unit cursor = .ok (nal, next)) :
    cursor < next ∧ next ≤ unit.length := by
  unfold takePrefixedNal at taken
  obtain ⟨lengthEnd, first, taken⟩ := bind_eq_ok_iff.mp taken
  obtain ⟨field, -, taken⟩ := bind_eq_ok_iff.mp taken
  obtain ⟨same, -⟩ := endWithin_eq_ok.mp first
  split_ifs at taken with empty
  · exact absurd taken (refuse_ne_ok _ _)
  · obtain ⟨stop, second, taken⟩ := bind_eq_ok_iff.mp taken
    obtain ⟨part, -, taken⟩ := bind_eq_ok_iff.mp taken
    obtain ⟨ends, inside⟩ := endWithin_eq_ok.mp second
    have last : stop = next := (Prod.mk.inj (Except.ok.inj taken)).2
    omega

def annexbFromLengthPrefixedAt (unit : List UInt8) (cursor : Nat) (annexb : List UInt8) :
    Except (Fault IoError) (List UInt8) :=
  if cursor < unit.length then
    match taken : takePrefixedNal unit cursor with
    | .error fault => .error fault
    | .ok (nal, next) => annexbFromLengthPrefixedAt unit next (annexb ++ [0, 0, 0, 1] ++ nal)
  else .ok annexb
termination_by unit.length - cursor
decreasing_by
  have moves := takePrefixedNal_moves taken
  omega

def annexbFromLengthPrefixed (unit : List UInt8) : Except (Fault IoError) (List UInt8) := do
  let annexb ← annexbFromLengthPrefixedAt unit 0 []
  if annexb = [] then refuse (annexbInvalid "access unit contains no NAL units")
  else .ok annexb

def ensureAnnexb (unit : List UInt8) : Except (Fault IoError) (List UInt8) :=
  if unit = [] then refuse (annexbInvalid "access unit is empty")
  else if startsWithStartCode unit then .ok unit
  else annexbFromLengthPrefixed unit

/-! ## The two forms of a list of NAL units -/

/-- Each unit behind its length in four bytes. -/
def lengthPrefixed (nals : List (List UInt8)) : List UInt8 :=
  (nals.map fun nal => toBytes 4 nal.length ++ nal).flatten

/-- Each unit behind a start code of four bytes. -/
def startCoded (nals : List (List UInt8)) : List UInt8 :=
  (nals.map fun nal => [0, 0, 0, 1] ++ nal).flatten

theorem lengthPrefixed_cons (nal : List UInt8) (nals : List (List UInt8)) :
    lengthPrefixed (nal :: nals) = toBytes 4 nal.length ++ nal ++ lengthPrefixed nals := rfl

theorem startCoded_cons (nal : List UInt8) (nals : List (List UInt8)) :
    startCoded (nal :: nals) = [0, 0, 0, 1] ++ nal ++ startCoded nals := rfl

/-- A part behind its length, read back at a cursor. -/
theorem prefixedField_at (width : Nat) (front part rest : List UInt8) (short truncated : String)
    (small : part.length < 256 ^ width) :
    let unit := front ++ (toBytes width part.length ++ part ++ rest)
    endWithin front.length width unit.length short = .ok (front.length + width) ∧
      (range unit front.length (front.length + width) : Except (Fault IoError) _) =
        .ok (toBytes width part.length) ∧
      ofBytes (toBytes width part.length) = part.length ∧
      endWithin (front.length + width) part.length unit.length truncated =
        .ok (front.length + width + part.length) ∧
      (range unit (front.length + width) (front.length + width + part.length) :
        Except (Fault IoError) _) = .ok part := by
  intro unit
  have size : unit.length = front.length + (width + part.length + rest.length) := by
    simp only [unit, List.length_append, length_toBytes]
  refine ⟨endWithin_eq_ok.mpr ⟨rfl, by omega⟩, ?_, ofBytes_toBytes width part.length small,
    endWithin_eq_ok.mpr ⟨rfl, by omega⟩, ?_⟩
  · simp only [unit, List.append_assoc]
    exact range_part rfl (by rw [length_toBytes])
  · have shape : unit = (front ++ toBytes width part.length) ++ (part ++ rest) := by
      simp only [unit, List.append_assoc]
    rw [shape]
    exact range_part (by rw [List.length_append, length_toBytes]) rfl

theorem takePrefixedNal_at {front nal rest : List UInt8} (some_bytes : nal ≠ [])
    (small : nal.length < 2 ^ 32) :
    takePrefixedNal (front ++ (toBytes 4 nal.length ++ nal ++ rest)) front.length =
      .ok (nal, front.length + 4 + nal.length) := by
  have positive : nal.length ≠ 0 := fun none => some_bytes (List.length_eq_zero_iff.mp none)
  obtain ⟨first, field, number, second, part⟩ := prefixedField_at 4 front nal rest
    "access unit is neither Annex-B nor AVCC" "AVCC access unit is truncated"
    (small.trans_eq (by norm_num))
  unfold takePrefixedNal
  rw [first, ok_bind, field, ok_bind, number, if_neg positive, second, ok_bind, part, ok_bind]

/-- The loop on units that are nonempty and not too long, behind the ones that
are rewritten already. -/
theorem annexbFromLengthPrefixedAt_eq {nals : List (List UInt8)} {front annexb : List UInt8}
    (proper : ∀ nal ∈ nals, nal ≠ [] ∧ nal.length < 2 ^ 32) :
    annexbFromLengthPrefixedAt (front ++ lengthPrefixed nals) front.length annexb =
      .ok (annexb ++ startCoded nals) := by
  induction nals generalizing front annexb with
  | nil =>
      rw [annexbFromLengthPrefixedAt, if_neg (by simp [lengthPrefixed])]
      simp [startCoded]
  | cons nal nals ih =>
      obtain ⟨some_bytes, small⟩ := proper nal List.mem_cons_self
      have others := fun other among => proper other (List.mem_cons_of_mem nal among)
      have taken := @takePrefixedNal_at front nal (lengthPrefixed nals) some_bytes small
      have left : front.length < (front ++ lengthPrefixed (nal :: nals)).length := by
        rw [lengthPrefixed_cons]
        simp only [List.length_append, length_toBytes]
        omega
      have next : front.length + 4 + nal.length =
          (front ++ (toBytes 4 nal.length ++ nal)).length := by
        simp only [List.length_append, length_toBytes]
        omega
      rw [annexbFromLengthPrefixedAt, if_pos left]
      rw [lengthPrefixed_cons, startCoded_cons]
      split
      · next fault failed =>
          rw [taken] at failed
          cases failed
      · next part stop found =>
          rw [taken] at found
          obtain ⟨same, ends⟩ := Prod.mk.inj (Except.ok.inj found)
          rw [← same, ← ends, next, ← List.append_assoc, ih others]
          simp only [List.append_assoc]

theorem annexbFromLengthPrefixed_eq {nals : List (List UInt8)} (some_nal : nals ≠ [])
    (proper : ∀ nal ∈ nals, nal ≠ [] ∧ nal.length < 2 ^ 32) :
    annexbFromLengthPrefixed (lengthPrefixed nals) = .ok (startCoded nals) := by
  have whole := @annexbFromLengthPrefixedAt_eq nals [] [] proper
  have written : startCoded nals ≠ [] := by
    cases nals with
    | nil => exact absurd rfl some_nal
    | cons nal nals => simp [startCoded_cons]
  rw [List.nil_append, List.nil_append, List.length_nil] at whole
  rw [annexbFromLengthPrefixed, whole, ok_bind, if_neg written]

/-! ## The guess -/

theorem toBytes_four (length : Nat) :
    toBytes 4 length = [UInt8.ofNat (length / 256 ^ 3), UInt8.ofNat (length / 256 ^ 2),
      UInt8.ofNat (length / 256), UInt8.ofNat length] := by
  simp [toBytes]

theorem ofNat_eq_iff {number : Nat} {byte : UInt8} :
    UInt8.ofNat number = byte ↔ number % 256 = byte.toNat := by
  rw [← UInt8.toNat_inj, UInt8.toNat_ofNat']

/-- A length of one byte, or of 256 to 511 bytes, looks like a start code. -/
theorem prefixed_looks_coded {length : Nat} (small : length < 2 ^ 32) (rest : List UInt8) :
    startsWithStartCode (toBytes 4 length ++ rest) = true ↔
      length = 1 ∨ 256 ≤ length ∧ length < 512 := by
  have zero : (0 : UInt8).toNat = 0 := rfl
  have one : (1 : UInt8).toNat = 1 := rfl
  rw [toBytes_four]
  simp only [startsWithStartCode, List.cons_append, List.isPrefixOf_cons_cons, Bool.or_eq_true,
    Bool.and_eq_true, beq_iff_eq, List.isPrefixOf_nil_left, and_true, List.nil_append]
  rw [eq_comm, ofNat_eq_iff, eq_comm (a := (0 : UInt8)), ofNat_eq_iff, eq_comm (a := (0 : UInt8)),
    ofNat_eq_iff, eq_comm (a := (1 : UInt8)), ofNat_eq_iff, eq_comm (a := (1 : UInt8)),
    ofNat_eq_iff, zero, one]
  omega

theorem toBytes_eq_code {length : Nat} (small : length < 2 ^ 32) :
    toBytes 4 length = [0, 0, 0, 1] ↔ length = 1 := by
  constructor
  · intro same
    have number := congrArg ofBytes same
    rw [ofBytes_toBytes 4 length (small.trans_eq (by norm_num))] at number
    exact number.trans (by decide)
  · intro one
    rw [one]
    rfl

/-- The two forms agree on units of one byte only. -/
theorem lengthPrefixed_eq_startCoded {nals : List (List UInt8)}
    (small : ∀ nal ∈ nals, nal.length < 2 ^ 32) :
    lengthPrefixed nals = startCoded nals ↔ ∀ nal ∈ nals, nal.length = 1 := by
  induction nals with
  | nil => simp [lengthPrefixed, startCoded]
  | cons nal nals ih =>
      have others := ih fun other among => small other (List.mem_cons_of_mem nal among)
      have own := toBytes_eq_code (small nal List.mem_cons_self)
      rw [lengthPrefixed_cons, startCoded_cons, List.append_assoc, List.append_assoc]
      constructor
      · intro same
        obtain ⟨code, rest⟩ := List.append_inj same (by rw [length_toBytes]; rfl)
        intro other among
        rcases List.mem_cons.mp among with here | among
        · rw [here]
          exact own.mp code
        · exact others.mp (List.append_cancel_left rest) other among
      · intro all
        rw [own.mpr (all nal List.mem_cons_self),
          others.mpr fun other among => all other (List.mem_cons_of_mem nal among)]

/-- The length of the first unit does not look like a start code, or else both
forms are the same bytes. -/
def ReadsAsAvcc : List (List UInt8) → Prop
  | [] => True
  | first :: rest =>
      ¬ (256 ≤ first.length ∧ first.length < 512) ∧
        (first.length = 1 → ∀ nal ∈ first :: rest, nal.length = 1)

/-- An access unit with length prefixes is rewritten exactly when the length of
its first unit does not look like a start code. -/
theorem avcc_normalised_iff (nals : List (List UInt8)) (some_nal : nals ≠ [])
    (proper : ∀ nal ∈ nals, nal ≠ [] ∧ nal.length < 2 ^ 32) :
    ensureAnnexb (lengthPrefixed nals) = .ok (startCoded nals) ↔ ReadsAsAvcc nals := by
  cases nals with
  | nil => exact absurd rfl some_nal
  | cons first rest =>
      have small : ∀ nal ∈ first :: rest, nal.length < 2 ^ 32 := fun nal among =>
        (proper nal among).2
      have shape : lengthPrefixed (first :: rest) =
          toBytes 4 first.length ++ (first ++ lengthPrefixed rest) := by
        rw [lengthPrefixed_cons, List.append_assoc]
      have some_bytes : lengthPrefixed (first :: rest) ≠ [] := by
        rw [shape, toBytes_four]
        simp
      have looks := prefixed_looks_coded (small first List.mem_cons_self)
        (first ++ lengthPrefixed rest)
      rw [← shape] at looks
      have same := lengthPrefixed_eq_startCoded small
      unfold ensureAnnexb ReadsAsAvcc
      rw [if_neg some_bytes]
      split_ifs with guessed
      · rw [Except.ok.injEq, same]
        rcases looks.mp guessed with one | ⟨low, high⟩
        · constructor
          · intro all
            exact ⟨by omega, fun _ => all⟩
          · intro holds
            exact holds.2 one
        · constructor
          · intro all
            have one := all first List.mem_cons_self
            omega
          · intro holds
            exact absurd ⟨low, high⟩ holds.1
      · rw [annexbFromLengthPrefixed_eq some_nal proper]
        have plain := mt looks.mpr guessed
        rw [not_or] at plain
        exact ⟨fun _ => ⟨plain.2, fun one => absurd one plain.1⟩, fun _ => rfl⟩

/-- A unit of two bytes before one of three. -/
theorem avcc_normalised_iff_short :
    ensureAnnexb [0, 0, 0, 2, 0x67, 0x64, 0, 0, 0, 3, 0x68, 0xee, 0x3c] =
      .ok [0, 0, 0, 1, 0x67, 0x64, 0, 0, 0, 1, 0x68, 0xee, 0x3c] :=
  (avcc_normalised_iff [[0x67, 0x64], [0x68, 0xee, 0x3c]] (by decide) (by decide)).mpr
    ⟨by decide, by decide⟩

/-- A unit of 256 bytes, whose length is passed through as a start code. -/
theorem avcc_passed_through :
    ensureAnnexb (lengthPrefixed [List.replicate 256 0x41]) =
        .ok ([0, 0, 1, 0] ++ List.replicate 256 0x41) ∧
      ensureAnnexb (lengthPrefixed [List.replicate 256 0x41]) ≠
        .ok (startCoded [List.replicate 256 0x41]) := by
  decide +kernel

end VividProtocol.Media

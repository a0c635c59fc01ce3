import Mathlib.Tactic
import VividProtocol.Cbor.RoundTrip

/-!
# Values the encoder accepts

A value within the limits of the encoder, without the alias that encoding
removes.  Such a value goes through its bytes unchanged.
-/

set_option autoImplicit false

namespace VividProtocol.Cbor

open VividProtocol.Library

namespace Value

/-- `Value::as_text`. -/
def asText : Value → Option String
  | .text value => some value
  | _ => none

/-- `Value::as_array`. -/
def asArray : Value → Option (List Value)
  | .array values => some values
  | _ => none

/-- The value is canonical and nests no deeper than the levels left. -/
def Fits : Nat → Value → Prop
  | 0, _ => False
  | levels + 1, value =>
    match value with
    | .unsigned _ => True
    | .negative value => value < 0
    | .bytes value => value.length ≤ maxValueLength
    | .text value => (textBytes value).length ≤ maxValueLength
    | .array values =>
        values.length ≤ maxContainerLength ∧ ∀ item ∈ values, Fits levels item
    | .map entries =>
        entries.length ≤ maxContainerLength ∧ unsortedKeys entries = false ∧
          ∀ entry ∈ entries, Fits levels entry.2
    | .bool _ => True
    | .null => True

variable {levels : Nat}

@[simp] theorem fits_unsigned (value : UInt64) : Fits (levels + 1) (.unsigned value) := trivial

@[simp] theorem fits_bool (value : Bool) : Fits (levels + 1) (.bool value) := trivial

@[simp] theorem fits_null : Fits (levels + 1) .null := trivial

@[simp] theorem fits_negative {value : Int64} : Fits (levels + 1) (.negative value) ↔ value < 0 :=
  Iff.rfl

theorem fits_text {value : String} :
    Fits (levels + 1) (.text value) ↔ value.utf8ByteSize ≤ maxValueLength := Iff.rfl

@[simp] theorem fits_array {values : List Value} :
    Fits (levels + 1) (.array values) ↔
      values.length ≤ maxContainerLength ∧ ∀ item ∈ values, Fits levels item := Iff.rfl

@[simp] theorem fits_map {entries : List (UInt64 × Value)} :
    Fits (levels + 1) (.map entries) ↔
      entries.length ≤ maxContainerLength ∧ unsortedKeys entries = false ∧
        ∀ entry ∈ entries, Fits levels entry.2 := Iff.rfl

/-- A value that fits leaves nothing for the encoder to change. -/
theorem Fits.norm : ∀ {levels : Nat} {value : Value}, value.Fits levels → value.norm = value
  | _ + 1, .unsigned _, _ => rfl
  | _ + 1, .negative value, fits => by
      have below : ¬ 0 ≤ value := Int64.not_le.mpr fits
      rw [Value.norm, if_neg below]
  | _ + 1, .bytes _, _ => rfl
  | _ + 1, .text _, _ => rfl
  | levels + 1, .array values, fits => by
      have items : ∀ rest : List Value, (∀ item ∈ rest, Fits levels item) →
          normItems rest = rest := by
        intro rest held
        induction rest with
        | nil => rfl
        | cons item rest ih =>
            rw [normItems, (held item List.mem_cons_self).norm,
              ih fun other among => held other (List.mem_cons_of_mem item among)]
      rw [Value.norm, items values fits.2]
  | levels + 1, .map entries, fits => by
      have pairs : ∀ rest : List (UInt64 × Value), (∀ entry ∈ rest, Fits levels entry.2) →
          normEntries rest = rest := by
        intro rest held
        induction rest with
        | nil => rfl
        | cons entry rest ih =>
            rw [normEntries, (held entry List.mem_cons_self).norm,
              ih fun other among => held other (List.mem_cons_of_mem entry among)]
      rw [Value.norm, pairs entries fits.2.2]
  | _ + 1, .bool _, _ => rfl
  | _ + 1, .null, _ => rfl

theorem encodeItems_of_fits {item : Encoder → Value → Except EncodeError Encoder}
    {values : List Value}
    (writes : ∀ value ∈ values, ∀ encoder, ∃ after, item encoder value = .ok after)
    (encoder : Encoder) : ∃ after, encodeItems item encoder values = .ok after := by
  induction values generalizing encoder with
  | nil => exact ⟨encoder, rfl⟩
  | cons value rest ih =>
      obtain ⟨after, written⟩ := writes value List.mem_cons_self encoder
      rw [encodeItems, written, Result.ok_bind]
      exact ih (fun other among => writes other (List.mem_cons_of_mem value among)) after

theorem encodeEntries_of_fits {item : Encoder → Value → Except EncodeError Encoder}
    {entries : List (UInt64 × Value)}
    (writes : ∀ entry ∈ entries, ∀ encoder, ∃ after, item encoder entry.2 = .ok after)
    (encoder : Encoder) : ∃ after, encodeEntries item encoder entries = .ok after := by
  induction entries generalizing encoder with
  | nil => exact ⟨encoder, rfl⟩
  | cons entry rest ih =>
      obtain ⟨after, written⟩ := writes entry List.mem_cons_self (encoder.u64 entry.1)
      rw [encodeEntries, written, Result.ok_bind]
      exact ih (fun other among => writes other (List.mem_cons_of_mem entry among)) after

theorem Fits.encodeWithin : ∀ {levels : Nat} {value : Value}, value.Fits levels →
    ∀ encoder : Encoder, ∃ after, encodeWithin levels encoder value = .ok after
  | _ + 1, .unsigned value, _, encoder => ⟨encoder.u64 value, rfl⟩
  | _ + 1, .negative value, _, encoder => ⟨encoder.i64 value, rfl⟩
  | _ + 1, .bytes value, fits, encoder => by
      refine ⟨encoder.byteString value, ?_⟩
      rw [Cbor.encodeWithin]
      simp only [validateValueLength_eq_ok.mpr fits, Result.ok_bind]
  | _ + 1, .text value, fits, encoder => by
      refine ⟨encoder.text value, ?_⟩
      rw [Cbor.encodeWithin]
      simp only [validateValueLength_eq_ok.mpr fits, Result.ok_bind]
  | _ + 1, .array values, fits, encoder => by
      rw [Cbor.encodeWithin]
      simp only [validateContainerLength_eq_ok.mpr fits.1, Result.ok_bind]
      exact encodeItems_of_fits (fun value among => (fits.2 value among).encodeWithin) _
  | _ + 1, .map entries, fits, encoder => by
      rw [Cbor.encodeWithin]
      simp only [validateContainerLength_eq_ok.mpr fits.1, Result.ok_bind, fits.2.1,
        Bool.false_eq_true, if_false]
      exact encodeEntries_of_fits (fun entry among => (fits.2.2 entry among).encodeWithin) _
  | _ + 1, .bool value, _, encoder => ⟨encoder.bool value, rfl⟩
  | _ + 1, .null, _, encoder => ⟨encoder.null, rfl⟩

theorem Fits.encode {value : Value} (fits : value.Fits (maxDepth + 1)) :
    ∃ bytes, Cbor.encode value = .ok bytes := by
  obtain ⟨after, written⟩ := fits.encodeWithin Encoder.new
  refine ⟨after.bytes, ?_⟩
  rw [Cbor.encode, encodeValue, Nat.sub_zero, written, Result.ok_bind]

/-- A canonical value has bytes and is read back from them. -/
theorem Fits.throughBytes {value : Value} (fits : value.Fits (maxDepth + 1)) :
    ∃ bytes, Cbor.encode value = .ok bytes ∧ decode bytes = .ok value := by
  obtain ⟨bytes, written⟩ := fits.encode
  refine ⟨bytes, written, ?_⟩
  rw [decode_of_encode written, fits.norm]

theorem Fits.mono : ∀ {levels more : Nat} {value : Value}, value.Fits levels → levels ≤ more →
    value.Fits more
  | _ + 1, _ + 1, .unsigned _, _, _ => trivial
  | _ + 1, _ + 1, .negative _, fits, _ => fits
  | _ + 1, _ + 1, .bytes _, fits, _ => fits
  | _ + 1, _ + 1, .text _, fits, _ => fits
  | _ + 1, _ + 1, .array _, fits, below =>
      ⟨fits.1, fun item among => (fits.2 item among).mono (Nat.le_of_succ_le_succ below)⟩
  | _ + 1, _ + 1, .map _, fits, below =>
      ⟨fits.1, fits.2.1,
        fun entry among => (fits.2.2 entry among).mono (Nat.le_of_succ_le_succ below)⟩
  | _ + 1, _ + 1, .bool _, _, _ => trivial
  | _ + 1, _ + 1, .null, _, _ => trivial

end Value

/-! ## Normal values -/

theorem Value.normItems_eq (values : List Value) : normItems values = values.map Value.norm := by
  induction values with
  | nil => rfl
  | cons value rest ih => rw [normItems, ih, List.map_cons]

theorem Value.normEntries_eq (entries : List (UInt64 × Value)) :
    normEntries entries = entries.map fun entry => (entry.1, entry.2.norm) := by
  induction entries with
  | nil => rfl
  | cons entry rest ih => rw [normEntries, ih, List.map_cons]

theorem Value.normEntries_eq_self {entries : List (UInt64 × Value)}
    (normal : ∀ entry ∈ entries, entry.2.norm = entry.2) : normEntries entries = entries := by
  rw [normEntries_eq]
  have each := List.map_congr_left fun entry among =>
    (congrArg (Prod.mk entry.1) (normal entry among) : (entry.1, entry.2.norm) = entry)
  rw [each, List.map_id']

theorem norm_of_decode {bytes : List UInt8} {value : Value} (decoded : decode bytes = .ok value) :
    value.norm = value := by
  have again := decode_of_encode (encode_of_decode decoded)
  rw [decoded] at again
  exact (Except.ok.inj again).symm

theorem Value.norm_of_normItems {values : List Value} (normal : normItems values = values) :
    ∀ value ∈ values, value.norm = value := by
  have whole : values.map Value.norm = values.map id := by
    rw [← normItems_eq, normal, List.map_id]
  exact List.map_inj_left.mp whole

theorem Value.norm_of_normEntries {entries : List (UInt64 × Value)}
    (normal : normEntries entries = entries) : ∀ entry ∈ entries, entry.2.norm = entry.2 := by
  have whole : entries.map (fun entry => (entry.1, entry.2.norm)) = entries.map id := by
    rw [← normEntries_eq, normal, List.map_id]
  intro entry among
  exact congrArg Prod.snd (List.map_inj_left.mp whole entry among)

section Written

variable {item : Encoder → Value → Except EncodeError Encoder}

theorem encodeItems_mem {values : List Value} {encoder result : Encoder}
    (written : encodeItems item encoder values = .ok result) {value : Value}
    (among : value ∈ values) : ∃ before after, item before value = .ok after := by
  induction values generalizing encoder with
  | nil => cases among
  | cons first rest ih =>
      obtain ⟨after, head, tail⟩ := Result.bind_eq_ok_iff.mp written
      rcases List.mem_cons.mp among with here | later
      · exact ⟨encoder, after, by rw [here]; exact head⟩
      · exact ih tail later

theorem encodeEntries_mem {entries : List (UInt64 × Value)} {encoder result : Encoder}
    (written : encodeEntries item encoder entries = .ok result) {entry : UInt64 × Value}
    (among : entry ∈ entries) : ∃ before after, item before entry.2 = .ok after := by
  induction entries generalizing encoder with
  | nil => cases among
  | cons first rest ih =>
      obtain ⟨after, head, tail⟩ := Result.bind_eq_ok_iff.mp written
      rcases List.mem_cons.mp among with here | later
      · exact ⟨encoder.u64 first.1, after, by rw [here]; exact head⟩
      · exact ih tail later

end Written

/-- A normal value that is written fits. -/
theorem Value.fits_of_encodeWithin {levels : Nat} {encoder result : Encoder} {value : Value}
    (written : Cbor.encodeWithin levels encoder value = .ok result) (normal : value.norm = value) :
    value.Fits levels := by
  induction levels generalizing encoder result value with
  | zero => cases written
  | succ levels ih =>
      cases value with
      | unsigned number => trivial
      | negative number =>
          rw [Value.norm] at normal
          by_cases above : 0 ≤ number
          · rw [if_pos above] at normal
            cases normal
          · exact Int64.not_le.mp above
      | bytes content =>
          obtain ⟨_, short, _⟩ := Result.bind_eq_ok_iff.mp written
          exact validateValueLength_eq_ok.mp short
      | text content =>
          obtain ⟨_, short, _⟩ := Result.bind_eq_ok_iff.mp written
          exact validateValueLength_eq_ok.mp short
      | array values =>
          obtain ⟨_, few, written⟩ := Result.bind_eq_ok_iff.mp written
          rw [Value.norm, Value.array.injEq] at normal
          refine ⟨validateContainerLength_eq_ok.mp few, ?_⟩
          intro item among
          obtain ⟨before, after, inside⟩ := encodeItems_mem written among
          exact ih inside (norm_of_normItems normal item among)
      | map entries =>
          obtain ⟨_, few, written⟩ := Result.bind_eq_ok_iff.mp written
          obtain ⟨sorted, written⟩ := Result.ite_error_eq_ok_iff.mp written
          rw [Value.norm, Value.map.injEq] at normal
          refine ⟨validateContainerLength_eq_ok.mp few, Bool.not_eq_true _ |>.mp sorted, ?_⟩
          intro entry among
          obtain ⟨before, after, inside⟩ := encodeEntries_mem written among
          exact ih inside (norm_of_normEntries normal entry among)
      | bool flag => trivial
      | null => trivial

theorem Value.fits_of_decode {bytes : List UInt8} {value : Value}
    (decoded : decode bytes = .ok value) : value.Fits (maxDepth + 1) := by
  obtain ⟨_, written, _⟩ := Result.bind_eq_ok_iff.mp (encode_of_decode decoded)
  rw [encodeValue, Nat.sub_zero] at written
  exact Value.fits_of_encodeWithin written (norm_of_decode decoded)

/-- Sorted keys that are all in a sorted list are taken from it in order. -/
theorem sublist_of_sorted {few keys : List UInt64} (sorted : few.Pairwise (· < ·))
    (ordered : keys.Pairwise (· < ·)) (known : ∀ key ∈ few, key ∈ keys) : few.Sublist keys := by
  have distinct : few.Nodup := sorted.imp UInt64.ne_of_lt
  have antisymm : Std.Antisymm (fun left right : UInt64 => left < right) :=
    ⟨fun _ _ below above => absurd above (UInt64.lt_asymm below)⟩
  exact List.sublist_of_subperm_of_pairwise (List.subperm_of_subset distinct known) sorted ordered

/-- Keys taken in order from an ordered list are sorted. -/
theorem unsortedKeys_of_sublist {entries : List (UInt64 × Value)} {keys : List UInt64}
    (kept : (entries.map Prod.fst).Sublist keys) (ordered : keys.Pairwise (· < ·)) :
    unsortedKeys entries = false := by
  have sorted : (entries.map Prod.fst).Pairwise (· < ·) := ordered.sublist kept
  clear kept
  induction entries with
  | nil => rfl
  | cons first rest ih =>
      rw [List.map_cons, List.pairwise_cons] at sorted
      refine (unsortedKeys_cons first rest).mpr ⟨?_, ih sorted.2⟩
      intro next head
      exact sorted.1 next.1 (List.mem_map_of_mem (List.mem_of_head? head))

end VividProtocol.Cbor

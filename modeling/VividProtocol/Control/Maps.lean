import Mathlib.Tactic
import VividProtocol.Messages
import VividProtocol.Cbor.Append
import VividProtocol.Library.Association
import VividProtocol.Library.Codec

/-!
# Reading strict maps

The readers of `StrictMap` and the checks that the control schemas of
`messages.rs` share.  A reader of one type is `required` or `optional` with the
view of that type.
-/

set_option autoImplicit false

namespace VividProtocol.Cbor.Value

/-- `Value::as_bytes`. -/
def asBytes : Value → Option (List UInt8)
  | .bytes value => some value
  | _ => none

/-- `ValueMapExt::as_map`. -/
def asMap : Value → Option (List (UInt64 × Value))
  | .map entries => some entries
  | _ => none

end VividProtocol.Cbor.Value

namespace VividProtocol

open VividProtocol.Cbor
open VividProtocol.Library.Result
open VividProtocol.Library.Association
open VividProtocol.Library.Codec

/-- `From<cbor::EncodeError>`. -/
def orEncodeError {α : Type} : Except EncodeError α → Except MessageError α
  | .ok value => .ok value
  | .error error => .error (.cbor error.message)

/-- `From<cbor::DecodeError>`. -/
def orDecodeError {α : Type} : Except DecodeError α → Except MessageError α
  | .ok value => .ok value
  | .error error => .error (.cbor error.message)

/-- `try_into` of a slice. -/
def fixedBytes (size : Nat) (bytes : List UInt8) : Option (Bytes size) :=
  if sized : bytes.length = size then some ⟨bytes.toArray, sized⟩ else none

def validateSortedMap (schema : String) (map : PayloadMap) : Except MessageError Unit :=
  if unsorted (map.map Prod.fst) then
    .error (invalidValue schema 0 "keys are not strictly increasing")
  else .ok ()

def boundedText (schema : String) (key : UInt64) (value : String) (maximum : Nat) :
    Except MessageError Unit :=
  if maximum < value.utf8ByteSize then
    .error (invalidValue schema key "exceeds its UTF-8 byte limit")
  else .ok ()

def textArray (values : List String) : Value := .array (values.map .text)

theorem fixedBytes_toList {size : Nat} (bytes : Bytes size) :
    fixedBytes size bytes.toList = some bytes := by
  unfold fixedBytes
  rw [dif_pos bytes.length_toList]
  exact congrArg some (Vector.toList_inj.mp rfl)

theorem fixedBytes_eq_some {size : Nat} {bytes : List UInt8} {value : Bytes size} :
    fixedBytes size bytes = some value ↔ bytes = value.toList := by
  constructor
  · intro read
    unfold fixedBytes at read
    split_ifs at read
    cases read
    rfl
  · intro same
    rw [same, fixedBytes_toList]

namespace StrictMap

/-- Every known key is there; others are kept. -/
def preserving (schema : String) (value : Value) (lastKnownKey : UInt64) :
    Except MessageError StrictMap :=
  match value with
  | .map entries =>
      let expected := (List.range (lastKnownKey.toNat + 1)).map UInt64.ofNat
      match expected.find? fun key => ! entries.any fun entry => entry.1 == key with
      | some key => .error (.missingKey schema key)
      | none => .ok { schema := schema, entries := entries }
  | _ => .error (.expectedMap schema)

def optional (map : StrictMap) (key : UInt64) : Option Value := map.entries.lookup key

section Readers

variable {α : Type}

def orWrongType (map : StrictMap) (key : UInt64) : Option α → Except MessageError α
  | some value => .ok value
  | none => .error (.wrongType map.schema key)

def requiredAs (read : Value → Option α) (map : StrictMap) (key : UInt64) :
    Except MessageError α := do
  let value ← map.required key
  map.orWrongType key (read value)

def optionalAs (read : Value → Option α) (map : StrictMap) (key : UInt64) :
    Except MessageError (Option α) :=
  transpose (fun value => map.orWrongType key (read value)) (map.optional key)

end Readers

def requiredU32 (map : StrictMap) (key : UInt64) : Except MessageError UInt32 := do
  let value ← map.requiredU64 key
  if value.toNat < 2 ^ 32 then .ok value.toUInt32
  else .error (invalidValue map.schema key "does not fit in u32")

def optionalU64 : StrictMap → UInt64 → Except MessageError (Option UInt64) :=
  optionalAs Value.asU64

def requiredText : StrictMap → UInt64 → Except MessageError String := requiredAs Value.asText

def optionalText : StrictMap → UInt64 → Except MessageError (Option String) :=
  optionalAs Value.asText

def requiredBytes : StrictMap → UInt64 → Except MessageError (List UInt8) :=
  requiredAs Value.asBytes

def optionalBytes : StrictMap → UInt64 → Except MessageError (Option (List UInt8)) :=
  optionalAs Value.asBytes

/-- `try_into` with the error of both readers of fixed bytes. -/
def orWrongLength (map : StrictMap) (key : UInt64) (size : Nat) (bytes : List UInt8) :
    Except MessageError (Bytes size) :=
  match fixedBytes size bytes with
  | some value => .ok value
  | none => .error (invalidValue map.schema key "has the wrong byte length")

def requiredFixedBytes (map : StrictMap) (key : UInt64) (size : Nat) :
    Except MessageError (Bytes size) := do
  let bytes ← map.requiredBytes key
  map.orWrongLength key size bytes

def optionalFixedBytes (map : StrictMap) (key : UInt64) (size : Nat) :
    Except MessageError (Option (Bytes size)) := do
  let bytes ← map.optionalBytes key
  transpose (map.orWrongLength key size) bytes

def requiredMap : StrictMap → UInt64 → Except MessageError PayloadMap := requiredAs Value.asMap

def optionalMap : StrictMap → UInt64 → Except MessageError (Option PayloadMap) :=
  optionalAs Value.asMap

def requiredTextArray (map : StrictMap) (key : UInt64) : Except MessageError (List String) := do
  let values ← requiredAs Value.asArray map key
  collect (fun value => map.orWrongType key value.asText) values

def extensionsAfter (map : StrictMap) (lastKnownKey : UInt64) : PayloadMap :=
  map.entries.filter fun entry => lastKnownKey < entry.1

/-! ## What the readers accept -/

variable {map : StrictMap} {key : UInt64}

theorem required_iff {value : Value} :
    map.required key = .ok value ↔ map.entries.lookup key = some value := by
  unfold required
  cases map.entries.lookup key <;> simp

theorem orWrongType_eq_ok {α : Type} {part : Option α} {value : α} :
    map.orWrongType key part = .ok value ↔ part = some value := by
  cases part <;> simp [orWrongType]

/-- A view of a value that is undone by writing it. -/
def Views {α : Type} (read : Value → Option α) (write : α → Value) : Prop :=
  ∀ value part, read value = some part ↔ value = write part

theorem requiredAs_eq_ok {α : Type} {read : Value → Option α} {write : α → Value} {part : α}
    (views : Views read write) :
    requiredAs read map key = .ok part ↔ map.entries.lookup key = some (write part) := by
  have view := fun value => views value part
  simp only [requiredAs, bind_eq_ok_iff, required_iff, orWrongType_eq_ok, view, exists_eq_right]

theorem optionalAs_eq_ok {α : Type} {read : Value → Option α} {write : α → Value}
    {part : Option α} (views : Views read write) :
    optionalAs read map key = .ok part ↔ map.entries.lookup key = part.map write := by
  unfold optionalAs optional
  cases map.entries.lookup key with
  | none => cases part <;> simp [transpose]
  | some value =>
      cases part with
      | none => simp [transpose, bind_eq_ok_iff]
      | some other => simp [transpose, bind_eq_ok_iff, orWrongType_eq_ok, views value other]

theorem requiredU64_iff {value : UInt64} :
    map.requiredU64 key = .ok value ↔ map.entries.lookup key = some (.unsigned value) := by
  unfold requiredU64 required
  cases map.entries.lookup key with
  | none => simp
  | some held => cases held <;> simp [Value.asU64]

theorem requiredBool_iff {value : Bool} :
    map.requiredBool key = .ok value ↔ map.entries.lookup key = some (.bool value) := by
  unfold requiredBool required
  cases map.entries.lookup key with
  | none => simp
  | some held => cases held <;> simp [Value.asBool]

theorem views_u64 : Views Value.asU64 .unsigned := by
  intro value part
  cases value <;> simp [Value.asU64]

theorem views_text : Views Value.asText .text := by
  intro value part
  cases value <;> simp [Value.asText]

theorem views_bytes : Views Value.asBytes .bytes := by
  intro value part
  cases value <;> simp [Value.asBytes]

theorem views_map : Views Value.asMap .map := by
  intro value part
  cases value <;> simp [Value.asMap]

theorem views_array : Views Value.asArray .array := by
  intro value part
  cases value <;> simp [Value.asArray]

theorem requiredU32_eq_ok {value : UInt32} :
    map.requiredU32 key = .ok value ↔
      map.entries.lookup key = some (.unsigned value.toUInt64) := by
  simp only [requiredU32, bind_eq_ok_iff, requiredU64_iff]
  constructor
  · intro read
    obtain ⟨word, held, narrowed⟩ := read
    split_ifs at narrowed with small
    cases narrowed
    rw [held, Option.some.injEq, Value.unsigned.injEq, ← UInt64.toNat_inj,
      UInt32.toNat_toUInt64, UInt64.toNat_toUInt32, Nat.mod_eq_of_lt small]
  · intro held
    refine ⟨_, held, ?_⟩
    have small := value.toNat_lt
    simp [small]

theorem requiredText_eq_ok {value : String} :
    map.requiredText key = .ok value ↔ map.entries.lookup key = some (.text value) :=
  requiredAs_eq_ok views_text

theorem optionalText_eq_ok {part : Option String} :
    map.optionalText key = .ok part ↔ map.entries.lookup key = part.map .text :=
  optionalAs_eq_ok views_text

theorem requiredMap_eq_ok {value : PayloadMap} :
    map.requiredMap key = .ok value ↔ map.entries.lookup key = some (.map value) :=
  requiredAs_eq_ok views_map

theorem optionalMap_eq_ok {part : Option PayloadMap} :
    map.optionalMap key = .ok part ↔ map.entries.lookup key = part.map .map :=
  optionalAs_eq_ok views_map

theorem optionalU64_eq_ok {part : Option UInt64} :
    map.optionalU64 key = .ok part ↔ map.entries.lookup key = part.map .unsigned :=
  optionalAs_eq_ok views_u64

theorem optionalBytes_eq_ok {part : Option (List UInt8)} :
    map.optionalBytes key = .ok part ↔ map.entries.lookup key = part.map .bytes :=
  optionalAs_eq_ok views_bytes

theorem orWrongLength_eq_ok {size : Nat} {bytes : List UInt8} {value : Bytes size} :
    map.orWrongLength key size bytes = .ok value ↔ bytes = value.toList := by
  rw [← fixedBytes_eq_some]
  unfold orWrongLength
  cases fixedBytes size bytes <;> simp

theorem requiredFixedBytes_eq_ok {size : Nat} {value : Bytes size} :
    map.requiredFixedBytes key size = .ok value ↔
      map.entries.lookup key = some (.bytes value.toList) := by
  simp only [requiredFixedBytes, bind_eq_ok_iff, requiredBytes, requiredAs_eq_ok views_bytes,
    orWrongLength_eq_ok, exists_eq_right]

theorem optionalFixedBytes_eq_ok {size : Nat} {part : Option (Bytes size)} :
    map.optionalFixedBytes key size = .ok part ↔
      map.entries.lookup key = part.map fun value => .bytes value.toList := by
  simp only [optionalFixedBytes, bind_eq_ok_iff, optionalBytes_eq_ok]
  constructor
  · intro read
    obtain ⟨bytes, held, fixed⟩ := read
    rw [held]
    cases bytes with
    | none =>
        cases fixed
        rfl
    | some bytes =>
        obtain ⟨value, sized, same⟩ := bind_eq_ok_iff.mp fixed
        cases same
        rw [orWrongLength_eq_ok.mp sized]
        rfl
  · intro held
    refine ⟨part.map Vector.toList, ?_, ?_⟩
    · rw [held, Option.map_map]
      rfl
    · exact transpose_map fun value _ => orWrongLength_eq_ok.mpr rfl

theorem requiredTextArray_eq_ok {values : List String} :
    map.requiredTextArray key = .ok values ↔
      map.entries.lookup key = some (textArray values) := by
  have each : ∀ {items : List Value} {values : List String},
      collect (fun value => map.orWrongType key value.asText) items = .ok values ↔
        items = values.map .text :=
    collect_eq_ok_iff fun item value => orWrongType_eq_ok.trans (views_text item value)
  simp only [requiredTextArray, bind_eq_ok_iff, requiredAs_eq_ok views_array, each, textArray,
    exists_eq_right]

theorem new_eq_ok {schema : String} {value : Value} {keys : List UInt64} :
    new schema value keys = .ok map ↔
      map.schema = schema ∧ value = .map map.entries ∧ ∀ entry ∈ map.entries, entry.1 ∈ keys := by
  cases value with
  | map entries =>
      unfold new
      dsimp only
      cases found : entries.find? fun entry => ! keys.contains entry.1 with
      | none =>
          have known : ∀ entry ∈ entries, entry.1 ∈ keys := by
            simpa using List.find?_eq_none.mp found
          constructor
          · intro same
            cases same
            exact ⟨rfl, rfl, known⟩
          · intro same
            obtain ⟨schemaSame, entriesSame, _⟩ := same
            cases entriesSame
            rw [← schemaSame]
      | some entry =>
          have unknown := List.find?_some found
          have among := List.mem_of_find?_eq_some found
          constructor
          · intro impossible
            cases impossible
          · intro same
            obtain ⟨_, entriesSame, known⟩ := same
            cases entriesSame
            simp [known entry among] at unknown
  | _ => simp [new]

theorem preserving_eq_ok {schema : String} {value : Value} {last : UInt64} :
    preserving schema value last = .ok map ↔
      map.schema = schema ∧ value = .map map.entries ∧
        ∀ key ≤ last, key ∈ map.entries.map Prod.fst := by
  cases value with
  | map entries =>
      have holds : ∀ key : UInt64,
          (entries.any fun entry => entry.1 == key) = true ↔ key ∈ entries.map Prod.fst := by
        intro key
        simp
      have expected : ∀ key : UInt64,
          key ∈ (List.range (last.toNat + 1)).map UInt64.ofNat ↔ key ≤ last := by
        intro key
        rw [List.mem_map, UInt64.le_iff_toNat_le]
        constructor
        · intro among
          obtain ⟨index, inside, same⟩ := among
          have below := List.mem_range.mp inside
          have word := last.toNat_lt
          rw [← same, UInt64.toNat_ofNat', Nat.mod_eq_of_lt (by omega)]
          omega
        · intro below
          exact ⟨key.toNat, List.mem_range.mpr (by omega), UInt64.ofNat_toNat⟩
      unfold preserving
      dsimp only
      cases found : ((List.range (last.toNat + 1)).map UInt64.ofNat).find?
          fun key => ! entries.any fun entry => entry.1 == key with
      | none =>
          have each := List.find?_eq_none.mp found
          have complete : ∀ key ≤ last, key ∈ entries.map Prod.fst := by
            intro key below
            have present := each key ((expected key).mpr below)
            rw [Bool.not_eq_true, Bool.not_eq_false'] at present
            exact (holds key).mp present
          constructor
          · intro same
            cases same
            exact ⟨rfl, rfl, complete⟩
          · intro same
            obtain ⟨schemaSame, entriesSame, _⟩ := same
            cases entriesSame
            rw [← schemaSame]
      | some key =>
          have absent := List.find?_some found
          have below := (expected key).mp (List.mem_of_find?_eq_some found)
          rw [Bool.not_eq_true'] at absent
          constructor
          · intro impossible
            cases impossible
          · intro same
            obtain ⟨_, entriesSame, complete⟩ := same
            cases entriesSame
            have present := (holds key).mpr (complete key below)
            rw [absent] at present
            cases present
  | _ => simp [preserving]

/-! ## Known keys and the keys after them -/

variable {entries : PayloadMap} {last : UInt64}

theorem sorted_split (sorted : (entries.map Prod.fst).Pairwise (· < ·)) :
    (entries.filter fun entry => decide (entry.1 ≤ last)) ++
      (entries.filter fun entry => decide (last < entry.1)) = entries := by
  induction entries with
  | nil => rfl
  | cons entry rest ih =>
      rw [List.map_cons, List.pairwise_cons] at sorted
      by_cases known : entry.1 ≤ last
      · have kept := UInt64.not_lt.mpr known
        rw [List.filter_cons_of_pos (by simpa using known),
          List.filter_cons_of_neg (by simpa using kept), List.cons_append, ih sorted.2]
      · have after := UInt64.not_le.mp known
        have none : rest.filter (fun other => decide (other.1 ≤ last)) = [] := by
          rw [List.filter_eq_nil_iff]
          intro other among
          have later := UInt64.lt_trans after (sorted.1 other.1 (List.mem_map_of_mem among))
          simpa using later
        have every := ih sorted.2
        rw [none, List.nil_append] at every
        rw [List.filter_cons_of_neg (by simpa using after),
          List.filter_cons_of_pos (by simpa using after), none, every, List.nil_append]

theorem lookup_filter {key : UInt64} (kept : key ≤ last) :
    (entries.filter fun entry => decide (entry.1 ≤ last)).lookup key = entries.lookup key := by
  induction entries with
  | nil => rfl
  | cons entry rest ih =>
      by_cases known : entry.1 ≤ last
      · rw [List.filter_cons_of_pos (by simpa using known), List.lookup_cons, List.lookup_cons, ih]
      · have differs : (key == entry.1) = false := by
          refine beq_false_of_ne ?_
          intro same
          rw [same] at kept
          exact known kept
        rw [List.filter_cons_of_neg (by simpa using UInt64.not_le.mp known), List.lookup_cons,
          differs, ih]

/-- Sorted maps with the same entries are the same. -/
theorem sorted_ext {first second : PayloadMap}
    (firstSorted : (first.map Prod.fst).Pairwise (· < ·))
    (secondSorted : (second.map Prod.fst).Pairwise (· < ·))
    (same : ∀ entry, entry ∈ first ↔ entry ∈ second) : first = second := by
  have antisymm : Std.Antisymm (fun left right : UInt64 × Value => left.1 < right.1) :=
    ⟨fun _ _ below above => absurd above (UInt64.lt_asymm below)⟩
  have within : ∀ {few many : PayloadMap}, (few.map Prod.fst).Pairwise (· < ·) →
      (many.map Prod.fst).Pairwise (· < ·) → few ⊆ many → few.Sublist many := by
    intro few many fewSorted manySorted covers
    have ordered := List.pairwise_map.mp fewSorted
    have distinct : few.Nodup := ordered.imp fun below same =>
      UInt64.ne_of_lt below (congrArg Prod.fst same)
    exact List.sublist_of_subperm_of_pairwise (List.subperm_of_subset distinct covers) ordered
      (List.pairwise_map.mp manySorted)
  exact (within firstSorted secondSorted fun entry among => (same entry).mp among).antisymm
    (within secondSorted firstSorted fun entry among => (same entry).mpr among)

/-- A sorted map of known keys is the entries under these keys. -/
theorem assemble_sorted {known : List UInt64} (sorted : (entries.map Prod.fst).Pairwise (· < ·))
    (ordered : known.Pairwise (· < ·)) (only : ∀ entry ∈ entries, entry.1 ∈ known) :
    assemble known (fun key => entries.lookup key) = entries := by
  refine assemble_lookup (sublist_of_sorted sorted ordered ?_) (ordered.imp UInt64.ne_of_lt)
  intro key among
  obtain ⟨entry, inside, same⟩ := List.mem_map.mp among
  rw [← same]
  exact only entry inside

/-- A sorted map is its known parts and then the rest. -/
theorem assemble_known {known : List UInt64} (sorted : (entries.map Prod.fst).Pairwise (· < ·))
    (ordered : known.Pairwise (· < ·)) (upTo : ∀ key, key ∈ known ↔ key ≤ last) :
    assemble known (fun key => entries.lookup key) ++
      (entries.filter fun entry => decide (last < entry.1)) = entries := by
  have first : assemble known (fun key => entries.lookup key) =
      entries.filter fun entry => decide (entry.1 ≤ last) := by
    have kept := sorted.sublist (List.filter_sublist (p := fun entry => decide (entry.1 ≤ last))
      |>.map Prod.fst)
    rw [← assemble_sorted kept ordered fun entry inside =>
      (upTo entry.1).mpr (by simpa using (List.mem_filter.mp inside).2)]
    exact assemble_congr fun key among => (lookup_filter ((upTo key).mp among)).symm
  rw [first, sorted_split sorted]

/-- The extensions are what stands after the known keys. -/
theorem filter_extensions {fields extensions : PayloadMap}
    (upTo : ∀ key, key ∈ fields.map Prod.fst ↔ key ≤ last)
    (after : ∀ extension ∈ extensions, last < extension.1) :
    ((fields ++ extensions).filter fun entry => decide (last < entry.1)) = extensions := by
  have known : (fields.filter fun entry => decide (last < entry.1)) = [] := by
    rw [List.filter_eq_nil_iff]
    intro entry among
    have below := (upTo entry.1).mp (List.mem_map_of_mem among)
    simpa using below
  have kept : (extensions.filter fun entry => decide (last < entry.1)) = extensions := by
    rw [List.filter_eq_self]
    intro extension among
    simpa using after extension among
  rw [List.filter_append, known, kept, List.nil_append]

end StrictMap

theorem orEncodeError_eq_ok {α : Type} {result : Except EncodeError α} {value : α} :
    orEncodeError result = .ok value ↔ result = .ok value := by
  cases result <;> simp [orEncodeError]

theorem orDecodeError_eq_ok {α : Type} {result : Except DecodeError α} {value : α} :
    orDecodeError result = .ok value ↔ result = .ok value := by
  cases result <;> simp [orDecodeError]

theorem boundedText_eq_ok {schema : String} {key : UInt64} {value : String} {maximum : Nat}
    {done : Unit} :
    boundedText schema key value maximum = .ok done ↔ value.utf8ByteSize ≤ maximum := by
  unfold boundedText
  rw [ite_error_eq_ok_iff]
  simp

theorem validateSortedMap_eq_ok {schema : String} {map : PayloadMap} {done : Unit} :
    validateSortedMap schema map = .ok done ↔ (map.map Prod.fst).Pairwise (· < ·) := by
  unfold validateSortedMap
  rw [ite_error_eq_ok_iff, Bool.not_eq_true, unsorted_eq_false]
  simp

end VividProtocol

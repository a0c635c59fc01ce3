import Mathlib.Tactic
import VividProtocol.Resource
import VividProtocol.Control.Maps
import VividProtocol.Overlay.Event
import VividProtocol.Drawing.Codec

/-!
# Negotiated limits

The resource contract of `resource.rs` and the vector limits of `vector.rs`, as
they stand in a WELCOME.  A contract is read from the map of all its values and
from no other sorted map.
-/

set_option autoImplicit false

namespace VividProtocol

open VividProtocol.Cbor
open VividProtocol.Library.Result

namespace ResourceContract

def toEntries (contract : ResourceContract) : PayloadMap :=
  contract.values.toList.zipIdx.map fun (value, key) => (UInt64.ofNat key, .unsigned value)

def toValue (contract : ResourceContract) : Value := .map contract.toEntries

/-- The arrays that `from_value` fills. -/
structure Filling where
  values : Vector UInt64 RESOURCE_COUNT
  seen : Vector Bool RESOURCE_COUNT

def Filling.empty : Filling :=
  { values := Vector.replicate RESOURCE_COUNT 0
    seen := Vector.replicate RESOURCE_COUNT false }

/-- The loop over the entries. -/
def fill : Filling → PayloadMap → Except ResourceError Filling
  | filling, [] => .ok filling
  | filling, (key, value) :: rest =>
      if known : key.toNat < RESOURCE_COUNT then
        match value.asU64 with
        | none => .error (.invalidValue key)
        | some value =>
            fill
              { values := filling.values.set key.toNat value
                seen := filling.seen.set key.toNat true }
              rest
      else .error (.unknownKey key)

/-- `from_value`. -/
def ofValue : Value → Except ResourceError ResourceContract
  | .map entries => do
      let filled ← fill Filling.empty entries
      match filled.seen.toList.findIdx? fun present => ! present with
      | some index => .error (.missingKey (UInt64.ofNat index))
      | none => .ok { values := filled.values }
  | _ => .error .notAMap

/-! ## The loop -/

section Loop

variable {filling filled : Filling} {entries : PayloadMap}

theorem fill_cons_eq_ok {key : UInt64} {value : Value} {rest : PayloadMap} :
    fill filling ((key, value) :: rest) = .ok filled ↔
      ∃ (known : key.toNat < RESOURCE_COUNT) (number : UInt64), value = .unsigned number ∧
        fill
          { values := filling.values.set key.toNat number
            seen := filling.seen.set key.toNat true }
          rest = .ok filled := by
  rw [fill]
  by_cases known : key.toNat < RESOURCE_COUNT
  · cases value <;> simp [known, Value.asU64]
  · simp [known]

theorem fill_total (held : ∀ entry ∈ entries,
      entry.1.toNat < RESOURCE_COUNT ∧ ∃ number, entry.2 = .unsigned number) :
    ∃ filled, fill filling entries = .ok filled := by
  induction entries generalizing filling with
  | nil => exact ⟨filling, rfl⟩
  | cons entry rest ih =>
      obtain ⟨known, number, same⟩ := held entry List.mem_cons_self
      obtain ⟨filled, done⟩ := ih fun other among => held other (List.mem_cons_of_mem entry among)
      exact ⟨filled, fill_cons_eq_ok.mpr ⟨known, number, same, done⟩⟩

/-- A place is seen exactly if its key was there. -/
theorem fill_seen (done : fill filling entries = .ok filled) {index : Nat}
    (within : index < RESOURCE_COUNT) :
    filled.seen[index] = true ↔
      filling.seen[index] = true ∨ ∃ entry ∈ entries, entry.1.toNat = index := by
  induction entries generalizing filling with
  | nil =>
      cases done
      simp
  | cons entry rest ih =>
      obtain ⟨known, number, _, done⟩ := fill_cons_eq_ok.mp done
      rw [ih done]
      by_cases here : entry.1.toNat = index
      · simp [here]
      · simp [here]

theorem fill_known (done : fill filling entries = .ok filled) :
    ∀ entry ∈ entries, entry.1.toNat < RESOURCE_COUNT := by
  induction entries generalizing filling with
  | nil => simp
  | cons entry rest ih =>
      obtain ⟨known, number, _, done⟩ := fill_cons_eq_ok.mp done
      intro other among
      rcases List.mem_cons.mp among with here | later
      · rw [here]
        exact known
      · exact ih done other later

/-- A place without a key keeps its value. -/
theorem fill_frame (done : fill filling entries = .ok filled) {index : Nat}
    (within : index < RESOURCE_COUNT) (absent : ∀ entry ∈ entries, entry.1.toNat ≠ index) :
    filled.values[index] = filling.values[index] := by
  induction entries generalizing filling with
  | nil =>
      cases done
      rfl
  | cons entry rest ih =>
      obtain ⟨known, number, _, done⟩ := fill_cons_eq_ok.mp done
      rw [ih done fun other among => absent other (List.mem_cons_of_mem entry among)]
      exact Vector.getElem_set_ne known within (absent entry List.mem_cons_self)

/-- Where no key comes twice, every entry is in its place. -/
theorem fill_values (done : fill filling entries = .ok filled)
    (distinct : (entries.map Prod.fst).Nodup) {key : UInt64} {value : Value}
    (among : (key, value) ∈ entries) (known : key.toNat < RESOURCE_COUNT) :
    value = .unsigned filled.values[key.toNat] := by
  induction entries generalizing filling with
  | nil => cases among
  | cons entry rest ih =>
      obtain ⟨within, number, same, done⟩ := fill_cons_eq_ok.mp done
      rw [List.map_cons, List.nodup_cons] at distinct
      rcases List.mem_cons.mp among with here | later
      · have fresh : ∀ other ∈ rest, other.1.toNat ≠ key.toNat := by
          intro other inside again
          refine distinct.1 ?_
          rw [← here]
          exact List.mem_map.mpr ⟨other, inside, UInt64.toNat_inj.mp again⟩
        subst here
        rw [fill_frame done known fresh]
        simpa using same
      · exact ih done distinct.2 later

end Loop

/-! ## Both directions -/

variable {contract : ResourceContract}

def keys : List UInt64 := (List.range RESOURCE_COUNT).map UInt64.ofNat

theorem keys_sorted : keys.Pairwise (· < ·) := by decide

theorem toEntries_keys (contract : ResourceContract) : contract.toEntries.map Prod.fst = keys := by
  unfold toEntries keys
  refine List.ext_getElem (by simp) ?_
  intro index _ _
  simp

theorem mem_toEntries {entry : UInt64 × Value} :
    entry ∈ contract.toEntries ↔
      ∃ known : entry.1.toNat < RESOURCE_COUNT,
        entry.2 = .unsigned contract.values[entry.1.toNat] := by
  unfold toEntries
  simp only [List.mem_map, Prod.exists, List.mem_zipIdx_iff_getElem?]
  constructor
  · intro held
    obtain ⟨number, index, at_, same⟩ := held
    obtain ⟨within, here⟩ := List.getElem?_eq_some_iff.mp at_
    rw [Vector.length_toList] at within
    have word : (UInt64.ofNat index).toNat = index := by
      rw [UInt64.toNat_ofNat']
      exact Nat.mod_eq_of_lt (by unfold RESOURCE_COUNT at within; omega)
    rw [← same]
    refine ⟨by rw [word]; exact within, ?_⟩
    simp only [word]
    rw [← here, Vector.getElem_toList]
  · intro held
    obtain ⟨known, same⟩ := held
    refine ⟨contract.values[entry.1.toNat], entry.1.toNat, by simp [known], ?_⟩
    rw [UInt64.ofNat_toNat, ← same]

/-- Entries that fill every place of a contract, each at most once. -/
theorem ofValue_eq_ok {entries : PayloadMap} (distinct : (entries.map Prod.fst).Nodup) :
    ofValue (.map entries) = .ok contract ↔
      ∀ entry, entry ∈ entries ↔ entry ∈ contract.toEntries := by
  have complete_iff : ∀ filled : Filling,
      filled.seen.toList.findIdx? (fun present => ! present) = none ↔
        ∀ (index : Nat) (within : index < RESOURCE_COUNT), filled.seen[index] = true := by
    intro filled
    simp [List.findIdx?_eq_none_iff, Vector.forall_mem_iff_forall_getElem]
  have place : ∀ {index : Nat}, index < RESOURCE_COUNT →
      (UInt64.ofNat index).toNat = index := by
    intro index within
    rw [UInt64.toNat_ofNat']
    exact Nat.mod_eq_of_lt (by unfold RESOURCE_COUNT at within; omega)
  constructor
  · intro read
    obtain ⟨filled, done, ended⟩ := bind_eq_ok_iff.mp read
    cases found : filled.seen.toList.findIdx? fun present => ! present with
    | some index => simp [found] at ended
    | none =>
        simp only [found, Except.ok.injEq] at ended
        rw [← ended]
        have complete := (complete_iff filled).mp found
        intro entry
        rw [mem_toEntries]
        constructor
        · intro among
          have known := fill_known done entry among
          exact ⟨known, fill_values done distinct among known⟩
        · intro held
          obtain ⟨known, same⟩ := held
          rcases (fill_seen done known).mp (complete _ known) with before | present
          · simp [Filling.empty] at before
          · obtain ⟨other, among, key⟩ := present
            have keySame := UInt64.toNat_inj.mp key
            have value := fill_values done distinct among (by rw [key]; exact known)
            have both : other = entry := by
              refine Prod.ext keySame ?_
              rw [value, same]
              simp only [key]
            rw [← both]
            exact among
  · intro same
    have total : ∃ filled, fill Filling.empty entries = .ok filled := by
      refine fill_total ?_
      intro entry among
      obtain ⟨known, held⟩ := mem_toEntries.mp ((same entry).mp among)
      exact ⟨known, _, held⟩
    obtain ⟨filled, done⟩ := total
    have present : ∀ {index : Nat} (within : index < RESOURCE_COUNT),
        (UInt64.ofNat index, Value.unsigned contract.values[index]) ∈ entries := by
      intro index within
      refine (same _).mpr (mem_toEntries.mpr ⟨by rw [place within]; exact within, ?_⟩)
      simp only [place within]
    have found := (complete_iff filled).mpr fun index within =>
      (fill_seen done within).mpr (Or.inr ⟨_, present within, place within⟩)
    have values : filled.values = contract.values := by
      refine Vector.ext fun index within => ?_
      have value := fill_values done distinct (present within) (by rw [place within]; exact within)
      simp only [place within, Value.unsigned.injEq] at value
      exact value.symm
    refine bind_eq_ok_iff.mpr ⟨filled, done, ?_⟩
    simp only [found, values]

theorem eq_toEntries_of_ofValue {entries : PayloadMap}
    (sorted : (entries.map Prod.fst).Pairwise (· < ·))
    (read : ofValue (.map entries) = .ok contract) : entries = contract.toEntries := by
  refine StrictMap.sorted_ext sorted ?_
    ((ofValue_eq_ok (sorted.imp UInt64.ne_of_lt)).mp read)
  rw [toEntries_keys]
  exact keys_sorted

theorem ofValue_toValue (contract : ResourceContract) :
    ofValue contract.toValue = .ok contract := by
  have distinct : (contract.toEntries.map Prod.fst).Nodup := by
    rw [toEntries_keys]
    exact keys_sorted.imp UInt64.ne_of_lt
  exact (ofValue_eq_ok distinct).mpr fun _ => Iff.rfl

end ResourceContract

end VividProtocol

/-! ## Vector limits -/

namespace VividProtocol.Drawing

open VividProtocol.Cbor
open VividProtocol.Overlay

def MAX_ASSET_BYTES : Nat := 16 * 1024 * 1024
def MAX_RETAINED_ASSETS : Nat := 256
def MAX_RETAINED_ASSET_BYTES : Nat := 64 * 1024 * 1024

structure Limits where
  values : Vector UInt64 12
  deriving Repr, DecidableEq

namespace Limits

/-- `Limits::default()`. -/
def default : Limits where
  values :=
    #v[MAX_SCENE_BYTES, MAX_COMMANDS, MAX_PATH_SEGMENTS, MAX_TOTAL_SEGMENTS, MAX_STACK_DEPTH,
      MAX_TEXT_BYTES, MAX_GRADIENT_STOPS, MAX_ASSET_BYTES, MAX_RETAINED_ASSETS,
      MAX_RETAINED_ASSET_BYTES, MAX_WINDOWS_PER_OWNER, MAX_PENDING_EVENTS].map UInt64.ofNat

def new (values : Vector UInt64 12) : Except InvalidScene Limits :=
  if (values.zip default.values).any fun (value, maximum) =>
      decide (value = 0) || decide (maximum < value) then
    .error ⟨"invalid negotiated vector limits"⟩
  else .ok { values := values }

/-- The loop over the fields. -/
def readFields : Nat → Vector UInt64 12 → PayloadMap → Except InvalidScene (Vector UInt64 12)
  | _, values, [] => .ok values
  | index, values, (key, value) :: rest =>
      if key ≠ UInt64.ofNat index then .error ⟨"unknown vector limit"⟩
      else do
        let number ← parseUint value
        readFields (index + 1) (values.setIfInBounds index number) rest

/-- `from_value`. -/
def ofValue : Value → Except InvalidScene Limits
  | .map fields =>
      if fields.length ≠ 12 then .error ⟨"incomplete vector limits"⟩
      else do
        let values ← readFields 0 (Vector.replicate 12 0) fields
        new values
  | _ => .error ⟨"vector limits must be a map"⟩

end Limits

end VividProtocol.Drawing

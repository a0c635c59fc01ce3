import Mathlib.Tactic
import VividProtocol.Cbor.Preserving

/-!
# Merging known and preserved entries

What the preserving encoder writes is the plain encoding of both lists merged
by key, and it refuses exactly what has no such merge.  With the split that the
decoder makes, both codecs agree on whole maps.
-/

set_option autoImplicit false

namespace VividProtocol.Cbor

open VividProtocol.Library.Result

/-! ## The encoder merges the entries -/

/-- A preserved field holds one canonical value. -/
def Kept (field : PreservedField) (entry : UInt64 × Value) : Prop :=
  field.key = entry.1 ∧ decodeAtDepth field.encodedValue 1 = .ok entry.2

def keyOrder (left right : UInt64 × Value) : Bool := decide (left.1 ≤ right.1)

/-- Both lists in the order of their keys. -/
def keyMerge (known decoded : List (UInt64 × Value)) : List (UInt64 × Value) :=
  List.merge known decoded keyOrder

theorem checkPreserved_eq_ok {preserved : List PreservedField} :
    checkPreserved preserved = .ok () ↔ ∃ decoded, List.Forall₂ Kept preserved decoded := by
  induction preserved with
  | nil => exact ⟨fun _ => ⟨[], .nil⟩, fun _ => rfl⟩
  | cons entry rest ih =>
      unfold checkPreserved
      constructor
      · intro checked
        cases decoded : decodeAtDepth entry.encodedValue 1 with
        | error error => simp [decoded] at checked
        | ok value =>
            simp only [decoded] at checked
            obtain ⟨others, kept⟩ := ih.mp checked
            exact ⟨(entry.key, value) :: others, .cons ⟨rfl, decoded⟩ kept⟩
      · intro decoded
        obtain ⟨_, kept⟩ := decoded
        cases kept with
        | cons first others =>
            simp only [first.2]
            exact ih.mpr ⟨_, others⟩

/-- The keys of the two lists have nothing in common. -/
def Apart (known : List (UInt64 × Value)) (preserved : List PreservedField) : Prop :=
  ∀ entry ∈ known, ∀ field ∈ preserved, entry.1 ≠ field.key

theorem apart_nil_left (preserved : List PreservedField) : Apart [] preserved := nofun

theorem apart_nil_right (known : List (UInt64 × Value)) : Apart known [] := fun _ _ => nofun

theorem apart_cons_known {key : UInt64} {value : Value} {known : List (UInt64 × Value)}
    {field : PreservedField} {preserved : List PreservedField} (below : key < field.key)
    (sorted : (field :: preserved).Pairwise fun left right => left.key < right.key) :
    Apart ((key, value) :: known) (field :: preserved) ↔ Apart known (field :: preserved) := by
  constructor
  · intro apart entry among
    exact apart entry (List.mem_cons_of_mem _ among)
  · intro apart entry among other inside
    rcases List.mem_cons.mp among with same | later
    · rw [same]
      rcases List.mem_cons.mp inside with first | after
      · rw [first]
        exact UInt64.ne_of_lt below
      · exact UInt64.ne_of_lt
          (UInt64.lt_trans below ((List.pairwise_cons.mp sorted).1 other after))
    · exact apart entry later other inside

theorem apart_cons_preserved {entry : UInt64 × Value} {known : List (UInt64 × Value)}
    {field : PreservedField} {preserved : List PreservedField} (below : field.key < entry.1)
    (sorted : (entry :: known).Pairwise fun left right => left.1 < right.1) :
    Apart (entry :: known) (field :: preserved) ↔ Apart (entry :: known) preserved := by
  constructor
  · intro apart other among later inside
    exact apart other among later (List.mem_cons_of_mem _ inside)
  · intro apart other among later inside
    rcases List.mem_cons.mp inside with same | after
    · rw [same]
      rcases List.mem_cons.mp among with first | further
      · rw [first]
        exact (UInt64.ne_of_lt below).symm
      · exact (UInt64.ne_of_lt
          (UInt64.lt_trans below ((List.pairwise_cons.mp sorted).1 other further))).symm
    · exact apart other among later after

/-- The loop writes the merged entries, unless a key stands in both lists. -/
theorem mergeLoop_eq_ok (encoder : Encoder) (known : List (UInt64 × Value))
    (preserved : List PreservedField) {decoded : List (UInt64 × Value)} {result : Encoder}
    (kept : List.Forall₂ Kept preserved decoded)
    (sortedKnown : known.Pairwise fun left right => left.1 < right.1)
    (sortedPreserved : preserved.Pairwise fun left right => left.key < right.key) :
    mergeLoop encoder known preserved = .ok result ↔
      Apart known preserved ∧
        encodeEntries (encodeWithin maxDepth) encoder (keyMerge known decoded) = .ok result := by
  -- The head of a list that is taken is written as the head of the merge.
  have writesKept : ∀ {field : PreservedField} {entry : UInt64 × Value} (encoder : Encoder)
      (rest : List (UInt64 × Value)), Kept field entry →
      encodeEntries (encodeWithin maxDepth) encoder (entry :: rest) =
        encodeEntries (encodeWithin maxDepth)
          ((encoder.u64 field.key).extend field.encodedValue) rest := by
    intro field entry encoder rest held
    rw [encodeEntries, ← held.1, writtenAs_of_decode held.2, ok_bind]
  induction encoder, known, preserved using mergeLoop.induct generalizing decoded with
  | case1 encoder =>
      cases kept
      simp [mergeLoop, keyMerge, encodeEntries, apart_nil_left]
  | case2 encoder key value known ih =>
      cases kept
      have rest := (List.pairwise_cons.mp sortedKnown).2
      have merged : keyMerge ((key, value) :: known) [] = (key, value) :: keyMerge known [] := by
        simp [keyMerge]
      rw [mergeLoop, merged, encodeEntries, bind_eq_ok_iff, bind_eq_ok_iff]
      simp only [ih _ .nil rest .nil, apart_nil_right, true_and]
      rfl
  | case3 encoder field preserved ih =>
      cases kept with
      | @cons _ entry _ others held kept =>
          have rest := (List.pairwise_cons.mp sortedPreserved).2
          have merged : keyMerge [] (entry :: others) = entry :: keyMerge [] others := by
            simp [keyMerge]
          rw [mergeLoop, merged, writesKept encoder _ held]
          refine (ih kept .nil rest).trans ?_
          simp only [apart_nil_left, true_and]
  | case4 encoder value known field preserved =>
      rw [mergeLoop, if_pos rfl]
      constructor
      · intro impossible
        cases impossible
      · intro both
        exact absurd rfl (both.1 (field.key, value) List.mem_cons_self field List.mem_cons_self)
  | case5 encoder key value known field preserved differs below ih =>
      cases kept with
      | @cons _ entry _ others held kept =>
          have rest := (List.pairwise_cons.mp sortedKnown).2
          have order : keyOrder (key, value) entry = true := by
            have least := UInt64.le_of_lt below
            rw [held.1] at least
            simpa [keyOrder] using least
          have merged : keyMerge ((key, value) :: known) (entry :: others) =
              (key, value) :: keyMerge known (entry :: others) := by
            rw [keyMerge, List.cons_merge_cons_pos _ _ _ order]
            rfl
          rw [mergeLoop, if_neg differs, if_pos below, apart_cons_known below sortedPreserved,
            merged, encodeEntries, bind_eq_ok_iff, bind_eq_ok_iff]
          simp only [ih _ (.cons held kept) rest sortedPreserved]
          constructor
          · intro written
            obtain ⟨middle, first, apart, later⟩ := written
            exact ⟨apart, middle, first, later⟩
          · intro written
            obtain ⟨apart, middle, first, later⟩ := written
            exact ⟨middle, first, apart, later⟩
  | case6 encoder key value known field preserved differs notBelow ih =>
      cases kept with
      | @cons _ entry _ others held kept =>
          have rest := (List.pairwise_cons.mp sortedPreserved).2
          have above : field.key < key := by
            rcases UInt64.lt_or_lt_of_ne differs with below | above
            · exact absurd below notBelow
            · exact above
          have order : ¬ keyOrder (key, value) entry = true := by
            rw [held.1] at above
            simpa [keyOrder] using above
          have merged : keyMerge ((key, value) :: known) (entry :: others) =
              entry :: keyMerge ((key, value) :: known) others := by
            rw [keyMerge, List.cons_merge_cons_neg _ _ _ order]
            rfl
          have front : Apart ((key, value) :: known) (field :: preserved) ↔
              Apart ((key, value) :: known) preserved :=
            apart_cons_preserved above sortedKnown
          rw [mergeLoop, if_neg differs, if_neg notBelow, front, merged, writesKept encoder _ held]
          exact ih kept sortedKnown rest

/-! ## Sorted merges -/

/-- The keys of the entries increase strictly. -/
def SortedEntries (entries : List (UInt64 × Value)) : Prop :=
  entries.Pairwise fun left right => left.1 < right.1

def SortedFields (fields : List PreservedField) : Prop :=
  fields.Pairwise fun left right => left.key < right.key

theorem unsorted_entries {entries : List (UInt64 × Value)} :
    unsorted (entries.map Prod.fst) = false ↔ SortedEntries entries := by
  rw [unsorted_eq_false, List.pairwise_map]
  rfl

theorem unsorted_fields {fields : List PreservedField} :
    unsorted (fields.map PreservedField.key) = false ↔ SortedFields fields := by
  rw [unsorted_eq_false, List.pairwise_map]
  rfl

theorem keyMerge_sorted {known decoded : List (UInt64 × Value)} (sortedKnown : SortedEntries known)
    (sortedDecoded : SortedEntries decoded)
    (apart : ∀ entry ∈ known, ∀ other ∈ decoded, entry.1 ≠ other.1) :
    SortedEntries (keyMerge known decoded) := by
  have ordered : (keyMerge known decoded).Pairwise fun left right => keyOrder left right := by
    refine List.pairwise_merge ?_ ?_ known decoded ?_ ?_
    · intro first second third low high
      simp only [keyOrder, decide_eq_true_eq] at low high ⊢
      exact UInt64.le_trans low high
    · intro first second
      simp only [keyOrder, Bool.or_eq_true, decide_eq_true_eq]
      exact UInt64.le_total first.1 second.1
    · exact sortedKnown.imp fun below => by simpa [keyOrder] using UInt64.le_of_lt below
    · exact sortedDecoded.imp fun below => by simpa [keyOrder] using UInt64.le_of_lt below
  have distinct : (keyMerge known decoded).Pairwise fun left right => left.1 ≠ right.1 := by
    have together : (known ++ decoded).Pairwise fun left right => left.1 ≠ right.1 :=
      List.pairwise_append.mpr
        ⟨sortedKnown.imp UInt64.ne_of_lt, sortedDecoded.imp UInt64.ne_of_lt, apart⟩
    have same : (known ++ decoded).Perm (keyMerge known decoded) :=
      (List.merge_perm_append _).symm
    exact (same.pairwise_iff fun differs => differs.symm).mp together
  exact (ordered.and distinct).imp fun both =>
    UInt64.lt_of_le_of_ne (by simpa [keyOrder] using both.1) both.2

theorem keyMerge_cons_left {entry : UInt64 × Value} {known decoded : List (UInt64 × Value)}
    (below : ∀ other ∈ decoded, entry.1 < other.1) :
    keyMerge (entry :: known) decoded = entry :: keyMerge known decoded := by
  cases decoded with
  | nil => simp [keyMerge]
  | cons other others =>
      have least := UInt64.le_of_lt (below other List.mem_cons_self)
      exact List.cons_merge_cons_pos _ _ _ (by simpa [keyOrder] using least)

theorem keyMerge_cons_right {entry : UInt64 × Value} {known decoded : List (UInt64 × Value)}
    (below : ∀ other ∈ known, entry.1 < other.1) :
    keyMerge known (entry :: decoded) = entry :: keyMerge known decoded := by
  cases known with
  | nil => simp [keyMerge]
  | cons other others =>
      have above := below other List.mem_cons_self
      exact List.cons_merge_cons_neg _ _ _ (by simpa [keyOrder] using above)

/-- Splitting a sorted list and merging the parts gives the list back. -/
theorem keyMerge_filter {entries : List (UInt64 × Value)} (sorted : SortedEntries entries)
    (chosen : UInt64 → Prop) [DecidablePred chosen] :
    keyMerge (entries.filter fun entry => chosen entry.1)
      (entries.filter fun entry => ¬ chosen entry.1) = entries := by
  induction entries with
  | nil => simp [keyMerge]
  | cons entry rest ih =>
      obtain ⟨below, sorted⟩ := List.pairwise_cons.mp sorted
      by_cases taken : chosen entry.1
      · rw [List.filter_cons_of_pos (by simpa using taken),
          List.filter_cons_of_neg (by simpa using taken), keyMerge_cons_left, ih sorted]
        intro other among
        exact below other (List.mem_of_mem_filter among)
      · rw [List.filter_cons_of_neg (by simpa using taken),
          List.filter_cons_of_pos (by simpa using taken), keyMerge_cons_right, ih sorted]
        intro other among
        exact below other (List.mem_of_mem_filter among)

theorem Kept.keys {preserved : List PreservedField} {decoded : List (UInt64 × Value)}
    (kept : List.Forall₂ Kept preserved decoded) :
    preserved.map PreservedField.key = decoded.map Prod.fst := by
  induction kept with
  | nil => rfl
  | cons held _ ih => rw [List.map_cons, List.map_cons, held.1, ih]

theorem Kept.written {preserved : List PreservedField} {decoded : List (UInt64 × Value)}
    (kept : List.Forall₂ Kept preserved decoded) :
    ∀ entry ∈ decoded, ∃ bytes, WrittenAs entry.2 bytes := by
  induction kept with
  | nil => exact nofun
  | cons held _ ih => exact List.forall_mem_cons.mpr ⟨⟨_, writtenAs_of_decode held.2⟩, ih⟩

/-! ## Both directions of the encoder -/

variable {known : List (UInt64 × Value)} {preserved : List PreservedField}

/-- The keys of preserved fields, as those of the values they hold. -/
theorem Kept.apart_iff {decoded : List (UInt64 × Value)}
    (kept : List.Forall₂ Kept preserved decoded) :
    Apart known preserved ↔ ∀ entry ∈ known, ∀ other ∈ decoded, entry.1 ≠ other.1 := by
  have keys := Kept.keys kept
  constructor
  · intro apart entry among other inside same
    have key : other.1 ∈ preserved.map PreservedField.key := by
      rw [keys]
      exact List.mem_map_of_mem inside
    obtain ⟨field, held, isKey⟩ := List.mem_map.mp key
    exact apart entry among field held (same.trans isKey.symm)
  · intro apart entry among field held same
    have key : field.key ∈ decoded.map Prod.fst := by
      rw [← keys]
      exact List.mem_map_of_mem held
    obtain ⟨other, inside, isKey⟩ := List.mem_map.mp key
    exact apart entry among other inside (same.trans isKey.symm)

theorem encodePreservingMap_eq_ok {bytes : List UInt8} :
    encodePreservingMap known preserved = .ok bytes ↔
      known.length + preserved.length ≤ maxContainerLength ∧ SortedEntries known ∧
        SortedFields preserved ∧ Apart known preserved ∧
        ∃ decoded, List.Forall₂ Kept preserved decoded ∧
          encode (.map (keyMerge known decoded)) = .ok bytes := by
  have merged : ∀ {decoded : List (UInt64 × Value)}, List.Forall₂ Kept preserved decoded →
      (keyMerge known decoded).length = known.length + preserved.length := by
    intro decoded kept
    rw [keyMerge, List.length_merge, kept.length_eq]
  unfold encodePreservingMap
  simp only [bind_eq_ok_iff, ite_error_eq_ok_iff, not_or, Bool.not_eq_true, unsorted_entries,
    unsorted_fields, Except.ok.injEq]
  constructor
  · intro written
    obtain ⟨⟨⟩, few, ⟨sortedKnown, sortedPreserved⟩, ⟨⟩, checked, after, looped, same⟩ := written
    obtain ⟨decoded, kept⟩ := checkPreserved_eq_ok.mp checked
    obtain ⟨apart, entered⟩ :=
      (mergeLoop_eq_ok _ known preserved kept sortedKnown sortedPreserved).mp looped
    have few := validateContainerLength_eq_ok.mp few
    have sortedDecoded : SortedEntries decoded := by
      rw [← unsorted_entries, ← Kept.keys kept]
      exact unsorted_fields.mpr sortedPreserved
    refine ⟨few, sortedKnown, sortedPreserved, apart, decoded, kept, encode_map_eq_ok.mpr ?_⟩
    rw [merged kept, unsorted_entries]
    exact ⟨few, keyMerge_sorted sortedKnown sortedDecoded ((Kept.apart_iff kept).mp apart), after,
      entered, same⟩
  · intro written
    obtain ⟨few, sortedKnown, sortedPreserved, apart, decoded, kept, encoded⟩ := written
    obtain ⟨_, _, after, entered, same⟩ := encode_map_eq_ok.mp encoded
    rw [merged kept] at entered
    exact ⟨(), validateContainerLength_eq_ok.mpr few, ⟨sortedKnown, sortedPreserved⟩, (),
      checkPreserved_eq_ok.mpr ⟨decoded, kept⟩, after,
      (mergeLoop_eq_ok _ known preserved kept sortedKnown sortedPreserved).mpr ⟨apart, entered⟩,
      same⟩

/-- Entries are written exactly when each value is. -/
theorem encodeEntries_within {levels : Nat} {entries : List (UInt64 × Value)} {encoder : Encoder} :
    (∃ result, encodeEntries (encodeWithin levels) encoder entries = .ok result) ↔
      ∀ entry ∈ entries, ∃ result, encodeWithin levels Encoder.new entry.2 = .ok result := by
  induction entries generalizing encoder with
  | nil => exact ⟨fun _ => nofun, fun _ => ⟨encoder, rfl⟩⟩
  | cons entry rest ih =>
      rw [List.forall_mem_cons]
      constructor
      · intro written
        obtain ⟨result, written⟩ := written
        obtain ⟨middle, first, later⟩ := bind_eq_ok_iff.mp written
        obtain ⟨bytes, writes⟩ := appends_within levels _ _ _ first
        exact ⟨⟨_, writes Encoder.new⟩, ih.mp ⟨result, later⟩⟩
      · intro each
        obtain ⟨⟨alone, first⟩, others⟩ := each
        obtain ⟨bytes, writes⟩ := appends_within levels _ _ _ first
        obtain ⟨result, later⟩ := ih.mpr others
        refine ⟨result, ?_⟩
        rw [encodeEntries, writes, ok_bind]
        exact later

/-- The merge is encoded exactly when the known values are. -/
theorem encodes_keyMerge {decoded : List (UInt64 × Value)}
    (few : known.length + preserved.length ≤ maxContainerLength)
    (sortedKnown : SortedEntries known) (sortedPreserved : SortedFields preserved)
    (apart : Apart known preserved) (kept : List.Forall₂ Kept preserved decoded) :
    (∃ bytes, encode (.map (keyMerge known decoded)) = .ok bytes) ↔
      ∀ entry ∈ known, ∃ encoder, encodeValue Encoder.new entry.2 1 = .ok encoder := by
  have length : (keyMerge known decoded).length ≤ maxContainerLength := by
    rw [keyMerge, List.length_merge, ← kept.length_eq]
    exact few
  have sortedDecoded : SortedEntries decoded := by
    rw [← unsorted_entries, ← Kept.keys kept]
    exact unsorted_fields.mpr sortedPreserved
  have sorted : unsorted ((keyMerge known decoded).map Prod.fst) = false :=
    unsorted_entries.mpr
      (keyMerge_sorted sortedKnown sortedDecoded ((Kept.apart_iff kept).mp apart))
  have values : ∀ entry ∈ decoded, ∃ result, encodeWithin maxDepth Encoder.new entry.2 =
      .ok result := by
    intro entry among
    obtain ⟨_, written⟩ := Kept.written kept entry among
    exact ⟨_, written Encoder.new⟩
  constructor
  · intro encoded
    obtain ⟨bytes, encoded⟩ := encoded
    obtain ⟨_, _, after, entered, _⟩ := encode_map_eq_ok.mp encoded
    intro entry among
    exact encodeEntries_within.mp ⟨after, entered⟩ entry (List.mem_merge.mpr (Or.inl among))
  · intro each
    obtain ⟨after, entered⟩ := (@encodeEntries_within maxDepth _
      (Encoder.new.map (keyMerge known decoded).length)).mpr fun entry among =>
        (List.mem_merge.mp among).elim (each entry) (values entry)
    exact ⟨after.bytes, encode_map_eq_ok.mpr ⟨length, sorted, after, entered, rfl⟩⟩

/-- What the encoder refuses. -/
def Refused (known : List (UInt64 × Value)) (preserved : List PreservedField) : Prop :=
  ¬ SortedEntries known ∨ ¬ SortedFields preserved ∨
    (∃ entry ∈ known, ∃ field ∈ preserved, entry.1 = field.key) ∨
    maxContainerLength < known.length + preserved.length ∨
    (∃ field ∈ preserved, ¬ CanonicalInside field.encodedValue) ∨
    ∃ entry ∈ known, ¬ ∃ encoder, encodeValue Encoder.new entry.2 1 = .ok encoder

theorem kept_iff :
    (∃ decoded, List.Forall₂ Kept preserved decoded) ↔
      ∀ field ∈ preserved, CanonicalInside field.encodedValue := by
  induction preserved with
  | nil => exact ⟨fun _ => nofun, fun _ => ⟨[], .nil⟩⟩
  | cons field rest ih =>
      rw [List.forall_mem_cons, canonicalInside_iff, ← ih]
      constructor
      · intro decoded
        obtain ⟨_, kept⟩ := decoded
        cases kept with
        | cons first others => exact ⟨⟨_, first.2⟩, _, others⟩
      · intro both
        obtain ⟨⟨value, first⟩, others, kept⟩ := both
        exact ⟨(field.key, value) :: others, .cons ⟨rfl, first⟩ kept⟩

theorem encodePreservingMap_accepts :
    (∃ bytes, encodePreservingMap known preserved = .ok bytes) ↔ ¬ Refused known preserved := by
  constructor
  · intro accepted refused
    obtain ⟨bytes, written⟩ := accepted
    obtain ⟨few, sortedKnown, sortedPreserved, apart, decoded, kept, encoded⟩ :=
      encodePreservingMap_eq_ok.mp written
    rcases refused with unsorted | unsorted | both | many | invalid | unwritten
    · exact unsorted sortedKnown
    · exact unsorted sortedPreserved
    · obtain ⟨entry, among, field, held, same⟩ := both
      exact apart entry among field held same
    · exact absurd few (Nat.not_le.mpr many)
    · obtain ⟨field, held, invalid⟩ := invalid
      exact invalid (kept_iff.mp ⟨decoded, kept⟩ field held)
    · obtain ⟨entry, among, unwritten⟩ := unwritten
      exact unwritten ((encodes_keyMerge few sortedKnown sortedPreserved apart kept).mp
        ⟨bytes, encoded⟩ entry among)
  · intro sound
    simp only [Refused, not_or, not_exists, not_and, not_not, Nat.not_lt] at sound
    obtain ⟨sortedKnown, sortedPreserved, apart, few, canonical, each⟩ := sound
    obtain ⟨decoded, kept⟩ := kept_iff.mpr canonical
    obtain ⟨bytes, encoded⟩ := (encodes_keyMerge few sortedKnown sortedPreserved apart kept).mpr
      fun entry among => not_forall_not.mp (each entry among)
    exact ⟨bytes, encodePreservingMap_eq_ok.mpr
      ⟨few, sortedKnown, sortedPreserved, apart, decoded, kept, encoded⟩⟩

/-! ## Agreement with the plain codec -/

variable {knownKeys : List UInt64} {map : PreservingMap}

theorem Found.entries {found : List (UInt64 × Value × List UInt8)}
    {entries : List (UInt64 × Value)} (all : List.Forall₂ Found found entries) :
    (found.map fun entry => (entry.1, entry.2.1)) = entries := by
  induction all with
  | nil => rfl
  | cons first _ ih => rw [List.map_cons, ih, first.1, first.2.1]

theorem Splits.knownEntries {entries : List (UInt64 × Value)}
    (splits : Splits knownKeys entries map) :
    map.knownEntries = entries.filter fun entry => entry.1 ∈ knownKeys :=
  Found.entries splits.known

theorem Splits.kept {entries : List (UInt64 × Value)} (splits : Splits knownKeys entries map) :
    List.Forall₂ Kept map.preservedOwned (entries.filter fun entry => entry.1 ∉ knownKeys) := by
  rw [PreservingMap.preservedOwned, List.forall₂_map_left_iff]
  exact splits.preserved.imp fun _ _ passed => ⟨passed.1, passed.2.2⟩

/-- A split map is merged to the bytes it was read from. -/
theorem Splits.encode {entries : List (UInt64 × Value)} {bytes : List UInt8}
    (splits : Splits knownKeys entries map) (decoded : decode bytes = .ok (.map entries)) :
    encodePreservingMap map.knownEntries map.preservedOwned = .ok bytes := by
  have encoded := encode_of_decode decoded
  obtain ⟨few, sorted, _⟩ := encode_map_eq_ok.mp encoded
  have sorted : SortedEntries entries := unsorted_entries.mp sorted
  have kept := splits.kept
  have whole : (entries.filter fun entry => entry.1 ∈ knownKeys).length +
      map.preservedOwned.length = entries.length := by
    rw [kept.length_eq]
    simpa using (List.length_eq_length_filter_add fun entry : UInt64 × Value =>
      decide (entry.1 ∈ knownKeys)).symm
  have sortedPreserved : SortedFields map.preservedOwned := by
    rw [← unsorted_fields, Kept.keys kept]
    exact unsorted_entries.mpr (List.Pairwise.filter _ sorted)
  rw [splits.knownEntries]
  refine encodePreservingMap_eq_ok.mpr ⟨whole ▸ few, List.Pairwise.filter _ sorted,
    sortedPreserved, (Kept.apart_iff kept).mpr ?_, _, kept, ?_⟩
  · intro entry among other inside same
    have isKnown : entry.1 ∈ knownKeys := by simpa using (List.mem_filter.mp among).2
    have isUnknown : other.1 ∉ knownKeys := by simpa using (List.mem_filter.mp inside).2
    rw [same] at isKnown
    exact isUnknown isKnown
  · rw [keyMerge_filter sorted fun key => key ∈ knownKeys]
    exact encoded

/-- The preserving codec reads the maps of the plain codec, split by their keys,
and writes exactly what the plain codec writes for the merged map. -/
theorem preserving_codec_agrees :
    (∀ (bytes : List UInt8) (knownKeys : List UInt64), knownKeys.Pairwise (· < ·) →
      ((∃ map, decodePreservingMap bytes knownKeys = .ok map) ↔
        ∃ entries, decode bytes = .ok (.map entries)) ∧
      ∀ (map : PreservingMap) (entries : List (UInt64 × Value)),
        decodePreservingMap bytes knownKeys = .ok map → decode bytes = .ok (.map entries) →
        map.knownEntries = (entries.filter fun entry => entry.1 ∈ knownKeys) ∧
        List.Forall₂ (fun (passed : PreservedEntry) (entry : UInt64 × Value) =>
            passed.key = entry.1 ∧ encode entry.2 = .ok passed.encodedValue)
          map.preserved (entries.filter fun entry => entry.1 ∉ knownKeys) ∧
        encodePreservingMap map.knownEntries map.preservedOwned = .ok bytes) ∧
    ∀ (known : List (UInt64 × Value)) (preserved : List PreservedField),
      (∀ bytes, encodePreservingMap known preserved = .ok bytes →
        ∃ decoded, List.Forall₂ Kept preserved decoded ∧
          encode (.map (keyMerge known decoded)) = .ok bytes) ∧
      ((∃ error, encodePreservingMap known preserved = .error error) ↔
        Refused known preserved) := by
  refine ⟨?_, ?_⟩
  · intro bytes knownKeys ordered
    have sorted := unsorted_eq_false.mpr ordered
    refine ⟨⟨?_, ?_⟩, ?_⟩
    · intro kept
      obtain ⟨map, kept⟩ := kept
      exact decode_of_decodePreservingMap kept
    · intro decoded
      obtain ⟨entries, decoded⟩ := decoded
      obtain ⟨map, kept, _⟩ := decodePreservingMap_of_decode sorted decoded
      exact ⟨map, kept⟩
    · intro map entries kept decoded
      obtain ⟨other, same, splits⟩ := decodePreservingMap_of_decode sorted decoded
      rw [kept] at same
      cases same
      exact ⟨splits.knownEntries, splits.preserved.imp fun _ _ passed =>
        ⟨passed.1, passed.2.1.encode⟩, splits.encode decoded⟩
  · intro known preserved
    refine ⟨?_, ?_⟩
    · intro bytes written
      obtain ⟨_, _, _, _, merged⟩ := encodePreservingMap_eq_ok.mp written
      exact merged
    · have accepts := @encodePreservingMap_accepts known preserved
      cases result : encodePreservingMap known preserved with
      | error error =>
          rw [result] at accepts
          have refused := mt accepts.mpr (by simp)
          exact ⟨fun _ => not_not.mp refused, fun _ => ⟨error, rfl⟩⟩
      | ok bytes =>
          rw [result] at accepts
          have sound := accepts.mp ⟨bytes, rfl⟩
          exact ⟨fun refused => absurd refused (by simp), fun refused => absurd refused sound⟩

/-- A map with one known and one unknown key, read and written back. -/
theorem preserving_codec_agrees_interleaved :
    encodePreservingMap [(1, .bool true)] [⟨0, [0x18, 0x2a]⟩] =
      .ok [0xa2, 0x00, 0x18, 0x2a, 0x01, 0xf5] := by
  have decoded : decode [0xa2, 0x00, 0x18, 0x2a, 0x01, 0xf5] =
      .ok (.map [(0, .unsigned 42), (1, .bool true)]) := rfl
  have kept : decodePreservingMap [0xa2, 0x00, 0x18, 0x2a, 0x01, 0xf5] [1] =
      .ok { known := [(1, .bool true, [0xf5])], preserved := [⟨0, [0x18, 0x2a]⟩] } := rfl
  exact ((preserving_codec_agrees.1 [0xa2, 0x00, 0x18, 0x2a, 0x01, 0xf5] [1] (by simp)).2 _ _ kept
    decoded).2.2

end VividProtocol.Cbor

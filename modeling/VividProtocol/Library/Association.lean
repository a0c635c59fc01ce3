import Mathlib.Tactic

/-!
# Association lists under a list of keys

A record is written as the entries of its parts, in the order of a list of
keys, without the parts that are absent.  Such a list is known by its lookups.
-/

set_option autoImplicit false

namespace VividProtocol.Library.Association

universe u v

variable {κ : Type u} {α : Type v}

/-- The entry of a part that may be absent. -/
def entry (key : κ) (part : Option α) : List (κ × α) :=
  (part.map fun value => (key, value)).toList

/-- The entries of all parts, in the order of the keys. -/
def assemble (keys : List κ) (part : κ → Option α) : List (κ × α) :=
  keys.flatMap fun key => entry key (part key)

variable {keys : List κ} {part : κ → Option α}

@[simp] theorem entry_none (key : κ) : (entry key none : List (κ × α)) = [] := rfl

@[simp] theorem entry_some (key : κ) (value : α) : entry key (some value) = [(key, value)] := rfl

@[simp] theorem assemble_nil : assemble [] part = [] := rfl

@[simp] theorem assemble_cons (key : κ) :
    assemble (key :: keys) part = entry key (part key) ++ assemble keys part := rfl

theorem assemble_congr {other : κ → Option α} (same : ∀ key ∈ keys, part key = other key) :
    assemble keys part = assemble keys other := by
  induction keys with
  | nil => rfl
  | cons key rest ih =>
      rw [assemble_cons, assemble_cons, same key List.mem_cons_self,
        ih fun later among => same later (List.mem_cons_of_mem key among)]

theorem map_assemble (change : α → α) :
    ((assemble keys part).map fun pair => (pair.1, change pair.2)) =
      assemble keys fun key => (part key).map change := by
  induction keys with
  | nil => rfl
  | cons key rest ih =>
      rw [assemble_cons, assemble_cons, List.map_append, ih]
      cases part key <;> rfl

theorem mem_assemble {pair : κ × α} :
    pair ∈ assemble keys part ↔ pair.1 ∈ keys ∧ part pair.1 = some pair.2 := by
  unfold assemble entry
  simp only [List.mem_flatMap, Option.mem_toList, Option.map_eq_some_iff]
  constructor
  · intro held
    obtain ⟨key, among, value, isPart, same⟩ := held
    rw [← same]
    exact ⟨among, isPart⟩
  · intro held
    exact ⟨pair.1, held.1, pair.2, held.2, rfl⟩

theorem assemble_keys (keys : List κ) (part : κ → Option α) :
    ((assemble keys part).map Prod.fst).Sublist keys := by
  induction keys with
  | nil => exact List.Sublist.refl []
  | cons key rest ih =>
      rw [assemble_cons]
      cases held : part key with
      | none => exact ih.cons key
      | some value => exact ih.cons_cons key

section Lookups

variable [BEq κ] [LawfulBEq κ]

theorem lookup_entry (key other : κ) (held : Option α) :
    (entry other held).lookup key = if key == other then held else none := by
  cases held with
  | none => simp
  | some value =>
      by_cases same : key = other
      · simp [same]
      · have different : (key == other) = false := beq_false_of_ne same
        simp [List.lookup_cons, different]

theorem lookup_assemble {key : κ} (among : key ∈ keys) :
    (assemble keys part).lookup key = part key := by
  induction keys with
  | nil => cases among
  | cons other rest ih =>
      rw [assemble_cons, List.lookup_append, lookup_entry]
      by_cases same : key = other
      · rw [same]
        cases held : part other with
        | none =>
            simp only [beq_self_eq_true, if_true, Option.none_or, List.lookup_eq_none_iff]
            intro pair inside
            have isPart := (mem_assemble.mp inside).2
            have differs : other ≠ pair.1 := by
              intro same
              rw [← same, held] at isPart
              cases isPart
            simpa using differs
        | some value => simp
      · have different : (key == other) = false := beq_false_of_ne same
        simp only [different, Bool.false_eq_true, if_false, Option.none_or]
        exact ih ((List.mem_cons.mp among).resolve_left same)

/-- Entries in the order of the keys are assembled from their lookups. -/
theorem assemble_lookup {entries : List (κ × α)} (kept : (entries.map Prod.fst).Sublist keys)
    (distinct : keys.Nodup) : assemble keys (fun key => entries.lookup key) = entries := by
  induction keys generalizing entries with
  | nil =>
      have none := List.map_eq_nil_iff.mp (List.sublist_nil.mp kept)
      rw [none]
      rfl
  | cons key rest ih =>
      obtain ⟨fresh, distinct⟩ := List.nodup_cons.mp distinct
      rw [assemble_cons]
      rcases List.sublist_cons_iff.mp kept with later | ⟨others, same, later⟩
      · have absent : entries.lookup key = none := by
          rw [List.lookup_eq_none_iff]
          intro pair inside
          have differs : key ≠ pair.1 := fun same =>
            fresh (by rw [same]; exact later.subset (List.mem_map_of_mem inside))
          simpa using differs
        rw [absent, entry_none, List.nil_append, ih later distinct]
      · cases entries with
        | nil => cases same
        | cons pair entries =>
            obtain ⟨first, value⟩ := pair
            obtain ⟨isFirst, remaining⟩ := List.cons.inj same
            rw [← remaining] at later
            dsimp only at isFirst
            have head : ((first, value) :: entries).lookup key = some value := by
              rw [isFirst, List.lookup_cons_self]
            have tail : assemble rest (fun other => ((first, value) :: entries).lookup other) =
                assemble rest fun other => entries.lookup other := by
              refine assemble_congr ?_
              intro other among
              have differs : other ≠ first := by
                intro same
                rw [same, isFirst] at among
                exact fresh among
              have different : (other == first) = false := beq_false_of_ne differs
              rw [List.lookup_cons, different]
            rw [head, tail, ih later distinct, entry_some, isFirst]
            rfl

end Lookups

/-- With distinct keys, an entry is what its key is looked up as. -/
theorem lookup_of_mem {entries : List (κ × α)} [BEq κ] [LawfulBEq κ]
    (distinct : (entries.map Prod.fst).Nodup) {pair : κ × α} (among : pair ∈ entries) :
    entries.lookup pair.1 = some pair.2 := by
  obtain ⟨before, after, split⟩ := List.append_of_mem among
  rw [split, List.map_append, List.map_cons, List.nodup_append] at distinct
  refine List.lookup_eq_some_iff.mpr ⟨before, after, split, ?_⟩
  intro other earlier
  have differs := distinct.2.2 other.1 (List.mem_map_of_mem earlier) pair.1 List.mem_cons_self
  simpa using Ne.symm differs

end VividProtocol.Library.Association

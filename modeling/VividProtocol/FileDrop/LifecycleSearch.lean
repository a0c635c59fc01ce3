import Mathlib.Tactic
import VividProtocol.FileDrop.Lifecycle

/-!
# The exploration of the life cycle

The test of `file_drop_model.rs` searches the interleavings of two owners.  It
ends, it has met what the runs come to and nothing else, and no assertion fails.
-/

set_option autoImplicit false

namespace VividProtocol.FileDrop.Lifecycle

open VividProtocol.Library.Exploration
open VividProtocol.Library.Transition

/-- The models one transition away, in the order of the two loops. -/
def successors (model : Model) : List Model :=
  [0, 1].flatMap fun owner => TRANSITIONS.filterMap (apply model owner)

/-- An owner's transition leaves the other owner alone. -/
def isolated (model : Model) : Bool :=
  [0, 1].all fun owner => TRANSITIONS.all fun transition =>
    (apply model owner transition).all fun next =>
      next.owners[1 - owner] == model.owners[1 - owner]

structure Saw where
  resume : Bool
  commit : Bool
  isolatedCleanup : Bool
  deriving Repr, DecidableEq

def Saw.nothing : Saw := ⟨false, false, false⟩

def resumed (model : Model) : Bool := model.owners.any fun state => state.generation == 2

def committed (model : Model) : Bool := model.owners.any fun state => state.phase == .committed

def cleaned (model : Model) : Bool :=
  (model.owners.get 0).phase == .unbound &&
    [Phase.offered, .accepted, .transferring, .committed].contains (model.owners.get 1).phase

/-- One turn of the loop; an assertion that fails ends the test. -/
def survey (report : Option Saw) (model : Model) : Option Saw :=
  report.bind fun saw =>
    if model.owners.all DropState.check && isolated model then
      some
        { resume := saw.resume || resumed model
          commit := saw.commit || committed model
          isolatedCleanup := saw.isolatedCleanup || cleaned model }
    else none

/-! ## The states of an owner -/

def generations : List UInt8 := [1, 2]

def offsets : List UInt8 := [0, 1, 2]

def stages : List DropState :=
  [.default, { DropState.default with phase := .bound },
    { DropState.default with phase := .offered, sourceOpen := true }] ++
  (generations.flatMap fun generation => offsets.flatMap fun offset =>
    [{ DropState.default with
        phase := .accepted
        generation := generation
        offset := offset
        sourceOpen := true },
      { DropState.default with
        phase := .transferring
        generation := generation
        offset := offset
        sourceOpen := true
        temporaryVisible := true }]) ++
  (generations.map fun generation =>
    { DropState.default with
      phase := .committed
      generation := generation
      offset := 2
      finalVisible := true
      resultCached := true }) ++
  offsets.flatMap fun offset =>
    [{ DropState.default with phase := .cancelled, offset := offset, resultCached := true },
      { DropState.default with phase := .failed, offset := offset, resultCached := true }]

theorem mem_offsets {offset : UInt8} (within : offset ≤ 2) : offset ∈ offsets := by
  have below : offset.toNat ≤ 2 := UInt8.le_iff_toNat_le.mp within
  have counted : offsets = (List.range 3).map UInt8.ofNat := rfl
  rw [counted]
  exact List.mem_map.mpr ⟨offset.toNat, List.mem_range.mpr (by omega), UInt8.ofNat_toNat⟩

theorem mem_stages {state : DropState} (stage : Stage state) : state ∈ stages := by
  cases stage with
  | unbound => decide
  | bound => decide
  | offered => decide
  | accepted generation offset live within =>
      have among := mem_offsets within
      rcases live with rfl | rfl <;> fin_cases among <;> decide
  | transferring generation offset live within =>
      have among := mem_offsets within
      rcases live with rfl | rfl <;> fin_cases among <;> decide
  | committed generation live =>
      rcases live with rfl | rfl <;> decide
  | cancelled offset within =>
      have among := mem_offsets within
      fin_cases among <;> decide
  | failed offset within =>
      have among := mem_offsets within
      fin_cases among <;> decide

/-- A run of one owner that comes to the state. -/
def path (state : DropState) : List Transition :=
  let resume := if state.generation = 2 then [Transition.advanceGeneration] else []
  let sent := List.replicate state.offset.toNat Transition.giveCreditAndData
  match state.phase with
  | .unbound => []
  | .bound => [.bind]
  | .offered => [.bind, .offer]
  | .accepted => [.bind, .offer, .accept] ++ resume ++ [.open] ++ sent ++ [.loseConnection]
  | .transferring => [.bind, .offer, .accept] ++ resume ++ [.open] ++ sent
  | .committed => [.bind, .offer, .accept] ++ resume ++ [.open] ++ sent ++ [.finishValid]
  | .cancelled => [.bind, .offer, .accept, .open] ++ sent ++ [.cancel]
  | .failed => [.bind, .offer, .accept, .open] ++ sent ++ [.finishCorrupt]

theorem final_path : ∀ state ∈ stages, drops.final .default (path state) = state := by
  decide

/-! ## The reachable models -/

theorem mem_transitions (transition : Transition) : transition ∈ TRANSITIONS := by
  cases transition <;> decide

theorem mem_successors {model next : Model} :
    next ∈ successors model ↔ ∃ owner transition, apply model owner transition = some next := by
  unfold successors
  simp only [List.mem_flatMap, List.mem_filterMap]
  constructor
  · rintro ⟨owner, -, transition, -, applied⟩
    exact ⟨owner, transition, applied⟩
  · rintro ⟨owner, transition, applied⟩
    refine ⟨owner, ?_, transition, mem_transitions transition, applied⟩
    fin_cases owner <;> decide

/-- The search reaches what the runs come to. -/
theorem reaches_iff {model : Model} :
    Reaches successors .default model ↔ ∃ moves, interleaved.final .default moves = model := by
  constructor
  · intro reaches
    induction reaches with
    | refl => exact ⟨[], rfl⟩
    | @tail before after _ following ih =>
        obtain ⟨moves, comes⟩ := ih
        obtain ⟨owner, transition, applied⟩ := mem_successors.mp following
        refine ⟨moves ++ [(owner, transition)], ?_⟩
        rw [interleaved.final_snoc, comes]
        unfold interleaved
        dsimp only
        rw [applied]
  · rintro ⟨moves, rfl⟩
    induction moves using List.reverseRecOn with
    | nil => exact Relation.ReflTransGen.refl
    | append_singleton moves move ih =>
        rw [interleaved.final_snoc]
        unfold interleaved at ih ⊢
        dsimp only at ih ⊢
        cases applied : apply (interleaved.final .default moves) move.1 move.2 with
        | none =>
            unfold interleaved at applied
            rw [applied]
            exact ih
        | some next =>
            unfold interleaved at applied
            rw [applied]
            exact ih.tail (mem_successors.mpr ⟨move.1, move.2, applied⟩)

theorem own_append (owner : Fin 2) (first second : List (Fin 2 × Transition)) :
    own owner (first ++ second) = own owner first ++ own owner second := by
  unfold own
  rw [List.filter_append, List.map_append]

theorem own_map (owner mover : Fin 2) (transitions : List Transition) :
    own owner (transitions.map (Prod.mk mover)) = if mover = owner then transitions else [] := by
  unfold own
  by_cases same : mover = owner
  · rw [if_pos same, List.filter_map]
    simp [same]
  · rw [if_neg same, List.filter_map]
    simp [same]

theorem default_owner (owner : Fin 2) : Model.default.owners.get owner = DropState.default := by
  fin_cases owner <;> rfl

theorem get_final (model : Model) (moves : List (Fin 2 × Transition)) (owner : Fin 2) :
    (interleaved.final model moves).owners.get owner =
      drops.final (model.owners.get owner) (own owner moves) :=
  final_owner model moves owner

theorem Model.ext_owner {first second : Model}
    (same : ∀ owner, first.owners.get owner = second.owners.get owner) : first = second := by
  obtain ⟨one⟩ := first
  obtain ⟨other⟩ := second
  congr 1
  ext1 index inside
  exact same ⟨index, inside⟩

/-- One owner after the other comes to its state. -/
def along (model : Model) : List (Fin 2 × Transition) :=
  (path (model.owners.get 0)).map (Prod.mk (0 : Fin 2)) ++
    (path (model.owners.get 1)).map (Prod.mk (1 : Fin 2))

theorem own_along (model : Model) (owner : Fin 2) :
    own owner (along model) = path (model.owners.get owner) := by
  unfold along
  rw [own_append, own_map, own_map]
  fin_cases owner
  · exact List.append_nil _
  · exact List.nil_append _

def Staged (model : Model) : Prop := ∀ owner, Stage (model.owners.get owner)

/-- Each owner can be at any stage, whatever the other is at. -/
theorem comes_iff {model : Model} :
    (∃ moves, interleaved.final .default moves = model) ↔ Staged model := by
  constructor
  · rintro ⟨moves, rfl⟩ owner
    rw [get_final, default_owner]
    exact drops_stage _
  · intro staged
    refine ⟨along model, Model.ext_owner fun owner => ?_⟩
    rw [get_final, default_owner, own_along]
    exact final_path _ (mem_stages (staged owner))

/-! ## The result of the search -/

/-- Every pair of stages. -/
def models : List Model :=
  stages.flatMap fun first => stages.map fun second => ⟨#v[first, second]⟩

theorem stages_nodup : stages.Nodup := by decide

theorem length_models : models.length = 529 := by
  unfold models
  rw [List.length_flatMap]
  simp only [List.length_map]
  decide

theorem models_nodup : models.Nodup := by
  unfold models
  rw [List.nodup_flatMap]
  constructor
  · intro first _
    refine stages_nodup.map ?_
    intro second other same
    have owners := congrArg Model.owners same
    simpa using owners
  · refine stages_nodup.imp ?_
    intro first other apart
    unfold Function.onFun List.Disjoint
    intro model inside inside'
    obtain ⟨second, -, rfl⟩ := List.mem_map.mp inside
    obtain ⟨third, -, same⟩ := List.mem_map.mp inside'
    have owners := congrArg Model.owners same
    have firsts : other = first := congrArg (fun owners => owners.get 0) owners
    exact apart firsts.symm

theorem Stage.of_mem : ∀ state ∈ stages, Stage state := by
  intro state among
  rw [← final_path state among]
  exact drops_stage _

theorem mem_models {model : Model} :
    model ∈ models ↔ ∃ moves, interleaved.final .default moves = model := by
  rw [comes_iff]
  unfold models
  simp only [List.mem_flatMap, List.mem_map]
  constructor
  · rintro ⟨first, among, second, among', rfl⟩ owner
    fin_cases owner
    · exact Stage.of_mem first among
    · exact Stage.of_mem second among'
  · intro staged
    refine ⟨model.owners.get 0, mem_stages (staged 0), model.owners.get 1, mem_stages (staged 1), ?_⟩
    refine Model.ext_owner fun owner => ?_
    fin_cases owner <;> rfl

theorem isolated_always (model : Model) : isolated model = true := by
  unfold isolated
  simp only [List.all_eq_true]
  intro owner _ transition _
  cases applied : apply model owner transition with
  | none => rfl
  | some next =>
      have steps := step_owner model (owner, transition) (1 - owner)
      unfold interleaved at steps
      dsimp only at steps
      rw [applied] at steps
      have apart : ∀ owner : Fin 2, owner ≠ 1 - owner := by decide
      rw [if_neg (apart owner)] at steps
      rw [Option.all_some, steps]
      exact beq_self_eq_true _

theorem survey_all {visited : List Model} {saw : Saw}
    (checked : ∀ model ∈ visited, model.owners.all DropState.check = true) :
    visited.foldl survey (some saw) =
      some
        { resume := saw.resume || visited.any resumed
          commit := saw.commit || visited.any committed
          isolatedCleanup := saw.isolatedCleanup || visited.any cleaned } := by
  induction visited generalizing saw with
  | nil => simp
  | cons model rest ih =>
      have here := checked model List.mem_cons_self
      have turn : survey (some saw) model = some
          { resume := saw.resume || resumed model
            commit := saw.commit || committed model
            isolatedCleanup := saw.isolatedCleanup || cleaned model } := by
        unfold survey
        rw [Option.bind_some, here, isolated_always]
        rfl
      rw [List.foldl_cons, turn, ih fun other among => checked other (List.mem_cons_of_mem _ among)]
      simp only [List.any_cons, Bool.or_assoc]

/-- An owner in the second generation of its transfer. -/
def secondTry : DropState :=
  { DropState.default with phase := .accepted, generation := 2, offset := 0, sourceOpen := true }

/-- An owner that has its file. -/
def done : DropState :=
  { DropState.default with
    phase := .committed
    generation := 1
    offset := 2
    finalVisible := true
    resultCached := true }

/-- The test: the search ends, having met what the runs of the two owners come to,
529 models and each once; every assertion holds of each, and all three sights are
seen. -/
theorem exploration_passes (fuel : Nat) (enough : 529 < fuel) :
    ∃ visited, search successors survey fuel (some .nothing) ⟨[.default], [.default]⟩ =
        some (some ⟨true, true, true⟩, visited) ∧
      visited.Nodup ∧ visited.length = 529 ∧
      ∀ model, model ∈ visited ↔ ∃ moves, interleaved.final .default moves = model := by
  have within : ∀ model, Reaches successors .default model → model ∈ models.toFinset :=
    fun model reaches => List.mem_toFinset.mpr (mem_models.mpr (reaches_iff.mp reaches))
  have bounded : models.toFinset.card < fuel := by
    rw [List.toFinset_card_of_nodup models_nodup, length_models]
    exact enough
  obtain ⟨visited, found, distinct, met⟩ :=
    @search_exact Model (Option Saw) _ successors survey (some .nothing) .default _ within fuel
      bounded
  have exact (model : Model) :
      model ∈ visited ↔ ∃ moves, interleaved.final .default moves = model :=
    (met model).trans reaches_iff
  have same : visited.Perm models :=
    (List.perm_ext_iff_of_nodup distinct models_nodup).mpr fun model =>
      (exact model).trans mem_models.symm
  have meets (model : Model) (staged : Staged model) : model ∈ visited :=
    (exact model).mpr (comes_iff.mpr staged)
  have passes : ∀ model ∈ visited, model.owners.all DropState.check = true := by
    intro model among
    have staged := comes_iff.mp ((exact model).mp among)
    rw [Vector.all_eq_true]
    exact fun owner inside => (staged ⟨owner, inside⟩).check
  have counted : visited.length = 529 := by rw [same.length_eq, length_models]
  refine ⟨visited, ?_, distinct, counted, exact⟩
  have resume : visited.any resumed = true := by
    refine List.any_eq_true.mpr ⟨⟨#v[secondTry, secondTry]⟩, meets _ fun owner => ?_,
      by simp [resumed, secondTry]⟩
    fin_cases owner <;> exact .accepted 2 0 (.inr rfl) (by decide)
  have commit : visited.any committed = true := by
    refine List.any_eq_true.mpr ⟨⟨#v[done, done]⟩, meets _ fun owner => ?_,
      by simp [committed, done]⟩
    fin_cases owner <;> exact .committed 1 (.inl rfl)
  have cleanup : visited.any cleaned = true := by
    refine List.any_eq_true.mpr ⟨⟨#v[.default, done]⟩, meets _ fun owner => ?_, by decide⟩
    fin_cases owner
    · exact .unbound
    · exact .committed 1 (.inl rfl)
  rw [found, survey_all passes, resume, commit, cleanup]
  rfl

theorem exploration_passes_enough :
    ∃ visited, search successors survey 600 (some .nothing) ⟨[.default], [.default]⟩ =
        some (some ⟨true, true, true⟩, visited) ∧
      (⟨#v[done, secondTry]⟩ : Model) ∈ visited := by
  obtain ⟨visited, found, -, -, exact⟩ := exploration_passes 600 (by decide)
  refine ⟨visited, found, (exact _).mpr (comes_iff.mpr fun owner => ?_)⟩
  fin_cases owner
  · exact .committed 1 (.inl rfl)
  · exact .accepted 2 0 (.inr rfl) (by decide)

end VividProtocol.FileDrop.Lifecycle

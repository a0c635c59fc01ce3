import Mathlib.Tactic
import VividProtocol.Overlay.Calm
import VividProtocol.Overlay.Modal

/-!
# Refused requests

A refused request leaves the state as it was, except where a window is put in
place first and is then not eligible for the focus that it asks for.
-/

set_option autoImplicit false

namespace VividProtocol.Overlay

open VividProtocol.Library
open VividProtocol.Library.OrderedForest
open VividProtocol.Library.Result
open VividProtocol.Library.Transition

open Windows

/-- The requests of producers that can be refused. -/
def Operation.request : Operation → Bool
  | .create .. => true
  | .update .. => true
  | .applyAction .. => true
  | .publishScene .. => true
  | .requestFocus _ => true
  | .capturePointer .. => true
  | _ => false

/-- An answer that is an error. -/
def Answer.refused : Answer → Bool
  | .done result => ! result.isOk
  | .revised result => ! result.isOk
  | .acted result => ! result.isOk
  | .flag _ => false
  | .taken _ => false

/-- A call that is refused changes nothing, unless a queue overflows. -/
def Harmless (state : Windows) (operation : Operation) : Prop :=
  (windowsStep state operation).1.refused = true →
    (windowsStep state operation).2 = state ∨ Overflows state (windowsStep state operation).2

/-- A creation passes the checks and takes the focus under a parent that is hidden. -/
def CreatesHidden (state : Windows) (operation : Operation) : Prop :=
  ∃ id generation options parent, operation = .create id generation options ∧
    state.admitCreate id generation options = .ok () ∧ takesFocus options = true ∧
    options.parent = some parent ∧ state.effectivelyVisible parent = false

/-- An update passes the checks and shows a window that, with its new options in
place, is not eligible. -/
def ShowsBlocked (state : Windows) (operation : Operation) : Prop :=
  ∃ id generation revision options old next,
    operation = .update id generation revision options ∧ options.validate = .ok () ∧
    state.windows[id]? = some old ∧
    state.admitUpdate id old generation revision options = .ok next ∧
    old.options.visible = false ∧ options.visible = true ∧ options.mode ≠ .floating ∧
    (state.setWindow id (Windows.updated old options next)).eligible id = false

namespace Forest

variable {state : Windows} (forest : Forest state)

include forest

/-! ## Creation -/

/-- A new window leaves the ancestors of the others as they were. -/
theorem insertWindow_ancestor {id : SurfaceIdentity} {options : WindowOptions}
    (generation : UInt64) (admitted : Admitted state id options)
    {ancestor other : SurfaceIdentity} (distinct : other ≠ id) :
    Ancestor (state.insertWindow id generation options).parent? ancestor other ↔
      Ancestor state.parent? ancestor other := by
  have links : ∀ child, child ≠ id →
      (state.insertWindow id generation options).parent? child = state.parent? child := by
    intro child apart
    unfold parent?
    rw [insertWindow_lookup, if_neg (Ne.symm apart)]
  have outside : ∀ child parent, state.parent? child = some parent → parent ≠ id := by
    rintro child parent link rfl
    exact admitted.fresh ((forest.listed parent).mp (forest.ordered.parent_mem link))
  constructor
  · intro above
    induction above using Relation.ReflTransGen.head_induction_on with
    | refl => exact .refl ancestor
    | @head child parent link _ ih =>
        rw [links child distinct] at link
        exact .parent link (ih (outside child parent link))
  · intro above
    induction above using Relation.ReflTransGen.head_induction_on with
    | refl => exact .refl ancestor
    | @head child parent link _ ih =>
        have same := (links child distinct).trans link
        exact .parent same (ih (outside child parent link))

/-- A new window hides nothing. -/
theorem insertWindow_shown {id : SurfaceIdentity} {options : WindowOptions}
    (generation : UInt64) (admitted : Admitted state id options) {other : SurfaceIdentity}
    (effective : state.Effective other) :
    (state.insertWindow id generation options).Effective other := by
  have distinct : other ≠ id := by
    rintro rfl
    exact admitted.fresh (live_of_effective effective)
  intro ancestor above
  obtain ⟨window, live, visible⟩ :=
    effective ancestor ((forest.insertWindow_ancestor generation admitted distinct).mp above)
  have apart : id ≠ ancestor := by
    rintro rfl
    exact admitted.fresh ⟨window, live⟩
  rw [insertWindow_lookup, if_neg apart]
  exact ⟨window, live, visible⟩

/-- A visible new window is effectively visible if its parent is. -/
theorem insertWindow_self {id : SurfaceIdentity} {options : WindowOptions}
    (generation : UInt64) (admitted : Admitted state id options)
    (visible : options.visible = true) :
    (state.insertWindow id generation options).Effective id ↔
      ∀ parent, options.parent = some parent → state.Effective parent := by
  have link : (state.insertWindow id generation options).parent? id = options.parent :=
    parent?_of_live (insertWindow_lookup id id generation options |>.trans (if_pos rfl))
  have apart : ∀ parent, options.parent = some parent → parent ≠ id := by
    rintro parent named rfl
    exact admitted.fresh (admitted.parent parent named).2
  constructor
  · intro effective parent named
    exact forest.insertWindow_effective generation admitted (apart parent named)
      (effective.parent (link.trans named))
  · intro above ancestor reaches
    rcases Relation.ReflTransGen.cases_head reaches with same | ⟨parent, named, rest⟩
    · subst same
      rw [insertWindow_lookup, if_pos rfl]
      exact ⟨_, rfl, visible⟩
    · have named := link.symm.trans named
      exact forest.insertWindow_shown generation admitted (above parent named) ancestor rest

/-- An admitted window that takes the focus is eligible unless its parent is hidden. -/
theorem insertWindow_eligible {id : SurfaceIdentity} {options : WindowOptions}
    (generation : UInt64) (admitted : Admitted state id options)
    (takes : takesFocus options = true) :
    (state.insertWindow id generation options).eligible id = true ↔
      ∀ parent, options.parent = some parent → state.effectivelyVisible parent = true := by
  have inserted := forest.insertWindow generation admitted
  have both := takes
  unfold takesFocus at both
  rw [Bool.and_eq_true, decide_eq_true_eq] at both
  obtain ⟨visible, mode⟩ := both
  rw [inserted.eligible_iff]
  simp only [forest.effectivelyVisible_iff]
  rw [← forest.insertWindow_self generation admitted visible]
  refine ⟨fun eligible => eligible.1, fun effective => ⟨effective, ?_⟩⟩
  intro modal isTop
  by_cases same : modal = id
  · subst same
    exact .refl modal
  have absent : id ∉ state.stack := fun inside => admitted.fresh ((forest.listed id).mp inside)
  cases kind : options.mode with
  | floating => exact absurd kind mode
  | modal =>
      -- The new window is itself a modal in effect and lies on top of the stack.
      have own : (state.insertWindow id generation options).Modal id :=
        ⟨_, (insertWindow_lookup id id generation options).trans (if_pos rfl), kind⟩
      rcases isTop.2.2 id effective own with self | pair
      · exact absurd self.symm same
      · exfalso
        have before : [id].Sublist state.stack := by
          have shorter := pair
          change [id, modal].Sublist (state.stack ++ [id]) at shorter
          obtain ⟨first, second, split, left, right⟩ := List.sublist_append_iff.mp shorter
          rcases first with _ | ⟨head, rest⟩
          · rw [List.nil_append] at split
            subst split
            have length := right.length_le
            simp at length
          · simp only [List.cons_append, List.cons.injEq] at split
            rw [split.1]
            exact (List.cons_sublist_cons.mpr (List.nil_sublist rest)).trans left
        exact absent (List.singleton_sublist.mp before)
  | popup =>
      have effectiveBefore := forest.insertWindow_effective generation admitted same isTop.1
      have modalBefore := insertWindow_modal generation same isTop.2.1
      have topBefore : state.TopModal modal := by
        refine ⟨effectiveBefore, modalBefore, fun other shown kept => ?_⟩
        obtain ⟨window, live, isModal⟩ := kept
        have apart : other ≠ id := by
          rintro rfl
          exact admitted.fresh ⟨window, live⟩
        have modalAfter : (state.insertWindow id generation options).Modal other := by
          refine ⟨window, ?_, isModal⟩
          rw [insertWindow_lookup, if_neg (Ne.symm apart)]
          exact live
        rcases isTop.2.2 other (forest.insertWindow_shown generation admitted shown) modalAfter with
          self | pair
        · exact .inl self
        · right
          have filtered := pair.filter fun key => decide (key ≠ id)
          change ([other, modal].filter fun key => decide (key ≠ id)).Sublist
            ((state.stack ++ [id]).filter fun key => decide (key ≠ id)) at filtered
          have kept : [other, modal].filter (fun key => decide (key ≠ id)) = [other, modal] := by
            simp [apart, same]
          have rest : (state.stack ++ [id]).filter (fun key => decide (key ≠ id)) =
              state.stack := by
            rw [List.filter_append]
            have own : [id].filter (fun key => decide (key ≠ id)) = [] := by simp
            rw [own, List.append_nil, List.filter_eq_self]
            intro key inside
            refine decide_eq_true ?_
            rintro rfl
            exact absent inside
          rw [kept, rest] at filtered
          exact filtered
      obtain ⟨parent, named, descends⟩ :=
        admitted.popup takes kind modal ((forest.topModal_eq_some modal).mpr topBefore)
      have link : (state.insertWindow id generation options).parent? id = some parent :=
        (parent?_of_live (insertWindow_lookup id id generation options |>.trans
          (if_pos rfl))).trans named
      have apart : parent ≠ id := by
        rintro rfl
        exact admitted.fresh (admitted.parent parent named).2
      exact .parent link ((forest.insertWindow_ancestor generation admitted apart).mpr
        ((forest.descendant_iff parent modal).mp descends))

end Forest

/-! ## Requests -/

section Requests

variable {state : Windows}

theorem requestFocus_harmless (id : SurfaceIdentity) : Harmless state (.requestFocus id) := by
  have outcome := state.requestFocus_outcome id
  unfold Harmless
  change (Answer.done (state.requestFocus id).1).refused = true →
    (state.requestFocus id).2 = state ∨ _
  generalize state.requestFocus id = answer at outcome
  cases outcome with
  | refused _ _ => exact fun _ => .inl rfl
  | taken _ => exact fun refused => nomatch refused

theorem publishScene_harmless (id : SurfaceIdentity) (generation sceneRevision : UInt64) :
    Harmless state (.publishScene id generation sceneRevision) := by
  unfold Harmless
  change (Answer.done (state.publishScene id generation sceneRevision).1).refused = true →
    (state.publishScene id generation sceneRevision).2 = state ∨ _
  unfold publishScene
  cases state.windows[id]? with
  | none => exact fun _ => .inl rfl
  | some window =>
      dsimp only
      by_cases stale : window.generation ≠ generation ∨ sceneRevision = 0 ∨
          sceneRevision ≤ window.sceneRevision
      · rw [if_pos stale]
        exact fun _ => .inl rfl
      · rw [if_neg stale]
        exact fun refused => nomatch refused

theorem capturePointer_harmless (id : SurfaceIdentity) (position : Point) :
    Harmless state (.capturePointer id position) := by
  unfold Harmless
  change (Answer.done (state.capturePointer id position).1).refused = true →
    (state.capturePointer id position).2 = state ∨ _
  unfold capturePointer
  cases ! state.eligible id || decide (state.focus ≠ some id) with
  | true => exact fun _ => .inl rfl
  | false =>
      rw [if_neg (by decide)]
      cases state.windows[id]? with
      | none => exact fun _ => .inl rfl
      | some window => exact fun refused => nomatch refused

/-- An action that is refused has moved nothing yet. -/
theorem perform_refused {id : SurfaceIdentity} {action : WindowAction} {error : InvalidScene}
    {middle : Windows} (done : state.perform id action = (.error error, middle)) :
    middle = state := by
  cases action with
  | close => cases done
  | center => cases done
  | focus =>
      have outcome := state.requestFocus_outcome id
      change state.requestFocus id = _ at done
      rw [done] at outcome
      cases outcome
      rfl
  | raise =>
      unfold perform at done
      cases eligible : state.eligible id with
      | false =>
          simp only [eligible, Bool.not_false, if_true, Prod.mk.injEq] at done
          exact done.2.symm
      | true => simp [eligible] at done
  | lower =>
      unfold perform at done
      cases refused : ! state.eligible id || state.blocked with
      | true =>
          simp only [refused, if_true, Prod.mk.injEq] at done
          exact done.2.symm
      | false => simp [refused] at done

/-- A window that is lost while its focus is requested has lost its queue. -/
theorem perform_overflows (forest : Forest state) {id : SurfaceIdentity} {action : WindowAction}
    {middle : Windows} (live : state.Live id) (done : state.perform id action = (.ok (), middle))
    (lost : middle.windows[id]? = none) : Overflows state middle := by
  have kept : ∀ other : Windows, other.windows = state.windows → other ≠ middle := by
    rintro other same rfl
    rw [same] at lost
    exact not_live_iff.mpr lost live
  have outcome := state.requestFocus_outcome id
  cases action with
  | close =>
      cases done
      exact absurd rfl (kept state rfl)
  | center =>
      cases done
      exact absurd rfl (kept state rfl)
  | raise =>
      unfold perform at done
      cases eligible : state.eligible id with
      | false => simp [eligible] at done
      | true =>
          simp only [eligible, Bool.not_true, Bool.false_eq_true, if_false, Prod.mk.injEq] at done
          exact absurd done.2 (kept _ rfl)
  | lower =>
      unfold perform at done
      cases refused : ! state.eligible id || state.blocked with
      | true => simp [refused] at done
      | false =>
          simp only [refused, Bool.false_eq_true, if_false, Prod.mk.injEq] at done
          exact absurd done.2 (kept _ rfl)
  | focus =>
      change state.requestFocus id = _ at done
      have owners := requestFocus_owners state id
      have spares : Spares id.context.session ((state.raiseGroup id).remember id)
          (state.takeFocus id) :=
        (changeFocus_sheds Forest.notices ((state.raiseGroup id).remember id) (some id)).spares _
      rw [done] at outcome owners
      cases outcome with
      | taken eligible =>
          obtain ⟨queue, served⟩ := forest.served id live
          rcases spares with gone | kept
          · have listed : id.context.session ∈ (state.takeFocus id).owners := by
              rw [show (state.takeFocus id).owners = state.owners from owners]
              exact forest.known live
            rcases mem_owners.mp listed with ⟨other, found⟩ | overflowed
            · rw [gone] at found
              cases found
            · refine ⟨_, overflowed, fun before => ?_⟩
              rw [forest.disjoint _ before] at served
              cases served
          · have same := kept.windows id rfl
            rw [lost] at same
            exact absurd same.symm (fun absent => not_live_iff.mpr absent live)

theorem applyAction_harmless (forest : Forest state) (owner : SessionIdentity) (action : Action)
    (viewport : Viewport) : Harmless state (.applyAction owner action viewport) := by
  have outcome := state.applyAction_outcome owner action viewport
  unfold Harmless
  change (Answer.acted (state.applyAction owner action viewport).1).refused = true →
    (state.applyAction owner action viewport).2 = state ∨
      Overflows state (state.applyAction owner action viewport).2
  generalize state.applyAction owner action viewport = answer at outcome
  cases outcome with
  | refused _ => exact fun _ => .inl rfl
  | closed _ _ _ => exact fun refused => nomatch refused
  | performed _ _ done => exact fun _ => .inl (perform_refused done)
  | @settled id _ old live _ revision _ bounds _ middle done =>
      unfold settle
      cases found : middle.windows[id]? with
      | none => exact fun _ => .inr (perform_overflows forest ⟨old, live⟩ done found)
      | some window =>
          cases bounds with
          | none => exact fun refused => nomatch refused
          | some rect => exact fun refused => nomatch refused

theorem create_harmless (forest : Forest state) (id : SurfaceIdentity) (generation : UInt64)
    (options : WindowOptions) :
    Harmless state (.create id generation options) ↔
      ¬ CreatesHidden state (.create id generation options) := by
  unfold Harmless
  change ((Answer.done (state.create id generation options).1).refused = true →
    (state.create id generation options).2 = state ∨
      Overflows state (state.create id generation options).2) ↔ _
  unfold create
  cases admitted : state.admitCreate id generation options with
  | error error =>
      refine iff_of_true (fun _ => .inl rfl) ?_
      rintro ⟨_, _, _, _, asked, passed, -⟩
      cases asked
      rw [admitted] at passed
      cases passed
  | ok =>
      dsimp only
      have checked := Forest.admitCreate_ok admitted
      cases takes : takesFocus options with
      | false =>
          refine iff_of_true (fun refused => nomatch refused) ?_
          rintro ⟨_, _, _, _, asked, -, takesToo, -⟩
          cases asked
          rw [takes] at takesToo
          cases takesToo
      | true =>
          rw [if_pos rfl]
          have eligible := forest.insertWindow_eligible generation checked takes
          have outcome := (state.insertWindow id generation options).requestFocus_outcome id
          generalize (state.insertWindow id generation options).requestFocus id = answer at outcome
          cases outcome with
          | taken fits =>
              refine iff_of_true (fun refused => nomatch refused) ?_
              rintro ⟨_, _, _, parent, asked, -, -, named, hidden⟩
              cases asked
              rw [eligible.mp fits parent named] at hidden
              cases hidden
          | refused error blocked =>
              refine iff_of_false ?_ ?_
              · intro harmless
                rcases harmless rfl with same | ⟨owner, inside, outside⟩
                · have live : state.Live id := by
                    rw [← same]
                    exact ⟨_, (Forest.insertWindow_lookup id id generation options).trans
                      (if_pos rfl)⟩
                  exact checked.fresh live
                · exact outside inside
              · rw [not_not]
                have notAll := (not_congr eligible).mp (by rw [blocked]; decide)
                push Not at notAll
                obtain ⟨parent, named, hidden⟩ := notAll
                exact ⟨_, _, _, parent, rfl, admitted, takes, named,
                  Bool.eq_false_iff.mpr hidden⟩

/-- An update moves the revision that it expects by one. -/
theorem admitUpdate_revision {id : SurfaceIdentity} {old : Window}
    {generation revision next : UInt64} {options : WindowOptions}
    (admitted : state.admitUpdate id old generation revision options = .ok next) :
    old.revision = revision ∧ checkedAdd revision 1 = some next := by
  unfold admitUpdate at admitted
  simp only [ite_error_eq_ok_iff] at admitted
  obtain ⟨current, -, -, -, moved⟩ := admitted
  rw [not_or, not_not, not_not] at current
  cases more : checkedAdd revision 1 with
  | none =>
      rw [more] at moved
      cases moved
  | some other =>
      rw [more, Except.ok.injEq] at moved
      exact ⟨current.2, by rw [moved]⟩

theorem updated_forest (forest : Forest state) {id : SurfaceIdentity} {old : Window}
    {generation revision next : UInt64} {options : WindowOptions}
    (live : state.windows[id]? = some old)
    (admitted : state.admitUpdate id old generation revision options = .ok next) :
    Forest (state.setWindow id (Windows.updated old options next)) := by
  have parent : (Windows.updated old options next).options.parent = old.options.parent :=
    (Forest.admitUpdate_ok admitted).1
  exact forest.setWindow live rfl parent

theorem update_blocked {id : SurfaceIdentity} {generation revision next : UInt64}
    {options : WindowOptions} {old : Window} (valid : options.validate = .ok ())
    (live : state.windows[id]? = some old)
    (admitted : state.admitUpdate id old generation revision options = .ok next)
    (before : old.options.visible = false) (after : options.visible = true)
    (mode : options.mode ≠ .floating)
    (blocked : (state.setWindow id (Windows.updated old options next)).eligible id = false) :
    ∃ error, state.update id generation revision options =
      (.error error, state.setWindow id (Windows.updated old options next)) := by
  refine ⟨⟨"window is hidden or blocked by a modal"⟩, ?_⟩
  have refused : (state.setWindow id (Windows.updated old options next)).requestFocus id =
      (.error ⟨"window is hidden or blocked by a modal"⟩,
        state.setWindow id (Windows.updated old options next)) := by
    unfold requestFocus
    rw [blocked]
    rfl
  unfold Windows.updated at refused
  unfold update Windows.updated
  simp [valid, live, admitted, before, after, mode, refused]

theorem update_harmless (id : SurfaceIdentity) (generation revision : UInt64)
    (options : WindowOptions) :
    Harmless state (.update id generation revision options) ↔
      ¬ ShowsBlocked state (.update id generation revision options) := by
  unfold Harmless
  change ((Answer.revised (state.update id generation revision options).1).refused = true →
    (state.update id generation revision options).2 = state ∨
      Overflows state (state.update id generation revision options).2) ↔ _
  constructor
  · rintro harmless ⟨_, _, _, _, old, next, asked, valid, live, admitted, before, after, mode,
      blocked⟩
    cases asked
    obtain ⟨error, same⟩ := update_blocked valid live admitted before after mode blocked
    rw [same] at harmless
    rcases harmless rfl with unchanged | ⟨owner, inside, outside⟩
    · have found := @Forest.setWindow_lookup state id id (Windows.updated old options next)
      rw [if_pos rfl] at found
      change (state.setWindow id (Windows.updated old options next)) = state at unchanged
      rw [unchanged, live, Option.some.injEq] at found
      obtain ⟨current, more⟩ := admitUpdate_revision admitted
      have revision := congrArg Window.revision found
      change old.revision = next at revision
      have moved := checkedAdd_eq_some.mp more
      rw [← current, revision] at moved
      simp at moved
    · exact outside inside
  · intro clear
    have outcome := state.update_outcome id generation revision options
    generalize state.update id generation revision options = answer at outcome
    cases outcome with
    | refused _ => exact fun _ => .inl rfl
    | hidden _ _ _ _ _ => exact fun refused => nomatch refused
    | replaced _ _ _ _ => exact fun refused => nomatch refused
    | focused valid live admitted before after mode outcome =>
        cases outcome with
        | taken _ => exact fun refused => nomatch refused
        | refused _ blocked =>
            exact absurd ⟨_, _, _, _, _, _, rfl, valid, live, admitted, before, after, mode,
              blocked⟩ clear

end Requests

/-! ## Runs -/

/-- In every reachable state a refused request changes nothing exactly when it
neither creates a window under a hidden parent nor shows one that is blocked. -/
theorem refused_requests_harmless_iff (inputs : List Operation) (operation : Operation)
    (request : operation.request = true) :
    let state := windowsRuns.final Windows.default inputs
    Harmless state operation ↔
      ¬ CreatesHidden state operation ∧ ¬ ShowsBlocked state operation := by
  intro state
  have forest : Forest state := forest_final inputs
  have creates : ∀ id generation options,
      ¬ ShowsBlocked state (.create id generation options) := by
    rintro id generation options ⟨_, _, _, _, _, _, asked, -⟩
    cases asked
  have updates : ∀ id generation revision options,
      ¬ CreatesHidden state (.update id generation revision options) := by
    rintro id generation revision options ⟨_, _, _, _, asked, -⟩
    cases asked
  have neither : (∀ id generation options, operation ≠ .create id generation options) →
      (∀ id generation revision options, operation ≠ .update id generation revision options) →
      ¬ CreatesHidden state operation ∧ ¬ ShowsBlocked state operation := by
    intro notCreate notUpdate
    constructor
    · rintro ⟨_, _, _, _, asked, -⟩
      exact notCreate _ _ _ asked
    · rintro ⟨_, _, _, _, _, _, asked, -⟩
      exact notUpdate _ _ _ _ asked
  cases operation with
  | create id generation options =>
      rw [create_harmless forest, and_iff_left (creates id generation options)]
  | update id generation revision options =>
      rw [update_harmless, and_iff_right (updates id generation revision options)]
  | applyAction owner action viewport =>
      exact iff_of_true (applyAction_harmless forest owner action viewport)
        (neither (by simp) (by simp))
  | publishScene id generation sceneRevision =>
      exact iff_of_true (publishScene_harmless id generation sceneRevision)
        (neither (by simp) (by simp))
  | requestFocus id =>
      exact iff_of_true (requestFocus_harmless id) (neither (by simp) (by simp))
  | capturePointer id position =>
      exact iff_of_true (capturePointer_harmless id position) (neither (by simp) (by simp))
  | setPaneFocus => cases request
  | close => cases request
  | revokeOwner => cases request
  | takeOverflow => cases request
  | takeEvent => cases request
  | releasePointer => cases request
  | keyboard => cases request
  | wheel => cases request
  | pointer => cases request
  | refreshHover => cases request

/-- A floating window that is not visible. -/
def sampleHidden : List Operation :=
  [.create (sampleSurface 1 1) 1 { sampleOptions .floating with visible := false }]

def sampleUnder (mode : WindowMode) : Operation :=
  .create (sampleSurface 1 2) 1 { sampleOptions mode with parent := some (sampleSurface 1 1) }

/-- The window again, and an update of it at a revision that it does not have. -/
def sampleRefused : List Operation :=
  [.create (sampleSurface 1 1) 1 (sampleOptions .modal),
    .update (sampleSurface 1 1) 1 7 (sampleOptions .floating)]

/-- A second creation of a live window and a stale update are refused and change nothing. -/
theorem refused_requests_harmless_repeated :
    let state := windowsRuns.final Windows.default sampleHidden
    ∀ operation ∈ sampleRefused,
      (windowsStep state operation).1.refused = true ∧ (windowsStep state operation).2 = state := by
  intro state operation asked
  have refused : ∀ operation ∈ sampleRefused,
      (windowsStep state operation).1.refused = true := by decide +kernel
  have roomy : ∀ operation ∈ sampleRefused,
      (windowsStep state operation).2.overflowed = ∅ := by decide +kernel
  have unmet : (state.admitCreate (sampleSurface 1 1) 1 (sampleOptions .modal)).isOk = false := by
    decide +kernel
  have stale : ∀ old next, state.windows[sampleSurface 1 1]? = some old →
      state.admitUpdate (sampleSurface 1 1) old 1 7 (sampleOptions .floating) ≠ .ok next := by
    intro old next live admitted
    have current : state.windows[sampleSurface 1 1]?.map (·.revision) = some 1 := by
      decide +kernel
    rw [live, Option.map_some, (admitUpdate_revision admitted).1] at current
    exact absurd current (by decide)
  have harmless : Harmless state operation := by
    simp only [sampleRefused, List.mem_cons, List.not_mem_nil, or_false] at asked
    rcases asked with rfl | rfl
    · refine (refused_requests_harmless_iff sampleHidden _ rfl).mpr ⟨?_, ?_⟩
      · rintro ⟨_, _, _, _, same, admitted, -⟩
        cases same
        rw [show state.admitCreate _ _ _ = _ from admitted] at unmet
        cases unmet
      · rintro ⟨_, _, _, _, _, _, same, -⟩
        cases same
    · refine (refused_requests_harmless_iff sampleHidden _ rfl).mpr ⟨?_, ?_⟩
      · rintro ⟨_, _, _, _, same, -⟩
        cases same
      · rintro ⟨_, _, _, _, old, next, same, -, live, admitted, -⟩
        cases same
        exact stale old next live admitted
  refine ⟨refused operation asked, (harmless (refused operation asked)).resolve_right ?_⟩
  rintro ⟨owner, inside, -⟩
  rw [roomy operation asked] at inside
  exact absurd inside (Finset.notMem_empty owner)

/-- A popup under a hidden window is refused, and exists. -/
theorem refused_popup_created :
    (windowsStep (windowsRuns.final Windows.default sampleHidden)
        (sampleUnder .popup)).1.refused = true ∧
      ¬ (windowsRuns.final Windows.default sampleHidden).Live (sampleSurface 1 2) ∧
      (windowsStep (windowsRuns.final Windows.default sampleHidden)
        (sampleUnder .popup)).2.Live (sampleSurface 1 2) ∧
      ¬ Harmless (windowsRuns.final Windows.default sampleHidden) (sampleUnder .popup) := by
  have absent : (windowsRuns.final Windows.default sampleHidden).windows[sampleSurface 1 2]? =
      none := by decide +kernel
  have refused : (windowsStep (windowsRuns.final Windows.default sampleHidden)
      (sampleUnder .popup)).1.refused = true := by decide +kernel
  have live : (windowsStep (windowsRuns.final Windows.default sampleHidden)
      (sampleUnder .popup)).2.Live (sampleSurface 1 2) :=
    Option.isSome_iff_exists.mp (by decide +kernel)
  refine ⟨refused, not_live_iff.mpr absent, live, fun harmless => ?_⟩
  rcases harmless refused with same | ⟨owner, inside, -⟩
  · rw [same] at live
    exact not_live_iff.mpr absent live
  · have none : (windowsStep (windowsRuns.final Windows.default sampleHidden)
        (sampleUnder .popup)).2.overflowed = ∅ := by decide +kernel
    rw [none] at inside
    exact absurd inside (Finset.notMem_empty owner)

end VividProtocol.Overlay

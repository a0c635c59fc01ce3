import Mathlib.Tactic
import VividProtocol.Overlay.Refusal

/-!
# Closing and the focus

Without an overflow, closing a group leaves the state without that group, and
the focus goes to the last window of the focus history that is then eligible,
whether or not the group had it.
-/

set_option autoImplicit false

namespace VividProtocol.Overlay

open VividProtocol.Library
open VividProtocol.Library.OrderedForest
open VividProtocol.Library.Transition

open Windows

/-- The state without a window and what descends from it. -/
def Windows.without (state : Windows) (id : SurfaceIdentity) : Windows :=
  { state with
    windows := (state.group id).foldl (fun windows key => windows.erase key) state.windows
    stack := state.stack.filter fun key => ! state.descendant key id
    focusHistory := state.focusHistory.filter fun key => ! state.descendant key id }

/-- A state keeps some of the windows, in their order. -/
structure Restricts (keep : SurfaceIdentity → Bool) (before after : Windows) : Prop where
  windows : ∀ id : SurfaceIdentity,
    after.windows[id]? = if keep id then before.windows[id]? else none
  stack : after.stack = before.stack.filter keep
  history : after.focusHistory = before.focusHistory.filter keep

namespace Restricts

variable {keep others : SurfaceIdentity → Bool} {before middle after : Windows}

theorem refl (state : Windows) : Restricts (fun _ => true) state state := by
  refine ⟨fun id => (if_pos rfl).symm, ?_, ?_⟩
  · exact (List.filter_eq_self.mpr fun _ _ => rfl).symm
  · exact (List.filter_eq_self.mpr fun _ _ => rfl).symm

theorem trans (first : Restricts keep before middle) (second : Restricts others middle after) :
    Restricts (fun id => keep id && others id) before after := by
  refine ⟨fun id => ?_, ?_, ?_⟩
  · rw [second.windows, first.windows]
    cases others id with
    | false => simp
    | true => simp
  · rw [second.stack, first.stack, List.filter_filter]
    exact List.filter_congr fun _ _ => Bool.and_comm _ _
  · rw [second.history, first.history, List.filter_filter]
    exact List.filter_congr fun _ _ => Bool.and_comm _ _

theorem of_alike (alike : Alike before middle) (restricts : Restricts keep middle after) :
    Restricts keep before after := by
  obtain ⟨windows, stack, history⟩ := restricts
  rw [alike.stack] at stack
  rw [alike.history] at history
  exact ⟨fun id => by rw [windows, alike.windows], stack, history⟩

end Restricts

theorem forget_restricts (state : Windows) (id : SurfaceIdentity) :
    Restricts (fun key => decide (key ≠ id)) state (state.forget id) := by
  refine ⟨fun key => ?_, rfl, rfl⟩
  rw [Forest.forget_lookup]
  by_cases same : id = key
  · simp [same]
  · simp [same, Ne.symm same]

/-- Removing windows of a group restricts the state to others, or a queue overflows. -/
def Thins (base : Windows) (id : SurfaceIdentity) (before after : Windows) : Prop :=
  before.overflowed ⊆ after.overflowed ∧
    (¬ Overflows before after → ∃ keep, Restricts keep before after ∧
      ∀ key, base.descendant key id = false → keep key = true)

theorem Thins.refl (base : Windows) (id : SurfaceIdentity) (state : Windows) :
    Thins base id state state :=
  ⟨Finset.Subset.refl _, fun _ => ⟨_, .refl state, fun _ _ => rfl⟩⟩

theorem Thins.trans {base : Windows} {id : SurfaceIdentity} (first second third : Windows)
    (sooner : Thins base id first second) (later : Thins base id second third) :
    Thins base id first third := by
  refine ⟨sooner.1.trans later.1, fun calm => ?_⟩
  obtain ⟨keep, kept, foreign⟩ := sooner.2 fun overflows => calm (overflows.first later.1)
  obtain ⟨others, keptLater, foreignLater⟩ :=
    later.2 fun overflows => calm (overflows.second sooner.1)
  refine ⟨_, kept.trans keptLater, fun key outside => ?_⟩
  rw [foreign key outside, foreignLater key outside]
  rfl

namespace Forest

variable {state : Windows} (forest : Forest state)

include forest

theorem removeOne_thins {base : Windows} {id child : SurfaceIdentity} (cause : DismissReason)
    (below : base.descendant child id = true) :
    Thins base id state (state.removeOne child cause) := by
  have sheds : Sheds (fun _ _ => True) state (state.dismiss child cause) :=
    dismiss_sheds notices state child cause
  have owners := dismiss_owners state child cause
  refine ⟨sheds.overflowed forest owners, fun calm => ?_⟩
  have alike := sheds.calm forest owners calm
  refine ⟨_, Restricts.of_alike alike (forget_restricts _ child), fun key outside => ?_⟩
  refine decide_eq_true ?_
  rintro rfl
  rw [below] at outside
  cases outside

/-- Without an overflow, removing a group leaves the state without it. -/
theorem removeGroup_calm {id : SurfaceIdentity} {reason : DismissReason}
    (calm : ¬ Overflows state (state.removeGroup id reason)) :
    Alike (state.without id) (state.removeGroup id reason) := by
  obtain ⟨kept, thins, gone⟩ := forest.removeGroup_rel (Thins.refl state id) Thins.trans id reason
    fun before child cause forestBefore _ below => forestBefore.removeOne_thins cause below
  obtain ⟨keep, restricts, foreign⟩ := thins.2 calm
  have agrees : ∀ key, state.Live key → keep key = ! state.descendant key id := by
    rintro key ⟨window, live⟩
    cases below : state.descendant key id with
    | false => exact foreign key below
    | true =>
        rw [Bool.not_true, Bool.eq_false_iff]
        intro keeps
        have alive : (state.removeGroup id reason).Live key := by
          refine ⟨window, ?_⟩
          rw [restricts.windows, if_pos keeps, live]
        rw [gone key alive] at below
        cases below
  refine ⟨Std.ExtTreeMap.ext_getElem? fun key => ?_, ?_, ?_⟩
  · unfold Windows.without
    rw [restricts.windows, lookup_foldl_erase]
    cases live : state.windows[key]? with
    | none => simp
    | some window =>
        have listed : key ∈ state.stack := (forest.listed key).mpr ⟨window, live⟩
        rw [agrees key ⟨window, live⟩]
        cases below : state.descendant key id with
        | false => simp [Windows.group, below]
        | true => simp [Windows.group, below, listed]
  · rw [restricts.stack]
    exact List.filter_congr fun key inside => agrees key ((forest.listed key).mp inside)
  · rw [restricts.history]
    exact List.filter_congr fun key inside => agrees key (forest.remembered key inside)

theorem removeGroup_overflowed (id : SurfaceIdentity) (reason : DismissReason) :
    state.overflowed ⊆ (state.removeGroup id reason).overflowed :=
  (forest.removeGroup_rel (Thins.refl state id) Thins.trans id reason
    fun _ _ cause forestBefore _ below => forestBefore.removeOne_thins cause below).2.1.1

/-- Without an overflow, closing gives the focus to the last window of the
history that is eligible without the group. -/
theorem close_calm {id : SurfaceIdentity} {reason : DismissReason}
    (calm : ¬ Overflows state (state.close id reason)) :
    (state.close id reason).focus = (state.without id).focusCandidate := by
  have removed := forest.removeGroup id reason
  have restored : Sheds (fun _ _ => True) (state.removeGroup id reason)
      (state.close id reason) := restoreFocus_sheds notices _
  have kept : (state.removeGroup id reason).overflowed ⊆ (state.close id reason).overflowed :=
    restored.overflowed removed (restoreFocus_owners _)
  have alike := forest.removeGroup_calm fun overflows => calm (overflows.first kept)
  rw [← alike.focusCandidate]
  exact changeFocus_calm removed _ fun overflows =>
    calm (overflows.second (forest.removeGroup_overflowed id reason))

end Forest

/-! ## Calls that close -/

/-- The calls that close a window, and the window they close. -/
inductive Closing (state : Windows) : Operation → SurfaceIdentity → Prop
  | close (id : SurfaceIdentity) (reason : DismissReason) : Closing state (.close id reason) id
  | action {owner : SessionIdentity} {action : Action} {viewport : Viewport}
      {id : SurfaceIdentity} {window : Window} {payload : PayloadMap}
      (closes : action.action = .close) (valid : action.payload = .ok payload)
      (named : action.address.toIdentity owner = .ok id)
      (live : state.windows[id]? = some window)
      (generation : window.generation = action.address.generation)
      (revision : window.revision = action.expectedRevision) :
      Closing state (.applyAction owner action viewport) id
  | escape {event : Event} {id : SurfaceIdentity} (quiet : state.swallowedEscape = false)
      (focused : state.focus = some id) (eligible : state.eligible id = true)
      (pressed : pressesKey event = true) (dismissible : state.dismissible id = true) :
      Closing state (.keyboard event true) id
  | outside {report : PointerReport} {hit : SurfaceIdentity → Point → Option HitRegion}
      {popup : Window} (quiet : state.swallows report = false) (free : state.capture = none)
      (foremost : state.foremostPopup = some popup) (pressed : report.presses = true)
      (outside : popup.options.bounds.contains report.position = false) :
      Closing state (.pointer report hit) popup.identity

/-- A call that closes does so once it has noted what it swallows. -/
theorem Closing.closes {state : Windows} {operation : Operation} {id : SurfaceIdentity}
    (closing : Closing state operation id) :
    ∃ reason buttons escape, (windowsStep state operation).2 =
      { state with swallowedButtons := buttons, swallowedEscape := escape }.close id reason := by
  cases closing with
  | close _ reason => exact ⟨reason, state.swallowedButtons, state.swallowedEscape, rfl⟩
  | @action owner action viewport _ window payload closes valid named live generation revision =>
      refine ⟨.closed, state.swallowedButtons, state.swallowedEscape, ?_⟩
      show (state.applyAction owner action viewport).2 = _
      unfold applyAction
      rw [valid, named]
      simp [orScene, live, generation, revision, closes]
  | @escape event _ quiet focused eligible pressed dismissible =>
      refine ⟨.escape, state.swallowedButtons, true, ?_⟩
      show (state.keyboard event true).2 = _
      have target : state.focus.filter state.eligible = some id :=
        Option.filter_eq_some_iff.mpr ⟨focused, eligible⟩
      unfold keyboard
      rw [target]
      simp [quiet, pressed, dismissible]
  | @outside report hit popup quiet free foremost pressed outside =>
      have presses := pressed
      unfold PointerReport.presses at presses
      rw [Option.any_eq_true] at presses
      obtain ⟨⟨button, down⟩, reported, presses⟩ := presses
      dsimp only at presses
      subst presses
      refine ⟨.outsidePress, insert button state.swallowedButtons, state.swallowedEscape, ?_⟩
      show (state.pointer report hit).2 = _
      unfold swallows at quiet
      rw [reported, Option.any_some] at quiet
      unfold pointer
      rw [reported, Option.filter_some, quiet]
      simp only [Bool.false_eq_true, if_false, free]
      unfold pointerFree
      rw [foremost, Option.filter_some, pressed, outside]
      simp [reported, free]

/-- The focus is outside of a group, and what has it is eligible. -/
def Elsewhere (state : Windows) (id : SurfaceIdentity) : Prop :=
  ∀ focused, state.focus = some focused →
    state.descendant focused id = false ∧ state.eligible focused = true

/-- Without the group, the window of the focus history that is eligible last is the one
that has the focus; where nothing has it, none is eligible. -/
structure Foremost (state : Windows) (id : SurfaceIdentity) : Prop where
  free : state.focus = none →
    ∀ key ∈ (state.without id).focusHistory, (state.without id).eligible key = false
  focused : ∀ focused, state.focus = some focused →
    (state.without id).eligible focused = true ∧
      ∃ earlier later, (state.without id).focusHistory = earlier ++ focused :: later ∧
        ∀ key ∈ later, (state.without id).eligible key = false

theorem focusCandidate_eq_none {state : Windows} :
    state.focusCandidate = none ↔ ∀ key ∈ state.focusHistory, state.eligible key = false := by
  unfold focusCandidate
  rw [List.find?_eq_none]
  simp only [List.mem_reverse, Bool.not_eq_true]

theorem focusCandidate_eq_some {state : Windows} {focused : SurfaceIdentity} :
    state.focusCandidate = some focused ↔ state.eligible focused = true ∧
      ∃ earlier later, state.focusHistory = earlier ++ focused :: later ∧
        ∀ key ∈ later, state.eligible key = false := by
  unfold focusCandidate
  rw [List.find?_eq_some_iff_append]
  refine and_congr_right fun _ => ?_
  constructor
  · rintro ⟨later, earlier, split, blocked⟩
    have history := congrArg List.reverse split
    rw [List.reverse_reverse, List.reverse_append, List.reverse_cons, List.append_assoc,
      List.singleton_append] at history
    refine ⟨earlier.reverse, later.reverse, history, fun key inside => ?_⟩
    simpa using blocked key (List.mem_reverse.mp inside)
  · rintro ⟨earlier, later, split, blocked⟩
    refine ⟨later.reverse, earlier.reverse, by simp [split], fun key inside => ?_⟩
    simpa using blocked key (List.mem_reverse.mp inside)

theorem foremost_iff {state : Windows} {id : SurfaceIdentity} :
    Foremost state id ↔ (state.without id).focusCandidate = state.focus := by
  cases focus : state.focus with
  | none =>
      rw [focusCandidate_eq_none]
      constructor
      · exact fun foremost => foremost.free focus
      · exact fun blocked => ⟨fun _ => blocked, fun _ has => nomatch focus.symm.trans has⟩
  | some focused =>
      rw [focusCandidate_eq_some]
      constructor
      · exact fun foremost => foremost.focused focused focus
      · intro last
        refine ⟨fun free => absurd (focus.symm.trans free) nofun, fun other has => ?_⟩
        cases focus.symm.trans has
        exact last

/-- What closing a window is to do to the focus: leave it alone where it is
elsewhere, and hand it on where the group had it. -/
def KeepsKeyboard (state : Windows) (operation : Operation) (id : SurfaceIdentity) : Prop :=
  (Elsewhere state id → (windowsStep state operation).2.focus = state.focus) ∧
    ∀ focused, state.focus = some focused → state.descendant focused id = true →
      (windowsStep state operation).2.focus = (state.without id).focusCandidate

theorem revokeOwner_focus {state : Windows} {owner : SessionIdentity}
    (foreign : state.focusOwnedBy owner = false) :
    (state.revokeOwner owner).focus = state.focus := by
  have focus : (state.dropOwner owner).focus = state.focus := by rw [dropOwner_eq]
  unfold revokeOwner
  have same : (state.dropOwner owner).focusOwnedBy owner = false := by
    unfold focusOwnedBy at foreign ⊢
    rw [focus]
    exact foreign
  dsimp only
  rw [same]
  exact focus

theorem Forest.closing_calm {state : Windows} (forest : Forest state) {operation : Operation}
    {id : SurfaceIdentity} (closing : Closing state operation id)
    (calm : ¬ Overflows state (windowsStep state operation).2) :
    (windowsStep state operation).2.focus = (state.without id).focusCandidate := by
  obtain ⟨reason, buttons, escape, same⟩ := closing.closes
  rw [same] at calm ⊢
  have noted : Forest { state with swallowedButtons := buttons, swallowedEscape := escape } :=
    forest.frame rfl rfl rfl rfl rfl
  rw [noted.close_calm calm]
  have alike : Alike state { state with swallowedButtons := buttons, swallowedEscape := escape } :=
    ⟨rfl, rfl, rfl⟩
  have group : { state with swallowedButtons := buttons, swallowedEscape := escape }.group id =
      state.group id := by
    unfold Windows.group
    rw [funext fun key => alike.descendant key id]
  refine Alike.focusCandidate ⟨?_, ?_, ?_⟩
  · unfold Windows.without
    rw [group]
  · unfold Windows.without
    rw [funext fun key => congrArg (! ·) (alike.descendant key id)]
  · unfold Windows.without
    rw [funext fun key => congrArg (! ·) (alike.descendant key id)]

/-- In every reachable state a call that closes a window and overflows no queue
keeps the focus where it is elsewhere exactly if the last eligible window of the
remaining history is the one that has it.  A revocation keeps the focus that is
not its owner's. -/
theorem close_keeps_keyboard_iff (inputs : List Operation) :
    let state := windowsRuns.final Windows.default inputs
    (∀ operation id, Closing state operation id →
      ¬ Overflows state (windowsStep state operation).2 →
      (KeepsKeyboard state operation id ↔ (Elsewhere state id → Foremost state id))) ∧
      ∀ owner, state.focusOwnedBy owner = false →
        (windowsStep state (.revokeOwner owner)).2.focus = state.focus := by
  intro state
  have forest : Forest state := forest_final inputs
  refine ⟨?_, fun owner foreign => revokeOwner_focus foreign⟩
  intro operation id closing calm
  unfold KeepsKeyboard
  rw [forest.closing_calm closing calm, foremost_iff]
  exact ⟨fun both => both.1, fun aimed => ⟨aimed, fun _ _ _ => rfl⟩⟩

/-- A popup that took the focus, and a floating window. -/
def samplePair : List Operation :=
  [.create (sampleSurface 1 1) 1 (sampleOptions .popup),
    .create (sampleSurface 1 2) 1 (sampleOptions .floating)]

theorem close_keeps_keyboard_popup :
    (windowsStep (windowsRuns.final Windows.default samplePair)
      (.close (sampleSurface 1 2) .closed)).2.focus = some (sampleSurface 1 1) := by
  have focused : (windowsRuns.final Windows.default samplePair).focus =
      some (sampleSurface 1 1) := by decide +kernel
  have aimed : ((windowsRuns.final Windows.default samplePair).without
      (sampleSurface 1 2)).focusCandidate = some (sampleSurface 1 1) := by decide +kernel
  have calm : (windowsStep (windowsRuns.final Windows.default samplePair)
      (.close (sampleSurface 1 2) .closed)).2.overflowed = ∅ := by decide +kernel
  have keeps := ((close_keeps_keyboard_iff samplePair).1 _ _
    (.close (sampleSurface 1 2) .closed) (by
      rintro ⟨owner, inside, -⟩
      rw [calm] at inside
      exact Finset.notMem_empty owner inside)).mpr fun _ =>
        foremost_iff.mpr (aimed.trans focused.symm)
  rw [keeps.1, focused]
  intro other same
  rw [focused, Option.some.injEq] at same
  subst same
  decide +kernel

/-- The pane has lost the focus, and closing the floating window gives the
keyboard to the popup. -/
theorem close_steals_keyboard :
    (windowsRuns.final Windows.default (samplePair ++ [.setPaneFocus false])).focus = none ∧
      (windowsStep (windowsRuns.final Windows.default (samplePair ++ [.setPaneFocus false]))
        (.close (sampleSurface 1 2) .closed)).2.focus = some (sampleSurface 1 1) ∧
      ¬ KeepsKeyboard (windowsRuns.final Windows.default (samplePair ++ [.setPaneFocus false]))
        (.close (sampleSurface 1 2) .closed) (sampleSurface 1 2) := by
  have free : (windowsRuns.final Windows.default
      (samplePair ++ [.setPaneFocus false])).focus = none := by decide +kernel
  have taken : (windowsStep (windowsRuns.final Windows.default
      (samplePair ++ [.setPaneFocus false]))
        (.close (sampleSurface 1 2) .closed)).2.focus = some (sampleSurface 1 1) := by
    decide +kernel
  refine ⟨free, taken, fun keeps => ?_⟩
  have kept := keeps.1 (by
    intro focused same
    rw [free] at same
    cases same)
  rw [taken, free] at kept
  cases kept

end VividProtocol.Overlay

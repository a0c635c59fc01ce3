import Mathlib.Tactic
import VividProtocol.Overlay.Options

/-!
# The size that a gesture restores

A gesture computes its bounds from those at the press.  As long as no step of a
gesture restores a size that an update has replaced, the options of every window
stay valid and an accepted size is kept.
-/

set_option autoImplicit false

namespace VividProtocol.Overlay

open VividProtocol.Library
open VividProtocol.Library.OrderedForest
open VividProtocol.Library.Result
open VividProtocol.Library.Transition

open Windows

/-! ## Rectangles -/

theorem Scalar.eq_of_raw {left right : Scalar} (same : left.raw = right.raw) : left = right := by
  cases left
  cases right
  cases same
  rfl

theorem Rect.new_eq_ok {x y width height : Int} {rect : Rect}
    (built : Rect.new x y width height = .ok rect) :
    rect.width.raw = width ∧ rect.height.raw = height := by
  unfold Rect.new at built
  obtain ⟨origin, -, built⟩ := bind_eq_ok_iff.mp built
  obtain ⟨wide, isWide, built⟩ := bind_eq_ok_iff.mp built
  obtain ⟨high, isHigh, built⟩ := bind_eq_ok_iff.mp built
  obtain ⟨⟨⟩, -, same⟩ := bind_eq_ok_iff.mp built
  cases same
  exact ⟨Scalar.new_eq_ok.mp isWide, Scalar.new_eq_ok.mp isHigh⟩

theorem WindowOptions.validate_eq_ok {options : WindowOptions} :
    options.validate = .ok () ↔
      options.bounds.validate = .ok () ∧ 0 < options.minWidth.raw ∧ 0 < options.minHeight.raw ∧
        options.minWidth.raw ≤ options.bounds.width.raw ∧
        options.minHeight.raw ≤ options.bounds.height.raw := by
  unfold WindowOptions.validate
  cases bounded : options.bounds.validate with
  | error error => simp [bind, Except.bind]
  | ok =>
      simp only [bind, Except.bind, ite_error_eq_ok_iff, and_true, true_and]
      change ¬ (options.minWidth.raw ≤ 0 ∨ options.minHeight.raw ≤ 0 ∨
        options.bounds.width.raw < options.minWidth.raw ∨
        options.bounds.height.raw < options.minHeight.raw) ↔ _
      omega

/-- Other bounds are as good where they are valid and no smaller than the minimum. -/
theorem WindowOptions.validate_bounds {options : WindowOptions} {bounds : Rect}
    (valid : options.validate = .ok ()) (bounded : bounds.validate = .ok ())
    (wide : options.minWidth.raw ≤ bounds.width.raw)
    (high : options.minHeight.raw ≤ bounds.height.raw) :
    ({ options with bounds := bounds } : WindowOptions).validate = .ok () := by
  obtain ⟨-, minWidth, minHeight, -, -⟩ := validate_eq_ok.mp valid
  exact validate_eq_ok.mpr ⟨bounded, minWidth, minHeight, wide, high⟩

theorem resizeAxis_least {low high : Bool} {origin extent delta least : Int}
    (enough : low = true ∨ high = true ∨ least ≤ extent) :
    least ≤ (resizeAxis low high origin extent delta least).2 := by
  unfold resizeAxis
  cases low with
  | true =>
      cases high with
      | true => exact le_max_right _ _
      | false => exact le_max_right _ _
  | false =>
      cases high with
      | true => exact le_max_right _ _
      | false => simpa using enough

/-! ## Stale sizes -/

/-- The size at the press is not the one to keep: for a drag any other than the
window's, for a resize one below the minimum along an axis that no edge moves. -/
def StaleSize (capture : Capture) (options : WindowOptions) : Prop :=
  match capture.role with
  | .drag =>
      capture.bounds.width ≠ options.bounds.width ∨ capture.bounds.height ≠ options.bounds.height
  | .resize edges =>
      edges &&& 1 = 0 ∧ edges &&& 4 = 0 ∧ capture.bounds.width < options.minWidth ∨
        edges &&& 2 = 0 ∧ edges &&& 8 = 0 ∧ capture.bounds.height < options.minHeight
  | .input => False
  | .transparent => False

instance (capture : Capture) (options : WindowOptions) : Decidable (StaleSize capture options) :=
  match role : capture.role with
  | .drag => decidable_of_iff
      (capture.bounds.width ≠ options.bounds.width ∨
        capture.bounds.height ≠ options.bounds.height) (by simp [StaleSize, role])
  | .resize edges => decidable_of_iff
      (edges &&& 1 = 0 ∧ edges &&& 4 = 0 ∧ capture.bounds.width < options.minWidth ∨
        edges &&& 2 = 0 ∧ edges &&& 8 = 0 ∧ capture.bounds.height < options.minHeight)
      (by simp [StaleSize, role])
  | .input => isFalse (by simp [StaleSize, role])
  | .transparent => isFalse (by simp [StaleSize, role])

/-- A report is a step of a gesture that has bounds to set, and restores a stale size. -/
def Restores (state : Windows) (operation : Operation) : Prop :=
  ∃ capture window point bounds, Gestures state operation capture window point ∧
    gestureBounds capture window.options point = some (.ok bounds) ∧
    checkedAdd window.revision 1 ≠ none ∧ StaleSize capture window.options

/-- No gesture of the state holds a stale size. -/
def Current (state : Windows) : Prop :=
  ∀ capture ∈ state.capture, ∀ window ∈ state.windows[capture.window]?,
    ¬ StaleSize capture window.options

instance (state : Windows) : Decidable (Current state) :=
  inferInstanceAs (Decidable (∀ capture ∈ state.capture,
    ∀ window ∈ state.windows[capture.window]?, ¬ StaleSize capture window.options))

theorem Current.not_restores {state : Windows} (current : Current state)
    (operation : Operation) : ¬ Restores state operation := by
  rintro ⟨capture, window, _, _, gestures, -, -, stale⟩
  exact current capture gestures.held window gestures.live stale

theorem gestureBounds_drag {capture : Capture} {options : WindowOptions} {point : Point}
    {bounds : Rect} (drags : capture.role = .drag)
    (aimed : gestureBounds capture options point = some (.ok bounds))
    (fresh : ¬ StaleSize capture options) :
    bounds = { options.bounds with origin := bounds.origin } := by
  unfold StaleSize at fresh
  simp only [drags, not_or, not_not] at fresh
  unfold gestureBounds at aimed
  simp only [drags, Option.some.injEq] at aimed
  obtain ⟨wide, high⟩ := Rect.new_eq_ok aimed
  have width : bounds.width = options.bounds.width :=
    Scalar.eq_of_raw (wide.trans (congrArg Scalar.raw fresh.1))
  have height : bounds.height = options.bounds.height :=
    Scalar.eq_of_raw (high.trans (congrArg Scalar.raw fresh.2))
  dsimp only
  rw [← width, ← height]

theorem gestureBounds_least {capture : Capture} {options : WindowOptions} {point : Point}
    {bounds : Rect} (valid : options.validate = .ok ())
    (aimed : gestureBounds capture options point = some (.ok bounds))
    (fresh : ¬ StaleSize capture options) :
    options.minWidth.raw ≤ bounds.width.raw ∧ options.minHeight.raw ≤ bounds.height.raw := by
  obtain ⟨-, -, -, wide, high⟩ := WindowOptions.validate_eq_ok.mp valid
  cases role : capture.role with
  | input => simp [gestureBounds, role] at aimed
  | transparent => simp [gestureBounds, role] at aimed
  | drag =>
      rw [gestureBounds_drag role aimed fresh]
      exact ⟨wide, high⟩
  | resize edges =>
      unfold StaleSize at fresh
      simp only [role, not_or, not_and] at fresh
      unfold gestureBounds at aimed
      simp only [role, Option.some.injEq] at aimed
      obtain ⟨width, height⟩ := Rect.new_eq_ok aimed
      rw [width, height]
      constructor
      · refine resizeAxis_least ?_
        by_cases left : edges &&& 1 = 0
        · by_cases right : edges &&& 4 = 0
          · exact .inr (.inr (Int.not_lt.mp (fresh.1 left right)))
          · exact .inr (.inl (decide_eq_true right))
        · exact .inl (decide_eq_true left)
      · refine resizeAxis_least ?_
        by_cases top : edges &&& 2 = 0
        · by_cases bottom : edges &&& 8 = 0
          · exact .inr (.inr (Int.not_lt.mp (fresh.2 top bottom)))
          · exact .inr (.inl (decide_eq_true bottom))
        · exact .inl (decide_eq_true top)

theorem centered_size {viewport : Viewport} {bounds placed : Rect}
    (asked : centered viewport bounds = .ok placed) :
    placed.width.raw = bounds.width.raw ∧ placed.height.raw = bounds.height.raw := by
  unfold centered at asked
  obtain ⟨-, -, built⟩ := bind_eq_ok_iff.mp asked
  exact Rect.new_eq_ok built

theorem actionBounds_size {action : WindowAction} {viewport : Viewport} {bounds placed : Rect}
    (asked : actionBounds action viewport bounds = .ok (some placed)) :
    placed.width.raw = bounds.width.raw ∧ placed.height.raw = bounds.height.raw := by
  unfold actionBounds at asked
  by_cases centers : action = .center
  · rw [if_pos centers] at asked
    cases found : centered viewport bounds with
    | error error =>
        rw [found] at asked
        cases asked
    | ok rect =>
        rw [found] at asked
        cases asked
        exact centered_size found
  · rw [if_neg centers] at asked
    cases asked

/-! ## Runs -/

/-- The options of every live window are valid. -/
def OptionsValid (state : Windows) : Prop :=
  ∀ (id : SurfaceIdentity) (window : Window), state.windows[id]? = some window →
    window.options.validate = .ok ()

theorem OptionsValid.step {state : Windows} (valid : OptionsValid state) (forest : Forest state)
    {operation : Operation} (fresh : ¬ Restores state operation) :
    OptionsValid (windowsStep state operation).2 := by
  intro id window found
  cases step_rewrites forest found with
  | kept live => exact valid id window live
  | created _ _ admitted =>
      unfold admitCreate at admitted
      exact (bind_eq_ok_iff.mp admitted).choose_spec.1
  | updated _ valid _ _ => exact valid
  | @published old _ live =>
      have before := valid id old live
      exact before
  | @acted _ _ _ old bounds _ _ live _ centered =>
      have before := valid id old live
      cases bounds with
      | none => exact before
      | some rect =>
          obtain ⟨-, -, -, wide, high⟩ := WindowOptions.validate_eq_ok.mp before
          obtain ⟨width, height⟩ := actionBounds_size centered
          exact WindowOptions.validate_bounds before (actionBounds_valid centered)
            (by rw [width]; exact wide) (by rw [height]; exact high)
  | @gestured capture point old bounds _ same gestures aimed next =>
      have before := valid capture.window old gestures.live
      obtain ⟨wide, high⟩ := gestureBounds_least before aimed fun stale =>
        fresh ⟨capture, old, point, bounds, gestures, aimed, by rw [next]; exact nofun, stale⟩
      exact WindowOptions.validate_bounds before (gestureBounds_valid aimed) wide high

/-- A window was created with its generation, its parent and its mode, and has
lived since. -/
def Born (history : List (Transition.Event Windows Operation Answer)) (id : SurfaceIdentity)
    (window : Window) : Prop :=
  ∃ past creation future generation options, history = past ++ creation :: future ∧
    creation.input = .create id generation options ∧ ¬ creation.before.Live id ∧
    (∀ event ∈ creation :: future, event.after.Live id) ∧ window.generation = generation ∧
    window.options.parent = options.parent ∧ window.options.mode = options.mode

/-- A window that is not new has the generation, parent and mode of the one before. -/
theorem Rewrites.origin {state : Windows} {operation : Operation} {id : SurfaceIdentity}
    {window : Window} (rewrites : Rewrites state operation id window) :
    (∃ old, state.windows[id]? = some old ∧ window.generation = old.generation ∧
        window.options.parent = old.options.parent ∧ window.options.mode = old.options.mode) ∨
      ∃ generation options, operation = .create id generation options ∧ ¬ state.Live id ∧
        window.generation = generation ∧ window.options = options := by
  cases rewrites with
  | kept live => exact .inl ⟨_, live, rfl, rfl, rfl⟩
  | created asked fresh _ => exact .inr ⟨_, _, asked, not_live_iff.mpr fresh, rfl, rfl⟩
  | updated _ _ live admitted =>
      obtain ⟨parent, mode, -⟩ := Forest.admitUpdate_ok admitted
      exact .inl ⟨_, live, rfl, parent, mode⟩
  | published live => exact .inl ⟨_, live, rfl, rfl, rfl⟩
  | @acted _ _ _ _ bounds _ _ live _ _ =>
      cases bounds with
      | none => exact .inl ⟨_, live, rfl, rfl, rfl⟩
      | some rect => exact .inl ⟨_, live, rfl, rfl, rfl⟩
  | gestured same gestures _ _ =>
      subst same
      exact .inl ⟨_, gestures.live, rfl, rfl, rfl⟩

theorem born_history (inputs : List Operation) :
    ∀ (id : SurfaceIdentity) (window : Window),
      (windowsRuns.final Windows.default inputs).windows[id]? = some window →
      Born (windowsRuns.history Windows.default inputs) id window := by
  induction inputs using List.reverseRecOn with
  | nil =>
      intro id window found
      exact absurd ((Forest.default.listed id).mpr ⟨window, found⟩) List.not_mem_nil
  | append_singleton inputs operation ih =>
      intro id window found
      rw [windowsRuns.final_snoc] at found
      rw [windowsRuns.history_snoc]
      have live : (windowsRuns.event (windowsRuns.final Windows.default inputs)
          operation).after.Live id := ⟨window, found⟩
      rcases (step_rewrites (forest_final inputs) found).origin with
        ⟨old, before, generation, parent, mode⟩ | ⟨generation, options, asked, fresh, named, same⟩
      · obtain ⟨past, creation, future, _, options, cut, created, absent, lives, generated,
          parents, modes⟩ := ih id old before
        refine ⟨past, creation, future ++ [_], _, options, by rw [cut, List.append_assoc, List.cons_append], created, absent, ?_,
          generation.trans generated, parent.trans parents, mode.trans modes⟩
        intro event inside
        rw [← List.cons_append] at inside
        rcases List.mem_append.mp inside with earlier | last
        · exact lives event earlier
        · rw [List.mem_singleton.mp last]
          exact live
      · refine ⟨_, _, [], generation, options, rfl, asked, fresh, ?_, named, by rw [same],
          by rw [same]⟩
        intro event inside
        rw [List.mem_singleton.mp inside]
        exact live

/-- An update that is accepted without an overflow leaves its options, at the
revision after the one it expects. -/
theorem update_accepted {state : Windows} (forest : Forest state) {id : SurfaceIdentity}
    {generation revision next : UInt64} {options : WindowOptions}
    (accepted : (state.update id generation revision options).1 = .ok next)
    (calm : ¬ Overflows state (state.update id generation revision options).2) :
    ∃ window, (state.update id generation revision options).2.windows[id]? = some window ∧
      window.options = options ∧ window.revision = next ∧
      next.toNat = revision.toNat + 1 := by
  have outcome := state.update_outcome id generation revision options
  generalize state.update id generation revision options = answer at outcome accepted calm
  have replaced : ∀ {old : Window} {moved : UInt64},
      (state.setWindow id (Windows.updated old options moved)).windows[id]? =
        some (Windows.updated old options moved) := by
    intro old moved
    rw [Forest.setWindow_lookup, if_pos rfl]
  cases outcome with
  | refused _ => cases accepted
  | @hidden _ old moved live admitted _ _ =>
      cases accepted
      have middle := updated_forest forest live admitted
      have sheds : Sheds (fun _ _ => True)
          (state.setWindow id (Windows.updated old options next)) _ :=
        hideGroup_sheds Forest.notices _ id
      have alike := sheds.calm middle (hideGroup_owners _ id) calm
      refine ⟨Windows.updated old options next, ?_, rfl, rfl,
        checkedAdd_eq_some.mp (admitUpdate_revision admitted).2⟩
      dsimp only
      rw [alike.windows]
      exact replaced
  | @replaced _ old moved live admitted _ =>
      cases accepted
      exact ⟨_, replaced, rfl, rfl,
        checkedAdd_eq_some.mp (admitUpdate_revision admitted).2⟩
  | @focused _ old moved live admitted _ _ _ _ outcome =>
      cases outcome with
      | refused _ _ => cases accepted
      | taken eligible =>
          have same : moved = next := Except.ok.inj accepted
          subst same
          have middle := updated_forest forest live admitted
          have raised := (middle.raiseGroup id).remember (middle.live_of_eligible eligible)
          have sheds : Sheds (fun _ _ => True)
              (((state.setWindow id (Windows.updated old options moved)).raiseGroup id).remember id)
              _ := changeFocus_sheds Forest.notices _ (some id)
          have alike := sheds.calm raised (changeFocus_owners _ _) calm
          refine ⟨Windows.updated old options moved, ?_, rfl, rfl,
            checkedAdd_eq_some.mp (admitUpdate_revision admitted).2⟩
          exact (congrArg (fun windows => windows[id]?) alike.windows).trans replaced

/-- Options that change without an update come with the next revision. -/
theorem Rewrites.revision {state : Windows} {operation : Operation} {id : SurfaceIdentity}
    {old window : Window} (rewrites : Rewrites state operation id window)
    (live : state.windows[id]? = some old)
    (other : ∀ generation revision options, operation ≠ .update id generation revision options)
    (changed : window.options ≠ old.options) :
    window.revision.toNat = old.revision.toNat + 1 := by
  have only : ∀ before : Window, state.windows[id]? = some before → before = old := by
    intro before there
    rw [live, Option.some.injEq] at there
    exact there.symm
  cases rewrites with
  | kept before => exact absurd (congrArg Window.options (only _ before)) changed
  | created _ fresh _ =>
      rw [live] at fresh
      cases fresh
  | updated asked _ _ _ => exact absurd asked (other _ _ _)
  | published before => exact absurd (congrArg Window.options (only _ before)) changed
  | @acted _ _ _ before bounds revision _ there next _ =>
      have same := only before there
      subst same
      have moved := checkedAdd_eq_some.mp next
      cases bounds with
      | none => exact moved
      | some rect => exact moved
  | @gestured _ _ before _ _ same gestures _ next =>
      subst same
      have same := only before gestures.live
      subst same
      exact checkedAdd_eq_some.mp next

/-- A step of a drag that restores no stale size moves the origin only. -/
theorem Rewrites.drag {state : Windows} {operation : Operation} {capture : Capture}
    {old window : Window} {point : Point}
    (rewrites : Rewrites state operation capture.window window)
    (gestures : Gestures state operation capture old point) (drags : capture.role = .drag)
    (fresh : ¬ Restores state operation) :
    ∃ origin, window.options =
      { old.options with bounds := { old.options.bounds with origin := origin } } := by
  obtain ⟨report, hit, asked, -, -⟩ := gestures.asked
  have still : ∀ before : Window, state.windows[capture.window]? = some before →
      ∃ origin, before.options =
        { old.options with bounds := { old.options.bounds with origin := origin } } := by
    intro before there
    rw [gestures.live, Option.some.injEq] at there
    subst there
    exact ⟨old.options.bounds.origin, rfl⟩
  cases rewrites with
  | kept before => exact still _ before
  | created other _ _ =>
      rw [asked] at other
      cases other
  | updated other _ _ _ =>
      rw [asked] at other
      cases other
  | @published before _ there =>
      have kept := still before there
      exact kept
  | acted other _ _ _ =>
      rw [asked] at other
      cases other
  | @gestured holder place before bounds revision same steps aimed next =>
      have held := steps.held
      rw [gestures.held, Option.some.injEq] at held
      subst held
      have there := steps.live
      rw [gestures.live, Option.some.injEq] at there
      subst there
      refine ⟨bounds.origin, ?_⟩
      have kept := gestureBounds_drag drags aimed fun stale =>
        fresh ⟨capture, old, place, bounds, steps, aimed, by rw [next]; exact nofun, stale⟩
      show ({ old.options with bounds := bounds } : WindowOptions) = _
      exact congrArg (fun rect => ({ old.options with bounds := rect } : WindowOptions)) kept

/-- In a run whose gestures restore no stale size every live window has valid
options, with the parent and mode of its creation; accepted updates are in place
at the next revision; other changes move the revision by one; and a step of a
drag moves the origin only. -/
theorem options_valid (inputs : List Operation)
    (fresh : ∀ event ∈ windowsRuns.history Windows.default inputs,
      ¬ Restores event.before event.input) :
    (∀ (id : SurfaceIdentity) (window : Window),
      (windowsRuns.final Windows.default inputs).windows[id]? = some window →
      window.options.validate = .ok () ∧
        Born (windowsRuns.history Windows.default inputs) id window) ∧
    ∀ event ∈ windowsRuns.history Windows.default inputs,
      (∀ id generation revision options next,
        event.input = .update id generation revision options →
        event.output = .revised (.ok next) → ¬ Overflows event.before event.after →
        ∃ window, event.after.windows[id]? = some window ∧ window.options = options ∧
          window.revision = next ∧ next.toNat = revision.toNat + 1) ∧
      (∀ (id : SurfaceIdentity) (old window : Window), event.before.windows[id]? = some old →
        event.after.windows[id]? = some window →
        (∀ generation revision options, event.input ≠ .update id generation revision options) →
        window.options ≠ old.options → window.revision.toNat = old.revision.toNat + 1) ∧
      ∀ (capture : Capture) (old window : Window) (point : Point),
        Gestures event.before event.input capture old point → capture.role = .drag →
        event.after.windows[capture.window]? = some window →
        ∃ origin, window.options =
          { old.options with bounds := { old.options.bounds with origin := origin } } := by
  have valid : OptionsValid (windowsRuns.final Windows.default inputs) := by
    induction inputs using List.reverseRecOn with
    | nil =>
        intro id window found
        exact absurd ((Forest.default.listed id).mpr ⟨window, found⟩) List.not_mem_nil
    | append_singleton inputs operation ih =>
        rw [windowsRuns.history_snoc] at fresh
        rw [windowsRuns.final_snoc]
        exact (ih fun event inside => fresh event (List.mem_append_left _ inside)).step
          (forest_final inputs) (fresh _ (List.mem_append_right _ (List.mem_singleton.mpr rfl)))
  refine ⟨fun id window found => ⟨valid id window found, born_history inputs id window found⟩, ?_⟩
  intro event inside
  obtain ⟨past, future, cut⟩ := List.append_of_mem inside
  obtain ⟨first, operation, second, -, -, same, -⟩ := windowsRuns.history_event cut
  have calm := fresh event inside
  subst same
  have forest := forest_final first
  refine ⟨?_, ?_, ?_⟩
  · intro id generation revision options next asked accepted quiet
    cases asked
    exact update_accepted forest (Answer.revised.inj accepted) quiet
  · intro id old window before after other changed
    exact (step_rewrites forest after).revision before other changed
  · intro capture old window point gestures drags after
    exact (step_rewrites forest after).drag gestures drags calm

/-! ## Samples -/

/-- A region that drags, everywhere. -/
def sampleGrip : SurfaceIdentity → Point → Option HitRegion := fun _ _ => some ⟨1, .drag, none⟩

/-- Motion without a button at a point of the diagonal. -/
def sampleMotion (place : Scalar) : PointerReport :=
  { sampleReport place true with button := none, clicks := 0 }

/-- A window that is dragged by a point near its origin. -/
def sampleDrag : List Operation :=
  [.create (sampleSurface 1 1) 1 (sampleOptions .floating),
    .pointer (sampleReport sampleNear true) sampleGrip]

/-- Twice the size, and no less than twenty units. -/
def sampleEnlarged : WindowOptions :=
  { sampleOptions .floating with
    bounds := { origin := ⟨.ZERO, .ZERO⟩, width := sampleFar, height := sampleFar }
    minWidth := sampleFar
    minHeight := sampleFar }

theorem revised_of_update {state : Windows} {id : SurfaceIdentity}
    {generation revision next : UInt64} {options : WindowOptions}
    (moved : (state.update id generation revision options).1.toOption = some next) :
    (windowsStep state (.update id generation revision options)).1 = .revised (.ok next) := by
  change Answer.revised (state.update id generation revision options).1 = _
  cases answer : (state.update id generation revision options).1 with
  | error error =>
      rw [answer] at moved
      cases moved
  | ok other =>
      rw [answer] at moved
      cases moved
      rfl

/-- The size of the window, and no less than two units. -/
def sampleNarrowed : WindowOptions :=
  { sampleOptions .floating with minWidth := sampleNear, minHeight := sampleNear }

/-- The dragged window is given a least size that it exceeds. -/
def sampleUpdated : List Operation :=
  sampleDrag ++ [.update (sampleSurface 1 1) 1 1 sampleNarrowed]

def sampleMoved : List Operation :=
  sampleUpdated ++ [.pointer (sampleMotion sampleFar) sampleGrip]

def sampleDropped : List Operation :=
  sampleMoved ++ [.pointer (sampleReport sampleFar false) sampleGrip]

/-- The update is in place after the press, the motion moves the origin only, and the
options are valid at the end of the drag. -/
theorem options_valid_drag :
    ∃ old window final : Window,
      (windowsRuns.final Windows.default sampleUpdated).windows[sampleSurface 1 1]? = some old ∧
      old.options = sampleNarrowed ∧
      (windowsRuns.final Windows.default sampleMoved).windows[sampleSurface 1 1]? =
        some window ∧
      window.options ≠ old.options ∧
      (∃ origin, window.options =
        { old.options with bounds := { old.options.bounds with origin := origin } }) ∧
      (windowsRuns.final Windows.default sampleDropped).windows[sampleSurface 1 1]? =
        some final ∧
      final.options.validate = .ok () := by
  have fresh : ∀ event ∈ windowsRuns.history Windows.default sampleDropped,
      ¬ Restores event.before event.input := by
    have current : ∀ event ∈ windowsRuns.history Windows.default sampleDropped,
        Current event.before := by decide +kernel
    exact fun event inside => (current event inside).not_restores event.input
  obtain ⟨valid, steps⟩ := options_valid sampleDropped fresh
  have updates : windowsRuns.event (windowsRuns.final Windows.default sampleDrag)
      (.update (sampleSurface 1 1) 1 1 sampleNarrowed) ∈
        windowsRuns.history Windows.default sampleDropped :=
    .tail _ (.tail _ (.head _))
  have moves : windowsRuns.event (windowsRuns.final Windows.default sampleUpdated)
      (.pointer (sampleMotion sampleFar) sampleGrip) ∈
        windowsRuns.history Windows.default sampleDropped :=
    .tail _ (.tail _ (.tail _ (.head _)))
  have accepted : (windowsStep (windowsRuns.final Windows.default sampleDrag)
      (.update (sampleSurface 1 1) 1 1 sampleNarrowed)).1 = .revised (.ok 2) :=
    revised_of_update (by decide +kernel)
  have roomy : (windowsRuns.final Windows.default sampleUpdated).overflowed = ∅ := by
    decide +kernel
  obtain ⟨old, found, placed, -⟩ := (steps _ updates).1 (sampleSurface 1 1) 1 1 sampleNarrowed 2
    rfl accepted fun ⟨owner, inside, _⟩ => absurd (roomy ▸ inside) (Finset.notMem_empty owner)
  have live : ((windowsRuns.final Windows.default sampleMoved).windows[sampleSurface 1 1]?).isSome =
      true := by decide +kernel
  obtain ⟨window, moved⟩ := Option.isSome_iff_exists.mp live
  have still : ((windowsRuns.final Windows.default
      sampleDropped).windows[sampleSurface 1 1]?).isSome = true := by decide +kernel
  obtain ⟨final, dropped⟩ := Option.isSome_iff_exists.mp still
  have held : (windowsRuns.final Windows.default sampleUpdated).capture.map
      (fun capture => (capture.window, capture.role)) = some (sampleSurface 1 1, .drag) := by
    decide +kernel
  obtain ⟨capture, captured, grip⟩ := Option.map_eq_some_iff.mp held
  obtain ⟨onto, drags⟩ := Prod.mk.inj grip
  have gestures : Gestures (windowsRuns.final Windows.default sampleUpdated)
      (.pointer (sampleMotion sampleFar) sampleGrip) capture old ⟨sampleFar, sampleFar⟩ := by
    refine ⟨⟨_, _, rfl, by decide +kernel, rfl⟩, captured, ?_, ?_⟩
    · rw [onto]
      decide +kernel
    · rw [onto]
      exact found
  have kept := (steps _ moves).2.2 capture old window _ gestures drags (by rw [onto]; exact moved)
  refine ⟨old, window, final, found, placed, moved, ?_, kept, dropped, (valid _ _ dropped).1⟩
  have apart : (windowsRuns.final Windows.default sampleMoved).windows[sampleSurface 1 1]?.map
      (fun window => window.options) ≠ some sampleNarrowed := by decide +kernel
  rw [moved] at apart
  exact fun same => apart (congrArg some (same.trans placed))

/-- The size that an update gave a window while it was dragged is lost with the
next motion, and the window is smaller than its minimum. -/
theorem drag_loses_size :
    (windowsStep (windowsRuns.final Windows.default sampleDrag)
        (.update (sampleSurface 1 1) 1 1 sampleEnlarged)).2.windows[sampleSurface 1 1]?.map
          (fun window => window.options) = some sampleEnlarged ∧
      (windowsRuns.final Windows.default (sampleDrag ++
        [.update (sampleSurface 1 1) 1 1 sampleEnlarged,
          .pointer (sampleMotion sampleNear) sampleGrip])).windows[sampleSurface 1 1]?.map
            (fun window => (window.options.bounds.width, window.options.validate.isOk)) =
        some ((sampleOptions .floating).bounds.width, false) := by
  decide +kernel

end VividProtocol.Overlay

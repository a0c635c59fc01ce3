import Mathlib.Tactic
import VividProtocol.Overlay.Moves

/-!
# Routing of input

Which windows the events of a pointer, wheel or keyboard call are queued for,
what a call that was not consumed leaves behind, and how long a button whose
press dismissed a popup is swallowed.
-/

set_option autoImplicit false

namespace VividProtocol.Overlay

open VividProtocol.Library
open VividProtocol.Library.OrderedForest
open VividProtocol.Library.Transition

open Windows

/-! ## What was queued -/

/-- The journal has grown by events that are allowed. -/
def Adds (allowed : SurfaceIdentity → Event → Prop) (before after : Windows) : Prop :=
  ∃ notes, after.journal = before.journal ++ notes ∧
    ∀ note ∈ notes, ∃ event, note = .queued event ∧ allowed event.window event.event

namespace Adds

variable {allowed : SurfaceIdentity → Event → Prop} {before middle after : Windows}

theorem of_eq (same : after.journal = before.journal) : Adds allowed before after :=
  ⟨[], by rw [same, List.append_nil], by simp⟩

theorem trans (first : Adds allowed before middle) (second : Adds allowed middle after) :
    Adds allowed before after := by
  obtain ⟨sooner, middleIs, soonerAllowed⟩ := first
  obtain ⟨later, afterIs, laterAllowed⟩ := second
  refine ⟨sooner ++ later, by rw [afterIs, middleIs, List.append_assoc], ?_⟩
  intro note inside
  rcases List.mem_append.mp inside with inside | inside
  · exact soonerAllowed note inside
  · exact laterAllowed note inside

end Adds

theorem Sheds.adds {allowed : SurfaceIdentity → Event → Prop} {before after : Windows}
    (sheds : Sheds allowed before after) : Adds allowed before after := by
  induction sheds with
  | refl => exact .of_eq rfl
  | queued _ _ _ _ _ permitted ih =>
      exact ih.trans ⟨[_], rfl, by
        intro note inside
        exact ⟨_, List.mem_singleton.mp inside, permitted⟩⟩
  | dropped _ owner ih =>
      refine ih.trans (.of_eq ?_)
      rw [dropOwner_eq]
  | marked _ _ _ ih => exact ih.trans (.of_eq rfl)
  | pointed _ _ _ _ ih => exact ih.trans (.of_eq rfl)

theorem Moves.adds {allowed : SurfaceIdentity → Event → Prop} {before after : Windows}
    (moves : Moves allowed before after) : Adds allowed before after := by
  induction moves with
  | refl => exact .of_eq rfl
  | shed _ sheds ih => exact ih.trans sheds.adds
  | forgot _ _ ih => exact ih.trans (.of_eq rfl)
  | replaced _ _ _ _ ih => exact ih.trans (.of_eq rfl)
  | restacked _ _ _ ih => exact ih.trans (.of_eq rfl)
  | swallowed _ _ _ ih => exact ih.trans (.of_eq rfl)

/-! ## Calls of input -/

/-- A call of `pointer`, `wheel` or `keyboard`. -/
def Operation.input : Operation → Bool
  | .keyboard _ _ => true
  | .wheel _ _ _ _ => true
  | .pointer _ _ => true
  | _ => false

/-- Something hit at a position is topmost among what input may reach there. -/
def Topmost {Region : Type} (state : Windows) (role : Region → HitRole) (position : Point)
    (hit : SurfaceIdentity → Point → Option Region) (id : SurfaceIdentity) : Prop :=
  let under := fun other =>
    state.Eligible other ∧ ∃ window inside region, state.windows[other]? = some window ∧
      window.options.bounds.contains position = true ∧
      state.localPoint other position = some inside ∧ hit other inside = some region ∧
      role region ≠ .transparent
  under id ∧ ∀ other, under other → other = id ∨ [other, id].Sublist state.stack

/-- The window that the input of a call may be queued for. -/
def Windows.receiver (state : Windows) : Operation → Option SurfaceIdentity
  | .keyboard _ _ => state.focus.filter state.eligible
  | .wheel position _ _ hit => (state.topmostHit Prod.snd position hit).map Prod.fst
  | .pointer report hit =>
      match state.capture with
      | some capture => if state.eligible capture.window then some capture.window else none
      | none => (state.targetAt report.position hit).map Prod.fst
  | _ => none

theorem Forest.topmost {state : Windows} (forest : Forest state) {Region : Type}
    {role : Region → HitRole} {position : Point}
    {hit : SurfaceIdentity → Point → Option Region} {id : SurfaceIdentity} {inside : Point}
    {region : Region} (found : state.topmostHit role position hit = some (id, inside, region)) :
    Topmost state role position hit id := by
  obtain ⟨touched, -, above⟩ := topmostHit_eq_some found
  constructor
  · obtain ⟨eligible, window, live, contained, locus, reached, solid⟩ := touched
    exact ⟨(forest.eligible_iff id).mp eligible, window, inside, region, live, contained, locus,
      reached, solid⟩
  · rintro other ⟨eligible, window, point, target, live, contained, locus, reached, solid⟩
    exact above other point target ((forest.listed other).mpr ⟨window, live⟩)
      ⟨(forest.eligible_iff other).mpr eligible, window, live, contained, locus, reached, solid⟩

/-- Input is queued for the receiver only, which is eligible before the call. -/
theorem Forest.receiver_eligible {state : Windows} {operation : Operation}
    {id : SurfaceIdentity} (receives : state.receiver operation = some id) :
    state.eligible id = true := by
  cases operation with
  | keyboard event escape => exact (Option.filter_eq_some_iff.mp receives).2
  | wheel position scroll modifiers hit =>
      obtain ⟨target, found, same⟩ := Option.map_eq_some_iff.mp receives
      subst same
      exact (topmostHit_eq_some found).1.1
  | pointer report hit =>
      unfold receiver at receives
      cases held : state.capture with
      | some capture =>
          rw [held] at receives
          cases eligible : state.eligible capture.window with
          | false => simp [eligible] at receives
          | true =>
              simp only [eligible, if_true, Option.some.injEq] at receives
              exact receives ▸ eligible
      | none =>
          rw [held] at receives
          obtain ⟨target, found, same⟩ := Option.map_eq_some_iff.mp receives
          subst same
          exact (topmostHit_eq_some found).1.1
  | _ => cases receives

/-- A notice, or an event for the receiver of a call. -/
def Routed (state : Windows) (operation : Operation) (id : SurfaceIdentity) (event : Event) :
    Prop :=
  event.input = false ∨ state.receiver operation = some id

theorem Forest.input_adds {state : Windows} (forest : Forest state) {operation : Operation}
    (input : operation.input = true) :
    Adds (Routed state operation) state (windowsStep state operation).2 := by
  have known : ∀ id, state.eligible id = true → id.context.session ∈ state.owners :=
    fun id eligible => forest.known (forest.live_of_eligible eligible)
  have notices : ∀ id event, event.input = false → Routed state operation id event :=
    fun _ _ notice => .inl notice
  cases operation with
  | keyboard event escape =>
      refine (keyboard_moves notices state event escape known ?_).adds
      intro id focused eligible
      exact .inr (Option.filter_eq_some_iff.mpr ⟨focused, eligible⟩)
  | wheel position scroll modifiers hit =>
      refine (wheel_moves notices state position scroll modifiers hit known ?_).adds
      intro id inside region found
      exact .inr (Option.map_eq_some_iff.mpr ⟨_, found, rfl⟩)
  | pointer report hit =>
      have captured : ∀ capture, state.capture = some capture →
          state.eligible capture.window = true →
          state.receiver (.pointer report hit) = some capture.window := by
        intro capture held eligible
        unfold receiver
        simp only [held, eligible, if_true]
      have free : ∀ id inside target, state.capture = none →
          state.targetAt report.position hit = some (id, inside, target) →
          state.receiver (.pointer report hit) = some id := by
        intro id inside target held found
        unfold receiver
        simp only [held, found, Option.map_some]
      rcases pointer_moves notices state report hit known
        (fun capture held eligible _ => .inr (captured capture held eligible))
        (fun id inside target held found => .inr (free id inside target held found)) with
        moves | ⟨button, -, -, reached⟩
      · exact moves.adds
      · refine .of_eq ?_
        show (state.pointer report hit).2.journal = state.journal
        rw [reached]
  | _ => cases input

/-! ## Calls that reach their window -/

/-- An event is queued for its window if the window is still there after it. -/
theorem Forest.emit_queued {state : Windows} (forest : Forest state) {id : SurfaceIdentity}
    {event : Event} (known : id.context.session ∈ state.owners)
    (live : (state.emit id event).Live id) :
    ∃ window, (state.emit id event).journal =
      state.journal ++ [.queued (stamp window id event)] := by
  have whole : Forest (state.emit id event) := forest.emit (.inr known)
  obtain ⟨window, found⟩ := live
  obtain ⟨queue, queued⟩ := whole.served id ⟨window, found⟩
  cases told : state.deliver id event with
  | none =>
      have emitted : state.emit id event =
          (state.revokeOwner id.context.session).markOverflow id.context.session := by
        unfold Windows.emit
        rw [told]
      have marked : id.context.session ∈ (state.emit id event).overflowed := by
        rw [emitted]
        exact Finset.mem_insert_self _ _
      rw [whole.disjoint _ marked] at queued
      cases queued
  | some after =>
      have emitted : state.emit id event = after := by
        unfold Windows.emit
        rw [told]
      rw [emitted] at found queued ⊢
      rcases deliver_eq_some told with ⟨rfl, gone | gone⟩ | ⟨old, before, full, -, -, -, rfl⟩
      · cases gone.symm.trans found
      · cases gone.symm.trans queued
      · exact ⟨old, rfl⟩

/-- A wheel report is queued for the topmost window it hits unless that window's
session is revoked. -/
theorem Forest.wheel_queued {state : Windows} (forest : Forest state) {position : Point}
    {scroll : Scroll} {modifiers : UInt32}
    {hit : SurfaceIdentity → Point → Option (UInt64 × HitRole)} {id : SurfaceIdentity}
    {inside : Point} {region : UInt64 × HitRole}
    (found : state.topmostHit Prod.snd position hit = some (id, inside, region))
    (live : (state.wheel position scroll modifiers hit).2.Live id) :
    ∃ window, (state.wheel position scroll modifiers hit).2.journal = state.journal ++
      [.queued (stamp window id
        (.wheel inside scroll.dx scroll.dy modifiers scroll.precise scroll.phase))] := by
  have eligible : state.eligible id = true := (topmostHit_eq_some found).1.1
  unfold Windows.wheel at live ⊢
  rw [found] at live ⊢
  exact forest.emit_queued (forest.known (forest.live_of_eligible eligible)) live

theorem Forest.pointerHit_queued {state : Windows} (forest : Forest state)
    {report : PointerReport} {id : SurfaceIdentity} {inside : Point} {target : HitRegion}
    (known : id.context.session ∈ state.owners)
    (live : (state.pointerHit report id inside target).2.Live id) :
    ∃ notes window, (state.pointerHit report id inside target).2.journal =
      state.journal ++ notes ++
        [.queued (stamp window id (pointerEvent report inside target.id))] := by
  -- The press and the hover before the report only add to the journal.
  have reached : ∀ middle, Forest middle → middle.owners = state.owners →
      Moves (fun _ _ => True) state middle →
      ((middle.setHover (some ⟨id, target.id, target.cursor⟩)).emit id
        (pointerEvent report inside target.id)).Live id →
      ∃ notes window, ((middle.setHover (some ⟨id, target.id, target.cursor⟩)).emit id
          (pointerEvent report inside target.id)).journal =
        state.journal ++ notes ++
          [.queued (stamp window id (pointerEvent report inside target.id))] := by
    intro middle between owners moves there
    have entered := between.setHover (some ⟨id, target.id, target.cursor⟩)
    obtain ⟨notes, grown, -⟩ :=
      (moves.shed (setHover_sheds Forest.notices middle
        (some ⟨id, target.id, target.cursor⟩))).adds
    have served : id.context.session ∈
        (middle.setHover (some ⟨id, target.id, target.cursor⟩)).owners := by
      rw [setHover_owners, owners]
      exact known
    obtain ⟨window, queued⟩ := entered.emit_queued served there
    exact ⟨notes, window, by rw [queued, grown]⟩
  unfold Windows.pointerHit at live ⊢
  cases presses : report.presses with
  | false =>
      rw [presses] at live
      exact reached state forest rfl .refl live
  | true =>
      rw [presses] at live
      exact reached _ (forest.pressTarget id report.position target)
        (Forest.pressTarget_owners id report.position target)
        (pressTarget_moves Forest.notices state id report.position target) live

/-- A free pointer report is queued for the topmost window it hits, unless its button
is swallowed, it dismisses a popup, or that window's session is revoked. -/
theorem Forest.pointer_queued {state : Windows} (forest : Forest state) {report : PointerReport}
    {hit : SurfaceIdentity → Point → Option HitRegion} {id : SurfaceIdentity} {inside : Point}
    {target : HitRegion} (found : state.targetAt report.position hit = some (id, inside, target))
    (heard : state.swallows report = false) (free : state.capture = none)
    (keeps : ∀ popup, state.foremostPopup = some popup → report.presses = true →
      popup.options.bounds.contains report.position = true)
    (live : (state.pointer report hit).2.Live id) :
    ∃ notes window, (state.pointer report hit).2.journal = state.journal ++ notes ++
      [.queued (stamp window id (pointerEvent report inside target.id))] := by
  have eligible : state.eligible id = true := (topmostHit_eq_some found).1.1
  have same : state.pointer report hit = state.pointerHit report id inside target := by
    have unswallowed :
        (report.button.filter fun pair => decide (pair.1 ∈ state.swallowedButtons)) = none := by
      unfold swallows at heard
      cases pressed : report.button with
      | none => rfl
      | some pair =>
          rw [pressed] at heard
          exact if_neg (Bool.eq_false_iff.mp heard)
    have stays : (state.foremostPopup.filter fun popup =>
        report.presses && ! popup.options.bounds.contains report.position) = none := by
      cases popup : state.foremostPopup with
      | none => rfl
      | some window =>
          cases presses : report.presses with
          | false => rfl
          | true => simp [keeps window popup presses]
    unfold Windows.pointer
    rw [unswallowed]
    dsimp only
    rw [free]
    dsimp only
    unfold pointerFree
    rw [stays, found]
  rw [same] at live ⊢
  exact forest.pointerHit_queued (forest.known (forest.live_of_eligible eligible)) live

/-! ## Calls that were not consumed -/

/-- No modal is effectively visible. -/
def Unblocked (state : Windows) : Prop := ∀ id, state.Effective id → ¬ state.Modal id

theorem Forest.unblocked {state : Windows} (forest : Forest state)
    (open' : state.blocked = false) : Unblocked state := by
  unfold blocked at open'
  rw [Option.isSome_eq_false_iff, Option.isNone_iff_eq_none] at open'
  exact forest.topModal_eq_none.mp open'

theorem Unblocked.within {before after : Windows} (unblocked : Unblocked before)
    (within : Within before after) : Unblocked after :=
  fun id effective modal => unblocked id (within.effective effective) (within.modal modal)

/-- What a call that returned false has queued, and what it leaves. -/
theorem Forest.unconsumed {state : Windows} (forest : Forest state) {operation : Operation}
    (input : operation.input = true) (answer : (windowsStep state operation).1 = .flag false) :
    Adds (fun _ event => event.input = false) state (windowsStep state operation).2 ∧
      Unblocked (windowsStep state operation).2 := by
  have notices : ∀ (id : SurfaceIdentity) (event : Event), event.input = false →
      (fun _ event => event.input = false) id event := fun _ _ notice => notice
  cases operation with
  | keyboard event escape =>
      have outcome := state.keyboard_outcome event escape
      change Answer.flag (state.keyboard event escape).1 = _ at answer
      change Adds _ state (state.keyboard event escape).2 ∧
        Unblocked (state.keyboard event escape).2
      generalize state.keyboard event escape = reached at outcome answer
      cases outcome with
      | swallowed _ _ _ => cases answer
      | unfocused _ =>
          exact ⟨.of_eq rfl, forest.unblocked (Answer.flag.inj answer)⟩
      | dismissed _ _ => cases answer
      | emitted _ _ => cases answer
  | wheel position scroll modifiers hit =>
      change Answer.flag (state.wheel position scroll modifiers hit).1 = _ at answer
      change Adds _ state (state.wheel position scroll modifiers hit).2 ∧
        Unblocked (state.wheel position scroll modifiers hit).2
      unfold Windows.wheel at answer ⊢
      cases found : state.topmostHit Prod.snd position hit with
      | none =>
          rw [found] at answer
          exact ⟨.of_eq rfl, forest.unblocked (Answer.flag.inj answer)⟩
      | some target =>
          rw [found] at answer
          cases answer
  | pointer report hit =>
      have outcome := state.pointer_outcome report hit
      change Answer.flag (state.pointer report hit).1 = _ at answer
      change Adds _ state (state.pointer report hit).2 ∧ Unblocked (state.pointer report hit).2
      generalize state.pointer report hit = reached at outcome answer
      cases outcome with
      | swallowed _ _ => cases answer
      | cancelled _ _ _ =>
          have sheds := cancelCapture_sheds notices state
          exact ⟨(sheds _).adds, (forest.shed (sheds _)).unblocked (Answer.flag.inj answer)⟩
      | captured _ held eligible =>
          unfold Windows.pointerCaptured at answer
          rw [eligible, if_neg (by decide)] at answer
          cases released : report.releases with
          | false =>
              rw [released] at answer
              cases answer
          | true =>
              rw [released] at answer
              cases answer
      | dismissed _ _ _ _ _ => cases answer
      | missed _ _ _ =>
          have left := setHover_sheds notices state none
          have leftForest := forest.shed left
          unfold Windows.pointerMissed at answer ⊢
          dsimp only at answer ⊢
          cases unblocked : (state.setHover none).blocked with
          | true =>
              simp [unblocked] at answer
          | false =>
              have clear := leftForest.unblocked unblocked
              cases report.presses with
              | false => exact ⟨left.adds, clear⟩
              | true =>
                  have moved := changeFocus_sheds notices (state.setHover none) none
                  exact ⟨(left.trans moved).adds, clear.within moved.within⟩
      | met _ _ _ => cases answer
  | _ => cases input

/-! ## Swallowed buttons -/

theorem Sheds.swallowedButtons {allowed : SurfaceIdentity → Event → Prop} {before after : Windows}
    (sheds : Sheds allowed before after) : after.swallowedButtons = before.swallowedButtons := by
  induction sheds with
  | refl => rfl
  | queued _ _ _ _ _ _ ih => exact ih
  | dropped _ owner ih =>
      rw [dropOwner_eq]
      exact ih
  | marked _ _ _ ih => exact ih
  | pointed _ _ _ _ ih => exact ih

theorem Moves.swallowedButtons {allowed : SurfaceIdentity → Event → Prop} {before after : Windows}
    (moves : Moves allowed before after) : before.swallowedButtons ⊆ after.swallowedButtons := by
  induction moves with
  | refl => exact Finset.Subset.refl _
  | shed _ sheds ih =>
      rw [sheds.swallowedButtons]
      exact ih
  | forgot _ _ ih => exact ih
  | replaced _ _ _ _ ih => exact ih
  | restacked _ _ _ ih => exact ih
  | swallowed _ more _ ih => exact ih.trans more

/-- A report that presses or releases a button. -/
def Operation.reports (operation : Operation) (button : UInt16) (down : Bool) : Prop :=
  ∃ report hit, operation = .pointer report hit ∧ report.button = some (button, down)

/-- The last popup of the stack that input may reach. -/
def TopPopup (state : Windows) (id : SurfaceIdentity) (popup : Window) : Prop :=
  let candidate := fun other (window : Window) =>
    state.Eligible other ∧ state.windows[other]? = some window ∧ window.options.mode = .popup
  candidate id popup ∧
    ∀ other window, candidate other window → other = id ∨ [other, id].Sublist state.stack

/-- A press outside the foremost popup, while nothing is captured and the
button is not swallowed already: it dismisses the popup. -/
def DismissingPress (event : Transition.Event Windows Operation Answer) (button : UInt16) : Prop :=
  ∃ report hit popup, event.input = .pointer report hit ∧
    report.button = some (button, true) ∧ event.before.capture = none ∧
    button ∉ event.before.swallowedButtons ∧ TopPopup event.before popup.identity popup ∧
    popup.options.bounds.contains report.position = false

theorem Forest.foremostPopup_eq_some {state : Windows} (forest : Forest state) {popup : Window} :
    state.foremostPopup = some popup ↔ TopPopup state popup.identity popup := by
  have kind : ∀ other, (state.effectivelyVisible other && (state.get other).any fun window =>
      decide (window.options.mode = .popup) && state.eligible window.identity) = true ↔
      state.Eligible other ∧
        ∃ window, state.windows[other]? = some window ∧ window.options.mode = .popup := by
    intro other
    rw [Bool.and_eq_true, forest.effectivelyVisible_iff, Option.any_eq_true]
    simp only [Windows.get, Bool.and_eq_true, decide_eq_true_eq]
    constructor
    · rintro ⟨-, window, found, popups, reached⟩
      rw [forest.named other window found, forest.eligible_iff] at reached
      exact ⟨reached, window, found, popups⟩
    · rintro ⟨reached, window, found, popups⟩
      refine ⟨reached.1, window, found, popups, ?_⟩
      rw [forest.named other window found, forest.eligible_iff]
      exact reached
  have last : ∀ id, state.foremostPopup.map Window.identity = some id ↔
      id ∈ state.stack ∧ (state.Eligible id ∧
        ∃ window, state.windows[id]? = some window ∧ window.options.mode = .popup) ∧
      ∀ other ∈ state.stack, (state.Eligible other ∧
        ∃ window, state.windows[other]? = some window ∧ window.options.mode = .popup) →
        other = id ∨ [other, id].Sublist state.stack := by
    intro id
    unfold Windows.foremostPopup
    rw [← List.getLast?_map, forest.visible_filter_map,
      getLast?_filter_eq_some forest.ordered.nodup]
    simp only [kind]
  have stored : ∀ window, state.foremostPopup = some window →
      state.windows[window.identity]? = some window := by
    intro window found
    unfold Windows.foremostPopup at found
    have listed := (List.mem_filter.mp (List.mem_of_getLast? found)).1
    obtain ⟨key, -, atKey⟩ := List.mem_filterMap.mp (List.mem_filter.mp listed).1
    rw [forest.named key window atKey]
    exact atKey
  constructor
  · intro found
    obtain ⟨-, ⟨eligible, window, live, mode⟩, latest⟩ :=
      (last popup.identity).mp (by rw [found, Option.map_some])
    rw [stored popup found, Option.some.injEq] at live
    subst live
    refine ⟨⟨eligible, stored popup found, mode⟩, ?_⟩
    rintro other window ⟨reached, live, popups⟩
    exact latest other ((forest.listed other).mpr ⟨window, live⟩) ⟨reached, window, live, popups⟩
  · rintro ⟨⟨eligible, live, mode⟩, latest⟩
    have found := (last popup.identity).mpr
      ⟨(forest.listed _).mpr ⟨popup, live⟩, ⟨eligible, popup, live, mode⟩, by
        rintro other - ⟨reached, window, live, popups⟩
        exact latest other window ⟨reached, live, popups⟩⟩
    obtain ⟨window, found, named⟩ := Option.map_eq_some_iff.mp found
    have same := stored window found
    rw [named, live, Option.some.injEq] at same
    rw [found, same]

/-- The press that dismisses a popup is swallowed. -/
theorem Forest.dismissing_press {state : Windows} (forest : Forest state) {operation : Operation}
    {button : UInt16} (press : DismissingPress (windowsRuns.event state operation) button) :
    button ∈ (windowsStep state operation).2.swallowedButtons := by
  obtain ⟨report, hit, popup, asked, reported, free, quiet, top, outside⟩ := press
  dsimp only [Machine.event_input, Machine.event_before] at asked free quiet top
  subst asked
  have foremost := forest.foremostPopup_eq_some.mpr top
  show button ∈ (state.pointer report hit).2.swallowedButtons
  unfold Windows.pointer
  have unswallowed : (report.button.filter fun pair =>
      decide (pair.1 ∈ state.swallowedButtons)) = none := by
    simp [reported, quiet]
  have dismisses : (state.foremostPopup.filter fun popup =>
      report.presses && ! popup.options.bounds.contains report.position) = some popup := by
    simp [foremost, PointerReport.presses, reported, outside]
  rw [unswallowed]
  simp only [free]
  unfold Windows.pointerFree
  rw [dismisses]
  simp only [reported]
  have closed := (close_moves Forest.notices
    { state with swallowedButtons := insert button state.swallowedButtons } popup.identity
      .outsidePress).swallowedButtons
  exact closed (Finset.mem_insert_self _ _)

/-- A swallowed button stays so until its release or the loss of the pane. -/
theorem Forest.swallowed_kept {state : Windows} (forest : Forest state) {operation : Operation}
    {button : UInt16} (held : button ∈ state.swallowedButtons)
    (focused : operation ≠ .setPaneFocus false) (pressed : ¬ operation.reports button false) :
    button ∈ (windowsStep state operation).2.swallowedButtons := by
  have effect := windowsStep_effect forest operation
  generalize (windowsStep state operation).2 = after at effect
  cases effect with
  | moved moves => exact moves.swallowedButtons held
  | created _ _ moves => exact moves.swallowedButtons held
  | updated _ _ _ _ moves => exact moves.swallowedButtons held
  | @released report hit other asked reported =>
      refine Finset.mem_erase.mpr ⟨?_, held⟩
      rintro rfl
      exact pressed ⟨report, hit, asked, reported⟩
  | unfocused asked _ => exact absurd asked focused
  | @tookEvent owner _ =>
      obtain ⟨events, same⟩ := takeEvent_eq state owner
      rw [same]
      exact held
  | tookOverflow _ => exact held

/-- A report of a swallowed button is consumed and changes nothing else. -/
theorem swallowed_report {state : Windows} {operation : Operation} {button : UInt16} {down : Bool}
    (held : button ∈ state.swallowedButtons) (reports : operation.reports button down) :
    (windowsStep state operation).1 = .flag true ∧
      ∃ buttons, (windowsStep state operation).2 =
        { state with swallowedButtons := buttons } := by
  obtain ⟨report, hit, rfl, reported⟩ := reports
  have swallowed : (report.button.filter fun pair =>
      decide (pair.1 ∈ state.swallowedButtons)) = some (button, down) := by
    simp [reported, held]
  show Answer.flag (state.pointer report hit).1 = _ ∧
    ∃ buttons, (state.pointer report hit).2 = { state with swallowedButtons := buttons }
  unfold Windows.pointer
  rw [swallowed]
  cases down with
  | true => exact ⟨rfl, state.swallowedButtons, rfl⟩
  | false => exact ⟨rfl, state.swallowedButtons.erase button, rfl⟩

/-- From a state that swallows a button on, every report of it is consumed as
long as it was neither released nor the pane lost its focus. -/
theorem swallowed_run {state : Windows} (forest : Forest state) {button : UInt16}
    (held : button ∈ state.swallowedButtons) {inputs : List Operation}
    {middle future : List (Transition.Event Windows Operation Answer)}
    {later : Transition.Event Windows Operation Answer}
    (cut : windowsRuns.history state inputs = middle ++ later :: future)
    (calm : ∀ event ∈ middle, event.input ≠ .setPaneFocus false ∧
      ¬ event.input.reports button false)
    {down : Bool} (reports : later.input.reports button down) :
    later.output = .flag true ∧
      ∃ buttons, later.after = { later.before with swallowedButtons := buttons } := by
  induction middle generalizing state inputs with
  | nil =>
      cases inputs with
      | nil => cases cut
      | cons operation rest =>
          simp only [Machine.history, List.nil_append, List.cons.injEq] at cut
          obtain ⟨rfl, -⟩ := cut
          exact swallowed_report held reports
  | cons event middle ih =>
      cases inputs with
      | nil => cases cut
      | cons operation rest =>
          simp only [Machine.history, List.cons_append, List.cons.injEq] at cut
          obtain ⟨rfl, cut⟩ := cut
          obtain ⟨focused, pressed⟩ := calm _ List.mem_cons_self
          exact ih (forest.step operation) (forest.swallowed_kept held focused pressed) cut
            fun event inside => calm event (List.mem_cons_of_mem _ inside)

/-! ## Isolation -/

/-- In every state that a run reaches, the input of a call is queued for one
eligible window at most, a call that returns false leaves no modal in effect,
and a press that dismissed a popup is consumed with its release. -/
theorem input_isolation (inputs : List Operation) :
    let state := windowsRuns.final Windows.default inputs
    (∀ operation, operation.input = true →
      ∃ notes, (windowsStep state operation).2.journal = state.journal ++ notes ∧
        (∀ first second, .queued first ∈ notes → .queued second ∈ notes →
          first.event.input = true → second.event.input = true →
          first.window = second.window) ∧
        (∀ event, .queued event ∈ notes → event.event.input = true →
          state.Eligible event.window ∧
            (∀ position scroll modifiers hit, operation = .wheel position scroll modifiers hit →
              Topmost state Prod.snd position hit event.window) ∧
            (∀ report hit, operation = .pointer report hit → state.capture = none →
              Topmost state HitRegion.role report.position hit event.window)) ∧
        ((windowsStep state operation).1 = .flag false →
          (∀ event, .queued event ∈ notes → event.event.input = false) ∧
            Unblocked (windowsStep state operation).2)) ∧
    ∀ past press middle later future button down,
      windowsRuns.history Windows.default inputs = past ++ press :: (middle ++ later :: future) →
      DismissingPress press button →
      (∀ event ∈ middle, event.input ≠ .setPaneFocus false ∧
        ¬ event.input.reports button false) →
      later.input.reports button down →
      later.output = .flag true ∧
        ∃ buttons, later.after = { later.before with swallowedButtons := buttons } := by
  intro state
  have forest : Forest state := forest_final inputs
  constructor
  · intro operation input
    obtain ⟨notes, grown, routed⟩ := forest.input_adds input
    have received : ∀ event, .queued event ∈ notes → event.event.input = true →
        state.receiver operation = some event.window := by
      intro event inside carries
      obtain ⟨other, same, notice | receives⟩ := routed _ inside
      · cases same
        rw [carries] at notice
        cases notice
      · cases same
        exact receives
    refine ⟨notes, grown, ?_, ?_, ?_⟩
    · intro first second firstIn secondIn firstInput secondInput
      have firstTo := received first firstIn firstInput
      rw [received second secondIn secondInput] at firstTo
      exact (Option.some.inj firstTo).symm
    · intro event inside carries
      have receives := received event inside carries
      refine ⟨(forest.eligible_iff _).mp (Forest.receiver_eligible receives), ?_, ?_⟩
      · rintro position scroll modifiers hit rfl
        obtain ⟨⟨id, point, region⟩, found, same⟩ := Option.map_eq_some_iff.mp receives
        cases same
        exact forest.topmost found
      · rintro report hit rfl free
        unfold receiver at receives
        rw [free] at receives
        obtain ⟨⟨id, point, region⟩, found, same⟩ := Option.map_eq_some_iff.mp receives
        cases same
        exact forest.topmost found
    · intro answer
      obtain ⟨⟨others, otherGrown, notices⟩, clear⟩ := forest.unconsumed input answer
      rw [grown, List.append_cancel_left_eq] at otherGrown
      subst otherGrown
      refine ⟨?_, clear⟩
      intro event inside
      obtain ⟨other, same, notice⟩ := notices _ inside
      cases same
      exact notice
  · intro past press middle later future button down cut dismisses calm reports
    obtain ⟨first, operation, second, -, -, pressIs, rest⟩ := windowsRuns.history_event cut
    subst pressIs
    have held := (forest_final first).dismissing_press dismisses
    exact swallowed_run ((forest_final first).step operation) held rest.symm calm reports

/-- A floating window and a popup that has the focus. -/
def samplePopup : List Operation :=
  [.create (sampleSurface 1 1) 1 (sampleOptions .floating),
    .create (sampleSurface 1 2) 1 (sampleOptions .popup)]

/-- The first button at a point outside of every window. -/
def sampleOutside (down : Bool) : Operation :=
  .pointer (sampleReport sampleFar down) fun _ _ => none

theorem sampleOutside_dismisses :
    DismissingPress (windowsRuns.event (windowsRuns.final Windows.default samplePopup)
      (sampleOutside true)) 0 := by
  have foremost : (windowsRuns.final Windows.default samplePopup).foremostPopup =
      some
        { identity := sampleSurface 1 2
          generation := 1
          revision := 1
          sceneRevision := 0
          options := sampleOptions .popup } := by decide +kernel
  exact ⟨_, _, _, rfl, rfl, by decide +kernel, by decide +kernel,
    (forest_final samplePopup).foremostPopup_eq_some.mp foremost, by decide +kernel⟩

/-- Text goes to the popup, and after a press outside dismissed it the release
is consumed too. -/
theorem input_isolation_popup :
    (windowsRuns.final Windows.default samplePopup).Eligible (sampleSurface 1 2) ∧
      (windowsStep (windowsRuns.final Windows.default (samplePopup ++ [sampleOutside true]))
        (sampleOutside false)).1 = .flag true := by
  constructor
  · obtain ⟨notes, grown, -, received, -⟩ := (input_isolation samplePopup).1
      (.keyboard (.text "a") false) rfl
    let typed : WindowEvent :=
      { window := sampleSurface 1 2
        generation := 1
        revision := 1
        sceneRevision := 0
        event := .text "a" }
    have queued : (windowsStep (windowsRuns.final Windows.default samplePopup)
        (.keyboard (.text "a") false)).2.journal =
        (windowsRuns.final Windows.default samplePopup).journal ++ [.queued typed] := by
      decide +kernel
    rw [grown, List.append_cancel_left_eq] at queued
    exact (received typed (by rw [queued]; exact List.mem_cons_self) rfl).1
  · exact ((input_isolation (samplePopup ++ [sampleOutside true, sampleOutside false])).2
      (windowsRuns.history Windows.default samplePopup) _ [] _ [] 0 false rfl
      sampleOutside_dismisses (by simp) ⟨_, _, rfl, rfl⟩).1

end VividProtocol.Overlay

import Mathlib.Tactic
import VividProtocol.Library.Result
import VividProtocol.Overlay.Operations

/-!
# The outcomes of the operations

What the operations with many checks can come to, one constructor an outcome.
-/

set_option autoImplicit false

namespace VividProtocol.Overlay

open VividProtocol.Library
open VividProtocol.Library.Result

theorem orScene_eq_ok {ε α : Type} {message : String} {result : Except ε α} {value : α}
    (done : orScene message result = .ok value) : result = .ok value := by
  cases result with
  | error error => cases done
  | ok other =>
      cases done
      rfl

/-- An action names windows of the session that sends it. -/
theorem identity_session {address : WindowAddress} {owner : SessionIdentity}
    {id : SurfaceIdentity} (named : address.toIdentity owner = .ok id) :
    id.context.session = owner := by
  unfold WindowAddress.toIdentity at named
  rw [orInvalid_eq_ok, bind_eq_ok_iff] at named
  obtain ⟨context, found, surface⟩ := named
  unfold SessionIdentity.toContext at found
  unfold ContextIdentity.toSurface at surface
  obtain ⟨contextId, -, contextIs⟩ := bind_eq_ok_iff.mp found
  obtain ⟨surfaceId, -, surfaceIs⟩ := bind_eq_ok_iff.mp surface
  cases contextIs
  cases surfaceIs
  rfl

namespace Windows

variable (state : Windows)

/-! ## Focus and creation -/

inductive FocusOutcome (id : SurfaceIdentity) : Except InvalidScene Unit × Windows → Prop
  | refused (error : InvalidScene) (blocked : state.eligible id = false) :
      FocusOutcome id (.error error, state)
  | taken (eligible : state.eligible id = true) : FocusOutcome id (.ok (), state.takeFocus id)

theorem requestFocus_outcome (id : SurfaceIdentity) :
    state.FocusOutcome id (state.requestFocus id) := by
  unfold requestFocus
  cases eligible : state.eligible id with
  | false => exact .refused _ eligible
  | true => exact .taken eligible

inductive CreateOutcome (id : SurfaceIdentity) (generation : UInt64) (options : WindowOptions) :
    Except InvalidScene Unit × Windows → Prop
  | refused (error : InvalidScene) : CreateOutcome id generation options (.error error, state)
  | inserted (admitted : state.admitCreate id generation options = .ok ())
      (quiet : takesFocus options = false) :
      CreateOutcome id generation options (.ok (), state.insertWindow id generation options)
  | focused (admitted : state.admitCreate id generation options = .ok ())
      (takes : takesFocus options = true) {answer : Except InvalidScene Unit × Windows}
      (outcome : (state.insertWindow id generation options).FocusOutcome id answer) :
      CreateOutcome id generation options answer

theorem create_outcome (id : SurfaceIdentity) (generation : UInt64) (options : WindowOptions) :
    state.CreateOutcome id generation options (state.create id generation options) := by
  unfold create
  cases admitted : state.admitCreate id generation options with
  | error error => exact .refused error
  | ok =>
      dsimp only
      cases takes : takesFocus options with
      | false => exact .inserted admitted takes
      | true => exact .focused admitted takes (requestFocus_outcome _ id)

/-! ## Update -/

/-- The window that an admitted update puts in place. -/
def updated (old : Window) (options : WindowOptions) (next : UInt64) : Window :=
  { old with
    options := options
    revision := next }

inductive UpdateOutcome (id : SurfaceIdentity) (generation revision : UInt64)
    (options : WindowOptions) : Except InvalidScene UInt64 × Windows → Prop
  | refused (error : InvalidScene) :
      UpdateOutcome id generation revision options (.error error, state)
  | hidden (valid : options.validate = .ok ()) {old : Window} {next : UInt64}
      (live : state.windows[id]? = some old)
      (admitted : state.admitUpdate id old generation revision options = .ok next)
      (before : old.options.visible = true) (after : options.visible = false) :
      UpdateOutcome id generation revision options
        (.ok next, (state.setWindow id (updated old options next)).hideGroup id)
  | focused (valid : options.validate = .ok ()) {old : Window} {next : UInt64}
      (live : state.windows[id]? = some old)
      (admitted : state.admitUpdate id old generation revision options = .ok next)
      (before : old.options.visible = false) (after : options.visible = true)
      (mode : options.mode ≠ .floating) {answer : Except InvalidScene Unit × Windows}
      (outcome : (state.setWindow id (updated old options next)).FocusOutcome id answer) :
      UpdateOutcome id generation revision options (answer.1.map fun _ => next, answer.2)
  | replaced (valid : options.validate = .ok ()) {old : Window} {next : UInt64}
      (live : state.windows[id]? = some old)
      (admitted : state.admitUpdate id old generation revision options = .ok next)
      (quiet : old.options.visible = options.visible ∨
        old.options.visible = false ∧ options.visible = true ∧ options.mode = .floating) :
      UpdateOutcome id generation revision options
        (.ok next, state.setWindow id (updated old options next))

theorem update_outcome (id : SurfaceIdentity) (generation revision : UInt64)
    (options : WindowOptions) :
    state.UpdateOutcome id generation revision options
      (state.update id generation revision options) := by
  unfold update
  cases valid : options.validate with
  | error error => exact .refused error
  | ok =>
      cases live : state.windows[id]? with
      | none => exact .refused _
      | some old =>
          dsimp only
          cases admitted : state.admitUpdate id old generation revision options with
          | error error => exact .refused error
          | ok next =>
              dsimp only
              rw [show ({ old with options := options, revision := next } : Window) =
                updated old options next from rfl]
              have outcome := requestFocus_outcome (state.setWindow id (updated old options next)) id
              generalize (state.setWindow id (updated old options next)).requestFocus id = answer
                at outcome
              cases before : old.options.visible with
              | false =>
                  cases after : options.visible with
                  | false => exact .replaced valid live admitted (.inl (before.trans after.symm))
                  | true =>
                      by_cases mode : options.mode = .floating
                      · simpa [mode] using
                          UpdateOutcome.replaced valid live admitted (.inr ⟨before, after, mode⟩)
                      · have focused :=
                          UpdateOutcome.focused valid live admitted before after mode outcome
                        rcases answer with ⟨error | done, reached⟩
                        · simpa [mode, Except.map] using focused
                        · simpa [mode, Except.map] using focused
              | true =>
                  cases after : options.visible with
                  | false => simpa using UpdateOutcome.hidden valid live admitted before after
                  | true => exact .replaced valid live admitted (.inl (before.trans after.symm))

/-! ## Actions -/

/-- The bounds that `apply_action` puts in place: centered ones, or none. -/
def actionBounds (action : WindowAction) (viewport : Viewport) (bounds : Rect) :
    Except InvalidScene (Option Rect) :=
  if action = .center then (centered viewport bounds).map some else .ok none

inductive ActionOutcome (owner : SessionIdentity) (action : WindowAction) (viewport : Viewport) :
    Except InvalidScene (Option UInt64) × Windows → Prop
  | refused (error : InvalidScene) : ActionOutcome owner action viewport (.error error, state)
  | closed {id : SurfaceIdentity} (owned : id.context.session = owner) {old : Window}
      (live : state.windows[id]? = some old) (closes : action = .close) :
      ActionOutcome owner action viewport (.ok none, state.close id .closed)
  | performed {id : SurfaceIdentity} (owned : id.context.session = owner) {old : Window}
      (live : state.windows[id]? = some old) {middle : Windows}
      {error : InvalidScene} (done : state.perform id action = (.error error, middle)) :
      ActionOutcome owner action viewport (.error error, middle)
  | settled {id : SurfaceIdentity} (owned : id.context.session = owner) {old : Window}
      (live : state.windows[id]? = some old) (stays : action ≠ .close) {revision : UInt64}
      (next : checkedAdd old.revision 1 = some revision) {bounds : Option Rect}
      (asked : actionBounds action viewport old.options.bounds = .ok bounds) {middle : Windows}
      (done : state.perform id action = (.ok (), middle)) :
      ActionOutcome owner action viewport (middle.settle id revision bounds)

theorem applyAction_outcome (owner : SessionIdentity) (action : Action) (viewport : Viewport) :
    state.ActionOutcome owner action.action viewport (state.applyAction owner action viewport) := by
  unfold applyAction
  cases orScene "invalid window action" action.payload with
  | error error => exact .refused error
  | ok payload =>
      dsimp only
      cases named : orScene "invalid window identity" (action.address.toIdentity owner) with
      | error error => exact .refused error
      | ok id =>
          have owned := identity_session (orScene_eq_ok named)
          dsimp only
          cases live : state.windows[id]? with
          | none => exact .refused _
          | some old =>
              dsimp only
              by_cases stale : old.generation ≠ action.address.generation ∨
                  old.revision ≠ action.expectedRevision
              · rw [if_pos stale]
                exact .refused _
              rw [if_neg stale]
              by_cases closes : action.action = .close
              · rw [if_pos closes]
                exact .closed owned live closes
              rw [if_neg closes]
              cases next : checkedAdd old.revision 1 with
              | none => exact .refused _
              | some revision =>
                  dsimp only
                  cases asked : actionBounds action.action viewport old.options.bounds with
                  | error error =>
                      unfold actionBounds at asked
                      rw [asked]
                      exact .refused error
                  | ok bounds =>
                      have bounded := asked
                      unfold actionBounds at bounded
                      rw [bounded]
                      dsimp only
                      cases done : state.perform id action.action with
                      | mk result middle =>
                          cases result with
                          | error error => exact .performed owned live done
                          | ok => exact .settled owned live closes next asked done

/-! ## Hits -/

/-- A position lies in an eligible window, on a region that is not transparent. -/
def Touches {Region : Type} (role : Region → HitRole) (position : Point)
    (hit : SurfaceIdentity → Point → Option Region) (id : SurfaceIdentity) (inside : Point)
    (region : Region) : Prop :=
  state.eligible id = true ∧
    ∃ window, state.windows[id]? = some window ∧
      window.options.bounds.contains position = true ∧
      state.localPoint id position = some inside ∧ hit id inside = some region ∧
      role region ≠ .transparent

variable {state}

theorem touch_eq_some {Region : Type} {role : Region → HitRole} {position : Point}
    {hit : SurfaceIdentity → Point → Option Region} {id : SurfaceIdentity}
    {answer : SurfaceIdentity × Point × Region} (eligible : state.eligible id = true) :
    state.touch role position hit id = some answer ↔
      answer.1 = id ∧ state.Touches role position hit id answer.2.1 answer.2.2 := by
  obtain ⟨found, inside, region⟩ := answer
  unfold touch Touches
  cases live : state.windows[id]? with
  | none => simp
  | some window =>
      cases contained : window.options.bounds.contains position with
      | false => simp [contained]
      | true =>
          cases locus : state.localPoint id position with
          | none => simp [contained]
          | some point =>
              cases reached : hit id point with
              | none =>
                  refine iff_of_false (by simp [contained, reached]) ?_
                  rintro ⟨-, -, _, -, -, same, target, -⟩
                  cases same
                  rw [reached] at target
                  cases target
              | some target =>
                  by_cases clear : role target = .transparent
                  · refine iff_of_false (by simp [contained, reached, clear]) ?_
                    rintro ⟨-, -, _, -, -, same, other, solid⟩
                    cases same
                    rw [reached, Option.some.injEq] at other
                    exact solid (other ▸ clear)
                  · simp only [contained, reached, clear, Bool.not_true, Bool.false_eq_true,
                      if_false, Option.some.injEq, Prod.mk.injEq]
                    constructor
                    · rintro ⟨rfl, rfl, rfl⟩
                      exact ⟨rfl, eligible, window, rfl, contained, rfl, reached, clear⟩
                    · rintro ⟨rfl, -, _, -, -, rfl, other, -⟩
                      rw [reached, Option.some.injEq] at other
                      exact ⟨rfl, rfl, other⟩

/-- A hit is touched, and whatever else is touched lies below it in the stack. -/
theorem topmostHit_eq_some {Region : Type} {role : Region → HitRole} {position : Point}
    {hit : SurfaceIdentity → Point → Option Region} {id : SurfaceIdentity} {inside : Point}
    {region : Region} (found : state.topmostHit role position hit = some (id, inside, region)) :
    state.Touches role position hit id inside region ∧ id ∈ state.stack ∧
      ∀ other point target, other ∈ state.stack →
        state.Touches role position hit other point target →
        other = id ∨ [other, id].Sublist state.stack := by
  unfold topmostHit at found
  obtain ⟨above, top, below, split, matched, missed⟩ := List.findSome?_eq_some_iff.mp found
  have listed : ∀ other, other ∈ above ++ top :: below ↔
      other ∈ state.stack ∧ state.eligible other = true := by
    intro other
    rw [← split, List.mem_filter, List.mem_reverse]
  obtain ⟨topIn, topEligible⟩ := (listed top).mp (by simp)
  obtain ⟨same, touched⟩ := (touch_eq_some topEligible).mp matched
  dsimp only at same touched
  subst same
  refine ⟨touched, topIn, ?_⟩
  intro other point target inStack touches
  have otherIn := (listed other).mpr ⟨inStack, touches.1⟩
  rcases List.mem_append.mp otherIn with higher | lower
  · have nothing := missed other higher
    have something : state.touch role position hit other = some (other, point, target) :=
      (touch_eq_some touches.1).mpr ⟨rfl, touches⟩
    rw [something] at nothing
    cases nothing
  · rcases List.mem_cons.mp lower with same | lower
    · exact .inl same
    · right
      have pair : [id, other].Sublist (above ++ id :: below) :=
        (List.cons_sublist_cons.mpr (List.singleton_sublist.mpr lower)).trans
          (List.sublist_append_right _ _)
      rw [← split] at pair
      have reversed := (pair.trans List.filter_sublist).reverse
      rwa [List.reverse_reverse] at reversed

variable (state)

/-! ## Input -/

inductive KeyOutcome (event : Event) (escape : Bool) : Bool × Windows → Prop
  | swallowed (held : state.swallowedEscape = true) (escapes : escape = true) {after : Windows}
      (reached : after = state ∨ after = { state with swallowedEscape := false }) :
      KeyOutcome event escape (true, after)
  | unfocused (nobody : ∀ id, state.focus = some id → state.eligible id = false) :
      KeyOutcome event escape (state.blocked, state)
  | dismissed {id : SurfaceIdentity} (focused : state.focus = some id)
      (eligible : state.eligible id = true) :
      KeyOutcome event escape (true, { state with swallowedEscape := true }.close id .escape)
  | emitted {id : SurfaceIdentity} (focused : state.focus = some id)
      (eligible : state.eligible id = true) :
      KeyOutcome event escape (true, state.emit id event)

theorem keyboard_outcome (event : Event) (escape : Bool) :
    state.KeyOutcome event escape (state.keyboard event escape) := by
  unfold keyboard
  cases escapes : escape && state.swallowedEscape with
  | true =>
      rw [Bool.and_eq_true] at escapes
      refine .swallowed escapes.2 escapes.1 ?_
      cases releasesKey event with
      | true => exact .inr rfl
      | false => exact .inl rfl
  | false =>
      rw [if_neg (by decide)]
      cases found : state.focus.filter state.eligible with
      | none =>
          refine .unfocused fun id focused => ?_
          rw [Option.filter_eq_none_iff] at found
          exact Bool.eq_false_iff.mpr (found id focused)
      | some id =>
          obtain ⟨focused, eligible⟩ := Option.filter_eq_some_iff.mp found
          dsimp only
          cases escape && pressesKey event && state.dismissible id with
          | true => exact .dismissed focused eligible
          | false => exact .emitted focused eligible

/-- A window with new bounds, at the next revision. -/
def placed (window : Window) (bounds : Rect) (revision : UInt64) : Window :=
  { window with
    options := { window.options with bounds := bounds }
    revision := revision }

inductive GestureOutcome (capture : Capture) (point : Point) (settled : Bool) : Windows → Prop
  | still (none : ∀ (window : Window) (bounds : Rect),
        state.windows[capture.window]? = some window →
        gestureBounds capture window.options point ≠ some (.ok bounds)) :
      GestureOutcome capture point settled state
  | exhausted {window : Window} {bounds : Rect}
      (live : state.windows[capture.window]? = some window)
      (asked : gestureBounds capture window.options point = some (.ok bounds))
      (full : checkedAdd window.revision 1 = none) :
      GestureOutcome capture point settled (state.close capture.window .closed)
  | moved {window : Window} {bounds : Rect} {revision : UInt64}
      (live : state.windows[capture.window]? = some window)
      (asked : gestureBounds capture window.options point = some (.ok bounds))
      (next : checkedAdd window.revision 1 = some revision) :
      GestureOutcome capture point settled
        ((state.setWindow capture.window (placed window bounds revision)).emit capture.window
          (.geometry bounds settled))

theorem gesture_outcome (capture : Capture) (point : Point) (settled : Bool) :
    state.GestureOutcome capture point settled (state.gesture capture point settled) := by
  unfold gesture
  cases live : state.windows[capture.window]? with
  | none =>
      refine .still fun window bounds found => ?_
      rw [live] at found
      cases found
  | some window =>
      have still : (∀ bounds, gestureBounds capture window.options point ≠ some (.ok bounds)) →
          state.GestureOutcome capture point settled state := by
        intro unasked
        refine .still fun other bounds found => ?_
        rw [live, Option.some.injEq] at found
        exact found ▸ unasked bounds
      dsimp only
      cases asked : gestureBounds capture window.options point with
      | none =>
          refine still fun bounds same => ?_
          rw [asked] at same
          cases same
      | some result =>
          cases result with
          | error error =>
              refine still fun bounds same => ?_
              rw [asked] at same
              cases same
          | ok bounds =>
              dsimp only
              cases next : checkedAdd window.revision 1 with
              | none => exact .exhausted live asked next
              | some revision => exact .moved live asked next

inductive PointerOutcome (report : PointerReport)
    (hit : SurfaceIdentity → Point → Option HitRegion) : Bool × Windows → Prop
  | swallowed {button : UInt16} {down : Bool} (reported : report.button = some (button, down))
      (held : button ∈ state.swallowedButtons) :
      PointerOutcome report hit
        (true,
          if down then state
          else { state with swallowedButtons := state.swallowedButtons.erase button })
  | cancelled (quiet : state.swallows report = false) {capture : Capture}
      (held : state.capture = some capture)
      (hidden : state.eligible capture.window = false) :
      PointerOutcome report hit
        ((state.cancelCapture capture.window).blocked, state.cancelCapture capture.window)
  | captured (quiet : state.swallows report = false) {capture : Capture}
      (held : state.capture = some capture)
      (eligible : state.eligible capture.window = true) :
      PointerOutcome report hit (state.pointerCaptured capture report hit)
  | dismissed (quiet : state.swallows report = false) (free : state.capture = none)
      {popup : Window} (foremost : state.foremostPopup = some popup) {button : UInt16}
      (pressed : report.button = some (button, true))
      (outside : popup.options.bounds.contains report.position = false) :
      PointerOutcome report hit
        (true,
          { state with swallowedButtons := insert button state.swallowedButtons }.close
            popup.identity .outsidePress)
  | missed (quiet : state.swallows report = false) (free : state.capture = none)
      (nothing : state.targetAt report.position hit = none) :
      PointerOutcome report hit (state.pointerMissed report)
  | met (quiet : state.swallows report = false) (free : state.capture = none)
      {id : SurfaceIdentity} {inside : Point} {target : HitRegion}
      (found : state.targetAt report.position hit = some (id, inside, target)) :
      PointerOutcome report hit (state.pointerHit report id inside target)

theorem pointer_outcome (report : PointerReport)
    (hit : SurfaceIdentity → Point → Option HitRegion) :
    state.PointerOutcome report hit (state.pointer report hit) := by
  unfold pointer
  cases swallowed : report.button.filter fun pair =>
      decide (pair.1 ∈ state.swallowedButtons) with
  | some pair =>
      obtain ⟨reported, held⟩ := Option.filter_eq_some_iff.mp swallowed
      exact .swallowed reported (of_decide_eq_true held)
  | none =>
      have quiet : state.swallows report = false := by
        unfold swallows
        rw [Bool.eq_false_iff, ne_eq, Option.any_eq_true]
        rintro ⟨pair, reported, held⟩
        exact Option.filter_eq_none_iff.mp swallowed pair reported held
      dsimp only
      cases held : state.capture with
      | some capture =>
          dsimp only
          cases eligible : state.eligible capture.window with
          | true => exact .captured quiet held eligible
          | false =>
              have cancelled : state.PointerOutcome report hit _ :=
                .cancelled quiet held eligible
              unfold pointerCaptured
              rw [eligible]
              exact cancelled
      | none =>
          unfold pointerFree
          cases dismisses : state.foremostPopup.filter fun popup =>
              report.presses && ! popup.options.bounds.contains report.position with
          | some popup =>
              obtain ⟨foremost, both⟩ := Option.filter_eq_some_iff.mp dismisses
              unfold PointerReport.presses at both
              rw [Bool.and_eq_true, Bool.not_eq_true', Option.any_eq_true] at both
              obtain ⟨⟨⟨button, down⟩, reported, presses⟩, outside⟩ := both
              dsimp only at presses
              subst presses
              have dismissed : state.PointerOutcome report hit _ :=
                .dismissed quiet held foremost reported outside
              simpa only [reported] using dismissed
          | none =>
              dsimp only
              cases found : state.targetAt report.position hit with
              | none => exact .missed quiet held found
              | some triple => exact .met quiet held found

end Windows

end VividProtocol.Overlay

import Mathlib.Tactic
import VividProtocol.Overlay.Yield

/-!
# Modals of one session

All effectively visible modals belong to one session as long as no update shows
a hidden window that carries a modal of its own past the modal of another
session.  While a modal is in effect, the calls of another session leave it on
top, or overflow the queue of its session.
-/

set_option autoImplicit false

namespace VividProtocol.Overlay

open VividProtocol.Library
open VividProtocol.Library.OrderedForest
open VividProtocol.Library.Transition

open Windows

/-- The effectively visible modals belong to one session. -/
def OneSession (state : Windows) : Prop :=
  ∀ first second, state.Effective first → state.Modal first → state.Effective second →
    state.Modal second → first.context.session = second.context.session

/-- An update shows a hidden floating window, a modal below it thereby becomes
effectively visible, and a modal of another session is so already. -/
def Unveils (state : Windows) (operation : Operation) : Prop :=
  ∃ id generation revision options old next veiled modal,
    operation = .update id generation revision options ∧ options.validate = .ok () ∧
    state.windows[id]? = some old ∧
    state.admitUpdate id old generation revision options = .ok next ∧
    old.options.visible = false ∧ options.visible = true ∧ options.mode = .floating ∧
    state.Modal veiled ∧ Ancestor state.parent? id veiled ∧
    (∀ ancestor, Ancestor state.parent? ancestor veiled → ancestor ≠ id →
      ∃ window, state.windows[ancestor]? = some window ∧ window.options.visible = true) ∧
    state.Effective modal ∧ state.Modal modal ∧
    modal.context.session ≠ id.context.session

/-! ## What becomes visible -/

namespace Forest

variable {state : Windows} (forest : Forest state)

/-- Replacing a window shows nothing but what lies below it. -/
theorem setWindow_effective {id : SurfaceIdentity} {old window : Window}
    (live : state.windows[id]? = some old) (parent : window.options.parent = old.options.parent)
    {other : SurfaceIdentity} (effective : (state.setWindow id window).Effective other) :
    state.Effective other ∨
      old.options.visible = false ∧ window.options.visible = true ∧
        Ancestor state.parent? id other ∧
        ∀ ancestor, Ancestor state.parent? ancestor other → ancestor ≠ id →
          ∃ window, state.windows[ancestor]? = some window ∧ window.options.visible = true := by
  unfold Effective at effective
  rw [setWindow_parent? live parent] at effective
  have elsewhere : ∀ ancestor, Ancestor state.parent? ancestor other → ancestor ≠ id →
      ∃ window, state.windows[ancestor]? = some window ∧ window.options.visible = true := by
    intro ancestor above distinct
    obtain ⟨found, at_, visible⟩ := effective ancestor above
    rw [setWindow_lookup, if_neg (Ne.symm distinct)] at at_
    exact ⟨found, at_, visible⟩
  by_cases below : Ancestor state.parent? id other
  · have shown : window.options.visible = true := by
      obtain ⟨found, at_, visible⟩ := effective id below
      rw [setWindow_lookup, if_pos rfl, Option.some.injEq] at at_
      exact at_ ▸ visible
    cases before : old.options.visible with
    | false => exact .inr ⟨rfl, shown, below, elsewhere⟩
    | true =>
        left
        intro ancestor above
        by_cases same : ancestor = id
        · exact same ▸ ⟨old, live, before⟩
        · exact elsewhere ancestor above same
  · left
    intro ancestor above
    refine elsewhere ancestor above ?_
    rintro rfl
    exact below above

theorem setWindow_modal {id : SurfaceIdentity} {old window : Window}
    (live : state.windows[id]? = some old) (mode : window.options.mode = old.options.mode)
    {other : SurfaceIdentity} (modal : (state.setWindow id window).Modal other) :
    state.Modal other := by
  obtain ⟨found, at_, modal⟩ := modal
  rw [setWindow_lookup] at at_
  by_cases same : id = other
  · rw [if_pos same, Option.some.injEq] at at_
    subst at_
    subst same
    exact ⟨old, live, mode ▸ modal⟩
  · rw [if_neg same] at at_
    exact ⟨found, at_, modal⟩

theorem insertWindow_modal {id : SurfaceIdentity} {options : WindowOptions}
    (generation : UInt64) {other : SurfaceIdentity} (distinct : other ≠ id)
    (modal : (state.insertWindow id generation options).Modal other) : state.Modal other := by
  obtain ⟨window, live, mode⟩ := modal
  rw [insertWindow_lookup, if_neg (Ne.symm distinct)] at live
  exact ⟨window, live, mode⟩

include forest

/-- A new window shows nothing but itself. -/
theorem insertWindow_effective {id : SurfaceIdentity} {options : WindowOptions}
    (generation : UInt64) (admitted : Admitted state id options) {other : SurfaceIdentity}
    (distinct : other ≠ id)
    (effective : (state.insertWindow id generation options).Effective other) :
    state.Effective other := by
  intro ancestor above
  have kept : Ancestor (state.insertWindow id generation options).parent? ancestor other := by
    refine above.congr fun child parent link => ?_
    have other : id ≠ child := by
      rintro rfl
      exact admitted.fresh (live_of_parent? link)
    obtain ⟨window, live, named⟩ := parent?_eq_some.mp link
    refine parent?_eq_some.mpr ⟨window, ?_, named⟩
    rw [insertWindow_lookup, if_neg other]
    exact live
  obtain ⟨window, live, visible⟩ := effective ancestor kept
  rw [insertWindow_lookup] at live
  by_cases same : id = ancestor
  · subst same
    rcases Relation.ReflTransGen.cases_tail above with same | ⟨child, -, link⟩
    · exact absurd same.symm distinct
    · exact absurd ((forest.listed id).mp (forest.ordered.parent_mem link)) admitted.fresh
  · rw [if_neg same] at live
    exact ⟨window, live, visible⟩

end Forest

/-- Nothing becomes visible, and no window becomes a modal. -/
structure Dims (before after : Windows) : Prop where
  effective : ∀ id, after.Effective id → before.Effective id
  modal : ∀ id, after.Modal id → before.Modal id

theorem Dims.refl (state : Windows) : Dims state state := ⟨fun _ holds => holds, fun _ holds => holds⟩

theorem Dims.trans {first second third : Windows} (sooner : Dims first second)
    (later : Dims second third) : Dims first third :=
  ⟨fun id holds => sooner.effective id (later.effective id holds),
    fun id holds => sooner.modal id (later.modal id holds)⟩

theorem Within.dims {before after : Windows} (within : Within before after) :
    Dims before after :=
  ⟨fun _ holds => within.effective holds, fun _ holds => within.modal holds⟩

theorem Moves.dims {allowed : SurfaceIdentity → Event → Prop} {before after : Windows}
    (moves : Moves allowed before after) : Dims before after := by
  induction moves with
  | refl => exact .refl before
  | shed _ sheds ih => exact ih.trans sheds.within.dims
  | @forgot state _ id ih =>
      refine ih.trans (Within.dims ?_)
      intro probe window found
      rw [Forest.forget_lookup] at found
      by_cases same : id = probe
      · rw [if_pos same] at found
        cases found
      · rw [if_neg same] at found
        exact found
  | replaced _ live later visible ih =>
      refine ih.trans ⟨fun other effective => ?_, fun other modal => ?_⟩
      · rcases Forest.setWindow_effective live later.parent effective with kept | ⟨off, on, -⟩
        · exact kept
        · rw [visible, off] at on
          cases on
      · exact Forest.setWindow_modal live later.mode modal
  | restacked _ _ _ ih => exact ih.trans ⟨fun _ holds => holds, fun _ holds => holds⟩
  | swallowed _ _ _ ih => exact ih.trans ⟨fun _ holds => holds, fun _ holds => holds⟩

theorem OneSession.dims {before after : Windows} (one : OneSession before)
    (dims : Dims before after) : OneSession after :=
  fun first second firstEffective firstModal secondEffective secondModal =>
    one first second (dims.effective _ firstEffective) (dims.modal _ firstModal)
      (dims.effective _ secondEffective) (dims.modal _ secondModal)

/-- A modal in effect belongs to a session whose own modals nothing refuses. -/
theorem OneSession.unopposed {state : Windows} (one : OneSession state) (forest : Forest state)
    {owner : SessionIdentity} (unopposed : state.modalOfAnother owner = false)
    {id : SurfaceIdentity} (effective : state.Effective id) (modal : state.Modal id) :
    id.context.session = owner := by
  cases top : state.topModal with
  | none => exact absurd modal (forest.topModal_eq_none.mp top id effective)
  | some other =>
      have isTop := (forest.topModal_eq_some other).mp top
      unfold modalOfAnother at unopposed
      rw [top, Option.any_some, Bool.not_eq_false'] at unopposed
      rw [one id other effective modal isTop.1 isTop.2.1]
      exact of_decide_eq_true unopposed

theorem OneSession.inserted {state : Windows} (one : OneSession state) (forest : Forest state)
    {id : SurfaceIdentity} {generation : UInt64} {options : WindowOptions}
    (admitted : Forest.Admitted state id options) :
    OneSession (state.insertWindow id generation options) := by
  have earlier : ∀ other, other ≠ id →
      (state.insertWindow id generation options).Effective other →
      (state.insertWindow id generation options).Modal other →
      state.Effective other ∧ state.Modal other :=
    fun other distinct effective modal =>
      ⟨forest.insertWindow_effective generation admitted distinct effective,
        Forest.insertWindow_modal generation distinct modal⟩
  have own : (state.insertWindow id generation options).Effective id →
      (state.insertWindow id generation options).Modal id →
      state.modalOfAnother id.context.session = false := by
    intro effective modal
    obtain ⟨window, live, visible⟩ := effective id (.refl id)
    obtain ⟨same, at_, mode⟩ := modal
    rw [Forest.insertWindow_lookup, if_pos rfl, Option.some.injEq] at live at_
    subst live
    subst at_
    exact admitted.modal visible mode
  intro first second firstEffective firstModal secondEffective secondModal
  by_cases firstNew : first = id
  · subst firstNew
    by_cases secondNew : second = first
    · rw [secondNew]
    · obtain ⟨effective, modal⟩ := earlier second secondNew secondEffective secondModal
      exact (one.unopposed forest (own firstEffective firstModal) effective modal).symm
  · obtain ⟨effective, modal⟩ := earlier first firstNew firstEffective firstModal
    by_cases secondNew : second = id
    · subst secondNew
      exact one.unopposed forest (own secondEffective secondModal) effective modal
    · obtain ⟨others, modals⟩ := earlier second secondNew secondEffective secondModal
      exact one first second effective modal others modals

theorem OneSession.updated {state : Windows} (one : OneSession state) (forest : Forest state)
    {id : SurfaceIdentity} {old : Window} {generation revision next : UInt64}
    {options : WindowOptions} (valid : options.validate = .ok ())
    (live : state.windows[id]? = some old)
    (admitted : state.admitUpdate id old generation revision options = .ok next)
    (veiled : ¬ Unveils state (.update id generation revision options)) :
    OneSession (state.setWindow id (Windows.updated old options next)) := by
  obtain ⟨parent, mode, modalFree, popupFree⟩ := Forest.admitUpdate_ok admitted
  -- A modal that becomes visible has the session of every modal that is so already.
  have shown : ∀ fresh, (state.setWindow id (Windows.updated old options next)).Effective fresh →
      (state.setWindow id (Windows.updated old options next)).Modal fresh →
      state.Effective fresh ∨ fresh.context.session = id.context.session ∧
        ∀ other, state.Effective other → state.Modal other →
          other.context.session = id.context.session := by
    intro fresh effective modal
    have modalBefore := Forest.setWindow_modal live mode modal
    rcases Forest.setWindow_effective live parent effective with kept | ⟨off, on, below, elsewhere⟩
    · exact .inl kept
    right
    refine ⟨(forest.ancestor_session below).symm, ?_⟩
    intro other otherEffective otherModal
    cases kind : options.mode with
    | modal => exact one.unopposed forest (modalFree on kind) otherEffective otherModal
    | popup =>
        cases top : state.topModal with
        | none => exact absurd otherModal (forest.topModal_eq_none.mp top other otherEffective)
        | some modal =>
            have isTop := (forest.topModal_eq_some modal).mp top
            have above := (forest.descendant_iff id modal).mp (popupFree on kind modal top)
            rw [one other modal otherEffective otherModal isTop.1 isTop.2.1]
            exact forest.ancestor_session above
    | floating =>
        by_contra foreign
        exact veiled ⟨id, generation, revision, options, old, next, fresh, other, rfl, valid, live,
          admitted, off, on, kind, modalBefore, below, elsewhere, otherEffective, otherModal,
          foreign⟩
  intro first second firstEffective firstModal secondEffective secondModal
  have firstBefore := Forest.setWindow_modal live mode firstModal
  have secondBefore := Forest.setWindow_modal live mode secondModal
  rcases shown first firstEffective firstModal with firstKept | ⟨firstIs, firstAll⟩
  · rcases shown second secondEffective secondModal with secondKept | ⟨secondIs, secondAll⟩
    · exact one first second firstKept firstBefore secondKept secondBefore
    · exact (secondAll first firstKept firstBefore).trans secondIs.symm
  · rcases shown second secondEffective secondModal with secondKept | ⟨secondIs, secondAll⟩
    · exact firstIs.trans (firstAll second secondKept secondBefore).symm
    · exact firstIs.trans secondIs.symm

theorem OneSession.step {state : Windows} (one : OneSession state) (forest : Forest state)
    {operation : Operation} (veiled : ¬ Unveils state operation) :
    OneSession (windowsStep state operation).2 := by
  have effect := windowsStep_effect forest operation
  generalize (windowsStep state operation).2 = after at effect
  cases effect with
  | moved moves => exact one.dims moves.dims
  | created asked admitted moves =>
      exact (one.inserted forest (Forest.admitCreate_ok admitted)).dims moves.dims
  | updated asked valid live admitted moves =>
      subst asked
      exact (one.updated forest valid live admitted veiled).dims moves.dims
  | released _ _ => exact one
  | unfocused _ sheds =>
      have kept := one.dims sheds.within.dims
      exact kept
  | @tookEvent owner _ =>
      obtain ⟨events, same⟩ := takeEvent_eq state owner
      rw [same]
      exact one
  | tookOverflow _ => exact one

theorem OneSession.default : OneSession Windows.default := by
  intro first second effective
  obtain ⟨window, live⟩ := Forest.live_of_effective effective
  exact absurd ⟨window, live⟩ ((Forest.default.listed first).not.mp List.not_mem_nil)

/-! ## Calls of another session -/

/-- The session whose windows a call of a producer is about. -/
def Operation.caller : Operation → Option SessionIdentity
  | .create id _ _ => some id.context.session
  | .update id _ _ _ => some id.context.session
  | .applyAction owner _ _ => some owner
  | .publishScene id _ _ => some id.context.session
  | .capturePointer id _ => some id.context.session
  | .releasePointer id => some id.context.session
  | _ => none

namespace Refocuses

variable {owner : SessionIdentity} {before after : Windows}

/-- Replacing a window of another session, where no modal comes into effect. -/
theorem setWindow {state : Windows} (forest : Forest state) {id : SurfaceIdentity}
    {old window : Window} (live : state.windows[id]? = some old)
    (identity : window.identity = old.identity)
    (parent : window.options.parent = old.options.parent)
    (mode : window.options.mode = old.options.mode)
    (foreign : id.context.session ≠ owner)
    (shown : ∀ other, (state.setWindow id window).Effective other → state.Modal other →
      state.Effective other) :
    Refocuses owner state (state.setWindow id window) := by
  refine .still ⟨forest.setWindow live identity parent, .inr ⟨?_, rfl, rfl⟩, ?_⟩ rfl
  · intro probe owned
    rw [Forest.setWindow_lookup, if_neg]
    rintro rfl
    exact foreign owned
  · intro other effective modal
    have before := Forest.setWindow_modal live mode modal
    exact ⟨shown other effective before, before⟩

end Refocuses

/-- A session whose modal is on top is left in peace by a step, or its queue has
overflowed. -/
def Peace (top : SurfaceIdentity) (caller : SessionIdentity) (before after : Windows) : Prop :=
  top.context.session ∈ after.overflowed ∨
    after.TopModal top ∧
      ∀ id, after.focus = some id → id.context.session = caller → before.focus = some id

/-- The ancestors of a window of a spared session are what they were. -/
theorem Kept.ancestor {owner : SessionIdentity} {before after : Windows}
    (kept : Kept owner before after) (forest : Forest before) {ancestor id : SurfaceIdentity}
    (owned : id.context.session = owner) :
    Ancestor after.parent? ancestor id ↔ Ancestor before.parent? ancestor id := by
  have links : ∀ child, child.context.session = owner → after.parent? child = before.parent? child := by
    intro child owned
    unfold parent?
    rw [kept.windows child owned]
  constructor
  · intro above
    induction above using Relation.ReflTransGen.head_induction_on with
    | refl => exact .refl ancestor
    | @head child parent link _ ih =>
        rw [links child owned] at link
        exact .parent link (ih ((forest.family child parent link).trans owned))
  · intro above
    induction above using Relation.ReflTransGen.head_induction_on with
    | refl => exact .refl ancestor
    | @head child parent link _ ih =>
        have same : after.parent? child = some parent := (links child owned).trans link
        exact .parent same (ih ((forest.family child parent link).trans owned))

theorem Kept.effective {owner : SessionIdentity} {before after : Windows}
    (kept : Kept owner before after) (forest : Forest before) {id : SurfaceIdentity}
    (owned : id.context.session = owner) (effective : before.Effective id) :
    after.Effective id := by
  intro ancestor above
  have aboveBefore := (kept.ancestor forest owned).mp above
  rw [kept.windows ancestor ((forest.ancestor_session aboveBefore).trans owned)]
  exact effective ancestor aboveBefore

theorem Kept.modal {owner : SessionIdentity} {before after : Windows}
    (kept : Kept owner before after) {id : SurfaceIdentity}
    (owned : id.context.session = owner) (modal : before.Modal id) : after.Modal id := by
  unfold Modal
  rw [kept.windows id owned]
  exact modal

/-- A step that yields to the session of the top modal leaves it in peace. -/
theorem Refocuses.peace {top : SurfaceIdentity} {caller : SessionIdentity}
    {before after : Windows} (refocuses : Refocuses top.context.session before after)
    (forest : Forest before) (one : OneSession before) (isTop : before.TopModal top)
    (apart : top.context.session ≠ caller) (known : before.owners ⊆ after.owners) :
    Peace top caller before after := by
  obtain ⟨effective, modal, latest⟩ := isTop
  have live := Forest.live_of_effective effective
  rcases refocuses.yields.spares with gone | kept
  · left
    rcases mem_owners.mp (known (forest.known live)) with ⟨queue, served⟩ | overflowed
    · rw [gone] at served
      cases served
    · exact overflowed
  right
  constructor
  · refine ⟨kept.effective forest rfl effective, kept.modal rfl modal, ?_⟩
    intro other otherEffective otherModal
    obtain ⟨effectiveBefore, modalBefore⟩ :=
      refocuses.yields.modals other otherEffective otherModal
    have owned := one other top effectiveBefore modalBefore effective modal
    rcases latest other effectiveBefore modalBefore with same | pair
    · exact .inl same
    · right
      have filtered := pair.filter (ownedBy top.context.session)
      rw [← kept.stack] at filtered
      have pairOwned : [other, top].filter (ownedBy top.context.session) = [other, top] := by
        simp [ownedBy, owned]
      rw [pairOwned] at filtered
      exact filtered.trans List.filter_sublist
  · intro id focused foreign
    rcases refocuses.aim id focused with same | ⟨middle, path, eligible, rest⟩
    · exact same
    exfalso
    have keptMiddle : Kept top.context.session before middle := by
      rcases path.spares with gone | kept
      · obtain ⟨queue, served⟩ := forest.served top live
        rcases rest.spares with goneAfter | keptAfter
        · have same := kept.served
          rw [goneAfter, served] at same
          cases same
        · have same := keptAfter.served
          rw [gone] at same
          have whole := kept.served
          rw [same, served] at whole
          cases whole
      · exact kept
    have topEffective := keptMiddle.effective forest rfl effective
    have topModal := keptMiddle.modal rfl modal
    have reached := (path.forest.eligible_iff id).mp eligible
    cases found : middle.topModal with
    | none => exact path.forest.topModal_eq_none.mp found top topEffective topModal
    | some other =>
        have isOther := (path.forest.topModal_eq_some other).mp found
        have above := path.forest.ancestor_session (reached.2 other isOther)
        obtain ⟨otherEffective, otherModal⟩ := path.modals other isOther.1 isOther.2.1
        have owned := one other top otherEffective otherModal effective modal
        exact apart (owned.symm.trans (above.trans foreign))

/-! ## Steps of another session -/

/-- No window of another session is eligible below a modal. -/
theorem Forest.ineligible {state : Windows} (forest : Forest state) {top id : SurfaceIdentity}
    (isTop : state.TopModal top) (apart : top.context.session ≠ id.context.session) :
    state.eligible id = false := by
  rw [Bool.eq_false_iff, ne_eq, forest.eligible_iff]
  intro eligible
  exact apart (forest.ancestor_session (eligible.2 top isTop))

theorem Forest.modalOfAnother {state : Windows} (forest : Forest state) {top : SurfaceIdentity}
    {owner : SessionIdentity} (isTop : state.TopModal top) (apart : top.context.session ≠ owner) :
    state.modalOfAnother owner = true := by
  unfold Windows.modalOfAnother
  rw [(forest.topModal_eq_some top).mpr isTop, Option.any_some, Bool.not_eq_true']
  exact decide_eq_false apart

theorem perform_ineligible {state : Windows} {id : SurfaceIdentity}
    (hidden : state.eligible id = false) (action : WindowAction) :
    (state.perform id action).2 = state := by
  cases action with
  | close => rfl
  | center => rfl
  | focus => simp [Windows.perform, Windows.requestFocus, hidden]
  | raise => simp [Windows.perform, hidden]
  | lower => simp [Windows.perform, hidden]

namespace Refocuses

variable {owner : SessionIdentity}

/-- Replacing a window of another session that stays as visible as it was. -/
theorem replaced {state : Windows} (forest : Forest state) {id : SurfaceIdentity}
    {old window : Window} (live : state.windows[id]? = some old) (later : old.Later window)
    (visible : window.options.visible = old.options.visible)
    (foreign : id.context.session ≠ owner) :
    Refocuses owner state (state.setWindow id window) := by
  refine .setWindow forest live later.identity later.parent later.mode foreign ?_
  intro other effective _
  rcases Forest.setWindow_effective live later.parent effective with kept | ⟨off, on, -⟩
  · exact kept
  · cases off.symm.trans (visible.symm.trans on)

/-- A new window of another session that is no modal in effect. -/
theorem insertWindow {state : Windows} (forest : Forest state) {id : SurfaceIdentity}
    {options : WindowOptions} (generation : UInt64)
    (admitted : Forest.Admitted state id options) (quiet : takesFocus options = false)
    (foreign : id.context.session ≠ owner) :
    Refocuses owner state (state.insertWindow id generation options) := by
  refine .still ⟨forest.insertWindow generation admitted, .inr ⟨?_, ?_, ?_⟩, ?_⟩ rfl
  · intro probe owned
    rw [Forest.insertWindow_lookup, if_neg]
    rintro rfl
    exact foreign owned
  · show (state.stack ++ [id]).filter (ownedBy owner) = _
    rw [List.filter_append]
    simp [ownedBy, foreign]
  · rw [Forest.insertWindow_events]
    by_cases same : id.context.session = owner
    · exact absurd same foreign
    · simp [same]
  · intro other effective modal
    have distinct : other ≠ id := by
      rintro rfl
      obtain ⟨window, live, visible⟩ := effective other (.refl other)
      obtain ⟨same, at_, mode⟩ := modal
      rw [Forest.insertWindow_lookup, if_pos rfl, Option.some.injEq] at live at_
      subst live
      subst at_
      dsimp only at visible mode
      simp [takesFocus, visible, mode] at quiet
    exact ⟨forest.insertWindow_effective generation admitted distinct effective,
      Forest.insertWindow_modal generation distinct modal⟩

end Refocuses

section Peace

variable {state : Windows} {top : SurfaceIdentity} (forest : Forest state)
  (one : OneSession state) (isTop : state.TopModal top)

include forest one isTop

theorem peace_refl {caller : SessionIdentity} (apart : top.context.session ≠ caller) :
    Peace top caller state state :=
  (Refocuses.refl forest).peace forest one isTop apart (Finset.Subset.refl _)

theorem create_peace {id : SurfaceIdentity} (apart : top.context.session ≠ id.context.session)
    (generation : UInt64) (options : WindowOptions) :
    Peace top id.context.session state (state.create id generation options).2 := by
  have outcome := state.create_outcome id generation options
  generalize state.create id generation options = answer at outcome
  cases outcome with
  | refused _ => exact peace_refl forest one isTop apart
  | inserted admitted quiet =>
      have inserted : Refocuses top.context.session state
          (state.insertWindow id generation options) :=
        .insertWindow forest generation (Forest.admitCreate_ok admitted) quiet (Ne.symm apart)
      refine inserted.peace forest one isTop apart fun owner listed => ?_
      rw [mem_owners] at listed ⊢
      rw [Forest.insertWindow_events]
      rcases listed with ⟨queue, served⟩ | overflowed
      · left
        rw [served, if_neg fun both => nomatch both.2]
        exact ⟨queue, rfl⟩
      · exact .inr overflowed
  | focused admitted takes _ =>
      -- A modal is refused below a modal of another session, and so is a popup.
      exfalso
      have checked := Forest.admitCreate_ok admitted
      unfold takesFocus at takes
      rw [Bool.and_eq_true, decide_eq_true_eq] at takes
      cases mode : options.mode with
      | floating => exact takes.2 mode
      | modal =>
          have unopposed := checked.modal takes.1 mode
          rw [forest.modalOfAnother isTop apart] at unopposed
          cases unopposed
      | popup =>
          obtain ⟨parent, named, descends⟩ := checked.popup (by simp [takesFocus, takes])
            mode top ((forest.topModal_eq_some top).mpr isTop)
          have above := forest.ancestor_session ((forest.descendant_iff parent top).mp descends)
          exact apart (above.trans (checked.parent parent named).1)

theorem update_peace {id : SurfaceIdentity} (apart : top.context.session ≠ id.context.session)
    {generation revision : UInt64} {options : WindowOptions}
    (veiled : ¬ Unveils state (.update id generation revision options)) :
    Peace top id.context.session state (state.update id generation revision options).2 := by
  have outcome := state.update_outcome id generation revision options
  generalize state.update id generation revision options = answer at outcome
  cases outcome with
  | refused _ => exact peace_refl forest one isTop apart
  | @hidden valid old next live admitted before after =>
      obtain ⟨parent, mode, -⟩ := Forest.admitUpdate_ok admitted
      have replaced : Refocuses top.context.session state
          (state.setWindow id (Windows.updated old options next)) := by
        refine .setWindow forest live rfl parent mode (Ne.symm apart) ?_
        intro other effective _
        rcases Forest.setWindow_effective live parent effective with kept | ⟨-, on, -⟩
        · exact kept
        · cases after.symm.trans on
      have hidden := replaced.trans (.hideGroup replaced.yields.forest id)
      refine hidden.peace forest one isTop apart ?_
      rw [hideGroup_owners]
      exact Finset.Subset.refl _
  | @focused valid old next live admitted _ after stays _ _ =>
      exfalso
      obtain ⟨-, -, modal, popup⟩ := Forest.admitUpdate_ok admitted
      cases mode : options.mode with
      | floating => exact stays mode
      | modal =>
          have unopposed := modal after mode
          rw [forest.modalOfAnother isTop apart] at unopposed
          cases unopposed
      | popup =>
          have descends := popup after mode top ((forest.topModal_eq_some top).mpr isTop)
          exact apart (forest.ancestor_session ((forest.descendant_iff id top).mp descends))
  | @replaced valid old next live admitted quiet =>
      obtain ⟨parent, mode, -⟩ := Forest.admitUpdate_ok admitted
      have replaced : Refocuses top.context.session state
          (state.setWindow id (Windows.updated old options next)) := by
        refine .setWindow forest live rfl parent mode (Ne.symm apart) ?_
        intro other effective modal
        rcases Forest.setWindow_effective live parent effective with
          kept | ⟨off, on, below, elsewhere⟩
        · exact kept
        rcases quiet with same | ⟨-, -, floating⟩
        · rw [off] at same
          cases same.trans on
        · exact absurd ⟨id, generation, revision, options, old, next, other, top, rfl, valid,
            live, admitted, off, on, floating, modal, below, elsewhere, isTop.1, isTop.2.1,
            apart⟩ veiled
      exact replaced.peace forest one isTop apart (Finset.Subset.refl _)

theorem publishScene_peace {id : SurfaceIdentity}
    (apart : top.context.session ≠ id.context.session) (generation sceneRevision : UInt64) :
    Peace top id.context.session state (state.publishScene id generation sceneRevision).2 := by
  unfold Windows.publishScene
  cases live : state.windows[id]? with
  | none => exact peace_refl forest one isTop apart
  | some window =>
      dsimp only
      by_cases stale : window.generation ≠ generation ∨ sceneRevision = 0 ∨
          sceneRevision ≤ window.sceneRevision
      · rw [if_pos stale]
        exact peace_refl forest one isTop apart
      rw [if_neg stale]
      have order := (not_or.mp (not_or.mp stale).2).2
      have later : window.Later { window with sceneRevision := sceneRevision } :=
        ⟨rfl, rfl, rfl, rfl, le_refl _, le_of_lt (lt_of_not_ge order)⟩
      have replaced : Refocuses top.context.session state
          (state.setWindow id { window with sceneRevision := sceneRevision }) :=
        .replaced forest live later rfl (Ne.symm apart)
      exact replaced.peace forest one isTop apart (Finset.Subset.refl _)

theorem settle_peace {id : SurfaceIdentity} (apart : top.context.session ≠ id.context.session)
    {old : Window} {revision : UInt64} {bounds : Option Rect}
    (live : state.windows[id]? = some old) (next : checkedAdd old.revision 1 = some revision)
    (valid : ∀ rect, bounds = some rect → rect.validate = .ok ()) :
    Peace top id.context.session state (state.settle id revision bounds).2 := by
  have more := checkedAdd_eq_some.mp next
  unfold Windows.settle
  rw [live]
  cases bounds with
  | none =>
      have later : old.Later { old with revision := revision } :=
        ⟨rfl, rfl, rfl, rfl, by dsimp only; omega, le_refl _⟩
      have replaced : Refocuses top.context.session state
          (state.setWindow id { old with revision := revision }) :=
        .replaced forest live later rfl (Ne.symm apart)
      exact replaced.peace forest one isTop apart (Finset.Subset.refl _)
  | some rect =>
      have told : validEvent (.geometry rect true) = true := by
        show rect.validate.isOk = true
        rw [valid rect rfl]
        rfl
      have later : old.Later { old with
          revision := revision
          options := { old.options with bounds := rect } } :=
        ⟨rfl, rfl, rfl, rfl, by dsimp only; omega, le_refl _⟩
      have moved : Refocuses top.context.session state _ :=
        .replaced forest live later rfl (Ne.symm apart)
      have settled := moved.trans (.notice moved.yields.forest id told)
      refine settled.peace forest one isTop apart ?_
      rw [emit_owners (.inl told)]
      exact Finset.Subset.refl _

theorem applyAction_peace {owner : SessionIdentity} (apart : top.context.session ≠ owner)
    (action : Action) (viewport : Viewport) :
    Peace top owner state (state.applyAction owner action viewport).2 := by
  have outcome := state.applyAction_outcome owner action viewport
  generalize state.applyAction owner action viewport = answer at outcome
  cases outcome with
  | refused _ => exact peace_refl forest one isTop apart
  | @closed id owned _ _ _ =>
      subst owned
      have closed : Refocuses top.context.session state (state.close id .closed) :=
        .close forest id .closed (Ne.symm apart)
      refine closed.peace forest one isTop apart ?_
      rw [close_owners]
  | @performed id owned _ _ _ _ done =>
      subst owned
      have same := perform_ineligible (forest.ineligible isTop apart) action.action
      rw [done] at same
      subst same
      exact peace_refl forest one isTop apart
  | @settled id owned _ live _ _ next _ asked _ done =>
      subst owned
      have same := perform_ineligible (forest.ineligible isTop apart) action.action
      rw [done] at same
      subst same
      refine settle_peace forest one isTop apart live next ?_
      rintro rect rfl
      exact actionBounds_valid asked

theorem capturePointer_peace {id : SurfaceIdentity}
    (apart : top.context.session ≠ id.context.session) (position : Point) :
    Peace top id.context.session state (state.capturePointer id position).2 := by
  unfold Windows.capturePointer
  rw [forest.ineligible isTop apart]
  exact peace_refl forest one isTop apart

theorem releasePointer_peace {id : SurfaceIdentity}
    (apart : top.context.session ≠ id.context.session) :
    Peace top id.context.session state (state.releasePointer id) := by
  unfold Windows.releasePointer
  cases state.capturedBy id with
  | false => exact peace_refl forest one isTop apart
  | true =>
      have released : Refocuses top.context.session state { state with capture := none } :=
        (Refocuses.refl forest).point forest (fun _ same => .inl same) state.hover none
      exact released.peace forest one isTop apart (Finset.Subset.refl _)

/-- A call of another session leaves the session of the top modal in peace. -/
theorem step_peace {operation : Operation} {caller : SessionIdentity}
    (called : operation.caller = some caller) (apart : top.context.session ≠ caller)
    (veiled : ¬ Unveils state operation) :
    Peace top caller state (windowsStep state operation).2 := by
  cases operation with
  | create id generation options =>
      cases called
      exact create_peace forest one isTop apart generation options
  | update id generation revision options =>
      cases called
      exact update_peace forest one isTop apart veiled
  | applyAction owner action viewport =>
      cases called
      exact applyAction_peace forest one isTop apart action viewport
  | publishScene id generation sceneRevision =>
      cases called
      exact publishScene_peace forest one isTop apart generation sceneRevision
  | capturePointer id position =>
      cases called
      exact capturePointer_peace forest one isTop apart position
  | releasePointer id =>
      cases called
      exact releasePointer_peace forest one isTop apart
  | setPaneFocus => cases called
  | requestFocus => cases called
  | close => cases called
  | revokeOwner => cases called
  | takeOverflow => cases called
  | takeEvent => cases called
  | keyboard => cases called
  | wheel => cases called
  | pointer => cases called
  | refreshHover => cases called

end Peace

/-! ## Runs -/

theorem OneSession.final {inputs : List Operation}
    (calm : ∀ event ∈ windowsRuns.history Windows.default inputs,
      ¬ Unveils event.before event.input) :
    OneSession (windowsRuns.final Windows.default inputs) := by
  induction inputs using List.reverseRecOn with
  | nil => exact OneSession.default
  | append_singleton inputs operation ih =>
      rw [windowsRuns.history_snoc] at calm
      rw [windowsRuns.final_snoc]
      have one := ih fun event inside => calm event (List.mem_append_left _ inside)
      exact one.step (forest_final inputs)
        (calm _ (List.mem_append_right _ (List.mem_singleton.mpr rfl)))

/-- In a run that does not unveil a modal past the modal of another session, the
modals in effect belong to one session, and the calls of another session neither
replace the one on top nor take the focus, unless its queue overflows. -/
theorem modal_takeover (inputs : List Operation)
    (calm : ∀ event ∈ windowsRuns.history Windows.default inputs,
      ¬ Unveils event.before event.input) :
    OneSession (windowsRuns.final Windows.default inputs) ∧
      ∀ event ∈ windowsRuns.history Windows.default inputs, ∀ caller top,
        event.input.caller = some caller → event.before.TopModal top →
        top.context.session ≠ caller → Peace top caller event.before event.after := by
  refine ⟨.final calm, ?_⟩
  intro event inside caller top called isTop apart
  obtain ⟨past, future, cut⟩ := List.append_of_mem inside
  obtain ⟨first, operation, second, -, pastIs, same, -⟩ := windowsRuns.history_event cut
  have veiled := calm event inside
  subst same
  have one : OneSession (windowsRuns.final Windows.default first) := by
    refine .final fun earlier before => calm earlier ?_
    rw [cut, pastIs]
    exact List.mem_append_left _ before
  exact step_peace (forest_final first) one isTop called apart veiled

/-- A modal, and a window of another session. -/
def sampleRivals : List Operation :=
  [.create (sampleSurface 1 1) 1 (sampleOptions .modal),
    .create (sampleSurface 2 1) 1 (sampleOptions .floating)]

theorem modal_takeover_floating :
    OneSession (windowsRuns.final Windows.default sampleRivals) ∧
      Peace (sampleSurface 1 1) (sampleSurface 2 1).context.session
        (windowsRuns.final Windows.default (sampleRivals.take 1))
        (windowsRuns.final Windows.default sampleRivals) := by
  have isTop : (windowsRuns.final Windows.default (sampleRivals.take 1)).TopModal
      (sampleSurface 1 1) :=
    ((forest_final _).topModal_eq_some _).mp (by decide +kernel)
  have calm : ∀ event ∈ windowsRuns.history Windows.default sampleRivals,
      ¬ Unveils event.before event.input := by
    intro event inside
    simp only [sampleRivals, Machine.history, List.mem_cons, List.not_mem_nil, or_false] at inside
    rcases inside with rfl | rfl
    · rintro ⟨_, _, _, _, _, _, _, _, asked, -⟩
      cases asked
    · rintro ⟨_, _, _, _, _, _, _, _, asked, -⟩
      cases asked
  obtain ⟨one, peace⟩ := modal_takeover sampleRivals calm
  exact ⟨one, peace (windowsRuns.event
      (windowsRuns.final Windows.default (sampleRivals.take 1))
      (.create (sampleSurface 2 1) 1 (sampleOptions .floating)))
    (List.mem_cons_of_mem _ List.mem_cons_self) _ _ rfl isTop (by decide)⟩

/-- The same windows, and a queue of the modal's session that is all but full. -/
def sampleCrowd : List Operation :=
  sampleRivals ++ List.replicate 253 (.keyboard (.text "a") false) ++ [.setPaneFocus false]

def sampleClose : Operation :=
  .applyAction (sampleSurface 2 1).context.session ⟨⟨1, 1, 1⟩, 1, .close⟩ ⟨.ONE, .ONE, 1, 1⟩

/-- A modal under a hidden window, shown past the modal of another session. -/
def sampleVeiled : List Operation :=
  [.create (sampleSurface 1 1) 1 (sampleOptions .floating),
    .create (sampleSurface 1 2) 1
      { sampleOptions .modal with parent := some (sampleSurface 1 1) },
    .update (sampleSurface 1 1) 1 1 { sampleOptions .floating with visible := false },
    .create (sampleSurface 2 1) 1 (sampleOptions .modal),
    .update (sampleSurface 1 1) 1 2 (sampleOptions .floating)]

/-- Closing a window of another session gives the modal back a focus that its
queue has no room for; and showing a floating window shows a second modal. -/
theorem modal_takeover_overflow :
    (windowsRuns.final Windows.default sampleCrowd).TopModal (sampleSurface 1 1) ∧
      sampleClose.caller = some (sampleSurface 2 1).context.session ∧
      (sampleSurface 1 1).context.session ≠ (sampleSurface 2 1).context.session ∧
      (∀ top, ¬ (windowsStep (windowsRuns.final Windows.default sampleCrowd)
        sampleClose).2.TopModal top) ∧
      ¬ OneSession (windowsRuns.final Windows.default sampleVeiled) := by
  -- Both tops come from one evaluation of the run.
  obtain ⟨shown, gone⟩ : (windowsRuns.final Windows.default sampleCrowd).topModal =
        some (sampleSurface 1 1) ∧
      (windowsStep (windowsRuns.final Windows.default sampleCrowd) sampleClose).2.topModal =
        none := by decide +kernel
  refine ⟨((forest_final sampleCrowd).topModal_eq_some _).mp shown, rfl, by decide, ?_, ?_⟩
  · intro top isTop
    have found := (((forest_final sampleCrowd).step sampleClose).topModal_eq_some top).mpr isTop
    rw [gone] at found
    cases found
  · intro one
    have forest := forest_final sampleVeiled
    obtain ⟨first, firstLive, second, secondLive⟩ :
        (windowsRuns.final Windows.default sampleVeiled).effectivelyVisible
            (sampleSurface 1 2) = true ∧
          (windowsRuns.final Windows.default sampleVeiled).windows[sampleSurface 1 2]? =
            some
              { identity := sampleSurface 1 2
                generation := 1
                revision := 1
                sceneRevision := 0
                options := { sampleOptions .modal with parent := some (sampleSurface 1 1) } } ∧
          (windowsRuns.final Windows.default sampleVeiled).effectivelyVisible
            (sampleSurface 2 1) = true ∧
          (windowsRuns.final Windows.default sampleVeiled).windows[sampleSurface 2 1]? =
            some
              { identity := sampleSurface 2 1
                generation := 1
                revision := 1
                sceneRevision := 0
                options := sampleOptions .modal } := by decide +kernel
    have apart := one (sampleSurface 1 2) (sampleSurface 2 1)
      ((forest.effectivelyVisible_iff _).mp first) ⟨_, firstLive, rfl⟩
      ((forest.effectivelyVisible_iff _).mp second) ⟨_, secondLive, rfl⟩
    revert apart
    decide

end VividProtocol.Overlay

import Mathlib.Tactic
import VividProtocol.Overlay.Wire.Fields

/-!
# Window records

`SetWindow`, `Action`, the status of a window and the outcomes of its
submissions, from `overlay/wire.rs`.  What a record must satisfy is stated once;
its encoder writes exactly such records and its decoder admits no other.
-/

set_option autoImplicit false

namespace VividProtocol.Overlay.Wire

open VividProtocol.Cbor
open VividProtocol.Library.Result
open VividProtocol.Library.Codec

variable (validRect : Rect → Except InvalidScene Unit) (owner : SessionIdentity)

/-! ## Options of a window -/

/-- `WindowOptions::validate`, over the check of a rectangle. -/
def validateOptions (options : WindowOptions) : Except InvalidScene Unit := do
  validRect options.bounds
  if options.minWidth ≤ Scalar.ZERO ∨ options.minHeight ≤ Scalar.ZERO ∨
      options.bounds.width < options.minWidth ∨ options.bounds.height < options.minHeight then
    .error ⟨"window bounds are smaller than minimum size"⟩
  else .ok ()

def modeIndex : WindowMode → UInt64
  | .floating => 0
  | .popup => 1
  | .modal => 2

def decodeMode (index : UInt64) : Except MessageError WindowMode :=
  match index with
  | 0 => .ok .floating
  | 1 => .ok .popup
  | 2 => .ok .modal
  | _ => .error (badOverlay 5 "unknown window mode")

theorem decodeMode_modeIndex (mode : WindowMode) : decodeMode (modeIndex mode) = .ok mode := by
  cases mode <;> rfl

/-! ## SetWindow -/

structure SetWindow where
  address : WindowAddress
  expectedRevision : UInt64
  options : WindowOptions
  deriving Repr, DecidableEq

namespace SetWindow

def parentValue (parent : SurfaceIdentity) : Value :=
  .array [.unsigned parent.context.contextId, .unsigned parent.surfaceId]

/-- The entries after the address. -/
def rest (request : SetWindow) : PayloadMap :=
  [(3, .unsigned request.expectedRevision),
    (4, rectangle request.options.bounds),
    (5, .unsigned (modeIndex request.options.mode)),
    (6, .bool request.options.visible)] ++
  (optionalEntry 7 (request.options.parent.map parentValue) ++
  [(8, .array [scalar request.options.minWidth, scalar request.options.minHeight])])

def payload (request : SetWindow) : Except MessageError PayloadMap := do
  request.address.validate request.address.surfaceId
  orBad 4 (validateOptions validRect request.options)
  if request.options.parent.any fun parent => decide (parent.context.session ≠ owner) then
    .error (badOverlay 7 "parent belongs to another owner")
  else do
    let identity ← request.address.toIdentity owner
    if request.options.parent = some identity then
      .error (badOverlay 7 "window cannot parent itself")
    else if request.options.parent.any fun parent =>
        decide (parent.context.contextId = 0) || decide (parent.surfaceId = 0) then
      .error (badOverlay 7 "parent identity must be nonzero")
    else .ok (request.address.payload ++ request.rest)

/-- The elements of a parent, and of a minimum size. -/
abbrev PARTS : Nat := 2

def decodeParent (value : Value) : Except MessageError SurfaceIdentity := do
  let fields ← array PARTS value 7
  let contextId ← unsigned fields[0] 7
  orInvalid "overlay" 7 "invalid parent identity" do
    let context ← owner.toContext contextId
    context.toSurface (fields[1].asU64.getD 0)

/-- `from_map`. -/
def fromMap (object : UInt64) (map : StrictMap) : Except MessageError SetWindow := do
  let address ← WindowAddress.decode object map
  let parent ← transpose (decodeParent owner) (optional map 7)
  let minimum ← array PARTS (← map.required 8) 8
  let bounds ← decodeRectangle validRect (← map.required 4) 4
  let mode ← decodeMode (← map.requiredU64 5)
  let visible ← map.requiredBool 6
  let minWidth ← decodeScalar minimum[0] 8
  let minHeight ← decodeScalar minimum[1] 8
  let options : WindowOptions :=
    { bounds := bounds
      mode := mode
      visible := visible
      parent := parent
      minWidth := minWidth
      minHeight := minHeight }
  orBad 4 (validateOptions validRect options)
  let identity ← address.toIdentity owner
  if parent = some identity then .error (badOverlay 7 "window cannot parent itself")
  else do
    let expectedRevision ← map.requiredU64 3
    .ok { address := address, expectedRevision := expectedRevision, options := options }

def decode (object : UInt64) (value : Value) : Except MessageError SetWindow := do
  let map ← strict value [0, 1, 2, 3, 4, 5, 6, 7, 8]
  fromMap validRect owner object map

/-- What both sides demand of a request. -/
structure Valid (request : SetWindow) : Prop where
  address : request.address.Named
  options : validateOptions validRect request.options = .ok ()
  parent : ∀ parent, request.options.parent = some parent →
    parent.context.session = owner ∧ parent.context.contextId ≠ 0 ∧ parent.surfaceId ≠ 0
  proper : request.options.parent ≠
    some
      { context := { session := owner, contextId := request.address.contextId }
        surfaceId := request.address.surfaceId }

end SetWindow

variable {validRect : Rect → Except InvalidScene Unit} {owner : SessionIdentity}

namespace SetWindow

variable {request : SetWindow}

theorem payload_eq_ok {entries : PayloadMap} :
    request.payload validRect owner = .ok entries ↔
      request.Valid validRect owner ∧ request.address.payload ++ request.rest = entries := by
  unfold payload
  simp only [bind_eq_ok_iff, ite_error_eq_ok_iff, orBad_eq_ok, WindowAddress.validate_eq_ok,
    Except.ok.injEq]
  constructor
  · intro accepted
    obtain ⟨_, ⟨_, named⟩, _, valid, foreign, identity, known, other, nonzero, same⟩ := accepted
    rw [named.identity owner, Except.ok.injEq] at known
    rw [← known] at other
    refine ⟨⟨named, valid, ?_, other⟩, same⟩
    intro parent held
    rw [held] at foreign nonzero
    simp only [Option.any_some, decide_eq_true_eq, not_not] at foreign
    simp only [Option.any_some, Bool.or_eq_true, decide_eq_true_eq, not_or] at nonzero
    exact ⟨foreign, nonzero⟩
  · intro accepted
    obtain ⟨valid, same⟩ := accepted
    refine ⟨(), ⟨trivial, valid.address⟩, (), valid.options, ?_, _, valid.address.identity owner,
      valid.proper, ?_, same⟩
    · cases held : request.options.parent with
      | none => simp
      | some parent => simp [(valid.parent parent held).1]
    · cases held : request.options.parent with
      | none => simp
      | some parent => simp [(valid.parent parent held).2]

theorem decodeParent_written {parent : SurfaceIdentity}
    (owned : parent.context.session = owner ∧ parent.context.contextId ≠ 0 ∧
      parent.surfaceId ≠ 0) :
    decodeParent owner (parentValue parent) = .ok parent := by
  obtain ⟨⟨session, contextId⟩, surfaceId⟩ := parent
  obtain ⟨same, context, surface⟩ := owned
  dsimp only at same context surface
  subst same
  simp [decodeParent, parentValue, Value.asU64, SessionIdentity.toContext,
    ContextIdentity.toSurface, nonzero, context, surface, orInvalid]

theorem decodeParent_owned {value : Value} {parent : SurfaceIdentity}
    (accepted : decodeParent owner value = .ok parent) :
    parent.context.session = owner ∧ parent.context.contextId ≠ 0 ∧ parent.surfaceId ≠ 0 := by
  unfold decodeParent SessionIdentity.toContext ContextIdentity.toSurface nonzero at accepted
  simp only [bind_eq_ok_iff, orInvalid_eq_ok, ite_error_eq_ok_iff] at accepted
  obtain ⟨_, _, _, _, _, ⟨_, ⟨context, same⟩, made⟩, _, ⟨surface, named⟩, built⟩ := accepted
  cases same
  cases made
  cases named
  cases built
  exact ⟨rfl, context, surface⟩

/-- A request is read back whatever follows it, unless that names a parent. -/
theorem Valid.fromMap (valid : request.Valid validRect owner) {more : PayloadMap}
    (absent : more.lookup 7 = none) :
    SetWindow.fromMap validRect owner request.address.surfaceId
        { schema := "overlay", entries := request.address.payload ++ (request.rest ++ more) } =
      .ok request := by
  have parent : transpose (decodeParent owner) (request.options.parent.map parentValue) =
      .ok request.options.parent :=
    transpose_map fun parent held => decodeParent_written (valid.parent parent held)
  have bounds : validRect request.options.bounds = .ok () := by
    obtain ⟨_, checked, _⟩ := bind_eq_ok_iff.mp valid.options
    exact checked
  unfold SetWindow.fromMap
  rw [valid.address.decode_payload, ok_bind]
  simp [optional, rest, StrictMap.requiredU64, StrictMap.requiredBool, StrictMap.required,
    WindowAddress.payload, List.lookup_cons, List.lookup_append, absent, parent, Value.asU64,
    Value.asBool, decodeRectangle_written bounds, decodeMode_modeIndex, valid.options, orBad,
    valid.address.identity owner, valid.proper]

theorem fromMap_valid {object : UInt64} {map : StrictMap}
    (accepted : SetWindow.fromMap validRect owner object map = .ok request) :
    object = request.address.surfaceId ∧ request.Valid validRect owner := by
  unfold SetWindow.fromMap at accepted
  simp only [bind_eq_ok_iff, ite_error_eq_ok_iff, orBad_eq_ok] at accepted
  obtain ⟨address, addressed, parent, parented, _, _, _, _, _, _, _, _, _, _, _, _, _, _,
    _, _, _, _, _, valid, identity, named, proper, _, _, same⟩ := accepted
  obtain ⟨same', nonzero⟩ := WindowAddress.decode_named addressed
  cases same
  rw [nonzero.identity owner, Except.ok.injEq] at named
  rw [← named] at proper
  refine ⟨same', nonzero, valid, ?_, proper⟩
  intro held isParent
  dsimp only at isParent
  rw [isParent] at parented
  obtain ⟨_, _, owned⟩ := transpose_eq_ok parented
  exact decodeParent_owned owned

theorem rest_keys : (request.address.payload ++ request.rest).map Prod.fst |>.Sublist
    [0, 1, 2, 3, 4, 5, 6, 7, 8] := by
  have parent := optionalEntry_keys 7 (request.options.parent.map parentValue)
  rw [rest, List.map_append, List.map_append, List.map_append]
  exact (List.Sublist.refl [0, 1, 2]).append
    ((List.Sublist.refl [3, 4, 5, 6]).append (parent.append (List.Sublist.refl [8])))

theorem Valid.decode (valid : request.Valid validRect owner) :
    SetWindow.decode validRect owner request.address.surfaceId
        (.map (request.address.payload ++ request.rest)) = .ok request := by
  unfold SetWindow.decode
  rw [strict_ok rest_keys (by decide), ok_bind]
  have read := @Valid.fromMap _ _ _ valid [] rfl
  rwa [List.append_nil] at read

theorem decode_valid {object : UInt64} {value : Value}
    (accepted : SetWindow.decode validRect owner object value = .ok request) :
    object = request.address.surfaceId ∧ request.Valid validRect owner := by
  obtain ⟨_, _, accepted⟩ := bind_eq_ok_iff.mp accepted
  exact fromMap_valid accepted

end SetWindow

/-! ## Actions -/

def decodeAction (index : UInt64) : Except MessageError WindowAction :=
  match index with
  | 0 => .ok .close
  | 1 => .ok .focus
  | 2 => .ok .raise
  | 3 => .ok .lower
  | 4 => .ok .center
  | _ => .error (badOverlay 4 "unknown window action")

theorem decodeAction_index (action : WindowAction) : decodeAction action.index = .ok action := by
  cases action <;> rfl

end VividProtocol.Overlay.Wire

namespace VividProtocol.Overlay.Action

open VividProtocol.Cbor
open VividProtocol.Library.Result
open VividProtocol.Overlay.Wire

def decode (object : UInt64) (value : Value) : Except MessageError Action := do
  let map ← strict value [0, 1, 2, 3, 4]
  let address ← WindowAddress.decode object map
  let expectedRevision ← requireNonzero "overlay" 3 (← map.requiredU64 3)
  let action ← decodeAction (← map.requiredU64 4)
  .ok { address := address, expectedRevision := expectedRevision, action := action }

structure Valid (action : Action) : Prop where
  address : action.address.Named
  revision : action.expectedRevision ≠ 0

def fields (action : Action) : PayloadMap :=
  action.address.payload ++
    [(3, .unsigned action.expectedRevision), (4, .unsigned action.action.index)]

variable {action : Action}

theorem payload_eq_ok {entries : PayloadMap} :
    action.payload = .ok entries ↔ action.Valid ∧ action.fields = entries := by
  unfold payload
  simp only [bind_eq_ok_iff, WindowAddress.validate_eq_ok, requireNonzero_eq_ok, Except.ok.injEq]
  constructor
  · intro accepted
    obtain ⟨_, ⟨_, named⟩, _, ⟨revision, _⟩, same⟩ := accepted
    exact ⟨⟨named, revision⟩, same⟩
  · intro accepted
    obtain ⟨valid, same⟩ := accepted
    exact ⟨(), ⟨trivial, valid.address⟩, _, ⟨valid.revision, rfl⟩, same⟩

theorem Valid.decode (valid : action.Valid) :
    Action.decode action.address.surfaceId (.map action.fields) = .ok action := by
  have opened : strict (.map action.fields) [0, 1, 2, 3, 4] = .ok _ :=
    strict_ok (List.Sublist.refl _) (by decide)
  unfold Action.decode
  rw [opened, ok_bind, fields, valid.address.decode_payload, ok_bind,
    @StrictMap.requiredU64_of_lookup _ 3 action.expectedRevision rfl, ok_bind,
    requireNonzero_eq_ok.mpr ⟨valid.revision, rfl⟩, ok_bind,
    @StrictMap.requiredU64_of_lookup _ 4 action.action.index rfl, ok_bind, decodeAction_index,
    ok_bind]

theorem decode_valid {object : UInt64} {value : Value}
    (accepted : Action.decode object value = .ok action) :
    object = action.address.surfaceId ∧ action.Valid := by
  unfold Action.decode at accepted
  simp only [bind_eq_ok_iff, requireNonzero_eq_ok] at accepted
  obtain ⟨_, _, _, addressed, _, _, _, ⟨revision, checked⟩, _, _, _, _, same⟩ := accepted
  obtain ⟨same', named⟩ := WindowAddress.decode_named addressed
  cases same
  cases checked
  exact ⟨same', named, revision⟩

end VividProtocol.Overlay.Action

import Mathlib.Tactic
import VividProtocol.Input.Gate
import VividProtocol.Overlay.Wire.Semantics
import VividProtocol.Overlay.Wire.Status

/-!
# Control records

The short records of `overlay/wire.rs` and `EditorGeometry` of
`overlay/text.rs`, and the agreement of the two sides of every control record.
The one exception is `EnvironmentChanged`: its decoder does not refuse the
revision zero that its encoder refuses.
-/

set_option autoImplicit false

namespace VividProtocol.Overlay.Wire

open VividProtocol.Cbor
open VividProtocol.Library.Result
open VividProtocol.Library.Codec

def MAX_CLIPBOARD_BYTES : Nat := 64 * 1024
def MAX_FAMILY_BYTES : Nat := 256

/-! ## Clipboard -/

structure Clipboard where
  address : WindowAddress
  text : String
  deriving Repr, DecidableEq

namespace Clipboard

/-- The text is neither empty nor too long. -/
def validateText (text : String) : Except MessageError Unit :=
  if text = "" ∨ MAX_CLIPBOARD_BYTES < text.utf8ByteSize then
    .error (badOverlay 3 "clipboard text is empty or oversized")
  else .ok ()

def fields (request : Clipboard) : PayloadMap :=
  request.address.payload ++ [(3, .text request.text)]

def payload (request : Clipboard) : Except MessageError PayloadMap := do
  request.address.validate request.address.surfaceId
  validateText request.text
  .ok request.fields

def decode (object : UInt64) (value : Value) : Except MessageError Clipboard := do
  let map ← strict value [0, 1, 2, 3]
  let address ← WindowAddress.decode object map
  match ← map.required 3 with
  | .text text => do
      validateText text
      .ok { address := address, text := text }
  | _ => .error (badOverlay 3 "clipboard text must be text")

structure Valid (request : Clipboard) : Prop where
  address : request.address.Named
  text : validateText request.text = .ok ()

variable {request : Clipboard}

theorem payload_eq_ok {entries : PayloadMap} :
    request.payload = .ok entries ↔ request.Valid ∧ request.fields = entries := by
  unfold payload
  simp only [bind_eq_ok_iff, WindowAddress.validate_eq_ok, Except.ok.injEq]
  constructor
  · intro accepted
    obtain ⟨_, ⟨_, named⟩, _, text, same⟩ := accepted
    exact ⟨⟨named, text⟩, same⟩
  · intro accepted
    obtain ⟨valid, same⟩ := accepted
    exact ⟨(), ⟨trivial, valid.address⟩, (), valid.text, same⟩

theorem Valid.decode (valid : request.Valid) :
    Clipboard.decode request.address.surfaceId (.map request.fields) = .ok request := by
  have opened : strict (.map request.fields) [0, 1, 2, 3] = .ok _ :=
    strict_ok (List.Sublist.refl _) (by decide)
  unfold Clipboard.decode
  rw [opened, ok_bind, fields, valid.address.decode_payload, ok_bind, required_eq_ok.mpr rfl,
    ok_bind]
  dsimp only
  rw [valid.text, ok_bind]

theorem decode_valid {object : UInt64} {value : Value}
    (accepted : Clipboard.decode object value = .ok request) :
    object = request.address.surfaceId ∧ request.Valid := by
  unfold Clipboard.decode at accepted
  simp only [bind_eq_ok_iff] at accepted
  obtain ⟨_, _, _, addressed, held, _, accepted⟩ := accepted
  obtain ⟨same', named⟩ := WindowAddress.decode_named addressed
  cases held with
  | text text =>
      obtain ⟨_, short, same⟩ := bind_eq_ok_iff.mp accepted
      cases same
      exact ⟨same', named, short⟩
  | _ => cases accepted

end Clipboard

/-! ## The environment of the host -/

inductive Appearance where
  | light
  | dark
  deriving Repr, DecidableEq

def Appearance.index : Appearance → UInt64
  | .light => 0
  | .dark => 1

def decodeAppearance (index : UInt64) : Except MessageError Appearance :=
  match index with
  | 0 => .ok .light
  | 1 => .ok .dark
  | _ => .error (badOverlay 3 "unknown appearance")

theorem decodeAppearance_index (appearance : Appearance) :
    decodeAppearance appearance.index = .ok appearance := by
  cases appearance <;> rfl

structure Environment where
  fontFamily : String
  fontSize : Scalar
  appearance : Appearance
  reducedMotion : Option Bool
  refreshIntervalUs : Option UInt64
  deriving Repr, DecidableEq

def Environment.validate (environment : Environment) : Except MessageError Unit :=
  if MAX_FAMILY_BYTES < environment.fontFamily.utf8ByteSize then
    .error (badOverlay 1 "environment font family exceeds its ceiling")
  else if environment.fontSize ≤ Scalar.ZERO then
    .error (badOverlay 2 "environment font size must be positive")
  else if environment.refreshIntervalUs = some 0 then
    .error (badOverlay 5 "environment refresh interval must be nonzero")
  else .ok ()

structure EnvironmentChanged where
  revision : UInt64
  environment : Environment
  deriving Repr, DecidableEq

namespace EnvironmentChanged

def fields (change : EnvironmentChanged) : PayloadMap :=
  [(0, .unsigned change.revision),
    (1, .text change.environment.fontFamily),
    (2, scalar change.environment.fontSize),
    (3, .unsigned change.environment.appearance.index),
    (4, orNull .bool change.environment.reducedMotion),
    (5, orNull .unsigned change.environment.refreshIntervalUs)]

def payload (change : EnvironmentChanged) : Except MessageError PayloadMap := do
  change.environment.validate
  let _ ← requireNonzero "overlay" 0 change.revision
  .ok change.fields

def decodeFamily : Value → Except MessageError String
  | .text text => .ok text
  | _ => .error (badOverlay 1 "environment font family must be text")

def decodeMotion : Value → Except MessageError (Option Bool)
  | .null => .ok none
  | .bool value => .ok (some value)
  | _ => .error (badOverlay 4 "reduced motion must be a boolean or null")

def decode (object : UInt64) (value : Value) : Except MessageError EnvironmentChanged := do
  validateHeaderObject object 0
  let map ← strict value [0, 1, 2, 3, 4, 5]
  let fontFamily ← decodeFamily (← map.required 1)
  let appearance ← decodeAppearance (← unsigned (← map.required 3) 3)
  let reducedMotion ← decodeMotion (← map.required 4)
  let refreshIntervalUs ← nullable (unsigned · 5) (← map.required 5)
  let fontSize ← decodeScalar (← map.required 2) 2
  let environment : Environment :=
    { fontFamily := fontFamily
      fontSize := fontSize
      appearance := appearance
      reducedMotion := reducedMotion
      refreshIntervalUs := refreshIntervalUs }
  environment.validate
  -- The revision is taken as it is, unlike that of a viewport.
  let revision ← map.requiredU64 0
  .ok { revision := revision, environment := environment }

structure Valid (change : EnvironmentChanged) : Prop where
  environment : change.environment.validate = .ok ()
  revision : change.revision ≠ 0

variable {change : EnvironmentChanged}

theorem payload_eq_ok {entries : PayloadMap} :
    change.payload = .ok entries ↔ change.Valid ∧ change.fields = entries := by
  unfold payload
  simp only [bind_eq_ok_iff, requireNonzero_eq_ok, Except.ok.injEq]
  constructor
  · intro accepted
    obtain ⟨_, environment, _, ⟨revision, _⟩, same⟩ := accepted
    exact ⟨⟨environment, revision⟩, same⟩
  · intro accepted
    obtain ⟨valid, same⟩ := accepted
    exact ⟨(), valid.environment, _, ⟨valid.revision, rfl⟩, same⟩

theorem decodeMotion_written (motion : Option Bool) :
    decodeMotion (orNull .bool motion) = .ok motion := by
  cases motion <;> rfl

/-- A valid environment is read back whatever its revision. -/
theorem decode_fields (valid : change.environment.validate = .ok ()) :
    decode 0 (.map change.fields) = .ok change := by
  have opened : strict (.map change.fields) [0, 1, 2, 3, 4, 5] = .ok _ :=
    strict_ok (List.Sublist.refl _) (by decide)
  unfold decode
  rw [validateHeaderObject_self, ok_bind, opened, ok_bind]
  have family : decodeFamily (.text change.environment.fontFamily) = .ok _ := rfl
  have interval : nullable (unsigned · 5) (orNull .unsigned change.environment.refreshIntervalUs) =
      .ok change.environment.refreshIntervalUs :=
    nullable_written (fun _ => by simp) fun interval _ => unsigned_written interval
  rw [@required_eq_ok 1 _ _ |>.mpr rfl, ok_bind, family, ok_bind,
    @required_eq_ok 3 _ _ |>.mpr rfl, ok_bind, unsigned_written, ok_bind,
    decodeAppearance_index, ok_bind, @required_eq_ok 4 _ _ |>.mpr rfl, ok_bind,
    decodeMotion_written, ok_bind, @required_eq_ok 5 _ _ |>.mpr rfl, ok_bind,
    interval, ok_bind, @required_eq_ok 2 _ _ |>.mpr rfl, ok_bind,
    decodeScalar_written, ok_bind]
  dsimp only
  rw [valid, ok_bind, @StrictMap.requiredU64_of_lookup _ 0 change.revision rfl, ok_bind]

/-- The revision of an accepted record is what its key zero holds. -/
theorem decode_valid {object : UInt64} {value : Value}
    (accepted : decode object value = .ok change) :
    object = 0 ∧ change.environment.validate = .ok () ∧
      ∃ entries, value = .map entries ∧
        entries.lookup 0 = some (.unsigned change.revision) := by
  obtain ⟨_, header, accepted⟩ := bind_eq_ok_iff.mp accepted
  obtain ⟨map, opened, accepted⟩ := bind_eq_ok_iff.mp accepted
  iterate 11 obtain ⟨_, -, accepted⟩ := bind_eq_ok_iff.mp accepted
  obtain ⟨_, environment, accepted⟩ := bind_eq_ok_iff.mp accepted
  obtain ⟨_, revision, same⟩ := bind_eq_ok_iff.mp accepted
  cases same
  exact ⟨validateHeaderObject_eq_ok.mp header, environment, map.entries, strict_entries opened,
    requiredU64_eq_ok.mp revision⟩

end EnvironmentChanged

/-! ## Pointer capture -/

structure Capture where
  address : WindowAddress
  sceneRevision : UInt64
  capture : Bool
  deriving Repr, DecidableEq

namespace Capture

def fields (request : Capture) : PayloadMap :=
  request.address.payload ++ [(3, .unsigned request.sceneRevision), (4, .bool request.capture)]

def payload (request : Capture) : Except MessageError PayloadMap := do
  request.address.validate request.address.surfaceId
  let _ ← requireNonzero "overlay" 3 request.sceneRevision
  .ok request.fields

def decode (object : UInt64) (value : Value) : Except MessageError Capture := do
  let map ← strict value [0, 1, 2, 3, 4]
  let address ← WindowAddress.decode object map
  let sceneRevision ← requireNonzero "overlay" 3 (← map.requiredU64 3)
  let capture ← map.requiredBool 4
  .ok { address := address, sceneRevision := sceneRevision, capture := capture }

structure Valid (request : Capture) : Prop where
  address : request.address.Named
  scene : request.sceneRevision ≠ 0

variable {request : Capture}

theorem payload_eq_ok {entries : PayloadMap} :
    request.payload = .ok entries ↔ request.Valid ∧ request.fields = entries := by
  unfold payload
  simp only [bind_eq_ok_iff, WindowAddress.validate_eq_ok, requireNonzero_eq_ok, Except.ok.injEq]
  constructor
  · intro accepted
    obtain ⟨_, ⟨_, named⟩, _, ⟨scene, _⟩, same⟩ := accepted
    exact ⟨⟨named, scene⟩, same⟩
  · intro accepted
    obtain ⟨valid, same⟩ := accepted
    exact ⟨(), ⟨trivial, valid.address⟩, _, ⟨valid.scene, rfl⟩, same⟩

theorem Valid.decode (valid : request.Valid) :
    Capture.decode request.address.surfaceId (.map request.fields) = .ok request := by
  have opened : strict (.map request.fields) [0, 1, 2, 3, 4] = .ok _ :=
    strict_ok (List.Sublist.refl _) (by decide)
  unfold Capture.decode
  rw [opened, ok_bind, fields, valid.address.decode_payload, ok_bind,
    @StrictMap.requiredU64_of_lookup _ 3 request.sceneRevision rfl, ok_bind,
    requireNonzero_eq_ok.mpr ⟨valid.scene, rfl⟩, ok_bind,
    @StrictMap.requiredBool_of_lookup _ 4 request.capture rfl, ok_bind]

theorem decode_valid {object : UInt64} {value : Value}
    (accepted : Capture.decode object value = .ok request) :
    object = request.address.surfaceId ∧ request.Valid := by
  unfold Capture.decode at accepted
  simp only [bind_eq_ok_iff, requireNonzero_eq_ok] at accepted
  obtain ⟨_, _, _, addressed, _, _, _, ⟨scene, checked⟩, _, _, same⟩ := accepted
  obtain ⟨same', named⟩ := WindowAddress.decode_named addressed
  cases same
  cases checked
  exact ⟨same', named, scene⟩

end Capture

/-! ## Renewal of a lane -/

structure Renew where
  laneGeneration : UInt64
  watchdogUs : UInt64
  deriving Repr, DecidableEq

namespace Renew

def fields (renew : Renew) : PayloadMap :=
  [(0, .unsigned renew.laneGeneration), (1, .unsigned renew.watchdogUs)]

def payload (renew : Renew) : Except MessageError PayloadMap := do
  let _ ← requireNonzero "overlay" 0 renew.laneGeneration
  if ¬ (Input.MIN_WATCHDOG_US ≤ renew.watchdogUs ∧ renew.watchdogUs ≤ Input.MAX_WATCHDOG_US) then
    .error (badOverlay 1 "watchdog is outside the supported range")
  else .ok renew.fields

def decode (object : UInt64) (value : Value) : Except MessageError Renew := do
  validateHeaderObject object 0
  let map ← strict value [0, 1]
  let laneGeneration ← map.requiredU64 0
  let watchdogUs ← map.requiredU64 1
  let renew : Renew := { laneGeneration := laneGeneration, watchdogUs := watchdogUs }
  let _ ← renew.payload
  .ok renew

variable {renew : Renew}

theorem fields_of_payload {entries : PayloadMap} (written : renew.payload = .ok entries) :
    entries = renew.fields := by
  unfold payload at written
  simp only [bind_eq_ok_iff, ite_error_eq_ok_iff, Except.ok.injEq] at written
  obtain ⟨_, _, _, same⟩ := written
  exact same.symm

theorem decode_of_payload {entries : PayloadMap} (written : renew.payload = .ok entries) :
    decode 0 (.map entries) = .ok renew := by
  have opened : strict (.map renew.fields) [0, 1] = .ok _ :=
    strict_ok (List.Sublist.refl _) (by decide)
  rw [fields_of_payload written]
  unfold decode
  rw [validateHeaderObject_self, ok_bind, opened, ok_bind,
    @StrictMap.requiredU64_of_lookup _ 0 renew.laneGeneration rfl, ok_bind,
    @StrictMap.requiredU64_of_lookup _ 1 renew.watchdogUs rfl, ok_bind]
  dsimp only
  rw [written, ok_bind]

theorem decode_payload {object : UInt64} {value : Value}
    (accepted : decode object value = .ok renew) :
    object = 0 ∧ ∃ entries, renew.payload = .ok entries := by
  unfold decode at accepted
  simp only [bind_eq_ok_iff] at accepted
  obtain ⟨_, header, _, _, _, _, _, _, entries, written, same⟩ := accepted
  cases same
  exact ⟨validateHeaderObject_eq_ok.mp header, entries, written⟩

end Renew

/-! ## The caret of an editor -/

structure EditorGeometry where
  address : WindowAddress
  sceneRevision : UInt64
  caret : Option Rect
  deriving Repr, DecidableEq

namespace EditorGeometry

def fields (geometry : EditorGeometry) : PayloadMap :=
  geometry.address.payload ++
    [(3, .unsigned geometry.sceneRevision), (4, orNull rectangle geometry.caret)]

def validateCaret (validRect : Rect → Except InvalidScene Unit) :
    Option Rect → Except MessageError Unit
  | none => .ok ()
  | some caret => orBad 4 (validRect caret)

def payload (validRect : Rect → Except InvalidScene Unit) (geometry : EditorGeometry) :
    Except MessageError PayloadMap := do
  geometry.address.validate geometry.address.surfaceId
  let _ ← requireNonzero "overlay" 3 geometry.sceneRevision
  validateCaret validRect geometry.caret
  .ok geometry.fields

def decode (validRect : Rect → Except InvalidScene Unit) (object : UInt64) (value : Value) :
    Except MessageError EditorGeometry := do
  let map ← strict value [0, 1, 2, 3, 4]
  let address ← WindowAddress.decode object map
  let sceneRevision ← requireNonzero "overlay" 3 (← map.requiredU64 3)
  let caret ← nullable (decodeRectangle validRect · 4) (← map.required 4)
  .ok { address := address, sceneRevision := sceneRevision, caret := caret }

structure Valid (validRect : Rect → Except InvalidScene Unit) (geometry : EditorGeometry) :
    Prop where
  address : geometry.address.Named
  scene : geometry.sceneRevision ≠ 0
  caret : validateCaret validRect geometry.caret = .ok ()

variable {validRect : Rect → Except InvalidScene Unit} {geometry : EditorGeometry}

theorem payload_eq_ok {entries : PayloadMap} :
    geometry.payload validRect = .ok entries ↔
      geometry.Valid validRect ∧ geometry.fields = entries := by
  unfold payload
  simp only [bind_eq_ok_iff, WindowAddress.validate_eq_ok, requireNonzero_eq_ok, Except.ok.injEq]
  constructor
  · intro accepted
    obtain ⟨_, ⟨_, named⟩, _, ⟨scene, _⟩, _, caret, same⟩ := accepted
    exact ⟨⟨named, scene, caret⟩, same⟩
  · intro accepted
    obtain ⟨valid, same⟩ := accepted
    exact ⟨(), ⟨trivial, valid.address⟩, _, ⟨valid.scene, rfl⟩, (), valid.caret, same⟩

theorem caret_written {caret : Option Rect} (valid : validateCaret validRect caret = .ok ()) :
    nullable (decodeRectangle validRect · 4) (orNull rectangle caret) = .ok caret := by
  refine nullable_written nofun fun rect held => decodeRectangle_written ?_
  rw [held] at valid
  exact orBad_eq_ok.mp valid

theorem caret_valid {value : Value} {caret : Option Rect}
    (accepted : nullable (decodeRectangle validRect · 4) value = .ok caret) :
    validateCaret validRect caret = .ok () := by
  cases caret with
  | none => rfl
  | some caret => exact orBad_eq_ok.mpr (decodeRectangle_valid (nullable_eq_ok accepted))

theorem Valid.decode (valid : geometry.Valid validRect) :
    EditorGeometry.decode validRect geometry.address.surfaceId (.map geometry.fields) =
      .ok geometry := by
  have opened : strict (.map geometry.fields) [0, 1, 2, 3, 4] = .ok _ :=
    strict_ok (List.Sublist.refl _) (by decide)
  unfold EditorGeometry.decode
  rw [opened, ok_bind, fields, valid.address.decode_payload, ok_bind,
    @StrictMap.requiredU64_of_lookup _ 3 geometry.sceneRevision rfl, ok_bind,
    requireNonzero_eq_ok.mpr ⟨valid.scene, rfl⟩, ok_bind, @required_eq_ok 4 _ _ |>.mpr rfl,
    ok_bind, caret_written valid.caret, ok_bind]

theorem decode_valid {object : UInt64} {value : Value}
    (accepted : EditorGeometry.decode validRect object value = .ok geometry) :
    object = geometry.address.surfaceId ∧ geometry.Valid validRect := by
  unfold EditorGeometry.decode at accepted
  simp only [bind_eq_ok_iff, requireNonzero_eq_ok] at accepted
  obtain ⟨_, _, _, addressed, _, _, _, ⟨scene, checked⟩, _, _, _, caret, same⟩ := accepted
  obtain ⟨same', named⟩ := WindowAddress.decode_named addressed
  cases same
  cases checked
  exact ⟨same', named, scene, caret_valid caret⟩

end EditorGeometry

/-! ## All control records -/

/-- The control records of the overlay. -/
inductive ControlKind where
  | setWindow
  | status
  | action
  | submissionOutcome
  | viewportChanged
  | environmentChanged
  | setSemantics
  | clipboard
  | capture
  | renew
  | editorGeometry
  deriving Repr, DecidableEq

namespace ControlKind

abbrev Record : ControlKind → Type
  | setWindow => SetWindow
  | status => Status
  | action => Action
  | submissionOutcome => SubmissionOutcome
  | viewportChanged => ViewportChanged
  | environmentChanged => EnvironmentChanged
  | setSemantics => SetSemantics
  | clipboard => Clipboard
  | capture => Capture
  | renew => Renew
  | editorGeometry => EditorGeometry

/-- The object ID in the header of a record. -/
def object : (kind : ControlKind) → kind.Record → UInt64
  | setWindow, record => record.address.surfaceId
  | status, record => record.window.address.surfaceId
  | action, record => record.address.surfaceId
  | submissionOutcome, record => record.submission.address.surfaceId
  | viewportChanged, _ => 0
  | environmentChanged, _ => 0
  | setSemantics, record => record.address.surfaceId
  | clipboard, record => record.address.surfaceId
  | capture, record => record.address.surfaceId
  | renew, _ => 0
  | editorGeometry, record => record.address.surfaceId

variable (validRect : Rect → Except InvalidScene Unit) (owner : SessionIdentity)

def payload : (kind : ControlKind) → kind.Record → Except MessageError PayloadMap
  | setWindow => SetWindow.payload validRect owner
  | status => Status.payload validRect owner
  | action => Action.payload
  | submissionOutcome => SubmissionOutcome.payload
  | viewportChanged => ViewportChanged.payload
  | environmentChanged => EnvironmentChanged.payload
  | setSemantics => SetSemantics.payload validRect
  | clipboard => Clipboard.payload
  | capture => Capture.payload
  | renew => Renew.payload
  | editorGeometry => EditorGeometry.payload validRect

def decode : (kind : ControlKind) → UInt64 → Value → Except MessageError kind.Record
  | setWindow => SetWindow.decode validRect owner
  | status => Status.decode validRect owner
  | action => Action.decode
  | submissionOutcome => SubmissionOutcome.decode
  | viewportChanged => ViewportChanged.decode
  | environmentChanged => EnvironmentChanged.decode
  | setSemantics => SetSemantics.decode validRect
  | clipboard => Clipboard.decode
  | capture => Capture.decode
  | renew => Renew.decode
  | editorGeometry => EditorGeometry.decode validRect

end ControlKind

variable {validRect : Rect → Except InvalidScene Unit} {owner : SessionIdentity}

/-- Every kind but one checks the same condition on both sides. -/
theorem ControlKind.agrees {kind : ControlKind} (other : kind ≠ .environmentChanged) :
    Agrees kind.object Value.map (kind.payload validRect owner) (kind.decode validRect owner) := by
  cases kind with
  | setWindow =>
      exact Agrees.of_valid SetWindow.payload_eq_ok SetWindow.Valid.decode SetWindow.decode_valid
  | status => exact Agrees.of_valid Status.payload_eq_ok Status.Valid.decode Status.decode_valid
  | action => exact Agrees.of_valid Action.payload_eq_ok Action.Valid.decode Action.decode_valid
  | submissionOutcome =>
      exact Agrees.of_valid SubmissionOutcome.payload_eq_ok SubmissionOutcome.decode_fields
        SubmissionOutcome.decode_valid
  | viewportChanged =>
      exact Agrees.of_valid ViewportChanged.payload_eq_ok ViewportChanged.Valid.decode
        ViewportChanged.decode_valid
  | environmentChanged => exact absurd rfl other
  | setSemantics =>
      exact Agrees.of_valid SetSemantics.payload_eq_ok SetSemantics.Valid.decode
        SetSemantics.decode_valid
  | clipboard =>
      exact Agrees.of_valid Clipboard.payload_eq_ok Clipboard.Valid.decode Clipboard.decode_valid
  | capture =>
      exact Agrees.of_valid Capture.payload_eq_ok Capture.Valid.decode Capture.decode_valid
  | renew => exact ⟨Renew.decode_of_payload, Renew.decode_payload⟩
  | editorGeometry =>
      exact Agrees.of_valid EditorGeometry.payload_eq_ok EditorGeometry.Valid.decode
        EditorGeometry.decode_valid

/-- Key zero of a payload, the revision of an environment, holds zero. -/
def ZeroRevision (value : Value) : Prop :=
  ∃ entries, value = .map entries ∧ entries.lookup 0 = some (.unsigned 0)

theorem environment_settles_iff {object : UInt64} {value : Value} {change : EnvironmentChanged}
    (accepted : EnvironmentChanged.decode object value = .ok change) :
    (∃ entries, change.payload = .ok entries ∧
        EnvironmentChanged.decode object (.map entries) = .ok change) ↔
      ¬ ZeroRevision value := by
  obtain ⟨header, environment, entries, carried, held⟩ := EnvironmentChanged.decode_valid accepted
  constructor
  · intro settled zero
    obtain ⟨_, written, _⟩ := settled
    obtain ⟨others, same, none⟩ := zero
    rw [carried, Value.map.injEq] at same
    rw [← same, held, Option.some.injEq, Value.unsigned.injEq] at none
    exact (EnvironmentChanged.payload_eq_ok.mp written).1.revision none
  · intro nonzero
    have revision : change.revision ≠ 0 := by
      intro zero
      rw [zero] at held
      exact nonzero ⟨entries, carried, held⟩
    rw [header]
    exact ⟨change.fields, EnvironmentChanged.payload_eq_ok.mpr ⟨⟨environment, revision⟩, rfl⟩,
      EnvironmentChanged.decode_fields environment⟩

/-- A control record is read back as it was written.  A record the decoder
accepts can be written and is read back as itself, except for an environment
of revision zero. -/
theorem control_records_agree_iff (validRect : Rect → Except InvalidScene Unit)
    (owner : SessionIdentity) :
    (∀ (kind : ControlKind) (record : kind.Record) (entries : PayloadMap),
      kind.payload validRect owner record = .ok entries →
        kind.decode validRect owner (kind.object record) (.map entries) = .ok record) ∧
    (∀ (kind : ControlKind) (object : UInt64) (value : Value) (record : kind.Record),
      kind.decode validRect owner object value = .ok record →
        ((∃ entries, kind.payload validRect owner record = .ok entries ∧
            kind.decode validRect owner object (.map entries) = .ok record) ↔
          ¬ (kind = .environmentChanged ∧ ZeroRevision value))) := by
  constructor
  · intro kind record entries written
    by_cases environment : kind = .environmentChanged
    · subst environment
      obtain ⟨valid, same⟩ := EnvironmentChanged.payload_eq_ok.mp written
      rw [← same]
      exact EnvironmentChanged.decode_fields valid.environment
    · exact (ControlKind.agrees environment).readsBack written
  · intro kind object value record accepted
    by_cases environment : kind = .environmentChanged
    · subst environment
      refine (environment_settles_iff accepted).trans ?_
      simp
    · simpa [environment] using (ControlKind.agrees environment).settles accepted

/-- An environment whose revision is zero, as a peer may send it. -/
def unrevised : EnvironmentChanged :=
  { revision := 0
    environment :=
      { fontFamily := ""
        fontSize := .ONE
        appearance := .light
        reducedMotion := none
        refreshIntervalUs := none } }

/-- It is accepted, and no conforming peer can have written it. -/
theorem unrevised_accepted :
    EnvironmentChanged.decode 0 (.map unrevised.fields) = .ok unrevised ∧
      ¬ ∃ entries, unrevised.payload = .ok entries := by
  refine ⟨EnvironmentChanged.decode_fields rfl, ?_⟩
  intro written
  obtain ⟨_, written⟩ := written
  exact (EnvironmentChanged.payload_eq_ok.mp written).1.revision rfl

/-- A renewal is one of the records that settle. -/
theorem control_records_agree_renew :
    ∃ entries, Renew.payload { laneGeneration := 1, watchdogUs := 250000 } = .ok entries ∧
      Renew.decode 0 (.map entries) = .ok { laneGeneration := 1, watchdogUs := 250000 } := by
  have written : Renew.payload { laneGeneration := 1, watchdogUs := 250000 } =
      .ok [(0, .unsigned 1), (1, .unsigned 250000)] := rfl
  let owner : SessionIdentity :=
    { presenter := { bytes := Vector.replicate 16 0 }, sessionId := 1 }
  have read := (control_records_agree_iff Rect.validate owner).1 .renew _ _ written
  exact ((control_records_agree_iff Rect.validate owner).2 .renew _ _ _ read).mpr (by simp)

end VividProtocol.Overlay.Wire

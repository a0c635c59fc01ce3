import Mathlib.Tactic
import VividProtocol.Overlay.Wire.Window

/-!
# Window status

The status of a window, the submissions it names and the viewport, from
`overlay/wire.rs`.
-/

set_option autoImplicit false

namespace VividProtocol.Overlay.Wire

open VividProtocol.Cbor
open VividProtocol.Library.Result
open VividProtocol.Library.Codec

/-! ## Submissions -/

structure Submission where
  address : WindowAddress
  trackId : UInt64
  channelGeneration : UInt64
  epoch : UInt32
  revision : UInt64
  deriving Repr, DecidableEq

def Submission.validate (submission : Submission) : Except MessageError Unit := do
  submission.address.validate submission.address.surfaceId
  let _ ← requireNonzero "overlay" 3 submission.trackId
  let _ ← requireNonzero "overlay" 4 submission.channelGeneration
  let _ ← requireNonzero "overlay" 5 submission.epoch.toUInt64
  let _ ← requireNonzero "overlay" 6 submission.revision
  .ok ()

theorem Submission.named {submission : Submission} (valid : submission.validate = .ok ()) :
    submission.address.Named := by
  obtain ⟨_, addressed, _⟩ := bind_eq_ok_iff.mp valid
  exact (WindowAddress.validate_eq_ok.mp addressed).2

inductive PresentationOutcome where
  | presented
  | superseded
  deriving Repr, DecidableEq

def PresentationOutcome.index : PresentationOutcome → UInt64
  | .presented => 0
  | .superseded => 1

def decodeOutcome (index : UInt64) : Except MessageError PresentationOutcome :=
  match index with
  | 0 => .ok .presented
  | 1 => .ok .superseded
  | _ => .error (badOverlay 7 "unknown submission outcome")

theorem decodeOutcome_index (outcome : PresentationOutcome) :
    decodeOutcome outcome.index = .ok outcome := by
  cases outcome <;> rfl

structure SubmissionOutcome where
  submission : Submission
  outcome : PresentationOutcome
  deriving Repr, DecidableEq

namespace SubmissionOutcome

def fields (report : SubmissionOutcome) : PayloadMap :=
  report.submission.address.payload ++
    [(3, .unsigned report.submission.trackId),
      (4, .unsigned report.submission.channelGeneration),
      (5, .unsigned report.submission.epoch.toUInt64),
      (6, .unsigned report.submission.revision),
      (7, .unsigned report.outcome.index)]

def payload (report : SubmissionOutcome) : Except MessageError PayloadMap := do
  report.submission.validate
  .ok report.fields

def decode (object : UInt64) (value : Value) : Except MessageError SubmissionOutcome := do
  let map ← strict value [0, 1, 2, 3, 4, 5, 6, 7]
  let address ← WindowAddress.decode object map
  let trackId ← map.requiredU64 3
  let channelGeneration ← map.requiredU64 4
  let epoch ← small (← map.required 5) 5
  let revision ← map.requiredU64 6
  let submission : Submission :=
    { address := address
      trackId := trackId
      channelGeneration := channelGeneration
      epoch := epoch
      revision := revision }
  submission.validate
  let outcome ← decodeOutcome (← map.requiredU64 7)
  .ok { submission := submission, outcome := outcome }

variable {report : SubmissionOutcome}

theorem payload_eq_ok {entries : PayloadMap} :
    report.payload = .ok entries ↔
      report.submission.validate = .ok () ∧ report.fields = entries := by
  unfold payload
  simp only [bind_eq_ok_iff, Except.ok.injEq]
  constructor
  · intro accepted
    obtain ⟨_, valid, same⟩ := accepted
    exact ⟨valid, same⟩
  · intro accepted
    exact ⟨(), accepted⟩

theorem decode_fields (valid : report.submission.validate = .ok ()) :
    decode report.submission.address.surfaceId (.map report.fields) = .ok report := by
  have opened : strict (.map report.fields) [0, 1, 2, 3, 4, 5, 6, 7] = .ok _ :=
    strict_ok (List.Sublist.refl _) (by decide)
  unfold decode
  rw [opened, ok_bind, fields, (Submission.named valid).decode_payload, ok_bind,
    @StrictMap.requiredU64_of_lookup _ 3 report.submission.trackId rfl, ok_bind,
    @StrictMap.requiredU64_of_lookup _ 4 report.submission.channelGeneration rfl, ok_bind,
    required_eq_ok.mpr rfl, ok_bind, small_written, ok_bind,
    @StrictMap.requiredU64_of_lookup _ 6 report.submission.revision rfl, ok_bind]
  dsimp only
  rw [valid, ok_bind, @StrictMap.requiredU64_of_lookup _ 7 report.outcome.index rfl, ok_bind,
    decodeOutcome_index, ok_bind]

theorem decode_valid {object : UInt64} {value : Value}
    (accepted : decode object value = .ok report) :
    object = report.submission.address.surfaceId ∧ report.submission.validate = .ok () := by
  obtain ⟨map, -, accepted⟩ := bind_eq_ok_iff.mp accepted
  obtain ⟨_, addressed, accepted⟩ := bind_eq_ok_iff.mp accepted
  iterate 5 obtain ⟨_, -, accepted⟩ := bind_eq_ok_iff.mp accepted
  obtain ⟨_, valid, accepted⟩ := bind_eq_ok_iff.mp accepted
  iterate 2 obtain ⟨_, -, accepted⟩ := bind_eq_ok_iff.mp accepted
  cases accepted
  exact ⟨(WindowAddress.decode_named addressed).1, valid⟩

end SubmissionOutcome

/-! ## Viewports -/

def extent (viewport : Viewport) : Value :=
  .array [scalar viewport.width, scalar viewport.height]

def scale (viewport : Viewport) : Value :=
  .array [.unsigned viewport.scaleNumerator.toUInt64, .unsigned viewport.scaleDenominator.toUInt64]

/-- The elements of an extent, and of a scale. -/
abbrev VIEWPORT_PARTS : Nat := 2

/-- The viewport in two keys of a record. -/
def decodeViewport (map : StrictMap) (extentKey scaleKey : UInt64) :
    Except MessageError Viewport := do
  let extent ← array VIEWPORT_PARTS (← map.required extentKey) extentKey
  let scale ← array VIEWPORT_PARTS (← map.required scaleKey) scaleKey
  let width ← decodeScalar extent[0] extentKey
  let height ← decodeScalar extent[1] extentKey
  let scaleNumerator ← small scale[0] scaleKey
  let scaleDenominator ← small scale[1] scaleKey
  let viewport : Viewport :=
    { width := width
      height := height
      scaleNumerator := scaleNumerator
      scaleDenominator := scaleDenominator }
  viewport.validate
  .ok viewport

theorem decodeViewport_written {viewport : Viewport} {map : StrictMap}
    {extentKey scaleKey : UInt64} (valid : viewport.validate = .ok ())
    (extentHeld : map.entries.lookup extentKey = some (extent viewport))
    (scaleHeld : map.entries.lookup scaleKey = some (scale viewport)) :
    decodeViewport map extentKey scaleKey = .ok viewport := by
  unfold decodeViewport
  rw [required_eq_ok.mpr extentHeld, required_eq_ok.mpr scaleHeld]
  simp [extent, scale, valid]

theorem decodeViewport_valid {viewport : Viewport} {map : StrictMap}
    {extentKey scaleKey : UInt64} (accepted : decodeViewport map extentKey scaleKey = .ok viewport) :
    viewport.validate = .ok () := by
  iterate 8 obtain ⟨_, -, accepted⟩ := bind_eq_ok_iff.mp accepted
  obtain ⟨_, valid, same⟩ := bind_eq_ok_iff.mp accepted
  cases same
  exact valid

structure ViewportChanged where
  revision : UInt64
  viewport : Viewport
  deriving Repr, DecidableEq

namespace ViewportChanged

def fields (change : ViewportChanged) : PayloadMap :=
  [(0, .unsigned change.revision), (1, extent change.viewport), (2, scale change.viewport)]

def payload (change : ViewportChanged) : Except MessageError PayloadMap := do
  change.viewport.validate
  let _ ← requireNonzero "overlay" 0 change.revision
  .ok change.fields

def decode (object : UInt64) (value : Value) : Except MessageError ViewportChanged := do
  validateHeaderObject object 0
  let map ← strict value [0, 1, 2]
  let viewport ← decodeViewport map 1 2
  let revision ← requireNonzero "overlay" 0 (← map.requiredU64 0)
  .ok { revision := revision, viewport := viewport }

structure Valid (change : ViewportChanged) : Prop where
  viewport : change.viewport.validate = .ok ()
  revision : change.revision ≠ 0

variable {change : ViewportChanged}

theorem payload_eq_ok {entries : PayloadMap} :
    change.payload = .ok entries ↔ change.Valid ∧ change.fields = entries := by
  unfold payload
  simp only [bind_eq_ok_iff, requireNonzero_eq_ok, Except.ok.injEq]
  constructor
  · intro accepted
    obtain ⟨_, viewport, _, ⟨revision, _⟩, same⟩ := accepted
    exact ⟨⟨viewport, revision⟩, same⟩
  · intro accepted
    obtain ⟨valid, same⟩ := accepted
    exact ⟨(), valid.viewport, _, ⟨valid.revision, rfl⟩, same⟩

theorem Valid.decode (valid : change.Valid) :
    ViewportChanged.decode 0 (.map change.fields) = .ok change := by
  have opened : strict (.map change.fields) [0, 1, 2] = .ok _ :=
    strict_ok (List.Sublist.refl _) (by decide)
  unfold ViewportChanged.decode
  rw [validateHeaderObject_self, ok_bind, opened, ok_bind,
    decodeViewport_written valid.viewport rfl rfl, ok_bind,
    @StrictMap.requiredU64_of_lookup _ 0 change.revision rfl, ok_bind,
    requireNonzero_eq_ok.mpr ⟨valid.revision, rfl⟩, ok_bind]

theorem decode_valid {object : UInt64} {value : Value}
    (accepted : ViewportChanged.decode object value = .ok change) :
    object = 0 ∧ change.Valid := by
  unfold ViewportChanged.decode at accepted
  simp only [bind_eq_ok_iff, requireNonzero_eq_ok] at accepted
  obtain ⟨_, header, _, _, _, viewport, _, _, _, ⟨revision, checked⟩, same⟩ := accepted
  cases same
  cases checked
  exact ⟨validateHeaderObject_eq_ok.mp header, decodeViewport_valid viewport, revision⟩

end ViewportChanged

/-! ## Status -/

structure Status where
  window : SetWindow
  viewport : Viewport
  focused : Bool
  sceneRevision : UInt64
  active : Option Submission
  viewportRevision : UInt64
  acceptedRevision : UInt64
  deriving Repr, DecidableEq

namespace Status

def validateProgress (status : Status) : Except MessageError Unit :=
  if status.acceptedRevision < status.sceneRevision ∨
      status.active.any fun active => decide (status.acceptedRevision < active.revision) then
    .error (badOverlay 15 "accepted revision precedes active or presented content")
  else .ok ()

def activeValue (active : Submission) : Value :=
  .array
    [.unsigned active.trackId, .unsigned active.channelGeneration,
      .unsigned active.epoch.toUInt64, .unsigned active.revision]

/-- The entries after the window's. -/
def rest (status : Status) : PayloadMap :=
  [(9, extent status.viewport),
    (10, scale status.viewport),
    (11, .bool status.focused),
    (12, .unsigned status.sceneRevision)] ++
  (optionalEntry 13 (status.active.map activeValue) ++
  [(14, .unsigned status.viewportRevision),
    (15, .unsigned status.acceptedRevision)])

def validateActive (address : WindowAddress) (active : Option Submission) :
    Except MessageError Unit :=
  match active with
  | none => .ok ()
  | some active => do
      active.validate
      if active.address ≠ address then
        .error (badOverlay 13 "active binding belongs to another window")
      else .ok ()

variable (validRect : Rect → Except InvalidScene Unit) (owner : SessionIdentity)

def payload (status : Status) : Except MessageError PayloadMap := do
  status.validateProgress
  let _ ← requireNonzero "overlay" 3 status.window.expectedRevision
  status.viewport.validate
  let fields ← status.window.payload validRect owner
  validateActive status.window.address status.active
  let _ ← requireNonzero "overlay" 14 status.viewportRevision
  .ok (fields ++ status.rest)

/-- The elements of an active submission. -/
abbrev ACTIVE_PARTS : Nat := 4

def decodeActive (address : WindowAddress) (value : Value) : Except MessageError Submission := do
  let fields ← array ACTIVE_PARTS value 13
  let trackId ← unsigned fields[0] 13
  let channelGeneration ← unsigned fields[1] 13
  let epoch ← small fields[2] 13
  let revision ← unsigned fields[3] 13
  let submission : Submission :=
    { address := address
      trackId := trackId
      channelGeneration := channelGeneration
      epoch := epoch
      revision := revision }
  submission.validate
  .ok submission

def decode (object : UInt64) (value : Value) : Except MessageError Status := do
  let map ← strict value [0, 1, 2, 3, 4, 5, 6, 7, 8, 9, 10, 11, 12, 13, 14, 15]
  let window ← SetWindow.fromMap validRect owner object map
  let _ ← requireNonzero "overlay" 3 window.expectedRevision
  let viewport ← decodeViewport map 9 10
  let active ← transpose (decodeActive window.address) (optional map 13)
  let focused ← map.requiredBool 11
  let sceneRevision ← map.requiredU64 12
  let viewportRevision ← requireNonzero "overlay" 14 (← map.requiredU64 14)
  let acceptedRevision ← map.requiredU64 15
  let status : Status :=
    { window := window
      viewport := viewport
      focused := focused
      sceneRevision := sceneRevision
      active := active
      viewportRevision := viewportRevision
      acceptedRevision := acceptedRevision }
  status.validateProgress
  .ok status

/-- What both sides demand of a status. -/
structure Valid (status : Status) : Prop where
  window : status.window.Valid validRect owner
  revision : status.window.expectedRevision ≠ 0
  viewport : status.viewport.validate = .ok ()
  active : ∀ active, status.active = some active →
    active.validate = .ok () ∧ active.address = status.window.address
  viewportRevision : status.viewportRevision ≠ 0
  progress : status.validateProgress = .ok ()

variable {validRect : Rect → Except InvalidScene Unit} {owner : SessionIdentity} {status : Status}

theorem validateActive_eq_ok {address : WindowAddress} {active : Option Submission}
    {done : Unit} :
    validateActive address active = .ok done ↔
      ∀ submission, active = some submission →
        submission.validate = .ok () ∧ submission.address = address := by
  unfold validateActive
  cases active with
  | none => simp
  | some active =>
      simp only [bind_eq_ok_iff, ite_error_eq_ok_iff, not_not, Option.some.injEq]
      constructor
      · intro accepted submission same
        obtain ⟨_, valid, bound, _⟩ := accepted
        cases same
        exact ⟨valid, bound⟩
      · intro held
        exact ⟨(), (held active rfl).1, (held active rfl).2, trivial⟩

theorem payload_eq_ok {entries : PayloadMap} :
    status.payload validRect owner = .ok entries ↔
      status.Valid validRect owner ∧
        status.window.address.payload ++ (status.window.rest ++ status.rest) = entries := by
  unfold payload
  simp only [bind_eq_ok_iff, requireNonzero_eq_ok, SetWindow.payload_eq_ok,
    validateActive_eq_ok, Except.ok.injEq]
  constructor
  · intro accepted
    obtain ⟨_, progress, _, ⟨revision, _⟩, _, viewport, _, ⟨window, written⟩, _, active, _,
      ⟨viewportRevision, _⟩, same⟩ := accepted
    rw [← written, List.append_assoc] at same
    exact ⟨⟨window, revision, viewport, active, viewportRevision, progress⟩, same⟩
  · intro accepted
    obtain ⟨valid, same⟩ := accepted
    refine ⟨(), valid.progress, _, ⟨valid.revision, rfl⟩, (), valid.viewport, _,
      ⟨valid.window, rfl⟩, (), valid.active, _, ⟨valid.viewportRevision, rfl⟩, ?_⟩
    rw [List.append_assoc]
    exact same

theorem decodeActive_written {active : Submission} (valid : active.validate = .ok ()) :
    decodeActive active.address (activeValue active) = .ok active := by
  simp [decodeActive, activeValue, valid]

theorem decodeActive_valid {address : WindowAddress} {value : Value} {active : Submission}
    (accepted : decodeActive address value = .ok active) :
    active.validate = .ok () ∧ active.address = address := by
  iterate 5 obtain ⟨_, -, accepted⟩ := bind_eq_ok_iff.mp accepted
  obtain ⟨_, valid, same⟩ := bind_eq_ok_iff.mp accepted
  cases same
  exact ⟨valid, rfl⟩

theorem fields_keys :
    ((status.window.address.payload ++ (status.window.rest ++ status.rest)).map
      Prod.fst).Sublist [0, 1, 2, 3, 4, 5, 6, 7, 8, 9, 10, 11, 12, 13, 14, 15] := by
  have active := optionalEntry_keys 13 (status.active.map activeValue)
  have keys : (status.rest.map Prod.fst).Sublist [9, 10, 11, 12, 13, 14, 15] := by
    rw [rest, List.map_append, List.map_append]
    exact (List.Sublist.refl [9, 10, 11, 12]).append
      (active.append (List.Sublist.refl [14, 15]))
  rw [← List.append_assoc, List.map_append]
  exact SetWindow.rest_keys.append keys

theorem Valid.decode (valid : status.Valid validRect owner) :
    Status.decode validRect owner status.window.address.surfaceId
        (.map (status.window.address.payload ++ (status.window.rest ++ status.rest))) =
      .ok status := by
  have active : transpose (decodeActive status.window.address)
      (status.active.map activeValue) = .ok status.active := by
    refine transpose_map fun active held => ?_
    obtain ⟨checked, bound⟩ := valid.active active held
    rw [← bound]
    exact decodeActive_written checked
  have absent : status.rest.lookup 7 = none := by
    simp [rest, List.lookup_append, List.lookup_cons]
  have looked : ∀ key ∉ [0, 1, 2, 3, 4, 5, 6, 7, 8],
      (status.window.address.payload ++ (status.window.rest ++ status.rest)).lookup key =
        status.rest.lookup key := by
    intro key outside
    rw [← List.append_assoc]
    exact lookup_append_of_notMem fun among => outside (SetWindow.rest_keys.subset among)
  have held : optional
      { schema := "overlay"
        entries := status.window.address.payload ++ (status.window.rest ++ status.rest) } 13 =
      status.active.map activeValue := by
    rw [optional, looked 13 (by decide)]
    simp [rest, List.lookup_append, List.lookup_cons]
  have viewportRevision : status.rest.lookup 14 = some (.unsigned status.viewportRevision) := by
    simp [rest, List.lookup_append, List.lookup_cons]
  have acceptedRevision : status.rest.lookup 15 = some (.unsigned status.acceptedRevision) := by
    simp [rest, List.lookup_append, List.lookup_cons]
  unfold Status.decode
  rw [strict_ok fields_keys (by decide), ok_bind, valid.window.fromMap absent, ok_bind,
    requireNonzero_eq_ok.mpr ⟨valid.revision, rfl⟩, ok_bind,
    decodeViewport_written valid.viewport (looked 9 (by decide)) (looked 10 (by decide)), ok_bind,
    held, active, ok_bind, StrictMap.requiredBool_of_lookup (looked 11 (by decide)), ok_bind,
    StrictMap.requiredU64_of_lookup (looked 12 (by decide)), ok_bind,
    StrictMap.requiredU64_of_lookup ((looked 14 (by decide)).trans viewportRevision), ok_bind,
    requireNonzero_eq_ok.mpr ⟨valid.viewportRevision, rfl⟩, ok_bind,
    StrictMap.requiredU64_of_lookup ((looked 15 (by decide)).trans acceptedRevision), ok_bind]
  dsimp only
  rw [valid.progress, ok_bind]

theorem decode_valid {object : UInt64} {value : Value}
    (accepted : Status.decode validRect owner object value = .ok status) :
    object = status.window.address.surfaceId ∧ status.Valid validRect owner := by
  unfold Status.decode at accepted
  simp only [bind_eq_ok_iff, requireNonzero_eq_ok] at accepted
  obtain ⟨_, _, _, window, _, ⟨revision, _⟩, _, viewport, _, active, _, _, _, _, _, _, _,
    ⟨viewportRevision, checked⟩, _, _, _, progress, same⟩ := accepted
  obtain ⟨same', valid⟩ := SetWindow.fromMap_valid window
  cases same
  cases checked
  refine ⟨same', valid, revision, decodeViewport_valid viewport, ?_, viewportRevision, progress⟩
  intro held isActive
  dsimp only at isActive
  rw [isActive] at active
  obtain ⟨_, _, read⟩ := transpose_eq_ok active
  exact decodeActive_valid read

end Status

end VividProtocol.Overlay.Wire

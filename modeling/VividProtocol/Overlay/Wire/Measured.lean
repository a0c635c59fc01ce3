import Mathlib.Tactic
import VividProtocol.Overlay.Wire.Batch

/-!
# Measured layouts

The geometry of measured text, its batches and the release of layouts, from
`overlay/text.rs` and `overlay/styled.rs`.
-/

set_option autoImplicit false

namespace VividProtocol.Overlay.Wire

open VividProtocol.Cbor
open VividProtocol.Library.Result
open VividProtocol.Library.Codec

/-! ## Geometry -/

structure TextGeometry where
  start : UInt32
  finish : UInt32
  x : Scalar
  y : Scalar
  width : Scalar
  height : Scalar
  baseline : Scalar
  rtl : Bool
  deriving Repr, DecidableEq

namespace TextGeometry

def toValue (geometry : TextGeometry) : Value :=
  .array
    [.unsigned geometry.start.toUInt64, .unsigned geometry.finish.toUInt64, scalar geometry.x,
      scalar geometry.y, scalar geometry.width, scalar geometry.height, scalar geometry.baseline,
      .bool geometry.rtl]

/-- The range is ordered and within a measurement, and nothing is negative. -/
structure Valid (geometry : TextGeometry) : Prop where
  ordered : geometry.start ≤ geometry.finish
  within : geometry.finish.toNat ≤ MAX_MEASURE_TEXT_BYTES
  width : ¬ geometry.width < Scalar.ZERO
  height : ¬ geometry.height < Scalar.ZERO

/-- The elements of a geometry. -/
abbrev PARTS : Nat := 8

def decode (value : Value) : Except MessageError TextGeometry := do
  let fields ← array PARTS value 4
  let start ← small fields[0] 4
  let finish ← small fields[1] 4
  let x ← decodeScalar fields[2] 4
  let y ← decodeScalar fields[3] 4
  let width ← decodeScalar fields[4] 4
  let height ← decodeScalar fields[5] 4
  let baseline ← decodeScalar fields[6] 4
  let rtl ← boolean fields[7] 4
  if finish < start ∨ MAX_MEASURE_TEXT_BYTES < finish.toNat ∨ width < Scalar.ZERO ∨
      height < Scalar.ZERO then
    .error (badOverlay 4 "invalid text geometry")
  else
    .ok
      { start := start
        finish := finish
        x := x
        y := y
        width := width
        height := height
        baseline := baseline
        rtl := rtl }

variable {geometry : TextGeometry}

theorem decode_valid {value : Value} (accepted : decode value = .ok geometry) :
    geometry.Valid := by
  unfold decode at accepted
  simp only [bind_eq_ok_iff, ite_error_eq_ok_iff, not_or, Nat.not_lt, UInt32.not_lt,
    Except.ok.injEq] at accepted
  obtain ⟨_, _, _, _, _, _, _, _, _, _, _, _, _, _, _, _, _, _, ⟨ordered, within, width, height⟩,
    same⟩ := accepted
  cases same
  exact ⟨ordered, within, width, height⟩

theorem Valid.decode (valid : geometry.Valid) :
    TextGeometry.decode geometry.toValue = .ok geometry := by
  have checked : ¬ (geometry.finish < geometry.start ∨
      MAX_MEASURE_TEXT_BYTES < geometry.finish.toNat ∨ geometry.width < Scalar.ZERO ∨
      geometry.height < Scalar.ZERO) := by
    rw [not_or, not_or, not_or, Nat.not_lt, UInt32.not_lt]
    exact ⟨valid.ordered, valid.within, valid.width, valid.height⟩
  simp [TextGeometry.decode, toValue, checked]

/-- A written geometry is read as itself or not at all. -/
theorem decode_toValue {other : TextGeometry} (read : decode geometry.toValue = .ok other) :
    other = geometry := by
  unfold decode toValue at read
  simp only [array_written, List.length_cons, List.length_nil, ok_bind, List.getElem_toArray,
    Vector.getElem_mk, List.getElem_cons_zero, List.getElem_cons_succ, small_written,
    decodeScalar_written, boolean_written, ite_error_eq_ok_iff, Except.ok.injEq] at read
  exact read.2.symm

theorem toValue_fits (levels : Nat) (geometry : TextGeometry) :
    geometry.toValue.Fits (levels + 2) := by
  simp [toValue, fits_scalar, maxContainerLength]

end TextGeometry

/-! ## Measurements -/

structure TextMeasurement where
  truncatedAt : Option UInt32
  width : Scalar
  height : Scalar
  lines : List TextGeometry
  clusters : List TextGeometry
  deriving Repr, DecidableEq

namespace TextMeasurement

def decodeGeometry (map : StrictMap) (key : UInt64) : Except MessageError (List TextGeometry) := do
  let values ← arrayOr (← map.required key) key "expected geometry array"
  if MAX_TEXT_GEOMETRY < values.length then .error (badOverlay key "text geometry limit exceeded")
  else collect TextGeometry.decode values

def decodeCut (value : Value) : Except MessageError UInt32 := do
  let cut ← small value 6
  if MAX_MEASURE_TEXT_BYTES < cut.toNat then .error (badOverlay 6 "invalid truncation offset")
  else .ok cut

/-- The elements of an extent. -/
abbrev EXTENT_PARTS : Nat := 2

def decode (address : WindowAddress) (value : Value) : Except MessageError TextMeasurement := do
  let map ← strict value [0, 1, 2, 3, 4, 5, 6]
  let named ← WindowAddress.decode address.surfaceId map
  if named ≠ address then .error (badOverlay 0 "measurement belongs to another window")
  else do
    let extent ← array EXTENT_PARTS (← map.required 3) 3
    let width ← decodeScalar extent[0] 3
    let height ← decodeScalar extent[1] 3
    if width < Scalar.ZERO ∨ height < Scalar.ZERO then
      .error (badOverlay 3 "negative text extent")
    else do
      let truncatedAt ← transpose decodeCut (optional map 6)
      let lines ← decodeGeometry map 4
      let clusters ← decodeGeometry map 5
      .ok
        { truncatedAt := truncatedAt
          width := width
          height := height
          lines := lines
          clusters := clusters }

/-- The entries after the address. -/
def rest (measurement : TextMeasurement) : PayloadMap :=
  [(3, .array [scalar measurement.width, scalar measurement.height]),
    (4, .array (measurement.lines.map TextGeometry.toValue)),
    (5, .array (measurement.clusters.map TextGeometry.toValue))] ++
  optionalEntry 6 (measurement.truncatedAt.map fun cut => .unsigned cut.toUInt64)

def payload (measurement : TextMeasurement) (address : WindowAddress) :
    Except MessageError PayloadMap :=
  if MAX_TEXT_GEOMETRY < measurement.lines.length ∨
      MAX_TEXT_GEOMETRY < measurement.clusters.length then
    .error (badOverlay 4 "text geometry limit exceeded")
  else do
    address.validate address.surfaceId
    let values := address.payload ++ measurement.rest
    let _ ← decode address (.map values)
    .ok values

/-- What a decoded measurement satisfies. -/
structure Valid (measurement : TextMeasurement) : Prop where
  width : ¬ measurement.width < Scalar.ZERO
  height : ¬ measurement.height < Scalar.ZERO
  cut : ∀ cut, measurement.truncatedAt = some cut → cut.toNat ≤ MAX_MEASURE_TEXT_BYTES
  fewLines : measurement.lines.length ≤ MAX_TEXT_GEOMETRY
  fewClusters : measurement.clusters.length ≤ MAX_TEXT_GEOMETRY
  lines : ∀ geometry ∈ measurement.lines, geometry.Valid
  clusters : ∀ geometry ∈ measurement.clusters, geometry.Valid

variable {measurement : TextMeasurement} {address : WindowAddress}

theorem decodeGeometry_valid {map : StrictMap} {key : UInt64} {geometry : List TextGeometry}
    (accepted : decodeGeometry map key = .ok geometry) :
    geometry.length ≤ MAX_TEXT_GEOMETRY ∧ ∀ part ∈ geometry, part.Valid := by
  unfold decodeGeometry at accepted
  simp only [bind_eq_ok_iff, ite_error_eq_ok_iff, Nat.not_lt] at accepted
  obtain ⟨_, _, values, _, few, collected⟩ := accepted
  constructor
  · rw [collect_length collected]
    exact few
  · intro part among
    obtain ⟨_, _, read⟩ := collect_mem collected among
    exact TextGeometry.decode_valid read

theorem decode_valid {value : Value} (accepted : decode address value = .ok measurement) :
    address.Named ∧ measurement.Valid := by
  unfold decode at accepted
  simp only [bind_eq_ok_iff, ite_error_eq_ok_iff, not_or, not_not, Except.ok.injEq] at accepted
  obtain ⟨_, _, named, addressed, same, _, _, _, _, _, _, _, _, ⟨width, height⟩, cut, cutRead, _,
    lines, _, clusters, built⟩ := accepted
  rw [same] at addressed
  cases built
  refine ⟨(WindowAddress.decode_named addressed).2,
    { width := width
      height := height
      cut := ?_
      fewLines := (decodeGeometry_valid lines).1
      fewClusters := (decodeGeometry_valid clusters).1
      lines := (decodeGeometry_valid lines).2
      clusters := (decodeGeometry_valid clusters).2 }⟩
  intro offset isCut
  dsimp only at isCut
  rw [isCut] at cutRead
  obtain ⟨_, _, read⟩ := transpose_eq_ok cutRead
  unfold decodeCut at read
  simp only [bind_eq_ok_iff, ite_error_eq_ok_iff, Nat.not_lt, Except.ok.injEq] at read
  obtain ⟨_, _, within, cutSame⟩ := read
  rw [← cutSame]
  exact within

theorem fields_keys :
    ((address.payload ++ measurement.rest).map Prod.fst).Sublist [0, 1, 2, 3, 4, 5, 6] := by
  rw [rest, List.map_append, List.map_append]
  exact (List.Sublist.refl [0, 1, 2]).append
    ((List.Sublist.refl [3, 4, 5]).append (optionalEntry_keys 6 _))

theorem decodeGeometry_written {map : StrictMap} {key : UInt64} {geometry : List TextGeometry}
    (held : map.entries.lookup key = some (.array (geometry.map TextGeometry.toValue)))
    (few : geometry.length ≤ MAX_TEXT_GEOMETRY) (valid : ∀ part ∈ geometry, part.Valid) :
    decodeGeometry map key = .ok geometry := by
  unfold decodeGeometry
  rw [required_eq_ok.mpr held, ok_bind, arrayOr_written, ok_bind, List.length_map,
    if_neg (Nat.not_lt.mpr few)]
  exact collect_map fun part among => (valid part among).decode

theorem decodeCut_written {cut : UInt32} (within : cut.toNat ≤ MAX_MEASURE_TEXT_BYTES) :
    decodeCut (.unsigned cut.toUInt64) = .ok cut := by
  unfold decodeCut
  rw [small_written, ok_bind, if_neg (Nat.not_lt.mpr within)]

theorem Valid.decode (valid : measurement.Valid) (named : address.Named) :
    TextMeasurement.decode address (.map (address.payload ++ measurement.rest)) =
      .ok measurement := by
  have held : optional { schema := "overlay", entries := address.payload ++ measurement.rest } 6 =
      measurement.truncatedAt.map fun cut => .unsigned cut.toUInt64 := by
    simp [optional, rest, WindowAddress.payload, List.lookup_cons]
  have positive : ¬ (measurement.width < Scalar.ZERO ∨ measurement.height < Scalar.ZERO) :=
    not_or.mpr ⟨valid.width, valid.height⟩
  unfold TextMeasurement.decode
  rw [strict_ok fields_keys (by decide), ok_bind, named.decode_payload, ok_bind,
    if_neg (not_not_intro rfl), @required_eq_ok 3 _ _ |>.mpr rfl, ok_bind]
  simp only [array_written, List.length_cons, List.length_nil, List.getElem_toArray,
    Vector.getElem_mk, List.getElem_cons_zero, List.getElem_cons_succ, decodeScalar_written,
    ok_bind, if_neg positive]
  rw [held, transpose_map fun cut isCut => decodeCut_written (valid.cut cut isCut), ok_bind,
    decodeGeometry_written rfl valid.fewLines valid.lines, ok_bind,
    decodeGeometry_written rfl valid.fewClusters valid.clusters, ok_bind]

/-- A written list of geometry is read as itself or not at all. -/
theorem decodeGeometry_eq {map : StrictMap} {key : UInt64} {geometry others : List TextGeometry}
    (held : map.entries.lookup key = some (.array (geometry.map TextGeometry.toValue)))
    (read : decodeGeometry map key = .ok others) : others = geometry := by
  unfold decodeGeometry at read
  rw [required_eq_ok.mpr held, ok_bind, arrayOr_written, ok_bind, ite_error_eq_ok_iff] at read
  exact collect_map_eq (fun _ _ => TextGeometry.decode_toValue) read.2

theorem decodeCut_eq {cut other : UInt32}
    (read : decodeCut (.unsigned cut.toUInt64) = .ok other) : other = cut := by
  unfold decodeCut at read
  rw [small_written, ok_bind, ite_error_eq_ok_iff, Except.ok.injEq] at read
  exact read.2.symm

/-- A written measurement is read as itself or not at all. -/
theorem decode_written_eq (named : address.Named) {other : TextMeasurement}
    (read : decode address (.map (address.payload ++ measurement.rest)) = .ok other) :
    other = measurement := by
  have held : optional { schema := "overlay", entries := address.payload ++ measurement.rest } 6 =
      measurement.truncatedAt.map fun cut => .unsigned cut.toUInt64 := by
    simp [optional, rest, WindowAddress.payload, List.lookup_cons]
  unfold decode at read
  rw [strict_ok fields_keys (by decide), ok_bind, named.decode_payload, ok_bind,
    if_neg (not_not_intro rfl), @required_eq_ok 3 _ _ |>.mpr rfl, ok_bind] at read
  simp only [array_written, List.length_cons, List.length_nil, List.getElem_toArray,
    Vector.getElem_mk, List.getElem_cons_zero, List.getElem_cons_succ, decodeScalar_written,
    ok_bind, held, bind_eq_ok_iff, ite_error_eq_ok_iff, Except.ok.injEq] at read
  obtain ⟨_, cut, cutRead, lines, linesRead, clusters, clustersRead, same⟩ := read
  rw [← same, transpose_map_eq (fun _ _ => decodeCut_eq) cutRead,
    decodeGeometry_eq rfl linesRead, decodeGeometry_eq rfl clustersRead]

theorem payload_eq_ok {entries : PayloadMap} :
    measurement.payload address = .ok entries ↔
      (address.Named ∧ measurement.Valid) ∧ address.payload ++ measurement.rest = entries := by
  unfold payload
  simp only [bind_eq_ok_iff, ite_error_eq_ok_iff, WindowAddress.validate_eq_ok, Except.ok.injEq,
    not_or, Nat.not_lt]
  constructor
  · intro accepted
    obtain ⟨_, _, ⟨_, named⟩, other, read, same⟩ := accepted
    have valid := (decode_valid read).2
    rw [decode_written_eq named read] at valid
    exact ⟨⟨named, valid⟩, same⟩
  · intro accepted
    obtain ⟨⟨named, valid⟩, same⟩ := accepted
    exact ⟨⟨valid.fewLines, valid.fewClusters⟩, (), ⟨trivial, named⟩, measurement,
      valid.decode named, same⟩

theorem agrees (address : WindowAddress) :
    Agrees (fun _ : TextMeasurement => ()) Value.map (fun measurement => measurement.payload address)
      (fun _ => TextMeasurement.decode address) :=
  .of_valid payload_eq_ok (fun checked => checked.2.decode checked.1)
    fun accepted => ⟨rfl, decode_valid accepted⟩

theorem fits_geometry (levels : Nat) {geometry : List TextGeometry}
    (few : geometry.length ≤ MAX_TEXT_GEOMETRY) :
    (Value.array (geometry.map TextGeometry.toValue)).Fits (levels + 3) := by
  refine Value.fits_array.mpr ⟨?_, ?_⟩
  · rw [List.length_map]
    unfold MAX_TEXT_GEOMETRY at few
    unfold maxContainerLength
    omega
  · intro item among
    obtain ⟨part, _, same⟩ := List.mem_map.mp among
    rw [← same]
    exact TextGeometry.toValue_fits levels part

theorem Valid.fits (valid : measurement.Valid) (levels : Nat) (address : WindowAddress) :
    (Value.map (address.payload ++ measurement.rest)).Fits (levels + 4) := by
  have extent : (Value.array [scalar measurement.width, scalar measurement.height]).Fits
      (levels + 3) := by
    simp [fits_scalar, maxContainerLength]
  refine fits_payload fields_keys (by decide) (by decide) ?_
  intro entry among
  simp only [rest, optionalEntry, List.mem_append, List.mem_cons, List.not_mem_nil, or_false,
    Option.mem_toList, Option.map_map, Option.map_eq_some_iff, Function.comp_apply] at among
  rcases among with (same | same | same) | ⟨cut, _, same⟩
  · rw [same]
    exact extent
  · rw [same]
    exact fits_geometry levels valid.fewLines
  · rw [same]
    exact fits_geometry levels valid.fewClusters
  · rw [← same]
    exact Value.fits_unsigned _

theorem survives (address : WindowAddress) :
    Survives (fun _ : TextMeasurement => ()) Value.map
      (fun measurement => measurement.payload address)
      (fun _ => TextMeasurement.decode address) :=
  .of_agrees (agrees address) fun written => by
    obtain ⟨⟨_, valid⟩, same⟩ := payload_eq_ok.mp written
    rw [← same]
    exact valid.fits 13 address

end TextMeasurement

/-! ## Batches of measurements -/

structure BatchMeasured where
  address : WindowAddress
  layouts : List (UInt64 × TextMeasurement)
  deriving Repr, DecidableEq

namespace BatchMeasured

/-- The entries of geometry in a batch. -/
def geometry (batch : BatchMeasured) : Nat :=
  (batch.layouts.map fun layout => layout.2.lines.length + layout.2.clusters.length).sum

def encodeLayout (address : WindowAddress) (layout : UInt64 × TextMeasurement) :
    Except MessageError Value := do
  let entries ← layout.2.payload address
  .ok (.array [.unsigned layout.1, .map entries])

def payload (batch : BatchMeasured) : Except MessageError PayloadMap :=
  if batch.layouts = [] ∨ MAX_TEXT_BATCH < batch.layouts.length then
    .error (badOverlay 3 "batch result limit")
  else do
    let values ← collect (encodeLayout batch.address) batch.layouts
    if MAX_TEXT_GEOMETRY < batch.geometry then .error (badOverlay 3 "batch geometry limit")
    else .ok (batch.address.payload ++ [(3, .array values)])

def layoutId (value : Value) : Except MessageError UInt64 :=
  match value.asU64 with
  | some id => .ok id
  | none => .error (badOverlay 3 "invalid layout ID")

/-- The elements of a measured layout. -/
abbrev LAYOUT_PARTS : Nat := 2

def decodeLayout (address : WindowAddress) (value : Value) :
    Except MessageError (UInt64 × TextMeasurement) := do
  let fields ← array LAYOUT_PARTS value 3
  let id ← layoutId fields[0]
  let measurement ← TextMeasurement.decode address fields[1]
  .ok (id, measurement)

def decode (address : WindowAddress) (value : Value) : Except MessageError BatchMeasured := do
  let map ← strict value [0, 1, 2, 3]
  let named ← WindowAddress.decode address.surfaceId map
  if named ≠ address then .error (badOverlay 0 "wrong layout window")
  else do
    let values ← arrayOr (← map.required 3) 3 "expected batch results"
    if values = [] ∨ MAX_TEXT_BATCH < values.length then
      .error (badOverlay 3 "batch result limit")
    else do
      let layouts ← collect (decodeLayout address) values
      let batch : BatchMeasured := { address := address, layouts := layouts }
      let _ ← batch.payload
      .ok batch

def layoutValue (address : WindowAddress) (layout : UInt64 × TextMeasurement) : Value :=
  .array [.unsigned layout.1, .map (address.payload ++ layout.2.rest)]

def fields (batch : BatchMeasured) : PayloadMap :=
  batch.address.payload ++ [(3, .array (batch.layouts.map (layoutValue batch.address)))]

/-- The limits of a batch that has a payload. -/
structure Limited (batch : BatchMeasured) : Prop where
  address : batch.address.Named
  some : batch.layouts ≠ []
  few : batch.layouts.length ≤ MAX_TEXT_BATCH
  each : ∀ layout ∈ batch.layouts, layout.2.Valid
  geometry : batch.geometry ≤ MAX_TEXT_GEOMETRY

variable {batch : BatchMeasured}

theorem collect_encodeLayout {address : WindowAddress} {layouts : List (UInt64 × TextMeasurement)}
    {values : List Value} (encoded : collect (encodeLayout address) layouts = .ok values) :
    (∀ layout ∈ layouts, address.Named ∧ layout.2.Valid) ∧
      values = layouts.map (layoutValue address) := by
  induction layouts generalizing values with
  | nil =>
      cases encoded
      exact ⟨nofun, rfl⟩
  | cons layout rest ih =>
      obtain ⟨first, written, encoded⟩ := bind_eq_ok_iff.mp encoded
      obtain ⟨others, collected, same⟩ := bind_eq_ok_iff.mp encoded
      obtain ⟨entries, written, built⟩ := bind_eq_ok_iff.mp written
      obtain ⟨valid, same'⟩ := TextMeasurement.payload_eq_ok.mp written
      obtain ⟨each, others'⟩ := ih collected
      cases same
      cases built
      refine ⟨List.forall_mem_cons.mpr ⟨valid, each⟩, ?_⟩
      rw [others', ← same']
      rfl

theorem payload_limited {entries : PayloadMap} (written : batch.payload = .ok entries) :
    batch.Limited ∧ entries = batch.fields := by
  unfold payload at written
  simp only [bind_eq_ok_iff, ite_error_eq_ok_iff, not_or, Nat.not_lt, Except.ok.injEq] at written
  obtain ⟨⟨some, few⟩, values, encoded, geometry, same⟩ := written
  obtain ⟨each, valuesSame⟩ := collect_encodeLayout encoded
  have named : batch.address.Named := by
    obtain ⟨layout, rest, layouts⟩ := List.exists_cons_of_ne_nil some
    exact (each layout (by rw [layouts]; exact List.mem_cons_self)).1
  refine ⟨⟨named, some, few, fun layout among => (each layout among).2, geometry⟩, ?_⟩
  rw [← same, valuesSame]
  rfl

theorem decodeLayout_written {address : WindowAddress} {layout : UInt64 × TextMeasurement}
    (named : address.Named) (valid : layout.2.Valid) :
    decodeLayout address (layoutValue address layout) = .ok layout := by
  simp [decodeLayout, layoutValue, layoutId, Value.asU64, valid.decode named]

theorem decode_of_payload {entries : PayloadMap} (written : batch.payload = .ok entries) :
    decode batch.address (.map entries) = .ok batch := by
  obtain ⟨limited, same⟩ := payload_limited written
  have opened : strict (.map batch.fields) [0, 1, 2, 3] = .ok _ :=
    strict_ok (List.Sublist.refl _) (by decide)
  have sized : ¬ (batch.layouts.map (layoutValue batch.address) = [] ∨
      MAX_TEXT_BATCH < (batch.layouts.map (layoutValue batch.address)).length) := by
    rw [List.map_eq_nil_iff, List.length_map]
    exact not_or.mpr ⟨limited.some, Nat.not_lt.mpr limited.few⟩
  rw [same]
  unfold decode
  rw [opened, ok_bind, fields, limited.address.decode_payload, ok_bind,
    if_neg (not_not_intro rfl), @required_eq_ok 3 _ _ |>.mpr rfl, ok_bind, arrayOr_written,
    ok_bind, if_neg sized,
    collect_map fun layout among => decodeLayout_written limited.address (limited.each layout among),
    ok_bind]
  dsimp only
  rw [written, ok_bind]

theorem decode_payload {address : WindowAddress} {value : Value}
    (accepted : decode address value = .ok batch) :
    address = batch.address ∧ ∃ entries, batch.payload = .ok entries := by
  unfold decode at accepted
  simp only [bind_eq_ok_iff, ite_error_eq_ok_iff] at accepted
  obtain ⟨_, _, _, _, _, _, _, _, _, _, _, _, entries, written, same⟩ := accepted
  cases same
  exact ⟨rfl, entries, written⟩

theorem agrees :
    Agrees (fun batch : BatchMeasured => batch.address) Value.map payload decode :=
  ⟨decode_of_payload, decode_payload⟩

theorem Limited.fits (limited : batch.Limited) :
    (Value.map batch.fields).Fits (maxDepth + 1) := by
  have layouts : (Value.array (batch.layouts.map (layoutValue batch.address))).Fits 16 := by
    refine Value.fits_array.mpr ⟨?_, ?_⟩
    · have few := limited.few
      rw [List.length_map]
      unfold MAX_TEXT_BATCH at few
      unfold maxContainerLength
      omega
    · intro item among
      obtain ⟨layout, inside, same⟩ := List.mem_map.mp among
      have measured := (limited.each layout inside).fits 10 batch.address
      rw [← same]
      refine Value.fits_array.mpr ⟨by simp [maxContainerLength], ?_⟩
      intro part within
      simp only [List.mem_cons, List.not_mem_nil, or_false] at within
      rcases within with same | same
      · rw [same]
        exact Value.fits_unsigned _
      · rw [same]
        exact measured
  refine @fits_payload 15 _ _ [0, 1, 2, 3] (List.Sublist.refl _) (by decide) (by decide) ?_
  intro entry among
  rw [List.mem_singleton.mp among]
  exact layouts

theorem survives : Survives (fun batch : BatchMeasured => batch.address) Value.map payload decode :=
  .of_agrees agrees fun written => by
    obtain ⟨limited, same⟩ := payload_limited written
    rw [same]
    exact limited.fits

end BatchMeasured

/-! ## Release of layouts -/

structure ReleaseLayouts where
  address : WindowAddress
  ids : List UInt64
  deriving Repr, DecidableEq

namespace ReleaseLayouts

/-- An ID is zero, or was seen before. -/
def repeats : List UInt64 → List UInt64 → Bool
  | _, [] => false
  | seen, id :: rest => decide (id = 0) || decide (id ∈ seen) || repeats (id :: seen) rest

def fields (request : ReleaseLayouts) : PayloadMap :=
  request.address.payload ++ [(3, .array (request.ids.map .unsigned))]

def payload (request : ReleaseLayouts) : Except MessageError PayloadMap := do
  request.address.validate request.address.surfaceId
  if request.ids = [] ∨ MAX_TEXT_BATCH < request.ids.length ∨ repeats [] request.ids then
    .error (badOverlay 3 "invalid layout release IDs")
  else .ok request.fields

def decode (object : UInt64) (value : Value) : Except MessageError ReleaseLayouts := do
  let map ← strict value [0, 1, 2, 3]
  let values ← arrayOr (← map.required 3) 3 "expected layout IDs"
  if MAX_TEXT_BATCH < values.length then .error (badOverlay 3 "release count limit")
  else do
    let address ← WindowAddress.decode object map
    let ids ← collect BatchMeasured.layoutId values
    let request : ReleaseLayouts := { address := address, ids := ids }
    let _ ← request.payload
    .ok request

variable {request : ReleaseLayouts}

theorem payload_limited {entries : PayloadMap} (written : request.payload = .ok entries) :
    request.address.Named ∧ request.ids.length ≤ MAX_TEXT_BATCH ∧ entries = request.fields := by
  unfold payload at written
  simp only [bind_eq_ok_iff, WindowAddress.validate_eq_ok, ite_error_eq_ok_iff, not_or,
    Nat.not_lt, Except.ok.injEq] at written
  obtain ⟨_, ⟨_, named⟩, ⟨_, few, _⟩, same⟩ := written
  exact ⟨named, few, same.symm⟩

theorem decode_of_payload {entries : PayloadMap} (written : request.payload = .ok entries) :
    decode request.address.surfaceId (.map entries) = .ok request := by
  obtain ⟨named, few, same⟩ := payload_limited written
  have opened : strict (.map request.fields) [0, 1, 2, 3] = .ok _ :=
    strict_ok (List.Sublist.refl _) (by decide)
  have read : collect BatchMeasured.layoutId (request.ids.map .unsigned) = .ok request.ids :=
    collect_map fun _ _ => rfl
  rw [same]
  unfold decode
  rw [opened, ok_bind, @required_eq_ok 3 _ _ |>.mpr rfl, ok_bind, arrayOr_written, ok_bind,
    List.length_map, if_neg (Nat.not_lt.mpr few), fields, named.decode_payload, ok_bind,
    read, ok_bind]
  dsimp only
  rw [written, ok_bind]

theorem decode_payload {object : UInt64} {value : Value}
    (accepted : decode object value = .ok request) :
    object = request.address.surfaceId ∧ ∃ entries, request.payload = .ok entries := by
  unfold decode at accepted
  simp only [bind_eq_ok_iff, ite_error_eq_ok_iff] at accepted
  obtain ⟨_, _, _, _, _, _, _, _, addressed, _, _, entries, written, same⟩ := accepted
  cases same
  exact ⟨(WindowAddress.decode_named addressed).1, entries, written⟩

theorem survives :
    Survives (fun request : ReleaseLayouts => request.address.surfaceId) Value.map payload
      decode :=
  .of_agrees ⟨decode_of_payload, decode_payload⟩ fun written => by
    obtain ⟨_, few, same⟩ := payload_limited written
    rw [same]
    refine @fits_payload 15 _ _ [0, 1, 2, 3] (List.Sublist.refl _) (by decide) (by decide) ?_
    intro entry among
    rw [List.mem_singleton.mp among]
    refine Value.fits_array.mpr ⟨?_, ?_⟩
    · rw [List.length_map]
      unfold MAX_TEXT_BATCH at few
      unfold maxContainerLength
      omega
    · intro item inside
      obtain ⟨id, _, same⟩ := List.mem_map.mp inside
      rw [← same]
      exact Value.fits_unsigned id

end ReleaseLayouts

end VividProtocol.Overlay.Wire

import Mathlib.Tactic
import VividProtocol.Media.Packet
import VividProtocol.Library.Codec

/-!
# Raster deltas

`raster_delta_frame_body` and `parse_delta_raster_frame` of `media.rs`.  The
descriptors carry no offsets: the parser takes the payloads off one after
another.  Compression and decompression are parameters.
-/

set_option autoImplicit false

namespace VividProtocol.Media

open VividProtocol.Wire
open VividProtocol.Library.Fields
open VividProtocol.Library.Result
open VividProtocol.Library.Codec

def RASTER_DELTA_OVERWRITE : UInt32 := 1
def RASTER_DELTA_COPY : UInt32 := 2
def RASTER_DELTA_OPERATION_LIMIT : UInt32 := 16
def RASTER_DELTA_OPERATION_SIZE : Nat := 32

/-- The operations of a frame; parsed operations own their pixels. -/
inductive RasterDeltaOperation where
  | overwrite (x y width height : UInt32) (rgba : List UInt8)
  | copy (destinationX destinationY width height sourceX sourceY : UInt32)
  deriving Repr, DecidableEq

structure RasterDeltaFrame where
  epoch : UInt32
  frameId : UInt64
  baseFrameId : UInt64
  ptsUs : Int64
  durationUs : UInt64
  compressed : Bool
  operations : List RasterDeltaOperation
  deriving Repr, DecidableEq

/-! ## Checks of both sides -/

def validateDeltaOperationLimit (limit : UInt32) (kind : IoErrorKind) : Except IoError Unit :=
  if ¬ (1 ≤ limit ∧ limit ≤ RASTER_DELTA_OPERATION_LIMIT) then
    .error ⟨kind, "raster delta operation limit is outside 1 through 16"⟩
  else .ok ()

/-- `u32::checked_add`. -/
def checkedAdd32 (left right : UInt32) : Option UInt32 :=
  if left.toNat + right.toNat < 2 ^ 32 then some (left + right) else none

/-- `start.checked_add(size).is_none_or(|end| end > limit)`. -/
def exceeds (start size limit : UInt32) : Bool :=
  match checkedAdd32 start size with
  | none => true
  | some stop => decide (limit < stop)

def validateRasterRectangle (x y width height sourceWidth sourceHeight : UInt32)
    (kind : IoErrorKind) : Except IoError Unit :=
  if width = 0 ∨ height = 0 ∨ exceeds x width sourceWidth ∨ exceeds y height sourceHeight then
    .error ⟨kind, "raster delta rectangle is empty, overflows, or exceeds the source"⟩
  else .ok ()

/-! ## The builder -/

def descriptorBytes (kind destinationX destinationY width height sourceX sourceY
    payloadLength : UInt32) : List UInt8 :=
  u32Bytes kind ++ (u32Bytes destinationX ++ (u32Bytes destinationY ++ (u32Bytes width ++
    (u32Bytes height ++ (u32Bytes sourceX ++ (u32Bytes sourceY ++
    u32Bytes payloadLength))))))

def deltaHeader (epoch flags : UInt32) (frameId baseFrameId : UInt64) (ptsUs : Int64)
    (durationUs : UInt64) (count : UInt32) : List UInt8 :=
  u32Bytes epoch ++ (u32Bytes flags ++ (u64Bytes frameId ++ (u64Bytes baseFrameId ++
    (i64Bytes ptsUs ++ (u64Bytes durationUs ++ (u32Bytes count ++ u32Bytes 0))))))

section Builder

variable (zstd : List UInt8 → Except IoError (List UInt8)) (sourceWidth sourceHeight : UInt32)
variable (compress : Bool)

/-- The descriptor and the payload of one operation. -/
def encodeOperation : RasterDeltaOperation → Except IoError (List UInt8 × List UInt8)
  | .overwrite x y width height rgba => do
      validateRasterRectangle x y width height sourceWidth sourceHeight .invalidInput
      let expected ← orInput (rgba8PixelLen width height)
      if rgba.length ≠ expected.toNat then
        .error ⟨.invalidInput, "delta overwrite RGBA length does not match its rectangle"⟩
      else do
        let payload ← if compress then zstd rgba else .ok rgba
        if 2 ^ 32 ≤ payload.length then
          .error ⟨.invalidInput, "delta overwrite is too large"⟩
        else
          .ok (descriptorBytes RASTER_DELTA_OVERWRITE x y width height 0 0
            (UInt32.ofNat payload.length), payload)
  | .copy destinationX destinationY width height sourceX sourceY => do
      validateRasterRectangle destinationX destinationY width height sourceWidth sourceHeight
        .invalidInput
      validateRasterRectangle sourceX sourceY width height sourceWidth sourceHeight .invalidInput
      .ok (descriptorBytes RASTER_DELTA_COPY destinationX destinationY width height sourceX
        sourceY 0, [])

/-- The loop over the operations: all descriptors, then all payloads. -/
def encodeOperations : List RasterDeltaOperation → Except IoError (List UInt8 × List UInt8)
  | [] => .ok ([], [])
  | operation :: rest => do
      let (descriptor, payload) ← encodeOperation zstd sourceWidth sourceHeight compress operation
      let (descriptors, payloads) ← encodeOperations rest
      .ok (descriptor ++ descriptors, payload ++ payloads)

/-- With at most 16 operations no sum of lengths leaves `usize`. -/
def rasterDeltaFrameBody (epoch : UInt32) (frameId baseFrameId : UInt64) (ptsUs : Int64)
    (durationUs : UInt64) (effectiveOperationLimit : UInt32)
    (operations : List RasterDeltaOperation) : Except IoError (List UInt8) := do
  validateDeltaOperationLimit effectiveOperationLimit .invalidInput
  if frameId = 0 ∨ baseFrameId = 0 then
    .error ⟨.invalidInput, "delta frame and base IDs must be nonzero"⟩
  else if sourceWidth = 0 ∨ sourceHeight = 0 then
    .error ⟨.invalidInput, "delta source dimensions are empty"⟩
  else if 2 ^ 32 ≤ operations.length then
    .error ⟨.invalidInput, "too many raster delta operations"⟩
  else
    let count := UInt32.ofNat operations.length
    if count = 0 ∨ effectiveOperationLimit < count then
      .error ⟨.invalidInput, "raster delta operation count is outside the effective limit"⟩
    else do
      let (descriptors, payloads) ←
        encodeOperations zstd sourceWidth sourceHeight compress operations
      let payloadStart := RASTER_FRAME_PREFIX_SIZE +
        operations.length * RASTER_DELTA_OPERATION_SIZE
      if HARD_MAX_RECORD_BODY.toNat < payloadStart + payloads.length then
        .error ⟨.invalidInput, "delta frame too large"⟩
      else
        let flags := RASTER_FRAME_DELTA ||| if compress then RASTER_FRAME_ZSTD else 0
        .ok (deltaHeader epoch flags frameId baseFrameId ptsUs durationUs count ++
          (descriptors ++ payloads))

end Builder

/-! ## The parser -/

structure ValidatedOperation where
  kind : UInt32
  destinationX : UInt32
  destinationY : UInt32
  width : UInt32
  height : UInt32
  sourceX : UInt32
  sourceY : UInt32
  payloadStart : Nat
  payloadEnd : Nat
  expectedLength : UInt32
  deriving Repr, DecidableEq

def isZstdSkippableFrame (bytes : List UInt8) : Bool :=
  decide (bytes.length < 4) ||
    match bytes with
    | b0 :: b1 :: b2 :: b3 :: _ =>
        decide ((b0.toUInt32 ||| b1.toUInt32 <<< 8 ||| b2.toUInt32 <<< 16 |||
          b3.toUInt32 <<< 24) &&& 0xfffffff0 = 0x184d2a50)
    | _ => false

section Parser

variable (decodeZstd : List UInt8 → Nat → Except IoError (List UInt8)) (body : List UInt8)
variable (sourceWidth sourceHeight : UInt32) (compressed : Bool)

/-- The checks that the kind of an operation asks for. -/
def validateKind (kind width height sourceX sourceY payloadLength expectedLength : UInt32) :
    Except IoError Unit :=
  if kind = RASTER_DELTA_OVERWRITE then
    if sourceX ≠ 0 ∨ sourceY ≠ 0 then
      .error (invalid "raster delta overwrite reserved source fields are nonzero")
    else if ! compressed ∧ payloadLength ≠ expectedLength then
      .error (invalid "raster delta overwrite length does not match its rectangle")
    else .ok ()
  else if kind = RASTER_DELTA_COPY then
    if payloadLength ≠ 0 then
      .error (invalid "raster delta copy has a nonzero payload length")
    else
      validateRasterRectangle sourceX sourceY width height sourceWidth sourceHeight .invalidData
  else .error (invalid "raster delta has an unknown operation kind")

/-- One turn of the loop over the descriptors. -/
def validateOperation (offset payloadOffset : Nat) : Except IoError ValidatedOperation := do
  let kind ← readU32 body offset
  let destinationX ← readU32 body (offset + 4)
  let destinationY ← readU32 body (offset + 8)
  let width ← readU32 body (offset + 12)
  let height ← readU32 body (offset + 16)
  let sourceX ← readU32 body (offset + 20)
  let sourceY ← readU32 body (offset + 24)
  let payloadLength ← readU32 body (offset + 28)
  validateRasterRectangle destinationX destinationY width height sourceWidth sourceHeight
    .invalidData
  match rgba8PixelLen width height with
  | .error _ => .error (invalid "raster delta rectangle dimensions overflow")
  | .ok expectedLength => do
      validateKind sourceWidth sourceHeight compressed kind width height sourceX sourceY
        payloadLength expectedLength
      let payloadEnd := payloadOffset + payloadLength.toNat
      if body.length < payloadEnd then
        .error (invalid "raster delta overwrite payload exceeds its body")
      else
        .ok
          { kind := kind
            destinationX := destinationX
            destinationY := destinationY
            width := width
            height := height
            sourceX := sourceX
            sourceY := sourceY
            payloadStart := payloadOffset
            payloadEnd := payloadEnd
            expectedLength := expectedLength }

/-- The loop over the descriptors, with the offset where the payloads end. -/
def validateOperations : Nat → Nat → Nat → Except IoError (List ValidatedOperation × Nat)
  | 0, _, payloadOffset => .ok ([], payloadOffset)
  | count + 1, offset, payloadOffset => do
      let operation ←
        validateOperation body sourceWidth sourceHeight compressed offset payloadOffset
      let (rest, ended) ← validateOperations count (offset + RASTER_DELTA_OPERATION_SIZE)
        operation.payloadEnd
      .ok (operation :: rest, ended)

/-- One turn of the loop over the validated operations. -/
def readOperation (operation : ValidatedOperation) : Except IoError RasterDeltaOperation :=
  if operation.kind = RASTER_DELTA_OVERWRITE then do
    let encoded := (body.drop operation.payloadStart).take
      (operation.payloadEnd - operation.payloadStart)
    let rgba ←
      if compressed then
        if isZstdSkippableFrame encoded then
          .error (invalid "zstd skippable frames are forbidden")
        else decodeZstd encoded operation.expectedLength.toNat
      else .ok encoded
    .ok (.overwrite operation.destinationX operation.destinationY operation.width
      operation.height rgba)
  else
    .ok (.copy operation.destinationX operation.destinationY operation.width operation.height
      operation.sourceX operation.sourceY)

end Parser

def parseDeltaRasterFrame (decodeZstd : List UInt8 → Nat → Except IoError (List UInt8))
    (body : List UInt8) (sourceWidth sourceHeight effectiveOperationLimit : UInt32) :
    Except IoError RasterDeltaFrame := do
  validateDeltaOperationLimit effectiveOperationLimit .invalidData
  if sourceWidth = 0 ∨ sourceHeight = 0 then
    .error (invalid "delta source dimensions are empty")
  else if body.length < RASTER_FRAME_PREFIX_SIZE then
    .error (invalid "raster delta is shorter than its frame header")
  else do
    let flags ← readU32 body 4
    if flags ≠ RASTER_FRAME_DELTA ∧ flags ≠ RASTER_FRAME_DELTA ||| RASTER_FRAME_ZSTD then
      .error (invalid "unsupported raster delta flags")
    else do
      let baseFrameId ← readU64 body 16
      if baseFrameId = 0 then .error (invalid "raster delta has a zero base frame ID")
      else do
        let reserved ← readU32 body 44
        if reserved ≠ 0 then
          .error (invalid "raster delta reserved header field is nonzero")
        else do
          let count ← readU32 body 40
          if count = 0 ∨ effectiveOperationLimit < count then
            .error (invalid "raster delta operation count is outside the effective limit")
          else
            let payloadStart := RASTER_FRAME_PREFIX_SIZE +
              count.toNat * RASTER_DELTA_OPERATION_SIZE
            if body.length < payloadStart then
              .error (invalid "raster delta operation array exceeds its body")
            else do
              let compressed := decide (flags &&& RASTER_FRAME_ZSTD ≠ 0)
              let (validated, payloadOffset) ← validateOperations body sourceWidth sourceHeight
                compressed count.toNat RASTER_FRAME_PREFIX_SIZE payloadStart
              if payloadOffset ≠ body.length then
                .error (invalid "raster delta has trailing bytes")
              else do
                let operations ← collect (readOperation decodeZstd body compressed) validated
                let epoch ← readU32 body 0
                let frameId ← readU64 body 8
                let ptsUs ← readI64 body 24
                let durationUs ← readU64 body 32
                .ok
                  { epoch := epoch
                    frameId := frameId
                    baseFrameId := baseFrameId
                    ptsUs := ptsUs
                    durationUs := durationUs
                    compressed := compressed
                    operations := operations }

/-! ## Rectangles -/

/-- A rectangle inside the source; its far corner does not overflow. -/
structure Inside (x y width height sourceWidth sourceHeight : UInt32) : Prop where
  wide : width ≠ 0
  high : height ≠ 0
  right : x.toNat + width.toNat ≤ sourceWidth.toNat
  bottom : y.toNat + height.toNat ≤ sourceHeight.toNat

theorem exceeds_eq_false {start size limit : UInt32} :
    exceeds start size limit = false ↔ start.toNat + size.toNat ≤ limit.toNat := by
  have bound := limit.toNat_lt
  unfold exceeds checkedAdd32
  by_cases fits : start.toNat + size.toNat < 2 ^ 32
  · have sum : (start + size).toNat = start.toNat + size.toNat := by
      rw [UInt32.toNat_add, Nat.mod_eq_of_lt fits]
    rw [if_pos fits]
    simp [UInt32.lt_iff_toNat_lt, sum]
  · rw [if_neg fits]
    simp only [Bool.true_eq_false, false_iff]
    omega

theorem validateRasterRectangle_eq_ok {x y width height sourceWidth sourceHeight : UInt32}
    {kind : IoErrorKind} {done : Unit} :
    validateRasterRectangle x y width height sourceWidth sourceHeight kind = .ok done ↔
      Inside x y width height sourceWidth sourceHeight := by
  unfold validateRasterRectangle
  rw [ite_error_eq_ok_iff]
  simp only [not_or, Bool.not_eq_true, exceeds_eq_false]
  constructor
  · intro held
    obtain ⟨⟨wide, high, right, bottom⟩, _⟩ := held
    exact ⟨wide, high, right, bottom⟩
  · intro inside
    exact ⟨⟨inside.wide, inside.high, inside.right, inside.bottom⟩, trivial⟩

/-! ## Operations -/

namespace RasterDeltaOperation

/-- Every rectangle of the operation is inside the source. -/
def Within (sourceWidth sourceHeight : UInt32) : RasterDeltaOperation → Prop
  | .overwrite x y width height _ => Inside x y width height sourceWidth sourceHeight
  | .copy destinationX destinationY width height sourceX sourceY =>
      Inside destinationX destinationY width height sourceWidth sourceHeight ∧
        Inside sourceX sourceY width height sourceWidth sourceHeight

/-- The pixels of an overwrite are those of its rectangle. -/
def Filled : RasterDeltaOperation → Prop
  | .overwrite _ _ width height rgba =>
      ∃ expected, rgba8PixelLen width height = .ok expected ∧ rgba.length = expected.toNat
  | .copy .. => True

/-- The pixels of the rectangle have a length in `u32`. -/
def Countable : RasterDeltaOperation → Prop
  | .overwrite _ _ width height _ => width.toNat * height.toNat * 4 < 2 ^ 32
  | .copy _ _ width height _ _ => width.toNat * height.toNat * 4 < 2 ^ 32

def descriptor : RasterDeltaOperation → List UInt8
  | .overwrite x y width height rgba =>
      descriptorBytes RASTER_DELTA_OVERWRITE x y width height 0 0 (UInt32.ofNat rgba.length)
  | .copy destinationX destinationY width height sourceX sourceY =>
      descriptorBytes RASTER_DELTA_COPY destinationX destinationY width height sourceX sourceY 0

/-- The bytes an operation has after the descriptors. -/
def payload : RasterDeltaOperation → List UInt8
  | .overwrite _ _ _ _ rgba => rgba
  | .copy .. => []

/-- An operation both sides can agree on. -/
structure Valid (sourceWidth sourceHeight : UInt32) (operation : RasterDeltaOperation) : Prop where
  within : operation.Within sourceWidth sourceHeight
  filled : operation.Filled

@[simp] theorem length_descriptor (operation : RasterDeltaOperation) :
    operation.descriptor.length = RASTER_DELTA_OPERATION_SIZE := by
  cases operation <;>
    simp [descriptor, descriptorBytes, RASTER_DELTA_OPERATION_SIZE]

theorem length_descriptors (operations : List RasterDeltaOperation) :
    (operations.flatMap descriptor).length =
      operations.length * RASTER_DELTA_OPERATION_SIZE := by
  induction operations with
  | nil => simp
  | cons operation rest ih =>
      rw [List.flatMap_cons, List.length_append, ih, length_descriptor, List.length_cons]
      ring

end RasterDeltaOperation

open RasterDeltaOperation

/-! ## What the builder writes -/

section Builder

variable {zstd : List UInt8 → Except IoError (List UInt8)} {sourceWidth sourceHeight : UInt32}

theorem encodeOperation_eq_ok {operation : RasterDeltaOperation} {written : List UInt8 × List UInt8} :
    encodeOperation zstd sourceWidth sourceHeight false operation = .ok written ↔
      operation.Valid sourceWidth sourceHeight ∧
        written = (operation.descriptor, operation.payload) := by
  cases operation with
  | overwrite x y width height rgba =>
      simp only [encodeOperation, bind_eq_ok_iff, validateRasterRectangle_eq_ok, orInput_eq_ok,
        ite_error_eq_ok_iff, not_not, Bool.false_eq_true, if_false, Except.ok.injEq,
        exists_eq_left', not_le]
      constructor
      · intro held
        obtain ⟨_, inside, expected, sized, exact_, _, same⟩ := held
        exact ⟨⟨inside, expected, sized, exact_⟩, same.symm⟩
      · intro held
        obtain ⟨⟨inside, expected, sized, exact_⟩, same⟩ := held
        refine ⟨(), inside, expected, sized, exact_, ?_, same.symm⟩
        rw [exact_]
        exact expected.toNat_lt
  | copy destinationX destinationY width height sourceX sourceY =>
      simp only [encodeOperation, bind_eq_ok_iff, validateRasterRectangle_eq_ok, Except.ok.injEq]
      constructor
      · intro held
        obtain ⟨_, destination, _, source, same⟩ := held
        exact ⟨⟨⟨destination, source⟩, trivial⟩, same.symm⟩
      · intro held
        obtain ⟨⟨⟨destination, source⟩, _⟩, same⟩ := held
        exact ⟨(), destination, (), source, same.symm⟩

theorem encodeOperations_eq_ok {operations : List RasterDeltaOperation}
    {written : List UInt8 × List UInt8} :
    encodeOperations zstd sourceWidth sourceHeight false operations = .ok written ↔
      (∀ operation ∈ operations, operation.Valid sourceWidth sourceHeight) ∧
        written = (operations.flatMap descriptor, operations.flatMap payload) := by
  induction operations generalizing written with
  | nil =>
      simp only [encodeOperations, Except.ok.injEq]
      constructor
      · intro same
        exact ⟨fun _ among => (nomatch among), same.symm⟩
      · intro held
        exact held.2.symm
  | cons operation rest ih =>
      simp only [encodeOperations, bind_eq_ok_iff, encodeOperation_eq_ok, ih, Except.ok.injEq]
      constructor
      · intro held
        obtain ⟨_, ⟨valid, rfl⟩, _, ⟨others, rfl⟩, same⟩ := held
        refine ⟨?_, same.symm⟩
        intro other among
        rcases List.mem_cons.mp among with here | later
        · rw [here]
          exact valid
        · exact others other later
      · intro held
        obtain ⟨valid, same⟩ := held
        exact ⟨_, ⟨valid operation List.mem_cons_self, rfl⟩, _,
          ⟨fun other among => valid other (List.mem_cons_of_mem operation among), rfl⟩, same.symm⟩

end Builder

/-! ## What the parser reads -/

section Parser

variable {decodeZstd : List UInt8 → Nat → Except IoError (List UInt8)} {body : List UInt8}
variable {sourceWidth sourceHeight : UInt32} {offset payloadOffset count : Nat}

theorem slice_descriptorBytes {kind destinationX destinationY width height sourceX sourceY
    payloadLength : UInt32} :
    slice offset 32 body = some (descriptorBytes kind destinationX destinationY width height
        sourceX sourceY payloadLength) ↔
      readU32 body offset = .ok kind ∧ readU32 body (offset + 4) = .ok destinationX ∧
        readU32 body (offset + 8) = .ok destinationY ∧ readU32 body (offset + 12) = .ok width ∧
        readU32 body (offset + 16) = .ok height ∧ readU32 body (offset + 20) = .ok sourceX ∧
        readU32 body (offset + 24) = .ok sourceY ∧
        readU32 body (offset + 28) = .ok payloadLength := by
  have past : ∀ {offset width : Nat} {value : UInt32} {rest : List UInt8},
      slice offset (width + 4) body = some (u32Bytes value ++ rest) ↔
        readU32 body offset = .ok value ∧ slice (offset + 4) width body = some rest := by
    intro offset width value rest
    rw [slice_append (length_u32Bytes value), readU32_eq_ok]
  unfold descriptorBytes
  rw [past, past, past, past, past, past, past, ← readU32_eq_ok]

theorem validateOperation_eq_ok {compressed : Bool} {validated : ValidatedOperation} :
    validateOperation body sourceWidth sourceHeight compressed offset payloadOffset =
        .ok validated ↔
      ∃ payloadLength : UInt32,
        slice offset 32 body = some (descriptorBytes validated.kind validated.destinationX
          validated.destinationY validated.width validated.height validated.sourceX
          validated.sourceY payloadLength) ∧
        Inside validated.destinationX validated.destinationY validated.width validated.height
          sourceWidth sourceHeight ∧
        rgba8PixelLen validated.width validated.height = .ok validated.expectedLength ∧
        validateKind sourceWidth sourceHeight compressed validated.kind validated.width
          validated.height validated.sourceX validated.sourceY payloadLength
          validated.expectedLength = .ok () ∧
        validated.payloadStart = payloadOffset ∧
        validated.payloadEnd = payloadOffset + payloadLength.toNat ∧
        validated.payloadEnd ≤ body.length := by
  unfold validateOperation
  simp only [bind_eq_ok_iff, validateRasterRectangle_eq_ok, slice_descriptorBytes]
  constructor
  · intro held
    obtain ⟨kind, kindRead, x, xRead, y, yRead, width, widthRead, height, heightRead, sourceX,
      sourceXRead, sourceY, sourceYRead, payloadLength, lengthRead, _, inside, rest⟩ := held
    cases sized : rgba8PixelLen width height with
    | error reason => simp [sized] at rest
    | ok expected =>
        simp only [sized, bind_eq_ok_iff, ite_error_eq_ok_iff, not_lt, Except.ok.injEq] at rest
        obtain ⟨_, checked, enough, built⟩ := rest
        rw [← built]
        exact ⟨payloadLength, ⟨kindRead, xRead, yRead, widthRead, heightRead, sourceXRead,
          sourceYRead, lengthRead⟩, inside, sized, checked, rfl, rfl, enough⟩
  · intro held
    obtain ⟨payloadLength, ⟨kindRead, xRead, yRead, widthRead, heightRead, sourceXRead,
      sourceYRead, lengthRead⟩, inside, sized, checked, start, stop, enough⟩ := held
    refine ⟨_, kindRead, _, xRead, _, yRead, _, widthRead, _, heightRead, _, sourceXRead, _,
      sourceYRead, _, lengthRead, (), inside, ?_⟩
    simp only [sized, bind_eq_ok_iff, ite_error_eq_ok_iff, not_lt, Except.ok.injEq]
    rw [stop] at enough
    refine ⟨(), checked, enough, ?_⟩
    cases validated
    simp only [ValidatedOperation.mk.injEq, true_and, and_true] at start stop ⊢
    exact ⟨start.symm, stop.symm⟩

theorem validateKind_overwrite {width height sourceX sourceY payloadLength expected : UInt32} :
    validateKind sourceWidth sourceHeight false RASTER_DELTA_OVERWRITE width height sourceX sourceY
        payloadLength expected = .ok () ↔
      sourceX = 0 ∧ sourceY = 0 ∧ payloadLength = expected := by
  unfold validateKind
  rw [if_pos rfl]
  simp [ite_error_eq_ok_iff, and_assoc]

theorem validateKind_other {compressed : Bool}
    {kind width height sourceX sourceY payloadLength expected : UInt32}
    (other : kind ≠ RASTER_DELTA_OVERWRITE) :
    validateKind sourceWidth sourceHeight compressed kind width height sourceX sourceY
        payloadLength expected = .ok () ↔
      kind = RASTER_DELTA_COPY ∧ payloadLength = 0 ∧
        Inside sourceX sourceY width height sourceWidth sourceHeight := by
  unfold validateKind
  rw [if_neg other]
  by_cases copy : kind = RASTER_DELTA_COPY
  · rw [if_pos copy, ite_error_eq_ok_iff, not_not, validateRasterRectangle_eq_ok]
    exact (and_iff_right copy).symm
  · rw [if_neg copy]
    simp [copy]

/-- One operation is read where its descriptor and its pixels stand. -/
theorem operation_read_iff {operation : RasterDeltaOperation} {ended : Nat}
    (within : payloadOffset ≤ body.length) :
    (∃ validated,
        validateOperation body sourceWidth sourceHeight false offset payloadOffset =
          .ok validated ∧
        readOperation decodeZstd body false validated = .ok operation ∧
        validated.payloadEnd = ended) ↔
      operation.Valid sourceWidth sourceHeight ∧ operation.Countable ∧
        slice offset RASTER_DELTA_OPERATION_SIZE body = some operation.descriptor ∧
        slice payloadOffset operation.payload.length body = some operation.payload ∧
        ended = payloadOffset + operation.payload.length := by
  constructor
  · intro held
    obtain ⟨validated, checked, read, stop⟩ := held
    obtain ⟨payloadLength, described, inside, sized, kindChecked, start, stopAt, enough⟩ :=
      validateOperation_eq_ok.mp checked
    obtain ⟨_, _, area⟩ := rgba8PixelLen_eq_ok.mp sized
    have word := validated.expectedLength.toNat_lt
    unfold readOperation at read
    by_cases overwrite : validated.kind = RASTER_DELTA_OVERWRITE
    · rw [overwrite] at described kindChecked
      obtain ⟨sourceX, sourceY, exact_⟩ := validateKind_overwrite.mp kindChecked
      rw [if_pos overwrite, start, stopAt, Nat.add_sub_cancel_left] at read
      simp only [Bool.false_eq_true, if_false, ok_bind, Except.ok.injEq] at read
      have pixels : ((body.drop payloadOffset).take payloadLength.toNat).length =
          payloadLength.toNat := by
        rw [List.length_take, List.length_drop]
        omega
      rw [← read]
      refine ⟨⟨inside, validated.expectedLength, sized, by rw [pixels, exact_]⟩, ?_, ?_, ?_, ?_⟩
      · unfold RasterDeltaOperation.Countable
        omega
      · rw [RasterDeltaOperation.descriptor, pixels, UInt32.ofNat_toNat]
        rw [sourceX, sourceY] at described
        exact described
      · rw [RasterDeltaOperation.payload, pixels, slice, if_pos (by omega)]
      · rw [RasterDeltaOperation.payload, pixels, ← stop, stopAt]
    · obtain ⟨copy, nothing, source⟩ := (validateKind_other overwrite).mp kindChecked
      rw [if_neg overwrite, Except.ok.injEq] at read
      rw [← read]
      refine ⟨⟨⟨inside, source⟩, trivial⟩, ?_, ?_, ?_, ?_⟩
      · unfold RasterDeltaOperation.Countable
        omega
      · rw [copy, nothing] at described
        exact described
      · exact slice_zero.mpr within
      · rw [← stop, stopAt, nothing]
        rfl
  · intro held
    obtain ⟨⟨inside, filled⟩, countable, described, stands, stop⟩ := held
    cases operation with
    | overwrite x y width height rgba =>
        obtain ⟨expected, sized, exact_⟩ := filled
        have read := (slice_eq_some.mp stands).1
        change payloadOffset + rgba.length ≤ body.length at read
        rw [RasterDeltaOperation.descriptor, exact_, UInt32.ofNat_toNat] at described
        refine ⟨⟨RASTER_DELTA_OVERWRITE, x, y, width, height, 0, 0, payloadOffset,
          payloadOffset + expected.toNat, expected⟩, validateOperation_eq_ok.mpr ⟨expected,
            described, inside, sized, validateKind_overwrite.mpr ⟨rfl, rfl, rfl⟩, rfl, rfl, ?_⟩,
          ?_, ?_⟩
        · rw [← exact_]
          exact read
        · unfold readOperation
          rw [if_pos rfl]
          have pixels : (body.drop payloadOffset).take expected.toNat = rgba := by
            rw [RasterDeltaOperation.payload, slice, if_pos read, Option.some.injEq, exact_] at stands
            exact stands
          simp [pixels]
        · rw [stop, RasterDeltaOperation.payload, exact_]
    | copy destinationX destinationY width height sourceX sourceY =>
        obtain ⟨destination, source⟩ := inside
        obtain ⟨expected, sized⟩ : ∃ expected, rgba8PixelLen width height = .ok expected := by
          refine ⟨UInt32.ofNat (width.toNat * height.toNat * 4),
            rgba8PixelLen_eq_ok.mpr ⟨destination.wide, destination.high, ?_⟩⟩
          rw [UInt32.toNat_ofNat', Nat.mod_eq_of_lt countable]
        have other : RASTER_DELTA_COPY ≠ RASTER_DELTA_OVERWRITE := by decide
        refine ⟨⟨RASTER_DELTA_COPY, destinationX, destinationY, width, height, sourceX, sourceY,
          payloadOffset, payloadOffset, expected⟩, validateOperation_eq_ok.mpr ⟨0, described,
            destination, sized, (validateKind_other other).mpr ⟨rfl, rfl, source⟩, rfl, rfl,
            within⟩, ?_, stop.symm⟩
        unfold readOperation
        rw [if_neg other]

/-- All operations are read where their descriptors and their pixels stand, one
after another. -/
theorem operations_read_iff {operations : List RasterDeltaOperation} {ended : Nat}
    (described : offset + count * RASTER_DELTA_OPERATION_SIZE ≤ body.length)
    (within : payloadOffset ≤ body.length) :
    (∃ validated,
        validateOperations body sourceWidth sourceHeight false count offset payloadOffset =
          .ok (validated, ended) ∧
        collect (readOperation decodeZstd body false) validated = .ok operations) ↔
      operations.length = count ∧
        (∀ operation ∈ operations,
          operation.Valid sourceWidth sourceHeight ∧ operation.Countable) ∧
        slice offset (count * RASTER_DELTA_OPERATION_SIZE) body =
          some (operations.flatMap descriptor) ∧
        slice payloadOffset (operations.flatMap payload).length body =
          some (operations.flatMap payload) ∧
        ended = payloadOffset + (operations.flatMap payload).length := by
  induction count generalizing offset payloadOffset operations with
  | zero =>
      simp only [validateOperations, Except.ok.injEq, Prod.mk.injEq]
      constructor
      · intro held
        obtain ⟨_, ⟨rfl, rfl⟩, read⟩ := held
        cases read
        refine ⟨rfl, fun _ among => (nomatch among), ?_, slice_zero.mpr within, rfl⟩
        rw [Nat.zero_mul]
        exact slice_zero.mpr (by omega)
      · intro held
        obtain ⟨none, _, _, _, stop⟩ := held
        rw [List.length_eq_zero_iff.mp none] at stop ⊢
        exact ⟨[], ⟨rfl, stop.symm⟩, rfl⟩
  | succ count ih =>
      have descriptorsSplit : ∀ {operation : RasterDeltaOperation}
          {rest : List RasterDeltaOperation},
          slice offset ((count + 1) * RASTER_DELTA_OPERATION_SIZE) body =
              some ((operation :: rest).flatMap descriptor) ↔
            slice offset RASTER_DELTA_OPERATION_SIZE body = some operation.descriptor ∧
              slice (offset + RASTER_DELTA_OPERATION_SIZE)
                (count * RASTER_DELTA_OPERATION_SIZE) body = some (rest.flatMap descriptor) := by
        intro operation rest
        rw [List.flatMap_cons, Nat.succ_mul, slice_append (length_descriptor operation)]
      have payloadsSplit : ∀ {operation : RasterDeltaOperation}
          {rest : List RasterDeltaOperation},
          slice payloadOffset ((operation :: rest).flatMap payload).length body =
              some ((operation :: rest).flatMap payload) ↔
            slice payloadOffset operation.payload.length body = some operation.payload ∧
              slice (payloadOffset + operation.payload.length) (rest.flatMap payload).length
                body = some (rest.flatMap payload) := by
        intro operation rest
        rw [List.flatMap_cons, List.length_append, Nat.add_comm, slice_append rfl]
      have room : offset + RASTER_DELTA_OPERATION_SIZE +
          count * RASTER_DELTA_OPERATION_SIZE ≤ body.length := by
        rw [Nat.succ_mul] at described
        omega
      simp only [validateOperations, bind_eq_ok_iff, Except.ok.injEq]
      constructor
      · intro held
        obtain ⟨_, ⟨first, checked, ⟨others, last⟩, looped, built⟩, read⟩ := held
        obtain ⟨rfl, rfl⟩ := Prod.mk.inj built
        obtain ⟨operation, firstRead, read⟩ := bind_eq_ok_iff.mp read
        obtain ⟨rest, restRead, same⟩ := bind_eq_ok_iff.mp read
        cases same
        obtain ⟨valid, countable, described, stands, stop⟩ :=
          (operation_read_iff within).mp ⟨first, checked, firstRead, rfl⟩
        have inside := (slice_eq_some.mp stands).1
        rw [← stop] at inside
        obtain ⟨size, all, restDescribed, restStands, ended⟩ :=
          (ih room inside).mp ⟨others, looped, restRead⟩
        rw [stop] at restStands ended
        refine ⟨by rw [List.length_cons, size], ?_, descriptorsSplit.mpr ⟨described, restDescribed⟩,
          payloadsSplit.mpr ⟨stands, restStands⟩, ?_⟩
        · intro other among
          rcases List.mem_cons.mp among with here | later
          · rw [here]
            exact ⟨valid, countable⟩
          · exact all other later
        · rw [ended, List.flatMap_cons, List.length_append, Nat.add_assoc]
      · intro held
        obtain ⟨size, all, allDescribed, allStand, ended⟩ := held
        cases operations with
        | nil => cases size
        | cons operation rest =>
            obtain ⟨described, restDescribed⟩ := descriptorsSplit.mp allDescribed
            obtain ⟨stands, restStands⟩ := payloadsSplit.mp allStand
            obtain ⟨valid, countable⟩ := all operation List.mem_cons_self
            obtain ⟨first, checked, firstRead, stop⟩ :=
              (operation_read_iff within).mpr ⟨valid, countable, described, stands, rfl⟩
            have inside := (slice_eq_some.mp stands).1
            rw [← stop] at inside restStands
            rw [List.flatMap_cons, List.length_append, ← Nat.add_assoc, ← stop] at ended
            obtain ⟨others, looped, restRead⟩ := (ih room inside).mpr
              ⟨by simpa using size, fun other among => all other (List.mem_cons_of_mem _ among),
                restDescribed, restStands, ended⟩
            refine ⟨first :: others, ⟨first, checked, (others, _), looped, rfl⟩, ?_⟩
            rw [collect, firstRead, ok_bind, restRead, ok_bind]

/-- The bytes that an operation was read from. -/
def Carries (decodeZstd : List UInt8 → Nat → Except IoError (List UInt8)) (compressed : Bool) :
    RasterDeltaOperation → List UInt8 → Prop
  | .overwrite _ _ width height rgba, part =>
      if compressed then decodeZstd part (width.toNat * height.toNat * 4) = .ok rgba
      else part = rgba
  | .copy .., part => part = []

/-- One accepted operation is inside the source and takes its bytes off the front
of what is left. -/
theorem operation_takes {compressed : Bool} {validated : ValidatedOperation}
    {operation : RasterDeltaOperation}
    (checked : validateOperation body sourceWidth sourceHeight compressed offset payloadOffset =
      .ok validated)
    (read : readOperation decodeZstd body compressed validated = .ok operation) :
    operation.Within sourceWidth sourceHeight ∧
      ∃ part, Carries decodeZstd compressed operation part ∧
        part ++ body.drop validated.payloadEnd = body.drop payloadOffset := by
  obtain ⟨payloadLength, _, inside, sized, kindChecked, start, stop, _⟩ :=
    validateOperation_eq_ok.mp checked
  obtain ⟨_, _, area⟩ := rgba8PixelLen_eq_ok.mp sized
  have split : (body.drop payloadOffset).take payloadLength.toNat ++
      body.drop validated.payloadEnd = body.drop payloadOffset := by
    rw [stop, ← List.drop_drop]
    exact List.take_append_drop _ _
  unfold readOperation at read
  by_cases overwrite : validated.kind = RASTER_DELTA_OVERWRITE
  · rw [if_pos overwrite, start, stop, Nat.add_sub_cancel_left] at read
    cases compressed with
    | false =>
        simp only [Bool.false_eq_true, if_false, ok_bind, Except.ok.injEq] at read
        rw [← read]
        exact ⟨inside, _, rfl, split⟩
    | true =>
        by_cases skippable : isZstdSkippableFrame
            ((body.drop payloadOffset).take payloadLength.toNat)
        · simp [skippable] at read
        · simp only [if_true, skippable, Bool.false_eq_true, if_false, bind_eq_ok_iff,
            Except.ok.injEq] at read
          obtain ⟨rgba, decoded, same⟩ := read
          rw [← same]
          refine ⟨inside, _, ?_, split⟩
          simp only [Carries, if_true, area]
          exact decoded
  · obtain ⟨_, nothing, source⟩ := (validateKind_other overwrite).mp kindChecked
    rw [if_neg overwrite] at read
    cases read
    refine ⟨⟨inside, source⟩, [], rfl, ?_⟩
    rw [nothing] at split
    exact split

theorem operations_take {compressed : Bool} {validated : List ValidatedOperation}
    {operations : List RasterDeltaOperation} {ended : Nat}
    (looped : validateOperations body sourceWidth sourceHeight compressed count offset
      payloadOffset = .ok (validated, ended))
    (read : collect (readOperation decodeZstd body compressed) validated = .ok operations) :
    operations.length = count ∧
      (∀ operation ∈ operations, operation.Within sourceWidth sourceHeight) ∧
      ∃ parts, List.Forall₂ (Carries decodeZstd compressed) operations parts ∧
        parts.flatten ++ body.drop ended = body.drop payloadOffset := by
  induction count generalizing offset payloadOffset validated operations with
  | zero =>
      cases looped
      cases read
      exact ⟨rfl, fun _ among => (nomatch among), [], .nil, rfl⟩
  | succ count ih =>
      obtain ⟨first, checked, looped⟩ := bind_eq_ok_iff.mp looped
      obtain ⟨⟨others, last⟩, looped, built⟩ := bind_eq_ok_iff.mp looped
      cases built
      obtain ⟨operation, firstRead, read⟩ := bind_eq_ok_iff.mp read
      obtain ⟨rest, restRead, same⟩ := bind_eq_ok_iff.mp read
      cases same
      obtain ⟨inside, part, carries, split⟩ := operation_takes checked firstRead
      obtain ⟨size, all, parts, partsCarry, restSplit⟩ := ih looped restRead
      refine ⟨by rw [List.length_cons, size], ?_, part :: parts, .cons carries partsCarry, ?_⟩
      · intro other among
        rcases List.mem_cons.mp among with here | later
        · rw [here]
          exact inside
        · exact all other later
      · rw [List.flatten_cons, List.append_assoc, restSplit, split]

end Parser

/-! ## Whole frames -/

theorem validateDeltaOperationLimit_eq_ok {limit : UInt32} {kind : IoErrorKind} {done : Unit} :
    validateDeltaOperationLimit limit kind = .ok done ↔
      1 ≤ limit ∧ limit ≤ RASTER_DELTA_OPERATION_LIMIT := by
  unfold validateDeltaOperationLimit
  rw [ite_error_eq_ok_iff, not_not]
  simp

@[simp] theorem length_deltaHeader (epoch flags : UInt32) (frameId baseFrameId : UInt64)
    (ptsUs : Int64) (durationUs : UInt64) (count : UInt32) :
    (deltaHeader epoch flags frameId baseFrameId ptsUs durationUs count).length =
      RASTER_FRAME_PREFIX_SIZE := by
  simp [deltaHeader, RASTER_FRAME_PREFIX_SIZE]

section Frames

variable {body : List UInt8} {sourceWidth sourceHeight effectiveOperationLimit : UInt32}

theorem slice_deltaHeader {epoch flags : UInt32} {frameId baseFrameId : UInt64} {ptsUs : Int64}
    {durationUs : UInt64} {count : UInt32} :
    slice 0 48 body = some (deltaHeader epoch flags frameId baseFrameId ptsUs durationUs count) ↔
      readU32 body 0 = .ok epoch ∧ readU32 body 4 = .ok flags ∧ readU64 body 8 = .ok frameId ∧
        readU64 body 16 = .ok baseFrameId ∧ readI64 body 24 = .ok ptsUs ∧
        readU64 body 32 = .ok durationUs ∧ readU32 body 40 = .ok count ∧
        readU32 body 44 = .ok 0 := by
  have past32 : ∀ {offset width : Nat} {value : UInt32} {rest : List UInt8},
      slice offset (width + 4) body = some (u32Bytes value ++ rest) ↔
        readU32 body offset = .ok value ∧ slice (offset + 4) width body = some rest := by
    intro offset width value rest
    rw [slice_append (length_u32Bytes value), readU32_eq_ok]
  have past64 : ∀ {offset width : Nat} {value : UInt64} {rest : List UInt8},
      slice offset (width + 8) body = some (u64Bytes value ++ rest) ↔
        readU64 body offset = .ok value ∧ slice (offset + 8) width body = some rest := by
    intro offset width value rest
    rw [slice_append (length_u64Bytes value), readU64_eq_ok]
  have pastI64 : ∀ {offset width : Nat} {value : Int64} {rest : List UInt8},
      slice offset (width + 8) body = some (i64Bytes value ++ rest) ↔
        readI64 body offset = .ok value ∧ slice (offset + 8) width body = some rest := by
    intro offset width value rest
    rw [slice_append (length_i64Bytes value), readI64_eq_ok]
  unfold deltaHeader
  rw [past32, past32, past64, past64, pastI64, past64, past32, ← readU32_eq_ok]

/-- The body of a frame of plain operations. -/
def plainBody (frame : RasterDeltaFrame) : List UInt8 :=
  deltaHeader frame.epoch RASTER_FRAME_DELTA frame.frameId frame.baseFrameId frame.ptsUs
      frame.durationUs (UInt32.ofNat frame.operations.length) ++
    (frame.operations.flatMap descriptor ++ frame.operations.flatMap payload)

theorem length_plainBody (frame : RasterDeltaFrame) :
    (plainBody frame).length = RASTER_FRAME_PREFIX_SIZE +
      frame.operations.length * RASTER_DELTA_OPERATION_SIZE +
      (frame.operations.flatMap payload).length := by
  unfold plainBody
  rw [List.length_append, List.length_append, length_deltaHeader, length_descriptors,
    Nat.add_assoc]

/-- A body is that of a frame if header, descriptors and pixels stand in it and
nothing follows. -/
theorem eq_plainBody_iff {frame : RasterDeltaFrame} :
    body = plainBody frame ↔
      slice 0 RASTER_FRAME_PREFIX_SIZE body = some (deltaHeader frame.epoch RASTER_FRAME_DELTA
        frame.frameId frame.baseFrameId frame.ptsUs frame.durationUs
        (UInt32.ofNat frame.operations.length)) ∧
      slice RASTER_FRAME_PREFIX_SIZE (frame.operations.length * RASTER_DELTA_OPERATION_SIZE) body =
        some (frame.operations.flatMap descriptor) ∧
      slice (RASTER_FRAME_PREFIX_SIZE + frame.operations.length * RASTER_DELTA_OPERATION_SIZE)
        (frame.operations.flatMap payload).length body = some (frame.operations.flatMap payload) ∧
      body.length = RASTER_FRAME_PREFIX_SIZE +
        frame.operations.length * RASTER_DELTA_OPERATION_SIZE +
        (frame.operations.flatMap payload).length := by
  have whole : ∀ {width : Nat}, width = (frame.operations.flatMap payload).length +
        frame.operations.length * RASTER_DELTA_OPERATION_SIZE + RASTER_FRAME_PREFIX_SIZE →
      (slice 0 width body = some (plainBody frame) ↔
        slice 0 RASTER_FRAME_PREFIX_SIZE body = some (deltaHeader frame.epoch RASTER_FRAME_DELTA
          frame.frameId frame.baseFrameId frame.ptsUs frame.durationUs
          (UInt32.ofNat frame.operations.length)) ∧
        slice RASTER_FRAME_PREFIX_SIZE
          (frame.operations.length * RASTER_DELTA_OPERATION_SIZE) body =
            some (frame.operations.flatMap descriptor) ∧
        slice (RASTER_FRAME_PREFIX_SIZE + frame.operations.length * RASTER_DELTA_OPERATION_SIZE)
          (frame.operations.flatMap payload).length body =
            some (frame.operations.flatMap payload)) := by
    intro width sized
    rw [sized, plainBody, slice_append (length_deltaHeader _ _ _ _ _ _ _),
      slice_append (length_descriptors _), Nat.zero_add]
  constructor
  · intro same
    have size := length_plainBody frame
    rw [← same] at size
    obtain ⟨header, descriptors, payloads⟩ :=
      (whole (by omega)).mp ((slice_all size.symm).mpr same)
    exact ⟨header, descriptors, payloads, size⟩
  · intro held
    obtain ⟨header, descriptors, payloads, size⟩ := held
    exact (slice_all size.symm).mp ((whole (by omega)).mpr ⟨header, descriptors, payloads⟩)

/-- What builder and parser both ask of a frame. -/
structure Sound (sourceWidth sourceHeight effectiveOperationLimit : UInt32)
    (frame : RasterDeltaFrame) : Prop where
  limit : 1 ≤ effectiveOperationLimit ∧ effectiveOperationLimit ≤ RASTER_DELTA_OPERATION_LIMIT
  source : sourceWidth ≠ 0 ∧ sourceHeight ≠ 0
  base : frame.baseFrameId ≠ 0
  some : frame.operations ≠ []
  few : frame.operations.length ≤ effectiveOperationLimit.toNat
  valid : ∀ operation ∈ frame.operations, operation.Valid sourceWidth sourceHeight

theorem ofNat_count {count : Nat} (few : count ≤ effectiveOperationLimit.toNat) :
    (UInt32.ofNat count).toNat = count := by
  have word := effectiveOperationLimit.toNat_lt
  rw [UInt32.toNat_ofNat']
  exact Nat.mod_eq_of_lt (by omega)

theorem rasterDeltaFrameBody_eq_ok {zstd : List UInt8 → Except IoError (List UInt8)}
    {frame : RasterDeltaFrame} :
    rasterDeltaFrameBody zstd sourceWidth sourceHeight false frame.epoch frame.frameId
        frame.baseFrameId frame.ptsUs frame.durationUs effectiveOperationLimit frame.operations =
          .ok body ↔
      Sound sourceWidth sourceHeight effectiveOperationLimit frame ∧ frame.frameId ≠ 0 ∧
        body.length ≤ HARD_MAX_RECORD_BODY.toNat ∧ body = plainBody frame := by
  unfold rasterDeltaFrameBody
  simp only [bind_eq_ok_iff, validateDeltaOperationLimit_eq_ok, ite_error_eq_ok_iff,
    encodeOperations_eq_ok, Except.ok.injEq, not_or, not_lt, not_le, Bool.false_eq_true, if_false]
  constructor
  · intro held
    obtain ⟨_, limit, ⟨frameId, base⟩, source, short, ⟨some, few⟩, _, ⟨valid, rfl⟩, size, built⟩ :=
      held
    have count : (UInt32.ofNat frame.operations.length).toNat = frame.operations.length := by
      rw [UInt32.toNat_ofNat', Nat.mod_eq_of_lt short]
    have same : body = plainBody frame := by
      rw [← built]
      rfl
    refine ⟨⟨limit, source, base, ?_, ?_, valid⟩, frameId, ?_, same⟩
    · intro none
      rw [none] at some
      exact some rfl
    · rw [UInt32.not_lt, UInt32.le_iff_toNat_le, count] at few
      exact few
    · rw [same, length_plainBody]
      exact size
  · intro held
    obtain ⟨sound, frameId, size, same⟩ := held
    have count := ofNat_count sound.few
    have word := effectiveOperationLimit.toNat_lt
    have few := sound.few
    refine ⟨(), sound.limit, ⟨frameId, sound.base⟩, sound.source, by omega, ⟨?_, ?_⟩, _,
      ⟨sound.valid, rfl⟩, ?_, ?_⟩
    · intro none
      rw [none] at count
      exact sound.some (List.length_eq_zero_iff.mp count.symm)
    · rw [UInt32.not_lt, UInt32.le_iff_toNat_le, count]
      exact few
    · rw [same, length_plainBody] at size
      exact size
    · rw [same]
      rfl

theorem plain_flags {flags : UInt32}
    (known : ¬ (flags ≠ RASTER_FRAME_DELTA ∧ flags ≠ RASTER_FRAME_DELTA ||| RASTER_FRAME_ZSTD))
    (plain : decide (flags &&& RASTER_FRAME_ZSTD ≠ 0) = false) : flags = RASTER_FRAME_DELTA := by
  by_contra other
  by_cases compressed : flags = RASTER_FRAME_DELTA ||| RASTER_FRAME_ZSTD
  · rw [compressed] at plain
    revert plain
    decide
  · exact known ⟨other, compressed⟩

theorem parseDeltaRasterFrame_eq_ok
    {decodeZstd : List UInt8 → Nat → Except IoError (List UInt8)} {frame : RasterDeltaFrame}
    (plain : frame.compressed = false) :
    parseDeltaRasterFrame decodeZstd body sourceWidth sourceHeight effectiveOperationLimit =
        .ok frame ↔
      Sound sourceWidth sourceHeight effectiveOperationLimit frame ∧
        (∀ operation ∈ frame.operations, operation.Countable) ∧ body = plainBody frame := by
  unfold parseDeltaRasterFrame
  simp only [bind_eq_ok_iff, validateDeltaOperationLimit_eq_ok, ite_error_eq_ok_iff,
    Except.ok.injEq, not_or, not_lt, not_not, eq_plainBody_iff]
  constructor
  · intro held
    obtain ⟨_, limit, source, enough, flags, flagsRead, known, base, baseRead, nonzero, reserved,
      reservedRead, zero, count, countRead, ⟨some, few⟩, room, ⟨validated, ended⟩, looped, stop,
      operations, read, epoch, epochRead, frameId, idRead, ptsUs, ptsRead, durationUs, durationRead,
      built⟩ := held
    rw [← built] at plain ⊢
    dsimp only at plain ⊢
    rw [plain] at looped read
    obtain ⟨size, all, described, stands, final⟩ :=
      (operations_read_iff room room).mp ⟨validated, looped, read⟩
    have counted : UInt32.ofNat operations.length = count := by
      rw [size, UInt32.ofNat_toNat]
    rw [plain_flags known plain] at flagsRead
    rw [zero] at reservedRead
    refine ⟨⟨limit, source, nonzero, ?_, ?_, fun operation among => (all operation among).1⟩,
      fun operation among => (all operation among).2, ?_, ?_, ?_, ?_⟩
    · intro none
      dsimp only at none
      rw [none] at counted
      exact some counted.symm
    · dsimp only
      rw [size]
      exact UInt32.le_iff_toNat_le.mp (UInt32.not_lt.mp few)
    · rw [counted]
      exact slice_deltaHeader.mpr ⟨epochRead, flagsRead, idRead, baseRead, ptsRead, durationRead,
        countRead, reservedRead⟩
    · rw [size]
      exact described
    · rw [size]
      exact stands
    · rw [size, ← final]
      exact stop.symm
  · intro held
    obtain ⟨sound, countable, header, described, stands, size⟩ := held
    obtain ⟨epochRead, flagsRead, idRead, baseRead, ptsRead, durationRead, countRead,
      reservedRead⟩ := slice_deltaHeader.mp header
    have count := ofNat_count sound.few
    have plainFlags : decide (RASTER_FRAME_DELTA &&& RASTER_FRAME_ZSTD ≠ 0) = false := by decide
    have room : RASTER_FRAME_PREFIX_SIZE +
        (UInt32.ofNat frame.operations.length).toNat * RASTER_DELTA_OPERATION_SIZE ≤
          body.length := by
      rw [count]
      omega
    obtain ⟨validated, looped, read⟩ := (operations_read_iff room room).mpr
      ⟨count.symm, fun operation among => ⟨sound.valid operation among, countable operation among⟩,
        by rw [count]; exact described, by rw [count]; exact stands, rfl⟩
    refine ⟨(), sound.limit, sound.source, by omega, _, flagsRead, by simp, _, baseRead, sound.base,
      _, reservedRead, rfl, _, countRead, ⟨?_, ?_⟩, room, ?_⟩
    · intro none
      rw [none] at count
      exact sound.some (List.length_eq_zero_iff.mp count.symm)
    · rw [UInt32.not_lt, UInt32.le_iff_toNat_le, count]
      exact sound.few
    · simp only [plainFlags]
      refine ⟨_, looped, ?_, _, read, _, epochRead, _, idRead, _, ptsRead, _, durationRead, ?_⟩
      · rw [count, size]
      · rw [← plain]

/-- The operations of an accepted frame are inside the source, and their bytes are
what follows the descriptors. -/
theorem parseDeltaRasterFrame_takes
    {decodeZstd : List UInt8 → Nat → Except IoError (List UInt8)} {frame : RasterDeltaFrame}
    (accepted : parseDeltaRasterFrame decodeZstd body sourceWidth sourceHeight
      effectiveOperationLimit = .ok frame) :
    (∀ operation ∈ frame.operations, operation.Within sourceWidth sourceHeight) ∧
      ∃ parts, List.Forall₂ (Carries decodeZstd frame.compressed) frame.operations parts ∧
        parts.flatten = body.drop (RASTER_FRAME_PREFIX_SIZE +
          frame.operations.length * RASTER_DELTA_OPERATION_SIZE) := by
  unfold parseDeltaRasterFrame at accepted
  simp only [bind_eq_ok_iff, ite_error_eq_ok_iff, Except.ok.injEq, not_not] at accepted
  obtain ⟨_, _, _, _, _, _, _, _, _, _, _, _, _, _, _, _, _, ⟨validated, ended⟩, looped, stop,
    operations, read, _, _, _, _, _, _, _, _, built⟩ := accepted
  rw [← built]
  obtain ⟨size, inside, parts, carries, split⟩ := operations_take looped read
  refine ⟨inside, parts, carries, ?_⟩
  dsimp only at stop
  rw [stop, List.drop_length, List.append_nil] at split
  rw [split, size]

end Frames

/-- Builder and parser of plain deltas are inverse, the parser exactly if every
rectangle has a `u32` count of pixel bytes and the builder exactly if the body is
within the hard limit.  Whatever the parser accepts is inside the source and uses
up the bytes after the descriptors. -/
theorem raster_deltas_inverse_iff (zstd : List UInt8 → Except IoError (List UInt8))
    (decodeZstd : List UInt8 → Nat → Except IoError (List UInt8))
    (sourceWidth sourceHeight effectiveOperationLimit : UInt32) :
    (∀ (epoch : UInt32) (frameId baseFrameId : UInt64) (ptsUs : Int64) (durationUs : UInt64)
        (operations : List RasterDeltaOperation) (body : List UInt8),
      rasterDeltaFrameBody zstd sourceWidth sourceHeight false epoch frameId baseFrameId ptsUs
          durationUs effectiveOperationLimit operations = .ok body →
      (parseDeltaRasterFrame decodeZstd body sourceWidth sourceHeight effectiveOperationLimit =
          .ok ⟨epoch, frameId, baseFrameId, ptsUs, durationUs, false, operations⟩ ↔
        ∀ operation ∈ operations, operation.Countable)) ∧
    ∀ (body : List UInt8) (frame : RasterDeltaFrame),
      parseDeltaRasterFrame decodeZstd body sourceWidth sourceHeight effectiveOperationLimit =
          .ok frame →
      ((∀ operation ∈ frame.operations, operation.Within sourceWidth sourceHeight) ∧
        ∃ parts, List.Forall₂ (Carries decodeZstd frame.compressed) frame.operations parts ∧
          parts.flatten = body.drop (RASTER_FRAME_PREFIX_SIZE +
            frame.operations.length * RASTER_DELTA_OPERATION_SIZE)) ∧
      (frame.compressed = false → frame.frameId ≠ 0 →
        (rasterDeltaFrameBody zstd sourceWidth sourceHeight false frame.epoch frame.frameId
            frame.baseFrameId frame.ptsUs frame.durationUs effectiveOperationLimit
            frame.operations = .ok body ↔
          body.length ≤ HARD_MAX_RECORD_BODY.toNat)) := by
  constructor
  · intro epoch frameId baseFrameId ptsUs durationUs operations body written
    have built := fun frame : RasterDeltaFrame =>
      @rasterDeltaFrameBody_eq_ok body sourceWidth sourceHeight effectiveOperationLimit zstd frame
    obtain ⟨sound, _, _, same⟩ :=
      (built ⟨epoch, frameId, baseFrameId, ptsUs, durationUs, false, operations⟩).mp written
    rw [parseDeltaRasterFrame_eq_ok rfl]
    constructor
    · intro read
      exact read.2.1
    · intro countable
      exact ⟨sound, countable, same⟩
  · intro body frame accepted
    refine ⟨parseDeltaRasterFrame_takes accepted, ?_⟩
    intro plain frameId
    obtain ⟨sound, _, same⟩ := (parseDeltaRasterFrame_eq_ok plain).mp accepted
    rw [rasterDeltaFrameBody_eq_ok]
    constructor
    · intro built
      exact built.2.2.1
    · intro size
      exact ⟨sound, frameId, size, same⟩

/-- On a source of four by two: the left half is copied to the right, two pixels are
written, and one of them is copied back. -/
def sampleOperations : List RasterDeltaOperation :=
  [.copy 0 0 2 2 2 0, .overwrite 1 1 2 1 [1, 2, 3, 4, 5, 6, 7, 8], .copy 2 1 1 1 0 0]

theorem raster_deltas_inverse_iff_mixed :
    ∃ body, rasterDeltaFrameBody .ok 4 2 false 1 2 1 0 0 16 sampleOperations = .ok body ∧
      parseDeltaRasterFrame (fun part _ => .ok part) body 4 2 16 =
        .ok ⟨1, 2, 1, 0, 0, false, sampleOperations⟩ ∧
      (∀ operation ∈ sampleOperations, operation.Within 4 2) ∧
      body.length ≤ HARD_MAX_RECORD_BODY.toNat := by
  have countable : ∀ operation ∈ sampleOperations, operation.Countable := by
    intro operation among
    simp only [sampleOperations, List.mem_cons, List.not_mem_nil, or_false] at among
    rcases among with rfl | rfl | rfl
    all_goals
      unfold RasterDeltaOperation.Countable
      decide
  obtain ⟨body, written⟩ : ∃ body,
      rasterDeltaFrameBody .ok 4 2 false 1 2 1 0 0 16 sampleOperations = .ok body := ⟨_, rfl⟩
  have inverse := raster_deltas_inverse_iff .ok (fun part _ => .ok part) 4 2 16
  have read := (inverse.1 1 2 1 0 0 sampleOperations body written).mpr countable
  obtain ⟨⟨within, -⟩, again⟩ := inverse.2 body _ read
  exact ⟨body, written, read, within, (again rfl (by decide)).mp written⟩

/-- The builder takes a copy of a square that the parser cannot count. -/
theorem raster_deltas_not_inverse :
    ∃ body, rasterDeltaFrameBody .ok 65536 65536 false 1 2 1 0 0 16
        [.copy 0 0 65536 65536 0 0] = .ok body ∧
      parseDeltaRasterFrame (fun part _ => .ok part) body 65536 65536 16 =
        .error (invalid "raster delta rectangle dimensions overflow") :=
  ⟨_, rfl, rfl⟩

end VividProtocol.Media

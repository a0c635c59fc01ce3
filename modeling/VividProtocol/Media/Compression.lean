import Mathlib.Tactic
import VividProtocol.Media.Delta

/-!
# Compressed rasters

Raster frames whose pixels went through zstd, which is a parameter.  What the
decoder gives back always fills the rectangle, and if zstd restores what it
compressed, compressed frames give the pixels that plain ones give.
-/

set_option autoImplicit false

namespace VividProtocol.Media

open VividProtocol.Wire
open VividProtocol.Library.Fields
open VividProtocol.Library.Result
open VividProtocol.Library.Codec
open RasterDeltaOperation

/-- The functions of `zstd` and `zstd_safe` that are called. -/
structure Zstd where
  /-- `bulk::compress` at level 1. -/
  compress : List UInt8 → Except IoError (List UInt8)
  /-- `get_dict_id_from_frame`. -/
  dictId : List UInt8 → Option UInt32
  /-- `find_frame_compressed_size`, its errors left out. -/
  frameCompressedSize : List UInt8 → Option Nat
  /-- `Decoder::new` succeeds. -/
  opens : List UInt8 → Bool
  /-- `take(..).read_to_end` of the first frame. -/
  readFrame : List UInt8 → Nat → Except IoError (List UInt8)

/-- What zstd promises of frames that it made itself. -/
structure Zstd.Faithful (zstd : Zstd) : Prop where
  magic : ∀ {data packed : List UInt8}, zstd.compress data = .ok packed →
    packed.take 4 = [0x28, 0xb5, 0x2f, 0xfd]
  noDictionary : ∀ {data packed : List UInt8}, zstd.compress data = .ok packed →
    zstd.dictId packed = none
  oneFrame : ∀ {data packed : List UInt8}, zstd.compress data = .ok packed →
    zstd.frameCompressedSize packed = some packed.length
  opens : ∀ {data packed : List UInt8}, zstd.compress data = .ok packed → zstd.opens packed = true
  restores : ∀ {data packed : List UInt8}, zstd.compress data = .ok packed →
    ∀ limit, zstd.readFrame packed limit = .ok (data.take limit)

def decodeZstdPixels (zstd : Zstd) (pixels : List UInt8) (expected : Nat) :
    Except IoError (List UInt8) :=
  if (zstd.dictId pixels).isSome = true ∨ zstd.frameCompressedSize pixels ≠ some pixels.length then
    .error (invalid "zstd dictionaries and trailing frames are forbidden")
  else if zstd.opens pixels = false then .error (invalid "invalid zstd frame")
  else do
    let output ← zstd.readFrame pixels (expected + 1)
    if output.length ≠ expected then
      .error (invalid "zstd raster has wrong output size or trailing data")
    else .ok output

def decodeRasterPixels (zstd : Zstd) (frame : ParsedRasterFrame) :
    Except IoError (List UInt8) :=
  match rgba8PixelLen frame.width frame.height with
  | .error _ => .error (invalid "raster dimensions overflow")
  | .ok expected =>
      if frame.compressed = false then .ok frame.pixels
      else if isZstdSkippableFrame frame.pixels then
        .error (invalid "zstd skippable frames are forbidden")
      else decodeZstdPixels zstd frame.pixels expected.toNat

/-! ## Single frames -/

section Frames

variable {zstd : Zstd} {data packed pixels : List UInt8} {expected : Nat}

theorem decodeZstdPixels_eq_ok :
    decodeZstdPixels zstd pixels expected = .ok data ↔
      (zstd.dictId pixels = none ∧ zstd.frameCompressedSize pixels = some pixels.length ∧
        zstd.opens pixels = true) ∧
      zstd.readFrame pixels (expected + 1) = .ok data ∧ data.length = expected := by
  unfold decodeZstdPixels
  simp only [ite_error_eq_ok_iff, bind_eq_ok_iff, not_or, not_not, Bool.not_eq_true,
    Option.isSome_eq_false_iff, Option.isNone_iff_eq_none, Bool.not_eq_false, Except.ok.injEq]
  constructor
  · rintro ⟨⟨plain, whole⟩, opened, output, read, size, rfl⟩
    exact ⟨⟨plain, whole, opened⟩, read, size⟩
  · rintro ⟨⟨plain, whole, opened⟩, read, size⟩
    exact ⟨⟨plain, whole⟩, opened, data, read, size, rfl⟩

/-- A frame that zstd made is decoded to what it was made of. -/
theorem Zstd.Faithful.decode (faithful : zstd.Faithful) (made : zstd.compress data = .ok packed) :
    decodeZstdPixels zstd packed data.length = .ok data := by
  have restored := faithful.restores made (data.length + 1)
  rw [List.take_of_length_le (Nat.le_succ _)] at restored
  exact decodeZstdPixels_eq_ok.mpr
    ⟨⟨faithful.noDictionary made, faithful.oneFrame made, faithful.opens made⟩, restored, rfl⟩

theorem Zstd.Faithful.not_skippable (faithful : zstd.Faithful)
    (made : zstd.compress data = .ok packed) : isZstdSkippableFrame packed = false := by
  obtain ⟨rest, rfl⟩ : ∃ rest, packed = 0x28 :: 0xb5 :: 0x2f :: 0xfd :: rest := by
    refine ⟨packed.drop 4, ?_⟩
    rw [← List.take_append_drop 4 packed, faithful.magic made]
    rfl
  have long : ¬ (0x28 :: 0xb5 :: 0x2f :: 0xfd :: rest).length < 4 := by
    simp only [List.length_cons]
    omega
  unfold isZstdSkippableFrame
  rw [decide_eq_false long]
  rfl

end Frames

/-! ## Operations of a delta -/

/-- What the builder puts after the descriptors for an operation. -/
def Packs (compress : List UInt8 → Except IoError (List UInt8)) (compressed : Bool) :
    RasterDeltaOperation → List UInt8 → Prop
  | .overwrite _ _ _ _ rgba, part =>
      (if compressed then compress rgba else .ok rgba) = .ok part ∧ part.length < 2 ^ 32
  | .copy .., part => part = []

/-- The descriptor of an operation with its packed pixels. -/
def packedDescriptor : RasterDeltaOperation → List UInt8 → List UInt8
  | .overwrite x y width height _, part =>
      descriptorBytes RASTER_DELTA_OVERWRITE x y width height 0 0 (UInt32.ofNat part.length)
  | .copy destinationX destinationY width height sourceX sourceY, _ =>
      descriptorBytes RASTER_DELTA_COPY destinationX destinationY width height sourceX sourceY 0

theorem length_packedDescriptor (operation : RasterDeltaOperation) (part : List UInt8) :
    (packedDescriptor operation part).length = RASTER_DELTA_OPERATION_SIZE := by
  cases operation <;> simp [packedDescriptor, descriptorBytes, RASTER_DELTA_OPERATION_SIZE]

/-- The descriptors of all operations. -/
def packedDescriptors (operations : List RasterDeltaOperation) (parts : List (List UInt8)) :
    List UInt8 :=
  (List.zipWith packedDescriptor operations parts).flatten

theorem length_packedDescriptors {related : RasterDeltaOperation → List UInt8 → Prop}
    {operations : List RasterDeltaOperation} {parts : List (List UInt8)}
    (each : List.Forall₂ related operations parts) :
    (packedDescriptors operations parts).length =
      operations.length * RASTER_DELTA_OPERATION_SIZE := by
  induction each with
  | nil => rfl
  | @cons operation part rest others _ _ ih =>
      unfold packedDescriptors at ih ⊢
      rw [List.zipWith_cons_cons, List.flatten_cons, List.length_append, ih,
        length_packedDescriptor, List.length_cons, Nat.succ_mul, Nat.add_comm]

section Building

variable {compress : List UInt8 → Except IoError (List UInt8)} {compressed : Bool}
variable {sourceWidth sourceHeight : UInt32}

theorem encodeOperation_packs {operation : RasterDeltaOperation} {written : List UInt8 × List UInt8}
    (encoded : encodeOperation compress sourceWidth sourceHeight compressed operation =
      .ok written) :
    operation.Valid sourceWidth sourceHeight ∧ Packs compress compressed operation written.2 ∧
      written.1 = packedDescriptor operation written.2 := by
  cases operation with
  | overwrite x y width height rgba =>
      cases compressed with
      | false =>
          simp only [encodeOperation, bind_eq_ok_iff, validateRasterRectangle_eq_ok, orInput_eq_ok,
            ite_error_eq_ok_iff, not_not, Bool.false_eq_true, if_false, Except.ok.injEq,
            exists_eq_left', not_le] at encoded
          obtain ⟨_, inside, expected, sized, filled, short, rfl⟩ := encoded
          exact ⟨⟨inside, expected, sized, filled⟩, ⟨rfl, short⟩, rfl⟩
      | true =>
          simp only [encodeOperation, bind_eq_ok_iff, validateRasterRectangle_eq_ok, orInput_eq_ok,
            ite_error_eq_ok_iff, not_not, if_true, Except.ok.injEq, not_le] at encoded
          obtain ⟨_, inside, expected, sized, filled, part, packs, short, rfl⟩ := encoded
          exact ⟨⟨inside, expected, sized, filled⟩, ⟨packs, short⟩, rfl⟩
  | copy destinationX destinationY width height sourceX sourceY =>
      simp only [encodeOperation, bind_eq_ok_iff, validateRasterRectangle_eq_ok,
        Except.ok.injEq] at encoded
      obtain ⟨_, destination, _, source, rfl⟩ := encoded
      exact ⟨⟨⟨destination, source⟩, trivial⟩, rfl, rfl⟩

theorem encodeOperations_pack {operations : List RasterDeltaOperation}
    {written : List UInt8 × List UInt8}
    (encoded : encodeOperations compress sourceWidth sourceHeight compressed operations =
      .ok written) :
    (∀ operation ∈ operations, operation.Valid sourceWidth sourceHeight) ∧
      ∃ parts, List.Forall₂ (Packs compress compressed) operations parts ∧
        written = (packedDescriptors operations parts, parts.flatten) := by
  induction operations generalizing written with
  | nil =>
      cases encoded
      exact ⟨fun _ among => (nomatch among), [], .nil, rfl⟩
  | cons operation rest ih =>
      simp only [encodeOperations, bind_eq_ok_iff, Except.ok.injEq] at encoded
      obtain ⟨⟨descriptor, part⟩, first, ⟨descriptors, payloads⟩, others, rfl⟩ := encoded
      obtain ⟨valid, packs, described⟩ := encodeOperation_packs first
      obtain ⟨all, parts, pack, same⟩ := ih others
      obtain ⟨rfl, rfl⟩ := Prod.mk.inj same
      dsimp only at packs described
      refine ⟨?_, part :: parts, .cons packs pack, ?_⟩
      · intro other among
        rcases List.mem_cons.mp among with rfl | later
        · exact valid
        · exact all other later
      · rw [described]
        rfl

end Building

section Reading

variable {decodeZstd : List UInt8 → Nat → Except IoError (List UInt8)} {compressed : Bool}
variable {body : List UInt8} {sourceWidth sourceHeight : UInt32} {offset payloadOffset : Nat}

/-- The pixels of an operation are what its part is decoded to. -/
def Unpacks (decodeZstd : List UInt8 → Nat → Except IoError (List UInt8)) (compressed : Bool) :
    RasterDeltaOperation → List UInt8 → Prop
  | .overwrite _ _ _ _ rgba, part =>
      part.length < 2 ^ 32 ∧
        if compressed then isZstdSkippableFrame part = false ∧ decodeZstd part rgba.length = .ok rgba
        else part = rgba
  | .copy .., part => part = []

/-- An operation is read where its descriptor and its part stand. -/
theorem operation_unpacked {operation : RasterDeltaOperation} {part : List UInt8}
    (valid : operation.Valid sourceWidth sourceHeight) (countable : operation.Countable)
    (unpacks : Unpacks decodeZstd compressed operation part)
    (described : slice offset RASTER_DELTA_OPERATION_SIZE body =
      some (packedDescriptor operation part))
    (stands : slice payloadOffset part.length body = some part) :
    ∃ validated,
      validateOperation body sourceWidth sourceHeight compressed offset payloadOffset =
        .ok validated ∧
      readOperation decodeZstd body compressed validated = .ok operation ∧
      validated.payloadEnd = payloadOffset + part.length := by
  have room := (slice_eq_some.mp stands).1
  have taken : (body.drop payloadOffset).take part.length = part := by
    rw [slice, if_pos room, Option.some.injEq] at stands
    exact stands
  cases operation with
  | overwrite x y width height rgba =>
      obtain ⟨inside, expected, sized, filled⟩ := valid
      obtain ⟨short, unpacks⟩ := unpacks
      have counted : (UInt32.ofNat part.length).toNat = part.length := by
        rw [UInt32.toNat_ofNat', Nat.mod_eq_of_lt short]
      have kind : validateKind sourceWidth sourceHeight compressed RASTER_DELTA_OVERWRITE width
          height 0 0 (UInt32.ofNat part.length) expected = .ok () := by
        cases compressed with
        | false =>
            rw [if_neg Bool.false_ne_true] at unpacks
            refine validateKind_overwrite.mpr ⟨rfl, rfl, ?_⟩
            rw [unpacks, filled, UInt32.ofNat_toNat]
        | true => rfl
      refine ⟨⟨RASTER_DELTA_OVERWRITE, x, y, width, height, 0, 0, payloadOffset,
        payloadOffset + part.length, expected⟩, validateOperation_eq_ok.mpr
          ⟨UInt32.ofNat part.length, described, inside, sized, kind, rfl, ?_, room⟩, ?_, rfl⟩
      · rw [counted]
      · unfold readOperation
        rw [if_pos rfl]
        dsimp only
        rw [Nat.add_sub_cancel_left, taken, ← filled]
        cases compressed with
        | false =>
            rw [if_neg Bool.false_ne_true] at unpacks ⊢
            rw [unpacks]
            rfl
        | true =>
            rw [if_pos rfl] at unpacks ⊢
            rw [unpacks.1, if_neg Bool.false_ne_true, unpacks.2]
            rfl
  | copy destinationX destinationY width height sourceX sourceY =>
      obtain ⟨⟨destination, source⟩, -⟩ := valid
      have nothing : part = [] := unpacks
      rw [nothing] at room described ⊢
      obtain ⟨expected, sized⟩ : ∃ expected, rgba8PixelLen width height = .ok expected := by
        refine ⟨UInt32.ofNat (width.toNat * height.toNat * 4),
          rgba8PixelLen_eq_ok.mpr ⟨destination.wide, destination.high, ?_⟩⟩
        rw [UInt32.toNat_ofNat', Nat.mod_eq_of_lt countable]
      have other : RASTER_DELTA_COPY ≠ RASTER_DELTA_OVERWRITE := by decide
      refine ⟨⟨RASTER_DELTA_COPY, destinationX, destinationY, width, height, sourceX, sourceY,
        payloadOffset, payloadOffset, expected⟩, validateOperation_eq_ok.mpr ⟨0, described,
          destination, sized, (validateKind_other other).mpr ⟨rfl, rfl, source⟩, rfl, rfl, room⟩,
        ?_, rfl⟩
      unfold readOperation
      rw [if_neg other]

/-- All operations are read, one after another. -/
theorem operations_unpacked {operations : List RasterDeltaOperation} {parts : List (List UInt8)}
    (valid : ∀ operation ∈ operations, operation.Valid sourceWidth sourceHeight)
    (countable : ∀ operation ∈ operations, operation.Countable)
    (unpack : List.Forall₂ (Unpacks decodeZstd compressed) operations parts)
    (described : slice offset (operations.length * RASTER_DELTA_OPERATION_SIZE) body =
      some (packedDescriptors operations parts))
    (stands : slice payloadOffset parts.flatten.length body = some parts.flatten) :
    ∃ validated,
      validateOperations body sourceWidth sourceHeight compressed operations.length offset
        payloadOffset = .ok (validated, payloadOffset + parts.flatten.length) ∧
      collect (readOperation decodeZstd body compressed) validated = .ok operations := by
  induction unpack generalizing offset payloadOffset with
  | nil => exact ⟨[], rfl, rfl⟩
  | @cons operation part rest others unpacks unpack ih =>
      rw [List.length_cons, Nat.succ_mul, packedDescriptors, List.zipWith_cons_cons,
        List.flatten_cons, slice_append (length_packedDescriptor operation part)] at described
      rw [List.flatten_cons, List.length_append, Nat.add_comm, slice_append rfl] at stands
      obtain ⟨first, checked, firstRead, stop⟩ :=
        operation_unpacked (valid operation List.mem_cons_self)
          (countable operation List.mem_cons_self) unpacks described.1 stands.1
      obtain ⟨validated, looped, read⟩ :=
        ih (fun other among => valid other (List.mem_cons_of_mem _ among))
          (fun other among => countable other (List.mem_cons_of_mem _ among)) described.2 stands.2
      refine ⟨first :: validated, ?_, ?_⟩
      · rw [List.length_cons, validateOperations, checked, ok_bind, stop, looped, ok_bind,
          List.flatten_cons, List.length_append, Nat.add_assoc]
      · rw [collect, firstRead, ok_bind, read, ok_bind]

end Reading

/-! ## Whole frames -/

section Whole

variable {zstd : Zstd} {compressed : Bool} {sourceWidth sourceHeight : UInt32}
variable {effectiveOperationLimit : UInt32} {body : List UInt8} {frame : RasterDeltaFrame}

/-- The flags of a delta frame. -/
def deltaFlags (compressed : Bool) : UInt32 :=
  RASTER_FRAME_DELTA ||| if compressed then RASTER_FRAME_ZSTD else 0

theorem deltaFlags_known (compressed : Bool) :
    ¬ (deltaFlags compressed ≠ RASTER_FRAME_DELTA ∧
      deltaFlags compressed ≠ RASTER_FRAME_DELTA ||| RASTER_FRAME_ZSTD) ∧
      decide (deltaFlags compressed &&& RASTER_FRAME_ZSTD ≠ 0) = compressed := by
  cases compressed <;> decide

/-- What zstd packs it unpacks. -/
theorem Zstd.Faithful.unpacks (faithful : zstd.Faithful) {operation : RasterDeltaOperation}
    {part : List UInt8} (packs : Packs zstd.compress compressed operation part) :
    Unpacks (decodeZstdPixels zstd) compressed operation part := by
  cases operation with
  | overwrite x y width height rgba =>
      obtain ⟨packed, short⟩ := packs
      refine ⟨short, ?_⟩
      cases compressed with
      | false =>
          rw [if_neg Bool.false_ne_true] at packed ⊢
          exact (Except.ok.inj packed).symm
      | true =>
          rw [if_pos rfl] at packed ⊢
          exact ⟨faithful.not_skippable packed, faithful.decode packed⟩
  | copy => exact packs

/-- A delta that is built, compressed or not, is parsed with its operations. -/
theorem delta_reads_back (faithful : zstd.Faithful)
    (countable : ∀ operation ∈ frame.operations, operation.Countable)
    (built : rasterDeltaFrameBody zstd.compress sourceWidth sourceHeight frame.compressed
      frame.epoch frame.frameId frame.baseFrameId frame.ptsUs frame.durationUs
      effectiveOperationLimit frame.operations = .ok body) :
    parseDeltaRasterFrame (decodeZstdPixels zstd) body sourceWidth sourceHeight
      effectiveOperationLimit = .ok frame := by
  unfold rasterDeltaFrameBody at built
  simp only [bind_eq_ok_iff, validateDeltaOperationLimit_eq_ok, ite_error_eq_ok_iff, not_or,
    not_lt, not_le] at built
  obtain ⟨_, limit, ⟨-, base⟩, source, short, ⟨present, few⟩, ⟨descriptors, payloads⟩, encoded, -,
    built⟩ := built
  obtain ⟨valid, parts, packs, same⟩ := encodeOperations_pack encoded
  obtain ⟨rfl, rfl⟩ := Prod.mk.inj same
  have unpacks := packs.imp fun _ _ => faithful.unpacks
  have sized := length_packedDescriptors packs
  have count : (UInt32.ofNat frame.operations.length).toNat = frame.operations.length := by
    rw [UInt32.toNat_ofNat', Nat.mod_eq_of_lt short]
  have flags := deltaFlags_known frame.compressed
  have whole : body = deltaHeader frame.epoch (deltaFlags frame.compressed) frame.frameId
      frame.baseFrameId frame.ptsUs frame.durationUs (UInt32.ofNat frame.operations.length) ++
        (packedDescriptors frame.operations parts ++ parts.flatten) := (Except.ok.inj built).symm
  have length : body.length = RASTER_FRAME_PREFIX_SIZE +
      frame.operations.length * RASTER_DELTA_OPERATION_SIZE + parts.flatten.length := by
    rw [whole, List.length_append, List.length_append, length_deltaHeader, sized, Nat.add_assoc]
  have header : slice 0 RASTER_FRAME_PREFIX_SIZE body =
      some (deltaHeader frame.epoch (deltaFlags frame.compressed) frame.frameId frame.baseFrameId
        frame.ptsUs frame.durationUs (UInt32.ofNat frame.operations.length)) := by
    rw [whole]
    exact slice_front (length_deltaHeader _ _ _ _ _ _ _)
  have described : slice RASTER_FRAME_PREFIX_SIZE
      (frame.operations.length * RASTER_DELTA_OPERATION_SIZE) body =
        some (packedDescriptors frame.operations parts) := by
    rw [whole, ← Nat.zero_add RASTER_FRAME_PREFIX_SIZE, slice_past (length_deltaHeader _ _ _ _ _ _ _)]
    exact slice_front sized
  have stands : slice (RASTER_FRAME_PREFIX_SIZE +
      frame.operations.length * RASTER_DELTA_OPERATION_SIZE) parts.flatten.length body =
        some parts.flatten := by
    rw [whole, Nat.add_comm, slice_past (length_deltaHeader _ _ _ _ _ _ _),
      ← Nat.zero_add (_ * _), slice_past sized]
    exact (slice_all rfl).mpr rfl
  obtain ⟨epochRead, flagsRead, idRead, baseRead, ptsRead, durationRead, countRead,
    reservedRead⟩ := slice_deltaHeader.mp header
  obtain ⟨validated, looped, read⟩ := operations_unpacked valid countable unpacks described stands
  unfold parseDeltaRasterFrame
  simp only [bind_eq_ok_iff, validateDeltaOperationLimit_eq_ok, ite_error_eq_ok_iff,
    Except.ok.injEq, not_or, not_lt, not_not]
  refine ⟨(), limit, source, by omega, _, flagsRead, flags.1, _, baseRead, base, _, reservedRead,
    rfl, _, countRead, ⟨present, few⟩, ?_, ?_⟩
  · rw [count, length]
    exact Nat.le_add_right _ _
  · rw [flags.2, count]
    exact ⟨_, looped, length.symm, _, read, _, epochRead, _, idRead, _, ptsRead, _, durationRead,
      rfl⟩

/-- A full frame as its receiver reads it. -/
def received (epoch : UInt32) (frameId : UInt64) (width height : UInt32) (compressed : Bool)
    (pixels : List UInt8) : ParsedRasterFrame :=
  { epoch := epoch
    frameId := frameId
    ptsUs := 0
    durationUs := 0
    width := width
    height := height
    compressed := compressed
    pixels := pixels }

theorem compressed_frame_parsed {epoch : UInt32} {frameId : UInt64} {width height : UInt32}
    {rgba : List UInt8}
    (written : rasterFrameBodyWithCompression zstd.compress epoch frameId width height rgba true =
      .ok body) :
    ∃ packed, zstd.compress rgba = .ok packed ∧
      parseFullRasterFrame body = .ok (received epoch frameId width height true packed) := by
  have limit : HARD_MAX_RECORD_BODY.toNat < 2 ^ 32 := HARD_MAX_RECORD_BODY.toNat_lt
  simp only [rasterFrameBodyWithCompression, rasterFullFramePrefixInner, bind_eq_ok_iff,
    orInput_eq_ok, ite_error_eq_ok_iff, checkBody_eq_ok, if_true, Except.ok.injEq, not_not,
    not_le] at written
  obtain ⟨expected, sized, -, packed, packs, _, ⟨filled, short, _, fits, rfl⟩, same⟩ := written
  have length : (UInt32.ofNat packed.length).toNat = packed.length := by
    rw [UInt32.toNat_ofNat', Nat.mod_eq_of_lt short]
  have size : body.length = packed.length + (RASTER_FRAME_PREFIX_SIZE + RASTER_RECT_SIZE) := by
    rw [← same]
    simp only [List.length_append, length_u32Bytes, length_u64Bytes, length_i64Bytes,
      RASTER_FRAME_PREFIX_SIZE, RASTER_RECT_SIZE]
    omega
  simp only [List.append_assoc] at same
  have flags : readU32 body 4 = .ok (RASTER_FRAME_FULL ||| RASTER_FRAME_ZSTD) :=
    readU32_eq_ok.mpr (by simp [← same])
  have epochRead : readU32 body 0 = .ok epoch := readU32_eq_ok.mpr (by simp [← same])
  have frameRead : readU64 body 8 = .ok frameId := readU64_eq_ok.mpr (by simp [← same])
  have base : readU64 body 16 = .ok 0 := readU64_eq_ok.mpr (by simp [← same])
  have ptsUs : readI64 body 24 = .ok 0 := readI64_eq_ok.mpr (by simp [← same])
  have durationUs : readU64 body 32 = .ok 0 := readU64_eq_ok.mpr (by simp [← same])
  have count : readU32 body 40 = .ok 1 := readU32_eq_ok.mpr (by simp [← same])
  have reserved : readU32 body 44 = .ok 0 := readU32_eq_ok.mpr (by simp [← same])
  have x : readU32 body 48 = .ok 0 := readU32_eq_ok.mpr (by simp [← same])
  have y : readU32 body 52 = .ok 0 := readU32_eq_ok.mpr (by simp [← same])
  have widthRead : readU32 body 56 = .ok width := readU32_eq_ok.mpr (by simp [← same])
  have heightRead : readU32 body 60 = .ok height := readU32_eq_ok.mpr (by simp [← same])
  have dataOffset : readU32 body 64 = .ok 0 := readU32_eq_ok.mpr (by simp [← same])
  have dataLength : readU32 body 68 = .ok (UInt32.ofNat packed.length) :=
    readU32_eq_ok.mpr (by simp [← same])
  have pixels : body.drop (RASTER_FRAME_PREFIX_SIZE + RASTER_RECT_SIZE) = packed := by
    rw [← same]
    simp [RASTER_FRAME_PREFIX_SIZE, RASTER_RECT_SIZE]
  refine ⟨packed, packs, ?_⟩
  unfold parseFullRasterFrame
  dsimp only
  rw [if_neg (by omega), flags, ok_bind, base, ok_bind, count, ok_bind, reserved, ok_bind,
    if_neg (by decide), x, ok_bind, y, ok_bind, widthRead, ok_bind, heightRead, ok_bind,
    dataOffset, ok_bind, dataLength, ok_bind, if_neg (by simpa using filled)]
  simp only [sized]
  rw [if_neg ?_, epochRead, ok_bind, frameRead, ok_bind, ptsUs, ok_bind, durationUs, ok_bind,
    pixels]
  · rfl
  · rw [length, size]
    rintro (⟨plain, -⟩ | apart)
    · exact absurd plain (by decide)
    · exact apart (Nat.add_comm _ _)

/-- A full frame that is built is parsed, and its pixels are decoded. -/
theorem full_reads_back (faithful : zstd.Faithful) {epoch : UInt32} {frameId : UInt64}
    {width height : UInt32} {rgba : List UInt8}
    (written : rasterFrameBodyWithCompression zstd.compress epoch frameId width height rgba
      compressed = .ok body) :
    ∃ pixels, parseFullRasterFrame body =
        .ok (received epoch frameId width height compressed pixels) ∧
      decodeRasterPixels zstd (received epoch frameId width height compressed pixels) =
        .ok rgba := by
  obtain ⟨expected, sized, filled⟩ :
      ∃ expected, rgba8PixelLen width height = .ok expected ∧ rgba.length = expected.toNat := by
    unfold rasterFrameBodyWithCompression at written
    obtain ⟨expected, sized, rest⟩ := bind_eq_ok_iff.mp written
    exact ⟨expected, orInput_eq_ok.mp sized, not_not.mp (ite_error_eq_ok_iff.mp rest).1⟩
  unfold decodeRasterPixels received
  dsimp only
  rw [sized]
  cases compressed with
  | false => exact ⟨rgba, (parseFullRasterFrame_body written).1, rfl⟩
  | true =>
      obtain ⟨packed, packs, parsed⟩ := compressed_frame_parsed written
      refine ⟨packed, parsed, ?_⟩
      dsimp only
      rw [faithful.not_skippable packs, ← filled]
      exact faithful.decode packs

end Whole

/-- Compression changes no pixel.  A full frame that is built, compressed or not, is
parsed with its fields and decoded to its pixels; a delta is parsed with its fields
and operations, if their rectangles have a `u32` count of pixel bytes. -/
theorem raster_pixels_restored (zstd : Zstd) (faithful : zstd.Faithful) :
    (∀ (compressed : Bool) (epoch : UInt32) (frameId : UInt64) (width height : UInt32)
        (rgba body : List UInt8),
      rasterFrameBodyWithCompression zstd.compress epoch frameId width height rgba compressed =
          .ok body →
      ∃ pixels, parseFullRasterFrame body =
          .ok (received epoch frameId width height compressed pixels) ∧
        decodeRasterPixels zstd (received epoch frameId width height compressed pixels) =
          .ok rgba) ∧
    ∀ (sourceWidth sourceHeight effectiveOperationLimit : UInt32) (frame : RasterDeltaFrame)
        (body : List UInt8),
      rasterDeltaFrameBody zstd.compress sourceWidth sourceHeight frame.compressed frame.epoch
          frame.frameId frame.baseFrameId frame.ptsUs frame.durationUs effectiveOperationLimit
          frame.operations = .ok body →
      (∀ operation ∈ frame.operations, operation.Countable) →
      parseDeltaRasterFrame (decodeZstdPixels zstd) body sourceWidth sourceHeight
        effectiveOperationLimit = .ok frame :=
  ⟨fun _ _ _ _ _ _ _ => full_reads_back faithful,
    fun _ _ _ _ _ built countable => delta_reads_back faithful countable built⟩

/-- The header of a frame with one raw block of so many bytes. -/
def rawHeader (length : Nat) : List UInt8 :=
  [0x28, 0xb5, 0x2f, 0xfd, 0x20, UInt8.ofNat length, UInt8.ofNat (8 * length + 1),
    UInt8.ofNat ((8 * length + 1) / 256), 0]

/-- Zstd on pixels that are too few to compress. -/
def rawZstd : Zstd where
  compress data :=
    if 255 < data.length then .error (invalid "more than one raw block")
    else .ok (rawHeader data.length ++ data)
  dictId _ := none
  frameCompressedSize packed := some packed.length
  opens packed := packed.take 4 == [0x28, 0xb5, 0x2f, 0xfd]
  readFrame packed limit := .ok ((packed.drop 9).take limit)

theorem rawZstd_compress {data packed : List UInt8} (made : rawZstd.compress data = .ok packed) :
    packed = rawHeader data.length ++ data :=
  (Except.ok.inj (ite_error_eq_ok_iff.mp made).2).symm

theorem rawZstd_faithful : rawZstd.Faithful where
  magic := by
    intro data packed made
    rw [rawZstd_compress made]
    rfl
  noDictionary _ := rfl
  oneFrame _ := rfl
  opens := by
    intro data packed made
    rw [rawZstd_compress made]
    rfl
  restores := by
    intro data packed made limit
    rw [rawZstd_compress made]
    rfl

/-- A copy and two pixels written, compressed. -/
def sampleDeltaFrame : RasterDeltaFrame :=
  ⟨1, 3, 2, 0, 0, true, [.copy 0 0 1 1 1 0, .overwrite 0 1 2 1 [1, 2, 3, 4, 5, 6, 7, 8]]⟩

theorem sampleDeltaFrame_countable :
    ∀ operation ∈ sampleDeltaFrame.operations, operation.Countable := by
  intro operation among
  simp only [sampleDeltaFrame, List.mem_cons, List.not_mem_nil, or_false] at among
  rcases among with rfl | rfl
  all_goals
    unfold RasterDeltaOperation.Countable
    decide

theorem raster_pixels_restored_delta :
    (∃ body, rasterFrameBodyWithCompression rawZstd.compress 1 2 1 1 [1, 2, 3, 4] true =
        .ok body ∧
      ∃ pixels, parseFullRasterFrame body = .ok (received 1 2 1 1 true pixels) ∧
        decodeRasterPixels rawZstd (received 1 2 1 1 true pixels) = .ok [1, 2, 3, 4]) ∧
    ∃ body, rasterDeltaFrameBody rawZstd.compress 2 2 true 1 3 2 0 0 16
        sampleDeltaFrame.operations = .ok body ∧
      parseDeltaRasterFrame (decodeZstdPixels rawZstd) body 2 2 16 = .ok sampleDeltaFrame := by
  obtain ⟨full, delta⟩ := raster_pixels_restored rawZstd rawZstd_faithful
  exact ⟨⟨_, rfl, full true 1 2 1 1 [1, 2, 3, 4] _ rfl⟩,
    ⟨_, rfl, delta 2 2 16 sampleDeltaFrame _ rfl sampleDeltaFrame_countable⟩⟩

/-! ## Whatever is decoded -/

/-- The pixels of the operation fill its rectangle. -/
def RasterDeltaOperation.Covers : RasterDeltaOperation → Prop
  | .overwrite _ _ width height rgba => rgba.length = width.toNat * height.toNat * 4
  | .copy .. => True

theorem parsed_length {body : List UInt8} {frame : ParsedRasterFrame}
    (parsed : parseFullRasterFrame body = .ok frame) (plain : frame.compressed = false) :
    frame.pixels.length = frame.width.toNat * frame.height.toNat * 4 := by
  unfold parseFullRasterFrame at parsed
  simp only [bind_eq_ok_iff, ite_error_eq_ok_iff, not_lt] at parsed
  obtain ⟨-, flags, -, base, -, count, -, reserved, -, -, x, -, y, -, width, -, height, -,
    dataOffset, -, dataLength, -, -, parsed⟩ := parsed
  cases sized : rgba8PixelLen width height with
  | error reason =>
      rw [sized] at parsed
      cases parsed
  | ok expected =>
      rw [sized] at parsed
      simp only [bind_eq_ok_iff, ite_error_eq_ok_iff, not_or, not_and, not_not,
        Except.ok.injEq] at parsed
      obtain ⟨⟨exact, whole⟩, epoch, -, frameId, -, ptsUs, -, durationUs, -, rfl⟩ := parsed
      obtain ⟨-, -, area⟩ := rgba8PixelLen_eq_ok.mp sized
      dsimp only at plain ⊢
      rw [plain] at exact
      rw [List.length_drop, ← whole, Nat.add_sub_cancel_left, exact rfl, area]

theorem covers_of_carries {zstd : Zstd} {operation : RasterDeltaOperation} {part : List UInt8}
    (carries : Carries (decodeZstdPixels zstd) true operation part) : operation.Covers := by
  cases operation with
  | overwrite x y width height rgba => exact (decodeZstdPixels_eq_ok.mp carries).2.2
  | copy => trivial

theorem covers_of_valid {operation : RasterDeltaOperation} {sourceWidth sourceHeight : UInt32}
    (valid : operation.Valid sourceWidth sourceHeight) : operation.Covers := by
  cases operation with
  | overwrite x y width height rgba =>
      obtain ⟨expected, sized, filled⟩ := valid.filled
      obtain ⟨-, -, area⟩ := rgba8PixelLen_eq_ok.mp sized
      exact filled.trans area.symm
  | copy => trivial

theorem exists_carried {related : RasterDeltaOperation → List UInt8 → Prop}
    {operations : List RasterDeltaOperation} {parts : List (List UInt8)}
    (each : List.Forall₂ related operations parts) {operation : RasterDeltaOperation}
    (among : operation ∈ operations) : ∃ part, related operation part := by
  induction each with
  | nil => cases among
  | cons carried _ ih =>
      rcases List.mem_cons.mp among with rfl | later
      · exact ⟨_, carried⟩
      · exact ih later

/-- Whatever zstd answers, what is decoded from a frame that was parsed fills its
rectangle and no more, and no operation of a delta reaches outside the source. -/
theorem raster_pixels_bounded (zstd : Zstd) (body : List UInt8) :
    (∀ (frame : ParsedRasterFrame) (rgba : List UInt8), parseFullRasterFrame body = .ok frame →
      decodeRasterPixels zstd frame = .ok rgba →
        rgba.length = frame.width.toNat * frame.height.toNat * 4) ∧
    ∀ (sourceWidth sourceHeight effectiveOperationLimit : UInt32) (frame : RasterDeltaFrame),
      parseDeltaRasterFrame (decodeZstdPixels zstd) body sourceWidth sourceHeight
        effectiveOperationLimit = .ok frame →
      ∀ operation ∈ frame.operations,
        operation.Within sourceWidth sourceHeight ∧ operation.Covers := by
  constructor
  · intro frame rgba parsed decoded
    unfold decodeRasterPixels at decoded
    cases sized : rgba8PixelLen frame.width frame.height with
    | error reason =>
        rw [sized] at decoded
        cases decoded
    | ok expected =>
        rw [sized] at decoded
        dsimp only at decoded
        obtain ⟨-, -, area⟩ := rgba8PixelLen_eq_ok.mp sized
        by_cases plain : frame.compressed = false
        · rw [if_pos plain] at decoded
          cases decoded
          exact parsed_length parsed plain
        · rw [if_neg plain, ite_error_eq_ok_iff] at decoded
          exact (decodeZstdPixels_eq_ok.mp decoded.2).2.2.trans area.symm
  · intro sourceWidth sourceHeight effectiveOperationLimit frame parsed operation among
    obtain ⟨inside, parts, carries, -⟩ := parseDeltaRasterFrame_takes parsed
    refine ⟨inside operation among, ?_⟩
    cases compressed : frame.compressed with
    | false =>
        have sound := ((parseDeltaRasterFrame_eq_ok compressed).mp parsed).1
        exact covers_of_valid (sound.valid operation among)
    | true =>
        rw [compressed] at carries
        obtain ⟨part, carried⟩ := exists_carried carries among
        exact covers_of_carries carried

theorem raster_pixels_bounded_delta :
    (∃ body, rasterFrameBodyWithCompression rawZstd.compress 1 2 1 1 [1, 2, 3, 4] true =
        .ok body ∧
      ∃ frame rgba, parseFullRasterFrame body = .ok frame ∧
        decodeRasterPixels rawZstd frame = .ok rgba ∧
        rgba.length = frame.width.toNat * frame.height.toNat * 4) ∧
    ∃ body frame, parseDeltaRasterFrame (decodeZstdPixels rawZstd) body 2 2 16 = .ok frame ∧
      frame.operations.length = 2 ∧
      ∀ operation ∈ frame.operations, operation.Within 2 2 ∧ operation.Covers := by
  constructor
  · obtain ⟨body, written⟩ : ∃ body,
        rasterFrameBodyWithCompression rawZstd.compress 1 2 1 1 [1, 2, 3, 4] true = .ok body :=
      ⟨_, rfl⟩
    obtain ⟨pixels, parsed, decoded⟩ := full_reads_back rawZstd_faithful written
    exact ⟨body, written, _, _, parsed, decoded,
      (raster_pixels_bounded rawZstd body).1 _ _ parsed decoded⟩
  · obtain ⟨body, written⟩ : ∃ body, rasterDeltaFrameBody rawZstd.compress 2 2 true 1 3 2 0 0 16
        sampleDeltaFrame.operations = .ok body := ⟨_, rfl⟩
    have parsed : parseDeltaRasterFrame (decodeZstdPixels rawZstd) body 2 2 16 =
        .ok sampleDeltaFrame :=
      delta_reads_back rawZstd_faithful sampleDeltaFrame_countable written
    exact ⟨body, sampleDeltaFrame, parsed, rfl,
      (raster_pixels_bounded rawZstd body).2 2 2 16 sampleDeltaFrame parsed⟩

end VividProtocol.Media

import Mathlib.Tactic
import VividProtocol.Counters
import VividProtocol.Library.BigEndian
import VividProtocol.Library.Fields
import VividProtocol.Library.Result
import VividProtocol.Wire.Record

/-!
# Media packets

The packets and full frames of `media.rs`, with the sizes they are checked
against.  Every body that is written is read back, except an audio packet
without an access unit.
-/

set_option autoImplicit false

namespace VividProtocol.Media

open VividProtocol.Wire
open VividProtocol.Library.BigEndian
open VividProtocol.Library.Fields
open VividProtocol.Library.Result

def VIDEO_PACKET_KEY : UInt32 := 1
def VIDEO_PACKET_DELTA : UInt32 := 2
def RASTER_FRAME_FULL : UInt32 := 1
def RASTER_FRAME_ZSTD : UInt32 := 2
def RASTER_FRAME_DELTA : UInt32 := 4

def VIDEO_PACKET_PREFIX_SIZE : Nat := 48
def AUDIO_PACKET_PREFIX_SIZE : Nat := 48
def RASTER_FRAME_PREFIX_SIZE : Nat := 48
def RASTER_RECT_SIZE : Nat := 24

/-! ## Fields -/

def invalid (message : String) : IoError := ⟨.invalidData, message⟩

/-- `to_be_bytes` of the three field types. -/
def u32Bytes (value : UInt32) : List UInt8 := toBytes 4 value.toNat
def u64Bytes (value : UInt64) : List UInt8 := toBytes 8 value.toNat
def i64Bytes (value : Int64) : List UInt8 := u64Bytes value.toUInt64

/-- The number in a field. -/
def readNumber (width : Nat) (bytes : List UInt8) (offset : Nat) : Except IoError Nat :=
  match slice offset width bytes with
  | some field => .ok (ofBytes field)
  | none => .error (invalid "truncated media field")

def readU32 (bytes : List UInt8) (offset : Nat) : Except IoError UInt32 := do
  let number ← readNumber 4 bytes offset
  .ok (UInt32.ofNat number)

def readU64 (bytes : List UInt8) (offset : Nat) : Except IoError UInt64 := do
  let number ← readNumber 8 bytes offset
  .ok (UInt64.ofNat number)

def readI64 (bytes : List UInt8) (offset : Nat) : Except IoError Int64 := do
  let number ← readU64 bytes offset
  .ok number.toInt64

section Fields

variable {bytes rest field : List UInt8} {offset width number : Nat}

@[simp] theorem length_u32Bytes (value : UInt32) : (u32Bytes value).length = 4 :=
  length_toBytes 4 value.toNat

@[simp] theorem length_u64Bytes (value : UInt64) : (u64Bytes value).length = 8 :=
  length_toBytes 8 value.toNat

@[simp] theorem length_i64Bytes (value : Int64) : (i64Bytes value).length = 8 :=
  length_u64Bytes value.toUInt64

theorem readNumber_eq_ok :
    readNumber width bytes offset = .ok number ↔
      number < 256 ^ width ∧ slice offset width bytes = some (toBytes width number) := by
  unfold readNumber
  cases read : slice offset width bytes with
  | none => simp
  | some field =>
      have sized := slice_length read
      rw [Except.ok.injEq, Option.some.injEq]
      constructor
      · intro same
        rw [← same, toBytes_of_length sized, ← sized]
        exact ⟨ofBytes_lt field, rfl⟩
      · intro held
        rw [held.2, ofBytes_toBytes width number held.1]

theorem readU32_eq_ok {value : UInt32} :
    readU32 bytes offset = .ok value ↔ slice offset 4 bytes = some (u32Bytes value) := by
  unfold readU32
  simp only [bind_eq_ok_iff, readNumber_eq_ok, Except.ok.injEq]
  constructor
  · intro held
    obtain ⟨number, ⟨small, read⟩, same⟩ := held
    rw [read, u32Bytes, ← same, UInt32.toNat_ofNat', Nat.mod_eq_of_lt (by omega)]
  · intro read
    exact ⟨value.toNat, ⟨value.toNat_lt, read⟩, UInt32.ofNat_toNat⟩

theorem readU64_eq_ok {value : UInt64} :
    readU64 bytes offset = .ok value ↔ slice offset 8 bytes = some (u64Bytes value) := by
  unfold readU64
  simp only [bind_eq_ok_iff, readNumber_eq_ok, Except.ok.injEq]
  constructor
  · intro held
    obtain ⟨number, ⟨small, read⟩, same⟩ := held
    rw [read, u64Bytes, ← same, UInt64.toNat_ofNat', Nat.mod_eq_of_lt (by omega)]
  · intro read
    exact ⟨value.toNat, ⟨value.toNat_lt, read⟩, UInt64.ofNat_toNat⟩

theorem readI64_eq_ok {value : Int64} :
    readI64 bytes offset = .ok value ↔ slice offset 8 bytes = some (i64Bytes value) := by
  unfold readI64
  simp only [bind_eq_ok_iff, readU64_eq_ok, Except.ok.injEq]
  constructor
  · intro held
    obtain ⟨number, read, same⟩ := held
    rw [read, i64Bytes, ← same, UInt64.toUInt64_toInt64]
  · intro read
    exact ⟨value.toUInt64, read, Int64.toInt64_toUInt64 value⟩

@[simp] theorem slice_past_u32 (value : UInt32) :
    slice (offset + 4) width (u32Bytes value ++ rest) = slice offset width rest :=
  slice_past (length_u32Bytes value)

@[simp] theorem slice_past_u64 (value : UInt64) :
    slice (offset + 8) width (u64Bytes value ++ rest) = slice offset width rest :=
  slice_past (length_u64Bytes value)

@[simp] theorem slice_past_i64 (value : Int64) :
    slice (offset + 8) width (i64Bytes value ++ rest) = slice offset width rest :=
  slice_past (length_i64Bytes value)

@[simp] theorem drop_past_u32 (value : UInt32) :
    (u32Bytes value ++ rest).drop (offset + 4) = rest.drop offset :=
  drop_past (length_u32Bytes value)

@[simp] theorem drop_past_u64 (value : UInt64) :
    (u64Bytes value ++ rest).drop (offset + 8) = rest.drop offset :=
  drop_past (length_u64Bytes value)

@[simp] theorem drop_past_i64 (value : Int64) :
    (i64Bytes value ++ rest).drop (offset + 8) = rest.drop offset :=
  drop_past (length_i64Bytes value)

@[simp] theorem slice_u32 (value : UInt32) :
    slice 0 4 (u32Bytes value ++ rest) = some (u32Bytes value) :=
  slice_front (length_u32Bytes value)

@[simp] theorem slice_u64 (value : UInt64) :
    slice 0 8 (u64Bytes value ++ rest) = some (u64Bytes value) :=
  slice_front (length_u64Bytes value)

@[simp] theorem slice_i64 (value : Int64) :
    slice 0 8 (i64Bytes value ++ rest) = some (i64Bytes value) :=
  slice_front (length_i64Bytes value)

end Fields

/-! ## Sizes -/

inductive SizeError where
  | overflow
  | tooLarge
  | empty
  deriving Repr, DecidableEq

/-- `Display`, which is `Debug`. -/
def SizeError.display : SizeError → String
  | .overflow => "Overflow"
  | .tooLarge => "TooLarge"
  | .empty => "Empty"

/-- `u32::try_from`. -/
def narrow (value : UInt64) : Except SizeError UInt32 :=
  if value.toNat < 2 ^ 32 then .ok value.toUInt32 else .error .tooLarge

def rgba8PixelLen (width height : UInt32) : Except SizeError UInt32 :=
  if width = 0 ∨ height = 0 then .error .empty
  else
    match checkedMul width.toUInt64 height.toUInt64 with
    | none => .error .overflow
    | some pixels =>
        match checkedMul pixels 4 with
        | none => .error .overflow
        | some bytes => narrow bytes

/-- The hard limit on a body. -/
def withinRecord (bytes : UInt32) : Except SizeError UInt32 :=
  if HARD_MAX_RECORD_BODY < bytes then .error .tooLarge else .ok bytes

def rgba8RawFrameBodyLen (width height : UInt32) : Except SizeError UInt32 := do
  let pixels ← rgba8PixelLen width height
  match checkedAdd pixels.toUInt64 (UInt64.ofNat (RASTER_FRAME_PREFIX_SIZE + RASTER_RECT_SIZE)) with
  | none => .error .overflow
  | some bytes => do
      let bytes ← narrow bytes
      withinRecord bytes

/-- A packet of the greatest access unit, with its prefix. -/
def packetBodyLen (prefixSize : Nat) (maxAccessUnitBytes : UInt32) : Except SizeError UInt32 :=
  if maxAccessUnitBytes = 0 then .error .empty
  else if maxAccessUnitBytes.toNat + prefixSize < 2 ^ 32 then
    withinRecord (maxAccessUnitBytes + UInt32.ofNat prefixSize)
  else .error .overflow

def videoBodyLen : UInt32 → Except SizeError UInt32 := packetBodyLen VIDEO_PACKET_PREFIX_SIZE

def audioBodyLen : UInt32 → Except SizeError UInt32 := packetBodyLen AUDIO_PACKET_PREFIX_SIZE

/-- `map_err` into an error of `std::io`. -/
def orInput {α : Type} : Except SizeError α → Except IoError α
  | .ok value => .ok value
  | .error error => .error ⟨.invalidInput, error.display⟩

/-- The check of a whole body.  A length beyond `usize` or `u32` is beyond the
hard limit too. -/
def checkBody (message : String) (headerSize length : Nat) : Except IoError Unit :=
  if HARD_MAX_RECORD_BODY.toNat < length + headerSize then .error ⟨.invalidInput, message⟩
  else .ok ()

theorem narrow_eq_ok {value : UInt64} {result : UInt32} :
    narrow value = .ok result ↔ value.toNat = result.toNat := by
  unfold narrow
  by_cases small : value.toNat < 2 ^ 32
  · rw [if_pos small, Except.ok.injEq, ← UInt32.toNat_inj, UInt64.toNat_toUInt32,
      Nat.mod_eq_of_lt small]
  · rw [if_neg small]
    have bound := result.toNat_lt
    constructor
    · intro impossible
      cases impossible
    · intro same
      omega

/-- Four bytes a pixel, if these are between one and `u32::MAX`. -/
theorem rgba8PixelLen_eq_ok {width height length : UInt32} :
    rgba8PixelLen width height = .ok length ↔
      width ≠ 0 ∧ height ≠ 0 ∧ width.toNat * height.toNat * 4 = length.toNat := by
  have widthBound := width.toNat_lt
  have heightBound := height.toNat_lt
  have area : width.toNat * height.toNat < 2 ^ 64 := by
    calc width.toNat * height.toNat ≤ 2 ^ 32 * height.toNat :=
          Nat.mul_le_mul_right _ (by omega)
      _ < 2 ^ 32 * 2 ^ 32 := Nat.mul_lt_mul_of_pos_left heightBound (by norm_num)
      _ = 2 ^ 64 := by norm_num
  have pixels : checkedMul width.toUInt64 height.toUInt64 =
      some (width.toUInt64 * height.toUInt64) := checkedMul_fits (by simpa using area)
  have pixelCount : (width.toUInt64 * height.toUInt64).toNat = width.toNat * height.toNat := by
    rw [UInt64.toNat_mul, UInt32.toNat_toUInt64, UInt32.toNat_toUInt64, Nat.mod_eq_of_lt area]
  unfold rgba8PixelLen
  rw [ite_error_eq_ok_iff, not_or, and_assoc]
  refine and_congr_right fun _ => and_congr_right fun _ => ?_
  simp only [pixels]
  cases bytes : checkedMul (width.toUInt64 * height.toUInt64) 4 with
  | none =>
      have large : ¬ width.toNat * height.toNat * 4 = length.toNat := by
        intro same
        have fits : (width.toUInt64 * height.toUInt64).toNat * (4 : UInt64).toNat < 2 ^ 64 := by
          have bound := length.toNat_lt
          rw [pixelCount]
          change width.toNat * height.toNat * 4 < _
          omega
        rw [checkedMul_fits fits] at bytes
        cases bytes
      simp [large]
  | some count =>
      have held := checkedMul_eq_some.mp bytes
      rw [pixelCount] at held
      rw [narrow_eq_ok, held]
      rfl

theorem orInput_eq_ok {α : Type} {result : Except SizeError α} {value : α} :
    orInput result = .ok value ↔ result = .ok value := by
  cases result <;> simp [orInput]

theorem checkBody_eq_ok {message : String} {headerSize length : Nat} {done : Unit} :
    checkBody message headerSize length = .ok done ↔
      length + headerSize ≤ HARD_MAX_RECORD_BODY.toNat := by
  unfold checkBody
  rw [ite_error_eq_ok_iff]
  simp

/-! ## Packets -/

structure VideoPacket where
  epoch : UInt32
  packetId : UInt64
  ptsUs : Int64
  dtsUs : Int64
  durationUs : UInt64
  key : Bool
  data : List UInt8
  deriving Repr, DecidableEq

structure AudioPacket where
  epoch : UInt32
  packetId : UInt64
  ptsUs : Int64
  dtsUs : Int64
  durationUs : UInt64
  trimStartSamples : UInt32
  trimEndSamples : UInt32
  data : List UInt8
  deriving Repr, DecidableEq

structure ParsedVideoPacket where
  epoch : UInt32
  flags : UInt32
  packetId : UInt64
  ptsUs : Int64
  dtsUs : Int64
  durationUs : UInt64
  sideData : List UInt8
  data : List UInt8
  deriving Repr, DecidableEq

structure ParsedAudioPacket where
  epoch : UInt32
  packetId : UInt64
  ptsUs : Int64
  dtsUs : Int64
  durationUs : UInt64
  trimStartSamples : UInt32
  trimEndSamples : UInt32
  data : List UInt8
  deriving Repr, DecidableEq

/-- The prefixes write all their fields, in the order of the offsets. -/
def audioPacketPrefix (packet : AudioPacket) : Except IoError (List UInt8) := do
  checkBody "audio packet too large" AUDIO_PACKET_PREFIX_SIZE packet.data.length
  .ok (u32Bytes packet.epoch ++ (u32Bytes 0 ++ (u64Bytes packet.packetId ++
    (i64Bytes packet.ptsUs ++ (i64Bytes packet.dtsUs ++ (u64Bytes packet.durationUs ++
    (u32Bytes packet.trimStartSamples ++ u32Bytes packet.trimEndSamples)))))))

def audioPacketBody (packet : AudioPacket) : Except IoError (List UInt8) := do
  let header ← audioPacketPrefix packet
  .ok (header ++ packet.data)

def videoPacketPrefix (packet : VideoPacket) : Except IoError (List UInt8) := do
  checkBody "video packet too large" VIDEO_PACKET_PREFIX_SIZE packet.data.length
  .ok (u32Bytes packet.epoch ++
    (u32Bytes (if packet.key then VIDEO_PACKET_KEY else VIDEO_PACKET_DELTA) ++
    (u64Bytes packet.packetId ++ (i64Bytes packet.ptsUs ++ (i64Bytes packet.dtsUs ++
    (u64Bytes packet.durationUs ++ (u32Bytes 0 ++ u32Bytes 0)))))))

def videoPacketBody (packet : VideoPacket) : Except IoError (List UInt8) := do
  let header ← videoPacketPrefix packet
  .ok (header ++ packet.data)

def parseVideoPacket (body : List UInt8) : Except IoError ParsedVideoPacket :=
  if body.length < VIDEO_PACKET_PREFIX_SIZE then
    .error (invalid "video packet is shorter than its 48-byte prefix")
  else do
    let sideDataLength ← readU32 body 40
    let reserved ← readU32 body 44
    if reserved ≠ 0 then .error (invalid "video packet reserved field is nonzero")
    else
      let dataOffset := VIDEO_PACKET_PREFIX_SIZE + sideDataLength.toNat
      if body.length < dataOffset then
        .error (invalid "video packet side data exceeds its body")
      else do
        let flags ← readU32 body 4
        if flags ≠ VIDEO_PACKET_KEY ∧ flags ≠ VIDEO_PACKET_DELTA then
          .error (invalid "video packet has invalid flags")
        else do
          let epoch ← readU32 body 0
          let packetId ← readU64 body 8
          let ptsUs ← readI64 body 16
          let dtsUs ← readI64 body 24
          let durationUs ← readU64 body 32
          .ok
            { epoch := epoch
              flags := flags
              packetId := packetId
              ptsUs := ptsUs
              dtsUs := dtsUs
              durationUs := durationUs
              sideData := (body.drop VIDEO_PACKET_PREFIX_SIZE).take sideDataLength.toNat
              data := body.drop dataOffset }

def parseAudioPacket (body : List UInt8) : Except IoError ParsedAudioPacket :=
  if body.length < AUDIO_PACKET_PREFIX_SIZE then
    .error (invalid "audio packet is shorter than its 48-byte prefix")
  else if body.length = AUDIO_PACKET_PREFIX_SIZE then
    .error (invalid "audio packet has an empty access unit")
  else do
    let reserved ← readU32 body 4
    if reserved ≠ 0 then .error (invalid "audio packet reserved flags are nonzero")
    else do
      let epoch ← readU32 body 0
      let packetId ← readU64 body 8
      let ptsUs ← readI64 body 16
      let dtsUs ← readI64 body 24
      let durationUs ← readU64 body 32
      let trimStartSamples ← readU32 body 40
      let trimEndSamples ← readU32 body 44
      .ok
        { epoch := epoch
          packetId := packetId
          ptsUs := ptsUs
          dtsUs := dtsUs
          durationUs := durationUs
          trimStartSamples := trimStartSamples
          trimEndSamples := trimEndSamples
          data := body.drop AUDIO_PACKET_PREFIX_SIZE }

/-! ## Full frames -/

structure ParsedRasterFrame where
  epoch : UInt32
  frameId : UInt64
  ptsUs : Int64
  durationUs : UInt64
  width : UInt32
  height : UInt32
  compressed : Bool
  pixels : List UInt8
  deriving Repr, DecidableEq

def rasterFullFramePrefixInner (epoch : UInt32) (frameId : UInt64) (width height : UInt32)
    (dataLength : Nat) (compressed : Bool) : Except IoError (List UInt8) :=
  if width = 0 ∨ height = 0 then .error ⟨.invalidInput, "raster dimensions are empty"⟩
  else if 2 ^ 32 ≤ dataLength then .error ⟨.invalidInput, "raster frame exceeds u32 length"⟩
  else do
    checkBody "raster frame too large" (RASTER_FRAME_PREFIX_SIZE + RASTER_RECT_SIZE) dataLength
    .ok (u32Bytes epoch ++
      (u32Bytes (RASTER_FRAME_FULL ||| if compressed then RASTER_FRAME_ZSTD else 0) ++
      (u64Bytes frameId ++ (u64Bytes 0 ++ (i64Bytes 0 ++ (u64Bytes 0 ++ (u32Bytes 1 ++
      (u32Bytes 0 ++ (u32Bytes 0 ++ (u32Bytes 0 ++ (u32Bytes width ++ (u32Bytes height ++
      (u32Bytes 0 ++ u32Bytes (UInt32.ofNat dataLength))))))))))))))

/-- `zstd` is the compressor at level 1. -/
def rasterFrameBodyWithCompression (zstd : List UInt8 → Except IoError (List UInt8))
    (epoch : UInt32) (frameId : UInt64) (width height : UInt32) (rgba : List UInt8)
    (compress : Bool) : Except IoError (List UInt8) := do
  let expectedLength ← orInput (rgba8PixelLen width height)
  if rgba.length ≠ expectedLength.toNat then
    .error ⟨.invalidInput,
      s!"RGBA data has {rgba.length} bytes, expected {expectedLength.toNat}"⟩
  else do
    let pixels ← if compress then zstd rgba else .ok rgba
    let header ← rasterFullFramePrefixInner epoch frameId width height pixels.length compress
    .ok (header ++ pixels)

def rasterFrameBody (zstd : List UInt8 → Except IoError (List UInt8)) (epoch : UInt32)
    (frameId : UInt64) (width height : UInt32) (rgba : List UInt8) :
    Except IoError (List UInt8) :=
  rasterFrameBodyWithCompression zstd epoch frameId width height rgba false

def parseFullRasterFrame (body : List UInt8) : Except IoError ParsedRasterFrame :=
  let headerLength := RASTER_FRAME_PREFIX_SIZE + RASTER_RECT_SIZE
  if body.length < headerLength then
    .error (invalid "raster frame is shorter than one full-frame rectangle")
  else do
    let flags ← readU32 body 4
    let base ← readU64 body 16
    let count ← readU32 body 40
    let reserved ← readU32 body 44
    if flags &&& RASTER_FRAME_FULL = 0 ∨
        flags &&& ~~~ (RASTER_FRAME_FULL ||| RASTER_FRAME_ZSTD) ≠ 0 ∨ base ≠ 0 ∨ count ≠ 1 ∨
        reserved ≠ 0 then
      .error (invalid "unsupported raster frame layout")
    else do
      let x ← readU32 body 48
      let y ← readU32 body 52
      let width ← readU32 body 56
      let height ← readU32 body 60
      let dataOffset ← readU32 body 64
      let dataLength ← readU32 body 68
      if x ≠ 0 ∨ y ≠ 0 ∨ dataOffset ≠ 0 ∨ width = 0 ∨ height = 0 then
        .error (invalid "raster frame is not a complete origin-aligned frame")
      else
        match rgba8PixelLen width height with
        | .error _ => .error (invalid "raster dimensions overflow")
        | .ok expectedLength => do
            let compressed := decide (flags &&& RASTER_FRAME_ZSTD ≠ 0)
            if (! compressed ∧ dataLength ≠ expectedLength) ∨
                headerLength + dataLength.toNat ≠ body.length then
              .error (invalid "raster RGBA byte length does not match dimensions")
            else do
              let epoch ← readU32 body 0
              let frameId ← readU64 body 8
              let ptsUs ← readI64 body 24
              let durationUs ← readU64 body 32
              .ok
                { epoch := epoch
                  frameId := frameId
                  ptsUs := ptsUs
                  durationUs := durationUs
                  width := width
                  height := height
                  compressed := compressed
                  pixels := body.drop headerLength }

/-! ## Reading back -/

/-- The packet as its receiver has it. -/
def VideoPacket.received (packet : VideoPacket) : ParsedVideoPacket :=
  { epoch := packet.epoch
    flags := if packet.key then VIDEO_PACKET_KEY else VIDEO_PACKET_DELTA
    packetId := packet.packetId
    ptsUs := packet.ptsUs
    dtsUs := packet.dtsUs
    durationUs := packet.durationUs
    sideData := []
    data := packet.data }

def AudioPacket.received (packet : AudioPacket) : ParsedAudioPacket :=
  { epoch := packet.epoch
    packetId := packet.packetId
    ptsUs := packet.ptsUs
    dtsUs := packet.dtsUs
    durationUs := packet.durationUs
    trimStartSamples := packet.trimStartSamples
    trimEndSamples := packet.trimEndSamples
    data := packet.data }

theorem videoPacketBody_eq_ok {packet : VideoPacket} {body : List UInt8} :
    videoPacketBody packet = .ok body ↔
      packet.data.length + VIDEO_PACKET_PREFIX_SIZE ≤ HARD_MAX_RECORD_BODY.toNat ∧
        u32Bytes packet.epoch ++
          (u32Bytes (if packet.key then VIDEO_PACKET_KEY else VIDEO_PACKET_DELTA) ++
          (u64Bytes packet.packetId ++ (i64Bytes packet.ptsUs ++ (i64Bytes packet.dtsUs ++
          (u64Bytes packet.durationUs ++ (u32Bytes 0 ++ (u32Bytes 0 ++ packet.data))))))) =
            body := by
  simp [videoPacketBody, videoPacketPrefix, bind_eq_ok_iff, checkBody_eq_ok]

theorem parseVideoPacket_body {packet : VideoPacket} {body : List UInt8}
    (written : videoPacketBody packet = .ok body) :
    parseVideoPacket body = .ok packet.received ∧
      body.length ≤ HARD_MAX_RECORD_BODY.toNat := by
  obtain ⟨short, same⟩ := videoPacketBody_eq_ok.mp written
  have size : body.length = packet.data.length + VIDEO_PACKET_PREFIX_SIZE := by
    rw [← same]
    simp [VIDEO_PACKET_PREFIX_SIZE]
    omega
  have epoch : readU32 body 0 = .ok packet.epoch := readU32_eq_ok.mpr (by simp [← same])
  have flags : readU32 body 4 =
      .ok (if packet.key then VIDEO_PACKET_KEY else VIDEO_PACKET_DELTA) :=
    readU32_eq_ok.mpr (by simp [← same])
  have packetId : readU64 body 8 = .ok packet.packetId := readU64_eq_ok.mpr (by simp [← same])
  have ptsUs : readI64 body 16 = .ok packet.ptsUs := readI64_eq_ok.mpr (by simp [← same])
  have dtsUs : readI64 body 24 = .ok packet.dtsUs := readI64_eq_ok.mpr (by simp [← same])
  have durationUs : readU64 body 32 = .ok packet.durationUs :=
    readU64_eq_ok.mpr (by simp [← same])
  have sideData : readU32 body 40 = .ok 0 := readU32_eq_ok.mpr (by simp [← same])
  have reserved : readU32 body 44 = .ok 0 := readU32_eq_ok.mpr (by simp [← same])
  have data : body.drop VIDEO_PACKET_PREFIX_SIZE = packet.data := by
    rw [← same]
    simp [VIDEO_PACKET_PREFIX_SIZE]
  have known : (if packet.key then VIDEO_PACKET_KEY else VIDEO_PACKET_DELTA) = VIDEO_PACKET_KEY ∨
      (if packet.key then VIDEO_PACKET_KEY else VIDEO_PACKET_DELTA) = VIDEO_PACKET_DELTA := by
    cases packet.key <;> simp
  refine ⟨?_, by rw [size]; exact short⟩
  unfold parseVideoPacket
  rw [if_neg (by omega), sideData, ok_bind, reserved, ok_bind, if_neg (by simp)]
  dsimp only
  rw [if_neg (by simp [size]), flags, ok_bind, if_neg (by tauto), epoch, ok_bind, packetId, ok_bind,
    ptsUs, ok_bind, dtsUs, ok_bind, durationUs, ok_bind]
  simp [VideoPacket.received, data]

theorem audioPacketBody_eq_ok {packet : AudioPacket} {body : List UInt8} :
    audioPacketBody packet = .ok body ↔
      packet.data.length + AUDIO_PACKET_PREFIX_SIZE ≤ HARD_MAX_RECORD_BODY.toNat ∧
        u32Bytes packet.epoch ++ (u32Bytes 0 ++ (u64Bytes packet.packetId ++
          (i64Bytes packet.ptsUs ++ (i64Bytes packet.dtsUs ++ (u64Bytes packet.durationUs ++
          (u32Bytes packet.trimStartSamples ++ (u32Bytes packet.trimEndSamples ++
          packet.data))))))) = body := by
  simp [audioPacketBody, audioPacketPrefix, bind_eq_ok_iff, checkBody_eq_ok]

/-- An audio packet is read back exactly if it has an access unit. -/
theorem parseAudioPacket_body {packet : AudioPacket} {body : List UInt8}
    (written : audioPacketBody packet = .ok body) :
    (parseAudioPacket body = .ok packet.received ↔ packet.data ≠ []) ∧
      body.length ≤ HARD_MAX_RECORD_BODY.toNat := by
  obtain ⟨short, same⟩ := audioPacketBody_eq_ok.mp written
  have size : body.length = packet.data.length + AUDIO_PACKET_PREFIX_SIZE := by
    rw [← same]
    simp [AUDIO_PACKET_PREFIX_SIZE]
    omega
  refine ⟨?_, by rw [size]; exact short⟩
  unfold parseAudioPacket
  rw [if_neg (by omega)]
  by_cases empty : packet.data = []
  · rw [if_pos (by simp [size, empty])]
    simp [empty]
  · have unit := List.length_pos_iff.mpr empty
    have epoch : readU32 body 0 = .ok packet.epoch := readU32_eq_ok.mpr (by simp [← same])
    have reserved : readU32 body 4 = .ok 0 := readU32_eq_ok.mpr (by simp [← same])
    have packetId : readU64 body 8 = .ok packet.packetId :=
      readU64_eq_ok.mpr (by simp [← same])
    have ptsUs : readI64 body 16 = .ok packet.ptsUs := readI64_eq_ok.mpr (by simp [← same])
    have dtsUs : readI64 body 24 = .ok packet.dtsUs := readI64_eq_ok.mpr (by simp [← same])
    have durationUs : readU64 body 32 = .ok packet.durationUs :=
      readU64_eq_ok.mpr (by simp [← same])
    have trimStart : readU32 body 40 = .ok packet.trimStartSamples :=
      readU32_eq_ok.mpr (by simp [← same])
    have trimEnd : readU32 body 44 = .ok packet.trimEndSamples :=
      readU32_eq_ok.mpr (by simp [← same])
    have data : body.drop AUDIO_PACKET_PREFIX_SIZE = packet.data := by
      rw [← same]
      simp [AUDIO_PACKET_PREFIX_SIZE]
    rw [if_neg (by omega), reserved, ok_bind, if_neg (by simp), epoch, ok_bind, packetId, ok_bind,
      ptsUs, ok_bind, dtsUs, ok_bind, durationUs, ok_bind, trimStart, ok_bind, trimEnd, ok_bind]
    simp [AudioPacket.received, data, empty]

theorem rasterFrameBody_eq_ok {zstd : List UInt8 → Except IoError (List UInt8)} {epoch : UInt32}
    {frameId : UInt64} {width height : UInt32} {rgba body : List UInt8} :
    rasterFrameBody zstd epoch frameId width height rgba = .ok body ↔
      (∃ expected, rgba8PixelLen width height = .ok expected ∧ rgba.length = expected.toNat) ∧
      rgba.length + (RASTER_FRAME_PREFIX_SIZE + RASTER_RECT_SIZE) ≤ HARD_MAX_RECORD_BODY.toNat ∧
      u32Bytes epoch ++ (u32Bytes RASTER_FRAME_FULL ++ (u64Bytes frameId ++ (u64Bytes 0 ++
        (i64Bytes 0 ++ (u64Bytes 0 ++ (u32Bytes 1 ++ (u32Bytes 0 ++ (u32Bytes 0 ++
        (u32Bytes 0 ++ (u32Bytes width ++ (u32Bytes height ++ (u32Bytes 0 ++
        (u32Bytes (UInt32.ofNat rgba.length) ++ rgba))))))))))))) = body := by
  have limit : HARD_MAX_RECORD_BODY.toNat < 2 ^ 32 := HARD_MAX_RECORD_BODY.toNat_lt
  simp only [rasterFrameBody, rasterFrameBodyWithCompression, rasterFullFramePrefixInner,
    bind_eq_ok_iff, orInput_eq_ok, ite_error_eq_ok_iff, checkBody_eq_ok, Bool.false_eq_true,
    if_false, Except.ok.injEq, not_not, exists_eq_left']
  constructor
  · intro written
    obtain ⟨expected, sized, exact_, header, ⟨_, _, _, short, rfl⟩, built⟩ := written
    exact ⟨⟨expected, sized, exact_⟩, short, by simpa using built⟩
  · intro given
    obtain ⟨⟨expected, sized, exact_⟩, short, built⟩ := given
    obtain ⟨wide, high, _⟩ := rgba8PixelLen_eq_ok.mp sized
    exact ⟨expected, sized, exact_, _, ⟨by simp [wide, high], by omega, (), short, rfl⟩,
      by simpa using built⟩

theorem parseFullRasterFrame_body {zstd : List UInt8 → Except IoError (List UInt8)}
    {epoch : UInt32} {frameId : UInt64} {width height : UInt32} {rgba body : List UInt8}
    (written : rasterFrameBody zstd epoch frameId width height rgba = .ok body) :
    parseFullRasterFrame body =
        .ok
          { epoch := epoch
            frameId := frameId
            ptsUs := 0
            durationUs := 0
            width := width
            height := height
            compressed := false
            pixels := rgba } ∧
      body.length ≤ HARD_MAX_RECORD_BODY.toNat := by
  have same := (rasterFrameBody_eq_ok.mp written).2.2
  have size : body.length = rgba.length + (RASTER_FRAME_PREFIX_SIZE + RASTER_RECT_SIZE) := by
    rw [← same]
    simp only [List.length_append, length_u32Bytes, length_u64Bytes, length_i64Bytes,
      ← Nat.add_assoc]
    exact Nat.add_comm _ _
  obtain ⟨⟨expected, sized, exact_⟩, short, -⟩ := rasterFrameBody_eq_ok.mp written
  obtain ⟨wide, high, _⟩ := rgba8PixelLen_eq_ok.mp sized
  refine ⟨?_, by rw [size]; exact short⟩
  have long : ¬ body.length < RASTER_FRAME_PREFIX_SIZE + RASTER_RECT_SIZE := by
    rw [size]
    exact Nat.not_lt.mpr (Nat.le_add_left _ _)
  have whole : RASTER_FRAME_PREFIX_SIZE + RASTER_RECT_SIZE + expected.toNat = body.length := by
    rw [size, exact_, Nat.add_comm]
  have length : UInt32.ofNat rgba.length = expected := by
    rw [exact_, UInt32.ofNat_toNat]
  rw [length] at same
  have epochRead : readU32 body 0 = .ok epoch := readU32_eq_ok.mpr (by simp [← same])
  have flags : readU32 body 4 = .ok RASTER_FRAME_FULL := readU32_eq_ok.mpr (by simp [← same])
  have frame : readU64 body 8 = .ok frameId := readU64_eq_ok.mpr (by simp [← same])
  have base : readU64 body 16 = .ok 0 := readU64_eq_ok.mpr (by simp [← same])
  have ptsUs : readI64 body 24 = .ok 0 := readI64_eq_ok.mpr (by simp [← same])
  have durationUs : readU64 body 32 = .ok 0 := readU64_eq_ok.mpr (by simp [← same])
  have count : readU32 body 40 = .ok 1 := readU32_eq_ok.mpr (by simp [← same])
  have reserved : readU32 body 44 = .ok 0 := readU32_eq_ok.mpr (by simp [← same])
  have x : readU32 body 48 = .ok 0 := readU32_eq_ok.mpr (by simp [← same])
  have y : readU32 body 52 = .ok 0 := readU32_eq_ok.mpr (by simp [← same])
  have widthRead : readU32 body 56 = .ok width := readU32_eq_ok.mpr (by simp [← same])
  have heightRead : readU32 body 60 = .ok height := readU32_eq_ok.mpr (by simp [← same])
  have dataOffset : readU32 body 64 = .ok 0 := readU32_eq_ok.mpr (by simp [← same])
  have dataLength : readU32 body 68 = .ok expected := readU32_eq_ok.mpr (by simp [← same])
  have pixels : body.drop (RASTER_FRAME_PREFIX_SIZE + RASTER_RECT_SIZE) = rgba := by
    rw [← same]
    simp [RASTER_FRAME_PREFIX_SIZE, RASTER_RECT_SIZE]
  unfold parseFullRasterFrame
  dsimp only
  rw [if_neg long, flags, ok_bind, base, ok_bind, count, ok_bind, reserved, ok_bind,
    if_neg (by decide), x, ok_bind, y, ok_bind, widthRead, ok_bind, heightRead, ok_bind,
    dataOffset, ok_bind, dataLength, ok_bind, if_neg (by simp [wide, high])]
  simp only [sized]
  rw [if_neg (by simp [whole]), epochRead, ok_bind, frame, ok_bind, ptsUs, ok_bind,
    durationUs, ok_bind, pixels]
  rfl

/-- Every body that is written is within the hard limit and is read back with its
fields and payload, an audio packet exactly if it has an access unit. -/
theorem media_bodies_read_back (zstd : List UInt8 → Except IoError (List UInt8)) :
    (∀ (packet : VideoPacket) (body : List UInt8), videoPacketBody packet = .ok body →
      parseVideoPacket body = .ok packet.received ∧
        body.length ≤ HARD_MAX_RECORD_BODY.toNat) ∧
    (∀ (packet : AudioPacket) (body : List UInt8), audioPacketBody packet = .ok body →
      (parseAudioPacket body = .ok packet.received ↔ packet.data ≠ []) ∧
        body.length ≤ HARD_MAX_RECORD_BODY.toNat) ∧
    ∀ (epoch : UInt32) (frameId : UInt64) (width height : UInt32) (rgba body : List UInt8),
      rasterFrameBody zstd epoch frameId width height rgba = .ok body →
      parseFullRasterFrame body =
          .ok
            { epoch := epoch
              frameId := frameId
              ptsUs := 0
              durationUs := 0
              width := width
              height := height
              compressed := false
              pixels := rgba } ∧
        body.length ≤ HARD_MAX_RECORD_BODY.toNat :=
  ⟨fun _ _ => parseVideoPacket_body, fun _ _ => parseAudioPacket_body,
    fun _ _ _ _ _ _ => parseFullRasterFrame_body⟩

/-- An audio packet of one byte, or of none. -/
def tone (data : List UInt8) : AudioPacket :=
  { epoch := 1
    packetId := 1
    ptsUs := -3
    dtsUs := 0
    durationUs := 0
    trimStartSamples := 0
    trimEndSamples := 0
    data := data }

theorem media_bodies_read_back_tone :
    ∃ audio video raster,
      (audioPacketBody (tone [7]) = .ok audio ∧ parseAudioPacket audio = .ok (tone [7]).received) ∧
      (videoPacketBody ⟨1, 1, -2, 0, 0, true, []⟩ = .ok video ∧
        parseVideoPacket video = .ok (VideoPacket.received ⟨1, 1, -2, 0, 0, true, []⟩)) ∧
      rasterFrameBody .ok 1 1 1 1 [1, 2, 3, 4] = .ok raster ∧
        parseFullRasterFrame raster = .ok ⟨1, 1, 0, 0, 1, 1, false, [1, 2, 3, 4]⟩ := by
  refine ⟨_, _, _, ⟨rfl, ?_⟩, ⟨rfl, ?_⟩, rfl, ?_⟩
  · exact ((media_bodies_read_back .ok).2.1 (tone [7]) _ rfl).1.mpr (by decide)
  · exact ((media_bodies_read_back .ok).1 _ _ rfl).1
  · exact ((media_bodies_read_back .ok).2.2 1 1 1 1 [1, 2, 3, 4] _ rfl).1

/-- The encoder writes an audio packet without an access unit, which the parser
refuses. -/
theorem media_bodies_not_read_back :
    ∃ body, audioPacketBody (tone []) = .ok body ∧
      parseAudioPacket body = .error (invalid "audio packet has an empty access unit") :=
  ⟨_, rfl, rfl⟩

end VividProtocol.Media

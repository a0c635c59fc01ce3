import Mathlib.Tactic
import VividProtocol.Desktop.Target
import VividProtocol.Drawing.Commands
import VividProtocol.Media.Initialization

/-!
# Track configurations

The configuration of a track in `track.rs` with its map, and the map of each of
the five kinds inside it.  Every kind is checked before it is written and after
it is read.
-/

set_option autoImplicit false

namespace VividProtocol.Track

open VividProtocol.Cbor (Value textBytes)
open VividProtocol.Input (signed)
open VividProtocol.Media (isPortablePacketization validateAudioInitialization SizeError
  videoBodyLen audioBodyLen rgba8RawFrameBodyLen)
open VividProtocol.Wire (HARD_MAX_RECORD_BODY)
open VividProtocol.Drawing (MAX_SCENE_BYTES)
open VividProtocol.Library.Result
open VividProtocol.Library.Codec
open VividProtocol.Library.Association

/-! ## Classes -/

/-- `TrackKind` of `messages.rs`. -/
inductive TrackKind where
  | video
  | audio
  | raster
  | encodedImage
  | vectorScene
  deriving Repr, DecidableEq

def TrackKind.toWord : TrackKind → UInt64
  | .video => 1
  | .audio => 2
  | .raster => 3
  | .encodedImage => 4
  | .vectorScene => 5

def TrackKind.tryFrom (value : UInt64) : Except MessageError TrackKind :=
  if value = 1 then .ok .video
  else if value = 2 then .ok .audio
  else if value = 3 then .ok .raster
  else if value = 4 then .ok .encodedImage
  else if value = 5 then .ok .vectorScene
  else .error (invalidValue "track" 5 "has an unknown kind")

/-- `LaneClass` of `messages.rs`. -/
inductive LaneClass where
  | control
  | interactive
  | realtime
  | bulk
  deriving Repr, DecidableEq

def LaneClass.toWord : LaneClass → UInt64
  | .control => 0
  | .interactive => 1
  | .realtime => 2
  | .bulk => 3

def LaneClass.tryFrom (value : UInt64) : Except MessageError LaneClass :=
  if value = 0 then .ok .control
  else if value = 1 then .ok .interactive
  else if value = 2 then .ok .realtime
  else if value = 3 then .ok .bulk
  else .error (invalidValue "lane" 1 "is not a registered lane class")

inductive TrackMode where
  | live
  | timed
  deriving Repr, DecidableEq

def TrackMode.toWord : TrackMode → UInt64
  | .live => 1
  | .timed => 2

def TrackMode.tryFrom (value : UInt64) : Except MessageError TrackMode :=
  if value = 1 then .ok .live
  else if value = 2 then .ok .timed
  else .error (invalidValue "track configuration" 5 "has an unknown mode")

inductive TrackDirection where
  | downlink
  | uplink
  deriving Repr, DecidableEq

def TrackDirection.toWord : TrackDirection → UInt64
  | .downlink => 0
  | .uplink => 1

def TrackDirection.tryFrom (value : UInt64) : Except MessageError TrackDirection :=
  if value = 0 then .ok .downlink
  else if value = 1 then .ok .uplink
  else .error (invalidValue "track configuration" 16 "unknown direction")

/-! ## Readers -/

def dimension (schema : String) (key : UInt64) (value : UInt32) : Except MessageError Unit :=
  if ¬ (1 ≤ value ∧ value ≤ 8192) then
    .error (invalidValue schema key "is outside 1..=8192")
  else .ok ()

def requiredI32 (map : StrictMap) (key : UInt64) : Except MessageError Int32 := do
  let value ← map.required key
  match value.asI64 with
  | none => .error (invalidValue "track configuration" key "is not an integer")
  | some value =>
      match Desktop.narrow value with
      | none => .error (invalidValue "track configuration" key "does not fit in i32")
      | some value => .ok value

/-- `u8::try_from` of a required word. -/
def requiredU8 (schema : String) (map : StrictMap) (key : UInt64) : Except MessageError UInt8 := do
  let value ← map.requiredU64 key
  if value.toNat < 256 then .ok value.toUInt8
  else .error (invalidValue schema key "does not fit in u8")

def textOr (schema : String) (key : UInt64) (value : Value) : Except MessageError String :=
  match value.asText with
  | some text => .ok text
  | none => .error (invalidValue schema key "is not text")

def optionalText (schema : String) (map : StrictMap) (key : UInt64) :
    Except MessageError (Option String) :=
  transpose (textOr schema key) (map.optional key)

def word (value : Bool) : UInt64 := if value then 1 else 0

/-- `count_ones`. -/
def countOnes (value : UInt64) : Nat := (List.range 64).countP value.toNat.testBit

/-! ## Video -/

structure VideoConfiguration where
  codec : String
  packetization : String
  extradata : List UInt8
  codedWidth : UInt32
  codedHeight : UInt32
  profile : Int32
  level : Int32
  maximumReorderDepth : UInt8
  colorPrimaries : UInt64
  transfer : UInt64
  matrix : UInt64
  signalRange : UInt64
  aspectNumerator : UInt64
  aspectDenominator : UInt64
  maximumAccessUnitBytes : UInt32
  codecString : Option String
  decoderConfiguration : Option (List UInt8)
  deriving Repr, DecidableEq

namespace VideoConfiguration

def validate (configuration : VideoConfiguration) : Except MessageError Unit :=
  if isPortablePacketization configuration.codec configuration.packetization = false then
    .error (invalidValue "video configuration" 1 "is not canonical")
  else if 65536 < configuration.extradata.length then
    .error (invalidValue "video configuration" 2 "extradata exceeds 65536 bytes")
  else do
    dimension "video configuration" 3 configuration.codedWidth
    dimension "video configuration" 4 configuration.codedHeight
    if 64 < configuration.maximumReorderDepth then
      .error (invalidValue "video configuration" 8 "reorder depth exceeds 64")
    else if ¬ (1 ≤ configuration.colorPrimaries ∧ configuration.colorPrimaries ≤ 4) ∨
        ¬ (1 ≤ configuration.transfer ∧ configuration.transfer ≤ 2) ∨
        3 < configuration.matrix ∨
        ¬ (1 ≤ configuration.signalRange ∧ configuration.signalRange ≤ 2) then
      .error (invalidValue "video configuration" 10 "has unsupported colorimetry")
    else do
      let _ ← requireNonzero "video configuration" 14 configuration.aspectNumerator
      let _ ← requireNonzero "video configuration" 15 configuration.aspectDenominator
      let _ ← orInvalid "video configuration" 16 "exceeds the body ceiling"
        (videoBodyLen configuration.maximumAccessUnitBytes)
      if (configuration.codecString.any fun value => decide (64 < value.utf8ByteSize) ||
          ! (textBytes value).all fun byte => decide (0x20 ≤ byte ∧ byte ≤ 0x7e)) = true then
        .error (invalidValue "video configuration" 17 "is not at most 64 printable ASCII bytes")
      else if (configuration.decoderConfiguration.any fun value =>
          decide (4096 < value.length)) = true then
        .error (invalidValue "video configuration" 18 "exceeds 4096 bytes")
      else .ok ()

def fields (configuration : VideoConfiguration) : PayloadMap :=
  [(0, .text configuration.codec),
    (1, .text configuration.packetization),
    (2, .bytes configuration.extradata),
    (3, .unsigned configuration.codedWidth.toUInt64),
    (4, .unsigned configuration.codedHeight.toUInt64),
    (5, signed configuration.profile.toInt64),
    (6, signed configuration.level.toInt64),
    (7, .unsigned 0),
    (8, .unsigned configuration.maximumReorderDepth.toUInt64),
    (9, .text "source-timebase-us"),
    (10, .unsigned configuration.colorPrimaries),
    (11, .unsigned configuration.transfer),
    (12, .unsigned configuration.matrix),
    (13, .unsigned configuration.signalRange),
    (14, .unsigned configuration.aspectNumerator),
    (15, .unsigned configuration.aspectDenominator),
    (16, .unsigned configuration.maximumAccessUnitBytes.toUInt64)] ++
  entry 17 (configuration.codecString.map .text) ++
  entry 18 (configuration.decoderConfiguration.map .bytes)

def toValue (configuration : VideoConfiguration) : Except MessageError Value := do
  configuration.validate
  .ok (.map configuration.fields)

def fromValue (value : Value) : Except MessageError VideoConfiguration := do
  let map ← StrictMap.new "video configuration" value
    [0, 1, 2, 3, 4, 5, 6, 7, 8, 9, 10, 11, 12, 13, 14, 15, 16, 17, 18]
  let alpha ← map.requiredU64 7
  -- the source reads the timeline only if there is no alpha
  let timeline ← if alpha ≠ 0 then .ok "" else map.requiredText 9
  if timeline ≠ "source-timebase-us" then
    .error (invalidValue "video configuration" 7 "uses an unsupported alpha mode or timeline")
  else do
    let codec ← map.requiredText 0
    let packetization ← map.requiredText 1
    let extradata ← map.requiredBytes 2
    let codedWidth ← map.requiredU32 3
    let codedHeight ← map.requiredU32 4
    let profile ← requiredI32 map 5
    let level ← requiredI32 map 6
    let maximumReorderDepth ← requiredU8 "video configuration" map 8
    let colorPrimaries ← map.requiredU64 10
    let transfer ← map.requiredU64 11
    let matrix ← map.requiredU64 12
    let signalRange ← map.requiredU64 13
    let aspectNumerator ← map.requiredU64 14
    let aspectDenominator ← map.requiredU64 15
    let maximumAccessUnitBytes ← map.requiredU32 16
    let codecString ← optionalText "video configuration" map 17
    let decoderConfiguration ← map.optionalBytes 18
    let configuration : VideoConfiguration :=
      { codec := codec
        packetization := packetization
        extradata := extradata
        codedWidth := codedWidth
        codedHeight := codedHeight
        profile := profile
        level := level
        maximumReorderDepth := maximumReorderDepth
        colorPrimaries := colorPrimaries
        transfer := transfer
        matrix := matrix
        signalRange := signalRange
        aspectNumerator := aspectNumerator
        aspectDenominator := aspectDenominator
        maximumAccessUnitBytes := maximumAccessUnitBytes
        codecString := codecString
        decoderConfiguration := decoderConfiguration }
    configuration.validate
    .ok configuration

end VideoConfiguration

/-! ## Audio -/

structure AudioConfiguration where
  codec : String
  packetization : String
  extradata : List UInt8
  sampleRate : UInt32
  channels : UInt8
  channelMask : UInt64
  maximumAccessUnitBytes : UInt32
  codecString : Option String
  deriving Repr, DecidableEq

namespace AudioConfiguration

def validate (configuration : AudioConfiguration) : Except MessageError Unit := do
  orInvalid "audio configuration" 1 "is not canonical"
    (validateAudioInitialization configuration.codec configuration.packetization
      configuration.extradata configuration.sampleRate configuration.channels.toUInt16)
  if 65536 < configuration.extradata.length ∨
      ¬ (8000 ≤ configuration.sampleRate ∧ configuration.sampleRate ≤ 192000) ∨
      ¬ (1 ≤ configuration.channels ∧ configuration.channels ≤ 8) ∨
      configuration.maximumAccessUnitBytes = 0 ∨
      1048576 < configuration.maximumAccessUnitBytes then
    .error (invalidValue "audio configuration" 2 "has an out-of-range field")
  else if configuration.channelMask ≠ 0 ∧
      countOnes configuration.channelMask ≠ configuration.channels.toNat then
    .error (invalidValue "audio configuration" 5 "does not contain the declared channel count")
  else if (configuration.codecString.any fun value => decide (64 < value.utf8ByteSize)) = true then
    .error (invalidValue "audio configuration" 8 "codec string exceeds 64 bytes")
  else .ok ()

def fields (configuration : AudioConfiguration) : PayloadMap :=
  [(0, .text configuration.codec),
    (1, .text configuration.packetization),
    (2, .bytes configuration.extradata),
    (3, .unsigned configuration.sampleRate.toUInt64),
    (4, .unsigned configuration.channels.toUInt64),
    (5, .unsigned configuration.channelMask),
    (6, .unsigned configuration.maximumAccessUnitBytes.toUInt64),
    (7, .text "source-timebase-us")] ++
  entry 8 (configuration.codecString.map .text)

def toValue (configuration : AudioConfiguration) : Except MessageError Value := do
  configuration.validate
  .ok (.map configuration.fields)

def fromValue (value : Value) : Except MessageError AudioConfiguration := do
  let map ← StrictMap.new "audio configuration" value [0, 1, 2, 3, 4, 5, 6, 7, 8]
  let timeline ← map.requiredText 7
  if timeline ≠ "source-timebase-us" then
    .error (invalidValue "audio configuration" 7 "has an unsupported timeline")
  else do
    let codec ← map.requiredText 0
    let packetization ← map.requiredText 1
    let extradata ← map.requiredBytes 2
    let sampleRate ← map.requiredU32 3
    let channels ← requiredU8 "audio configuration" map 4
    let channelMask ← map.requiredU64 5
    let maximumAccessUnitBytes ← map.requiredU32 6
    let codecString ← optionalText "audio configuration" map 8
    let configuration : AudioConfiguration :=
      { codec := codec
        packetization := packetization
        extradata := extradata
        sampleRate := sampleRate
        channels := channels
        channelMask := channelMask
        maximumAccessUnitBytes := maximumAccessUnitBytes
        codecString := codecString }
    configuration.validate
    .ok configuration

end AudioConfiguration

/-! ## Raster -/

structure RasterConfiguration where
  width : UInt32
  height : UInt32
  alphaMode : UInt64
  deltaEnabled : Bool
  maximumDeltaOperations : UInt8
  zstdEnabled : Bool
  deriving Repr, DecidableEq

namespace RasterConfiguration

def validate (configuration : RasterConfiguration) : Except MessageError Unit := do
  dimension "raster configuration" 0 configuration.width
  dimension "raster configuration" 1 configuration.height
  if ¬ (1 ≤ configuration.alphaMode ∧ configuration.alphaMode ≤ 2) ∨
      ¬ (1 ≤ configuration.maximumDeltaOperations ∧ configuration.maximumDeltaOperations ≤ 16) ∨
      (configuration.deltaEnabled = false ∧ configuration.maximumDeltaOperations ≠ 1) then
    .error (invalidValue "raster configuration" 3 "has invalid alpha or delta settings")
  else do
    let _ ← orInvalid "raster configuration" 0 "raw full frame exceeds the body ceiling"
      (rgba8RawFrameBodyLen configuration.width configuration.height)
    .ok ()

def fields (configuration : RasterConfiguration) : PayloadMap :=
  [(0, .unsigned configuration.width.toUInt64),
    (1, .unsigned configuration.height.toUInt64),
    (2, .unsigned 1),
    (3, .unsigned configuration.alphaMode),
    (4, .unsigned (word configuration.deltaEnabled)),
    (5, .unsigned configuration.maximumDeltaOperations.toUInt64),
    (6, .unsigned (word configuration.zstdEnabled)),
    (7, .unsigned 1)]

def toValue (configuration : RasterConfiguration) : Except MessageError Value := do
  configuration.validate
  .ok (.map configuration.fields)

def fromValue (value : Value) : Except MessageError RasterConfiguration := do
  let map ← StrictMap.new "raster configuration" value [0, 1, 2, 3, 4, 5, 6, 7]
  let format ← map.requiredU64 2
  -- the source reads the color space only if the format is right
  let space ← if format ≠ 1 then .ok 0 else map.requiredU64 7
  if space ≠ 1 then
    .error (invalidValue "raster configuration" 2 "requires RGBA8 and sRGB")
  else do
    let updateMode ← map.requiredU64 4
    let compression ← map.requiredU64 6
    if 1 < updateMode ∨ 1 < compression then
      .error (invalidValue "raster configuration" 4 "has an unknown update or compression mode")
    else do
      let width ← map.requiredU32 0
      let height ← map.requiredU32 1
      let alphaMode ← map.requiredU64 3
      let maximumDeltaOperations ← requiredU8 "raster configuration" map 5
      let configuration : RasterConfiguration :=
        { width := width
          height := height
          alphaMode := alphaMode
          deltaEnabled := updateMode == 1
          maximumDeltaOperations := maximumDeltaOperations
          zstdEnabled := compression == 1 }
      configuration.validate
      .ok configuration

end RasterConfiguration

/-! ## Encoded images -/

structure ImageConfiguration where
  encoding : UInt64
  width : UInt32
  height : UInt32
  encodedLength : UInt32
  sha256 : Option (Bytes 32)
  cacheLookup : Bool
  deriving Repr, DecidableEq

namespace ImageConfiguration

def validate (configuration : ImageConfiguration) : Except MessageError Unit :=
  if ¬ (1 ≤ configuration.encoding ∧ configuration.encoding ≤ 2) then
    .error (invalidValue "image configuration" 0 "has an unknown encoding")
  else do
    dimension "image configuration" 1 configuration.width
    dimension "image configuration" 2 configuration.height
    if configuration.encodedLength = 0 ∨ HARD_MAX_RECORD_BODY < configuration.encodedLength then
      .error (invalidValue "image configuration" 3 "has an invalid encoded length")
    else if configuration.cacheLookup = true ∧ configuration.sha256 = none then
      .error (invalidValue "image configuration" 6 "requires a SHA-256 value")
    else .ok ()

def fields (configuration : ImageConfiguration) : PayloadMap :=
  [(0, .unsigned configuration.encoding),
    (1, .unsigned configuration.width.toUInt64),
    (2, .unsigned configuration.height.toUInt64),
    (3, .unsigned configuration.encodedLength.toUInt64)] ++
  entry 4 (configuration.sha256.map fun hash => .bytes hash.toList) ++
  [(5, .unsigned 1), (6, .bool configuration.cacheLookup)]

def toValue (configuration : ImageConfiguration) : Except MessageError Value := do
  configuration.validate
  .ok (.map configuration.fields)

def fromValue (value : Value) : Except MessageError ImageConfiguration := do
  let map ← StrictMap.new "image configuration" value [0, 1, 2, 3, 4, 5, 6]
  let output ← map.requiredU64 5
  if output ≠ 1 then
    .error (invalidValue "image configuration" 5 "requires sRGB output")
  else do
    let encoding ← map.requiredU64 0
    let width ← map.requiredU32 1
    let height ← map.requiredU32 2
    let encodedLength ← map.requiredU32 3
    let sha256 ← map.optionalFixedBytes 4 32
    let cacheLookup ← map.requiredBool 6
    let configuration : ImageConfiguration :=
      { encoding := encoding
        width := width
        height := height
        encodedLength := encodedLength
        sha256 := sha256
        cacheLookup := cacheLookup }
    configuration.validate
    .ok configuration

end ImageConfiguration

/-! ## Vector scenes -/

structure VectorConfiguration where
  width : UInt32
  height : UInt32
  maximumSceneBytes : UInt32
  deriving Repr, DecidableEq

namespace VectorConfiguration

def fields (configuration : VectorConfiguration) : PayloadMap :=
  [(0, .unsigned configuration.width.toUInt64),
    (1, .unsigned configuration.height.toUInt64),
    (2, .unsigned configuration.maximumSceneBytes.toUInt64)]

def toValue (configuration : VectorConfiguration) : Except MessageError Value :=
  if configuration.width = 0 ∨ configuration.height = 0 ∨ 16384 < configuration.width ∨
      16384 < configuration.height ∨ configuration.maximumSceneBytes = 0 ∨
      MAX_SCENE_BYTES < configuration.maximumSceneBytes.toNat then
    .error (invalidValue "vector configuration" 0 "exceeds vector limits")
  else .ok (.map configuration.fields)

/-- The closure `read`. -/
def readField (map : StrictMap) (key : UInt64) : Except MessageError UInt32 := do
  let value ← map.requiredU64 key
  if value.toNat < 2 ^ 32 then .ok value.toUInt32
  else .error (invalidValue "vector configuration" key "exceeds u32")

def fromValue (value : Value) : Except MessageError VectorConfiguration := do
  let map ← StrictMap.new "vector configuration" value [0, 1, 2]
  let width ← readField map 0
  let height ← readField map 1
  let maximumSceneBytes ← readField map 2
  let configuration : VectorConfiguration :=
    { width := width
      height := height
      maximumSceneBytes := maximumSceneBytes }
  let _ ← configuration.toValue
  .ok configuration

end VectorConfiguration

/-! ## Kinds -/

inductive KindConfiguration where
  | video (configuration : VideoConfiguration)
  | audio (configuration : AudioConfiguration)
  | raster (configuration : RasterConfiguration)
  | encodedImage (configuration : ImageConfiguration)
  | vectorScene (configuration : VectorConfiguration)
  deriving Repr, DecidableEq

namespace KindConfiguration

def kind : KindConfiguration → TrackKind
  | .video _ => .video
  | .audio _ => .audio
  | .raster _ => .raster
  | .encodedImage _ => .encodedImage
  | .vectorScene _ => .vectorScene

def toValue : KindConfiguration → Except MessageError Value
  | .video configuration => configuration.toValue
  | .audio configuration => configuration.toValue
  | .raster configuration => configuration.toValue
  | .encodedImage configuration => configuration.toValue
  | .vectorScene configuration => configuration.toValue

def fromValue (kind : TrackKind) (value : Value) : Except MessageError KindConfiguration :=
  match kind with
  | .vectorScene => do
      let configuration ← VectorConfiguration.fromValue value
      .ok (.vectorScene configuration)
  | .video => do
      let configuration ← VideoConfiguration.fromValue value
      .ok (.video configuration)
  | .audio => do
      let configuration ← AudioConfiguration.fromValue value
      .ok (.audio configuration)
  | .raster => do
      let configuration ← RasterConfiguration.fromValue value
      .ok (.raster configuration)
  | .encodedImage => do
      let configuration ← ImageConfiguration.fromValue value
      .ok (.encodedImage configuration)

/-- The body of the greatest legal media record. -/
def requiredBody : KindConfiguration → Except SizeError UInt32
  | .video configuration => videoBodyLen configuration.maximumAccessUnitBytes
  | .audio configuration => audioBodyLen configuration.maximumAccessUnitBytes
  | .raster configuration => rgba8RawFrameBodyLen configuration.width configuration.height
  | .encodedImage configuration => .ok configuration.encodedLength
  | .vectorScene configuration => .ok (configuration.maximumSceneBytes + 12)

end KindConfiguration

/-! ## Tracks -/

structure TrackConfiguration where
  direction : TrackDirection
  contextId : UInt64
  surfaceId : UInt64
  trackId : UInt64
  slot : UInt64
  mode : TrackMode
  lane : LaneClass
  maximumRecordBody : UInt32
  maximumRateMillihertz : UInt64
  maximumEncodedBitsPerSecond : UInt64
  maximumRecordsPerSecond : UInt64
  maximumInflightBodyBytes : UInt64
  kind : KindConfiguration
  targetLatencyUs : UInt64
  maximumLatencyUs : UInt64
  retainedPixelCharge : UInt64
  deriving Repr, DecidableEq

namespace TrackConfiguration

/-- The track ID and the limits, of which a probe has none. -/
def validateIdentity (configuration : TrackConfiguration) (probe : Bool) :
    Except MessageError Unit :=
  if probe then
    if configuration.trackId ≠ 0 then
      .error (invalidValue "track configuration" 2 "must be zero for a probe")
    else .ok ()
  else do
    let _ ← requireNonzero "track configuration" 2 configuration.trackId
    let _ ← requireNonzero "track configuration" 7 configuration.maximumRecordBody.toUInt64
    let _ ← requireNonzero "track configuration" 8 configuration.maximumRateMillihertz
    let _ ← requireNonzero "track configuration" 9 configuration.maximumEncodedBitsPerSecond
    let _ ← requireNonzero "track configuration" 10 configuration.maximumRecordsPerSecond
    let _ ← requireNonzero "track configuration" 11 configuration.maximumInflightBodyBytes
    .ok ()

def validate (configuration : TrackConfiguration) (probe : Bool) : Except MessageError Unit :=
  if configuration.direction = .uplink ∧ (configuration.kind.kind ≠ .audio ∨
      configuration.mode ≠ .live ∨ configuration.lane ≠ .realtime ∨ configuration.slot ≠ 0 ∨
      configuration.retainedPixelCharge ≠ 0) then
    .error (invalidValue "track configuration" 16
      "uplink requires live realtime audio without a surface slot or retained pixels")
  else if configuration.kind.kind = .vectorScene ∧ (configuration.slot ≠ 5 ∨
      configuration.mode ≠ .live ∨ configuration.lane ≠ .bulk) then
    .error (invalidValue "track configuration" 3 "vector scenes require live bulk visual slot 5")
  else do
    let _ ← requireNonzero "track configuration" 0 configuration.contextId
    let _ ← requireNonzero "track configuration" 1 configuration.surfaceId
    configuration.validateIdentity probe
    if HARD_MAX_RECORD_BODY < configuration.maximumRecordBody then
      .error (invalidValue "track configuration" 7 "exceeds the hard body limit")
    else if ¬ (configuration.lane = .realtime ∨ configuration.lane = .bulk) then
      .error (invalidValue "track configuration" 6 "must use realtime or bulk")
    else if configuration.maximumLatencyUs < configuration.targetLatencyUs then
      .error (invalidValue "track configuration" 13 "exceeds maximum latency")
    else do
      let _ ← configuration.kind.toValue
      let requiredBody ← orInvalid "track configuration" 7
        "cannot carry its maximum legal media body" configuration.kind.requiredBody
      if configuration.maximumRecordBody < requiredBody ∨
          configuration.maximumInflightBodyBytes < configuration.maximumRecordBody.toUInt64 then
        .error (invalidValue "track configuration" 11
          "cannot admit one maximum legal media record")
      else .ok ()

/-- The entries of `payload` around the value of the kind. -/
def fields (configuration : TrackConfiguration) (kind : Value) : PayloadMap :=
  [(0, .unsigned configuration.contextId),
    (1, .unsigned configuration.surfaceId),
    (2, .unsigned configuration.trackId),
    (3, .unsigned configuration.kind.kind.toWord),
    (4, .unsigned configuration.slot),
    (5, .unsigned configuration.mode.toWord),
    (6, .unsigned configuration.lane.toWord),
    (7, .unsigned configuration.maximumRecordBody.toUInt64),
    (8, .unsigned configuration.maximumRateMillihertz),
    (9, .unsigned configuration.maximumEncodedBitsPerSecond),
    (10, .unsigned configuration.maximumRecordsPerSecond),
    (11, .unsigned configuration.maximumInflightBodyBytes),
    (12, kind),
    (13, .unsigned configuration.targetLatencyUs),
    (14, .unsigned configuration.maximumLatencyUs),
    (15, .unsigned configuration.retainedPixelCharge)] ++
  if configuration.direction ≠ .downlink then
    [(16, .unsigned configuration.direction.toWord)]
  else []

def payload (configuration : TrackConfiguration) (probe : Bool) :
    Except MessageError PayloadMap := do
  configuration.validate probe
  let kind ← configuration.kind.toValue
  .ok (configuration.fields kind)

def decode (headerObjectId : UInt64) (payload : Value) (probe : Bool) :
    Except MessageError TrackConfiguration := do
  let map ← StrictMap.new "track configuration" payload
    [0, 1, 2, 3, 4, 5, 6, 7, 8, 9, 10, 11, 12, 13, 14, 15, 16]
  let trackId ← map.requiredU64 2
  validateHeaderObject headerObjectId trackId
  let kindWord ← map.requiredU64 3
  let kind ← TrackKind.tryFrom kindWord
  let directionWord ← map.optionalU64 16
  let direction ← TrackDirection.tryFrom (directionWord.getD 0)
  let contextId ← map.requiredU64 0
  let surfaceId ← map.requiredU64 1
  let slot ← map.requiredU64 4
  let modeWord ← map.requiredU64 5
  let mode ← TrackMode.tryFrom modeWord
  let laneWord ← map.requiredU64 6
  let lane ← LaneClass.tryFrom laneWord
  let maximumRecordBody ← map.requiredU32 7
  let maximumRateMillihertz ← map.requiredU64 8
  let maximumEncodedBitsPerSecond ← map.requiredU64 9
  let maximumRecordsPerSecond ← map.requiredU64 10
  let maximumInflightBodyBytes ← map.requiredU64 11
  let kindValue ← map.required 12
  let kind ← KindConfiguration.fromValue kind kindValue
  let targetLatencyUs ← map.requiredU64 13
  let maximumLatencyUs ← map.requiredU64 14
  let retainedPixelCharge ← map.requiredU64 15
  let configuration : TrackConfiguration :=
    { direction := direction
      contextId := contextId
      surfaceId := surfaceId
      trackId := trackId
      slot := slot
      mode := mode
      lane := lane
      maximumRecordBody := maximumRecordBody
      maximumRateMillihertz := maximumRateMillihertz
      maximumEncodedBitsPerSecond := maximumEncodedBitsPerSecond
      maximumRecordsPerSecond := maximumRecordsPerSecond
      maximumInflightBodyBytes := maximumInflightBodyBytes
      kind := kind
      targetLatencyUs := targetLatencyUs
      maximumLatencyUs := maximumLatencyUs
      retainedPixelCharge := retainedPixelCharge }
  configuration.validate probe
  .ok configuration

end TrackConfiguration

end VividProtocol.Track

import Mathlib.Tactic
import VividProtocol.Cbor.Canonical
import VividProtocol.Media.Delta

/-!
# Codecs and their initialization data

The names of the portable codecs and the checks of audio initialization data in
`media.rs`.  Initialization data has at most 65536 bytes when these checks read
it, so no sum of a cursor and a length leaves `usize`.
-/

set_option autoImplicit false

namespace VividProtocol.Media

open VividProtocol.Cbor (textBytes)
open VividProtocol.Wire
open VividProtocol.Library.BigEndian
open VividProtocol.Library.Fields
open VividProtocol.Library.Result

/-- `ok_or_else` with an error of invalid data. -/
def okOr {α : Type} (message : String) : Option α → Except IoError α
  | some value => .ok value
  | none => .error (invalid message)

/-! ## Names -/

def isPortablePacketization (codec packetization : String) : Bool :=
  [("h264", "h264-annexb-au-v1"), ("hevc", "hevc-annexb-au-v1"), ("vp9", "vp9-frame-v1"),
    ("av1", "av1-low-overhead-tu-v1")].contains (codec, packetization)

def AUDIO_PACKETIZATION_OPUS : String := "opus-packet-v1"
def AUDIO_PACKETIZATION_VORBIS : String := "vorbis-packet-v1"
def AUDIO_PACKETIZATION_FLAC : String := "flac-frame-v1"

def pcmCodecs : List String :=
  ["pcm_u8", "pcm_s16le", "pcm_s24le", "pcm_s32le", "pcm_f32le", "pcm_f64le", "pcm_mulaw",
    "pcm_alaw"]

def validAudioPacketization (codec packetization : String) : Bool :=
  if codec = "mp3" then packetization == "mp3-frame-v1"
  else if codec = "aac" then packetization == "aac-raw-au-v1"
  else if codec = "alac" then packetization == "alac-frame-v1"
  else if codec = "opus" then packetization == AUDIO_PACKETIZATION_OPUS
  else if codec = "vorbis" then packetization == AUDIO_PACKETIZATION_VORBIS
  else if codec = "flac" then packetization == AUDIO_PACKETIZATION_FLAC
  else if codec ∈ pcmCodecs then packetization == "pcm-packet-v1"
  else false

/-! ## Opus -/

/-- `checked_add(..).unwrap_or(0)` of two bytes. -/
def codedChannels (streams coupled : UInt8) : UInt8 :=
  if streams.toNat + coupled.toNat < 256 then streams + coupled else 0

def validateOpusHead (head : List UInt8) (sampleRate : UInt32) (channels : UInt16) :
    Except IoError Unit :=
  if sampleRate ≠ 48000 ∨ head.length < 19 ∨ head.take 8 ≠ textBytes "OpusHead" then
    .error (invalid "invalid OpusHead signature, length, or decode rate")
  else if 15 < head.getD 8 0 ∨ (head.getD 9 0).toUInt16 ≠ channels ∨ channels = 0 then
    .error (invalid "OpusHead version or channel count is unsupported")
  else if head.getD 18 0 = 0 ∧ head.length = 19 ∧ channels ≤ 2 then .ok ()
  else if head.getD 18 0 = 1 then
    if head.length ≠ 21 + channels.toNat then
      .error (invalid "OpusHead family-1 channel mapping length is invalid")
    else
      let streams := head.getD 19 0
      let coupled := head.getD 20 0
      let coded := codedChannels streams coupled
      if streams = 0 ∨ streams < coupled ∨ coded = 0 ∨ channels < coded.toUInt16 ∨
          ((head.drop 21).any fun mapping => mapping != 255 && decide (coded ≤ mapping)) = true then
        .error (invalid "OpusHead family-1 mapping is invalid")
      else .ok ()
  else .error (invalid "unsupported OpusHead mapping family")

/-! ## Vorbis -/

/-- The length and the cursor after it; `unread` is what stands from the cursor on. -/
def xiphLacedLength : List UInt8 → Nat → Nat → Except IoError (Nat × Nat)
  | [], _, _ => .error (invalid "truncated Xiph-laced length")
  | value :: unread, cursor, length =>
      if value ≠ 255 then .ok (length + value.toNat, cursor + 1)
      else xiphLacedLength unread (cursor + 1) (length + value.toNat)

/-- `u32::from_le_bytes`. -/
def littleEndian (bytes : List UInt8) : Nat := ofBytes bytes.reverse

def takeVorbisLength (bytes : List UInt8) (cursor : Nat) : Option (Nat × Nat) :=
  match slice cursor 4 bytes with
  | none => none
  | some field => some (littleEndian field, cursor + 4)

/-- The loop over the comments, to the cursor after the last. -/
def skipComments (header : List UInt8) : Nat → Nat → Option Nat
  | 0, cursor => some cursor
  | count + 1, cursor =>
      match takeVorbisLength header cursor with
      | none => none
      | some (length, cursor) =>
          if header.length < cursor + length then none
          else skipComments header count (cursor + length)

def validVorbisCommentHeader (header : List UInt8) : Bool :=
  match takeVorbisLength header 7 with
  | none => false
  | some (vendorLength, cursor) =>
      let afterVendor := cursor + vendorLength
      if header.length < afterVendor then false
      else
        match takeVorbisLength header afterVendor with
        | none => false
        | some (commentCount, cursor) =>
            if (header.length - cursor - 1) / 4 < commentCount then false
            else
              match skipComments header commentCount cursor with
              | none => false
              | some cursor => header[cursor]? == some 1 && cursor + 1 == header.length

def vorbisSignature (packet : UInt8) : List UInt8 := packet :: textBytes "vorbis"

def validateVorbisHeaders (headers : List UInt8) (sampleRate : UInt32) (channels : UInt16) :
    Except IoError Unit :=
  if headers.head? ≠ some 2 then
    .error (invalid "Vorbis initialization is not three-header Xiph lacing")
  else do
    let (first, cursor) ← xiphLacedLength (headers.drop 1) 1 0
    let (second, cursor) ← xiphLacedLength (headers.drop cursor) cursor 0
    if headers.length ≤ first + second + cursor then
      .error (invalid "Vorbis headers are truncated")
    else
      let firstEnd := cursor + first
      let secondEnd := firstEnd + second
      let identification := (headers.drop cursor).take first
      let comments := (headers.drop firstEnd).take second
      let setup := headers.drop secondEnd
      let blockSizes := identification.getD 28 0
      let smallBlock := blockSizes &&& 0x0f
      let largeBlock := blockSizes >>> 4
      if identification.length ≠ 30 ∨ ¬ vorbisSignature 1 <+: identification ∨
          ¬ vorbisSignature 3 <+: comments ∨ ¬ vorbisSignature 5 <+: setup ∨
          (identification.drop 7).take 4 ≠ [0, 0, 0, 0] ∨
          (identification.getD 11 0).toUInt16 ≠ channels ∨
          littleEndian ((identification.drop 12).take 4) ≠ sampleRate.toNat ∨
          ¬ (6 ≤ smallBlock ∧ smallBlock ≤ 13) ∨
          ¬ (smallBlock ≤ largeBlock ∧ largeBlock ≤ 13) ∨
          identification.getD 29 0 ≠ 1 ∨ validVorbisCommentHeader comments = false then
        .error (invalid "Vorbis identification or header signatures are invalid")
      else .ok ()

/-! ## FLAC -/

def validateFlacStreaminfo (streaminfo : List UInt8) (sampleRate : UInt32) (channels : UInt16) :
    Except IoError Unit :=
  if streaminfo.length ≠ 34 then
    .error (invalid "FLAC initialization is not a raw 34-byte STREAMINFO")
  else
    let minimumBlock := ofBytes (streaminfo.take 2)
    let maximumBlock := ofBytes ((streaminfo.drop 2).take 2)
    let packed := UInt64.ofNat (ofBytes ((streaminfo.drop 10).take 8))
    let headerRate := ((packed >>> 44) &&& 0xfffff).toUInt32
    let headerChannels := ((packed >>> 41) &&& 0x7).toUInt16 + 1
    let bitsPerSample := ((packed >>> 36) &&& 0x1f).toUInt8 + 1
    if minimumBlock < 16 ∨ maximumBlock < minimumBlock ∨ headerRate = 0 ∨
        headerRate ≠ sampleRate ∨ headerChannels ≠ channels ∨
        ¬ (4 ≤ bitsPerSample ∧ bitsPerSample ≤ 32) then
      .error (invalid "FLAC STREAMINFO configuration is invalid")
    else .ok ()

/-! ## AAC -/

structure AscBitReader where
  data : List UInt8
  position : Nat

/-- A reader that moves on, or `None`. -/
abbrev AscRead := StateT AscBitReader Option

namespace AscBitReader

def new (data : List UInt8) : AscBitReader := { data := data, position := 0 }

def AAC_SAMPLE_RATES : List UInt32 :=
  [96000, 88200, 64000, 48000, 44100, 32000, 24000, 22050, 16000, 12000, 11025, 8000, 7350]

def readBit : AscRead UInt32 := fun reader =>
  match reader.data[reader.position / 8]? with
  | none => none
  | some byte =>
      let bit := (byte >>> UInt8.ofNat (7 - reader.position % 8)) &&& 1
      some (bit.toUInt32, { reader with position := reader.position + 1 })

/-- The turns of `read_bits` that are left, with the value so far. -/
def readBitsOnto (value : UInt32) : Nat → AscRead UInt32
  | 0 => pure value
  | count + 1 => do
      let bit ← readBit
      readBitsOnto ((value <<< 1) ||| bit) count

def readBits (count : Nat) : AscRead UInt32 := readBitsOnto 0 count

def skipBits (count : Nat) : AscRead Unit := do
  let _ ← readBits count
  pure ()

/-- `read_bits` of one width, a number of times. -/
def skipEach (width : Nat) : Nat → AscRead Unit
  | 0 => pure ()
  | count + 1 => do
      skipBits width
      skipEach width count

/-- Bits that are there if a flag before them says so. -/
def skipFlagged (width : Nat) : AscRead Unit := do
  let flag ← readBits 1
  if flag ≠ 0 then skipBits width else pure ()

def readAudioObjectType : AscRead UInt32 := do
  let base ← readBits 5
  if base = 31 then do
    let extension ← readBits 6
    pure (32 + extension)
  else pure base

def readSamplingFrequency : AscRead UInt32 := do
  let index ← readBits 4
  if index = 15 then do
    let explicit ← readBits 24
    if 0 < explicit then pure explicit else failure
  else if index = 13 ∨ index = 14 then failure
  else
    match AAC_SAMPLE_RATES[index.toNat]? with
    | some rate => pure rate
    | none => failure

/-- One turn for every element: a channel, a second one for a pair, and a tag. -/
def readElements (channels : UInt32) : Nat → AscRead UInt32
  | 0 => pure channels
  | count + 1 => do
      let pair ← readBits 1
      match checkedAdd32 channels (1 + pair) with
      | none => failure
      | some channels => do
          skipBits 4
          readElements channels count

/-- The object type under an explicit extension. -/
def readExtension (objectType : UInt32) : AscRead UInt32 :=
  if objectType = 5 ∨ objectType = 29 then do
    let _ ← readSamplingFrequency
    let extended ← readAudioObjectType
    if extended = 22 then do
      skipBits 4
      pure extended
    else pure extended
  else pure objectType

def programConfigurationChannels (objectType frequency : UInt32) : AscRead UInt32 := do
  let objectType ← readExtension objectType
  if objectType ∉ ([1, 2, 3, 4, 6, 7, 17, 19, 20, 21, 22, 23] : List UInt32) then failure
  else do
    skipBits 1
    skipFlagged 14
    skipBits 1
    skipBits 4
    skipBits 2
    let index ← readBits 4
    if AAC_SAMPLE_RATES[index.toNat]? ≠ some frequency then failure
    else do
      let front ← readBits 4
      let side ← readBits 4
      let back ← readBits 4
      let lfe ← readBits 2
      let associated ← readBits 3
      let coupling ← readBits 4
      skipFlagged 4
      skipFlagged 4
      skipFlagged 3
      let channels ← readElements lfe front.toNat
      let channels ← readElements channels side.toNat
      let channels ← readElements channels back.toNat
      skipEach 4 lfe.toNat
      skipEach 4 associated.toNat
      skipEach 5 coupling.toNat
      let reader ← get
      skipBits ((8 - reader.position % 8) % 8)
      let commentBytes ← readBits 8
      skipEach 8 commentBytes.toNat
      if channels ≠ 0 then pure channels else failure

end AscBitReader

/-- The channel count of a layout; a layout of zero is read from what follows. -/
def configuredChannels (reader : AscBitReader) (audioObjectType frequency layout : UInt32) :
    Except IoError UInt32 :=
  if layout = 0 then
    okOr "AudioSpecificConfig PCE is invalid, truncated, or unsupported"
      ((AscBitReader.programConfigurationChannels audioObjectType frequency reader).map Prod.fst)
  else if 1 ≤ layout ∧ layout ≤ 6 then .ok layout
  else if layout = 7 ∨ layout = 12 ∨ layout = 14 then .ok 8
  else if layout = 11 then .ok 7
  else if layout = 13 then .ok 24
  else .error (invalid "AudioSpecificConfig channel configuration is reserved")

def validateAacAudioSpecificConfig (config : List UInt8) (sampleRate : UInt32)
    (channels : UInt16) : Except IoError Unit := do
  let (audioObjectType, reader) ← okOr "AudioSpecificConfig is truncated"
    (AscBitReader.readAudioObjectType (AscBitReader.new config))
  if audioObjectType = 0 then
    .error (invalid "AudioSpecificConfig audio object type is null")
  else do
    let (frequency, reader) ← okOr "AudioSpecificConfig sampling frequency is invalid"
      (AscBitReader.readSamplingFrequency reader)
    let (layout, reader) ← okOr "AudioSpecificConfig is truncated"
      (AscBitReader.readBits 4 reader)
    if frequency ≠ sampleRate ∧ frequency.toNat * 2 ≠ sampleRate.toNat then
      .error (invalid
        "AudioSpecificConfig sampling frequency does not match the declared rate")
    else do
      let configured ← configuredChannels reader audioObjectType frequency layout
      if configured ≠ channels.toUInt32 then
        .error (invalid
          "AudioSpecificConfig channel configuration does not match the declared channels")
      else .ok ()

/-! ## Every codec -/

def validateAudioInitialization (codec packetization : String) (extradata : List UInt8)
    (sampleRate : UInt32) (channels : UInt16) : Except IoError Unit :=
  if validAudioPacketization codec packetization = false ∨ 65536 < extradata.length then
    .error (invalid "invalid portable audio initialization")
  else if codec = "opus" then validateOpusHead extradata sampleRate channels
  else if codec = "vorbis" then validateVorbisHeaders extradata sampleRate channels
  else if codec = "flac" then validateFlacStreaminfo extradata sampleRate channels
  else if codec = "aac" then validateAacAudioSpecificConfig extradata sampleRate channels
  else .ok ()

/-! ## Sizes of names -/

section Names

variable {codec packetization : String}

/-- A portable pair of names is short. -/
theorem short_of_portable (portable : isPortablePacketization codec packetization = true) :
    codec.utf8ByteSize ≤ 22 ∧ packetization.utf8ByteSize ≤ 22 := by
  have each : ∀ pair ∈ [("h264", "h264-annexb-au-v1"), ("hevc", "hevc-annexb-au-v1"),
      ("vp9", "vp9-frame-v1"), ("av1", "av1-low-overhead-tu-v1")],
      pair.1.utf8ByteSize ≤ 22 ∧ pair.2.utf8ByteSize ≤ 22 := by
    decide +kernel
  exact each (codec, packetization) (List.contains_iff_mem.mp portable)

theorem short_of_named {name expected : String}
    (short : name.utf8ByteSize ≤ 22 ∧ expected.utf8ByteSize ≤ 22) (same : codec = name)
    (valid : (packetization == expected) = true) :
    codec.utf8ByteSize ≤ 22 ∧ packetization.utf8ByteSize ≤ 22 := by
  rw [same, eq_of_beq valid]
  exact short

theorem short_of_audio (valid : validAudioPacketization codec packetization = true) :
    codec.utf8ByteSize ≤ 22 ∧ packetization.utf8ByteSize ≤ 22 := by
  unfold validAudioPacketization at valid
  split_ifs at valid with mp3 aac alac opus vorbis flac pcm
  · exact short_of_named (by decide +kernel) mp3 valid
  · exact short_of_named (by decide +kernel) aac valid
  · exact short_of_named (by decide +kernel) alac valid
  · exact short_of_named (by decide +kernel) opus valid
  · exact short_of_named (by decide +kernel) vorbis valid
  · exact short_of_named (by decide +kernel) flac valid
  · have pcmShort : ∀ name ∈ pcmCodecs, name.utf8ByteSize ≤ 22 := by
      decide +kernel
    exact short_of_named ⟨pcmShort codec pcm, by decide +kernel⟩ rfl valid

end Names

theorem validateAudioInitialization_short {codec packetization : String} {extradata : List UInt8}
    {sampleRate : UInt32} {channels : UInt16} {done : Unit}
    (valid : validateAudioInitialization codec packetization extradata sampleRate channels =
      .ok done) :
    codec.utf8ByteSize ≤ 22 ∧ packetization.utf8ByteSize ≤ 22 ∧ extradata.length ≤ 65536 := by
  unfold validateAudioInitialization at valid
  obtain ⟨named, _⟩ := ite_error_eq_ok_iff.mp valid
  rw [not_or, Bool.not_eq_false, Nat.not_lt] at named
  have short := short_of_audio named.1
  exact ⟨short.1, short.2, named.2⟩

end VividProtocol.Media

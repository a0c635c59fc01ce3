import Mathlib.Tactic
import VividProtocol.Track.Configuration

/-!
# Track configurations on the wire

A configuration that passes its check is written and read as itself, also
through its bytes.  Reading ends with the same check, so a configuration that
was read can be written again.
-/

set_option autoImplicit false

namespace VividProtocol.Track

open VividProtocol.Cbor (Value textBytes maxDepth)
open VividProtocol.Input (signed signed_asI64)
open VividProtocol.Library.Result
open VividProtocol.Library.Codec
open VividProtocol.Library.Association

/-! ## Readers -/

section Readers

variable {schema : String} {map : StrictMap} {key : UInt64}

theorem requiredI32_of_lookup {value : Int32}
    (held : map.entries.lookup key = some (signed value.toInt64)) :
    requiredI32 map key = .ok value := by
  unfold requiredI32
  rw [StrictMap.required_iff.mpr held, ok_bind, signed_asI64]
  simp only [Desktop.narrow_widened]

theorem requiredU8_of_lookup {value : UInt8}
    (held : map.entries.lookup key = some (.unsigned value.toUInt64)) :
    requiredU8 schema map key = .ok value := by
  have small : value.toUInt64.toNat < 256 := by
    rw [UInt8.toNat_toUInt64]
    exact value.toNat_lt
  unfold requiredU8
  rw [StrictMap.requiredU64_of_lookup held, ok_bind, if_pos small, UInt8.toUInt8_toUInt64]

theorem optionalText_of_lookup {part : Option String}
    (held : map.entries.lookup key = part.map .text) :
    optionalText schema map key = .ok part := by
  unfold optionalText StrictMap.optional
  rw [held]
  exact transpose_map fun _ _ => rfl

theorem requiredText_of_lookup {value : String}
    (held : map.entries.lookup key = some (.text value)) : map.requiredText key = .ok value :=
  StrictMap.requiredText_eq_ok.mpr held

theorem requiredBytes_of_lookup {value : List UInt8}
    (held : map.entries.lookup key = some (.bytes value)) : map.requiredBytes key = .ok value :=
  (StrictMap.requiredAs_eq_ok StrictMap.views_bytes).mpr held

theorem requiredU32_of_lookup {value : UInt32}
    (held : map.entries.lookup key = some (.unsigned value.toUInt64)) :
    map.requiredU32 key = .ok value :=
  StrictMap.requiredU32_eq_ok.mpr held

theorem readField_of_lookup {value : UInt32}
    (held : map.entries.lookup key = some (.unsigned value.toUInt64)) :
    VectorConfiguration.readField map key = .ok value := by
  have small : value.toUInt64.toNat < 2 ^ 32 := by
    rw [UInt32.toNat_toUInt64]
    exact value.toNat_lt
  unfold VectorConfiguration.readField
  rw [StrictMap.requiredU64_of_lookup held, ok_bind, if_pos small, UInt32.toUInt32_toUInt64]

end Readers

theorem word_beq (value : Bool) : (word value == 1) = value := by
  cases value <;> rfl

theorem fits_signed {levels : Nat} (value : Int64) : (signed value).Fits (levels + 1) := by
  unfold signed
  by_cases positive : 0 ≤ value
  · rw [if_pos positive]
    exact Value.fits_unsigned _
  · rw [if_neg positive]
    exact Value.fits_negative.mpr (Int64.not_le.mp positive)

/-- A name of a few bytes fits. -/
theorem fits_short {levels limit : Nat} {text : String} (short : text.utf8ByteSize ≤ limit)
    (within : limit ≤ 65536) : Value.Fits (levels + 1) (.text text) :=
  Value.fits_text.mpr (short.trans (within.trans (by decide)))

theorem fits_bytes {levels limit : Nat} {bytes : List UInt8} (short : bytes.length ≤ limit)
    (within : limit ≤ 65536) : Value.Fits (levels + 1) (.bytes bytes) :=
  show bytes.length ≤ Cbor.maxValueLength from short.trans (within.trans (by decide))

theorem fits_timeline {levels : Nat} : Value.Fits (levels + 1) (.text "source-timebase-us") :=
  Value.fits_text.mpr (by decide +kernel)

theorem fits_entry {α : Type} {levels : Nat} {key : UInt64} {part : Option α} {write : α → Value}
    (each : ∀ value, part = some value → (write value).Fits levels) :
    ∀ pair ∈ entry key (part.map write), pair.2.Fits levels := by
  cases part with
  | none => simp
  | some value => simpa using each value rfl

/-! ## Video -/

namespace VideoConfiguration

variable {configuration : VideoConfiguration}

theorem toValue_eq_ok {value : Value} :
    configuration.toValue = .ok value ↔
      configuration.validate = .ok () ∧ .map configuration.fields = value := by
  rw [toValue, check_bind_eq_ok_iff, Except.ok.injEq]

theorem opened (configuration : VideoConfiguration) :
    StrictMap.new "video configuration" (.map configuration.fields)
      [0, 1, 2, 3, 4, 5, 6, 7, 8, 9, 10, 11, 12, 13, 14, 15, 16, 17, 18] =
      .ok ⟨"video configuration", configuration.fields⟩ := by
  unfold fields
  cases configuration.codecString <;> cases configuration.decoderConfiguration <;> rfl

theorem lookup_codecString (configuration : VideoConfiguration) :
    configuration.fields.lookup 17 = configuration.codecString.map .text := by
  unfold fields
  cases configuration.codecString <;> cases configuration.decoderConfiguration <;> rfl

theorem lookup_decoderConfiguration (configuration : VideoConfiguration) :
    configuration.fields.lookup 18 = configuration.decoderConfiguration.map .bytes := by
  unfold fields
  cases configuration.codecString <;> cases configuration.decoderConfiguration <;> rfl

theorem fromValue_fields (valid : configuration.validate = .ok ()) :
    fromValue (.map configuration.fields) = .ok configuration := by
  unfold fromValue
  rw [opened, ok_bind, @StrictMap.requiredU64_of_lookup _ 7 0 rfl, ok_bind, if_neg (by simp),
    @requiredText_of_lookup _ 9 "source-timebase-us" rfl, ok_bind]
  dsimp only
  rw [if_neg (by simp), @requiredText_of_lookup _ 0 configuration.codec rfl, ok_bind,
    @requiredText_of_lookup _ 1 configuration.packetization rfl, ok_bind,
    @requiredBytes_of_lookup _ 2 configuration.extradata rfl, ok_bind,
    @requiredU32_of_lookup _ 3 configuration.codedWidth rfl, ok_bind,
    @requiredU32_of_lookup _ 4 configuration.codedHeight rfl, ok_bind,
    @requiredI32_of_lookup _ 5 configuration.profile rfl, ok_bind,
    @requiredI32_of_lookup _ 6 configuration.level rfl, ok_bind,
    @requiredU8_of_lookup _ _ 8 configuration.maximumReorderDepth rfl, ok_bind,
    @StrictMap.requiredU64_of_lookup _ 10 configuration.colorPrimaries rfl, ok_bind,
    @StrictMap.requiredU64_of_lookup _ 11 configuration.transfer rfl, ok_bind,
    @StrictMap.requiredU64_of_lookup _ 12 configuration.matrix rfl, ok_bind,
    @StrictMap.requiredU64_of_lookup _ 13 configuration.signalRange rfl, ok_bind,
    @StrictMap.requiredU64_of_lookup _ 14 configuration.aspectNumerator rfl, ok_bind,
    @StrictMap.requiredU64_of_lookup _ 15 configuration.aspectDenominator rfl, ok_bind,
    @requiredU32_of_lookup _ 16 configuration.maximumAccessUnitBytes rfl, ok_bind,
    optionalText_of_lookup configuration.lookup_codecString, ok_bind,
    StrictMap.optionalBytes_eq_ok.mpr configuration.lookup_decoderConfiguration, ok_bind]
  simp only [valid, ok_bind]

theorem validate_short (valid : configuration.validate = .ok ()) :
    (configuration.codec.utf8ByteSize ≤ 22 ∧ configuration.packetization.utf8ByteSize ≤ 22) ∧
      configuration.extradata.length ≤ 65536 ∧
      (∀ text, configuration.codecString = some text → text.utf8ByteSize ≤ 64) ∧
      ∀ bytes, configuration.decoderConfiguration = some bytes → bytes.length ≤ 4096 := by
  unfold validate at valid
  simp only [ite_error_eq_ok_iff, bind_eq_ok_iff] at valid
  obtain ⟨portable, extradata, _, _, _, _, _, _, _, _, _, _, _, _, printable, configured, _⟩ := valid
  refine ⟨Media.short_of_portable (by simpa using portable), Nat.not_lt.mp extradata, ?_, ?_⟩
  · intro text held
    rw [held, Option.any_some] at printable
    simp only [Bool.or_eq_true, decide_eq_true_eq, not_or, Nat.not_lt] at printable
    exact printable.1
  · intro bytes held
    rw [held, Option.any_some, decide_eq_true_eq, Nat.not_lt] at configured
    exact configured

theorem fits (valid : configuration.validate = .ok ()) {levels : Nat} :
    Value.Fits (levels + 2) (.map configuration.fields) := by
  obtain ⟨⟨codec, packetization⟩, extradata, codecString, decoderConfiguration⟩ :=
    validate_short valid
  refine Value.fits_map.mpr ⟨?_, ?_, ?_⟩
  · unfold fields
    cases configuration.codecString <;> cases configuration.decoderConfiguration <;>
      simp [Cbor.maxContainerLength]
  · unfold fields
    cases configuration.codecString <;> cases configuration.decoderConfiguration <;> rfl
  · unfold fields
    rw [List.forall_mem_append, List.forall_mem_append]
    refine ⟨⟨?_, ?_⟩, ?_⟩
    · simp [fits_short codec, fits_short packetization, fits_bytes extradata, fits_signed,
        fits_timeline]
    · exact fits_entry fun text held => fits_short (codecString text held) (by decide)
    · exact fits_entry fun bytes held => fits_bytes (decoderConfiguration bytes held) (by decide)

end VideoConfiguration

/-! ## Audio -/

namespace AudioConfiguration

variable {configuration : AudioConfiguration}

theorem toValue_eq_ok {value : Value} :
    configuration.toValue = .ok value ↔
      configuration.validate = .ok () ∧ .map configuration.fields = value := by
  rw [toValue, check_bind_eq_ok_iff, Except.ok.injEq]

theorem opened (configuration : AudioConfiguration) :
    StrictMap.new "audio configuration" (.map configuration.fields) [0, 1, 2, 3, 4, 5, 6, 7, 8] =
      .ok ⟨"audio configuration", configuration.fields⟩ := by
  unfold fields
  cases configuration.codecString <;> rfl

theorem lookup_codecString (configuration : AudioConfiguration) :
    configuration.fields.lookup 8 = configuration.codecString.map .text := by
  unfold fields
  cases configuration.codecString <;> rfl

theorem fromValue_fields (valid : configuration.validate = .ok ()) :
    fromValue (.map configuration.fields) = .ok configuration := by
  unfold fromValue
  rw [opened, ok_bind, @requiredText_of_lookup _ 7 "source-timebase-us" rfl, ok_bind,
    if_neg (by simp), @requiredText_of_lookup _ 0 configuration.codec rfl, ok_bind,
    @requiredText_of_lookup _ 1 configuration.packetization rfl, ok_bind,
    @requiredBytes_of_lookup _ 2 configuration.extradata rfl, ok_bind,
    @requiredU32_of_lookup _ 3 configuration.sampleRate rfl, ok_bind,
    @requiredU8_of_lookup _ _ 4 configuration.channels rfl, ok_bind,
    @StrictMap.requiredU64_of_lookup _ 5 configuration.channelMask rfl, ok_bind,
    @requiredU32_of_lookup _ 6 configuration.maximumAccessUnitBytes rfl, ok_bind,
    optionalText_of_lookup configuration.lookup_codecString, ok_bind]
  simp only [valid, ok_bind]

theorem validate_short (valid : configuration.validate = .ok ()) :
    configuration.codec.utf8ByteSize ≤ 22 ∧ configuration.packetization.utf8ByteSize ≤ 22 ∧
      configuration.extradata.length ≤ 65536 ∧
      ∀ text, configuration.codecString = some text → text.utf8ByteSize ≤ 64 := by
  unfold validate at valid
  simp only [ite_error_eq_ok_iff, bind_eq_ok_iff, orInvalid_eq_ok] at valid
  obtain ⟨_, initialized, _, _, short, _⟩ := valid
  obtain ⟨codec, packetization, extradata⟩ := Media.validateAudioInitialization_short initialized
  refine ⟨codec, packetization, extradata, ?_⟩
  intro text held
  rw [held, Option.any_some, decide_eq_true_eq, Nat.not_lt] at short
  exact short

theorem fits (valid : configuration.validate = .ok ()) {levels : Nat} :
    Value.Fits (levels + 2) (.map configuration.fields) := by
  obtain ⟨codec, packetization, extradata, codecString⟩ := validate_short valid
  refine Value.fits_map.mpr ⟨?_, ?_, ?_⟩
  · unfold fields
    cases configuration.codecString <;> simp [Cbor.maxContainerLength]
  · unfold fields
    cases configuration.codecString <;> rfl
  · unfold fields
    rw [List.forall_mem_append]
    refine ⟨?_, ?_⟩
    · simp [fits_short codec, fits_short packetization, fits_bytes extradata, fits_timeline]
    · exact fits_entry fun text held => fits_short (codecString text held) (by decide)

end AudioConfiguration

/-! ## Raster -/

namespace RasterConfiguration

variable {configuration : RasterConfiguration}

theorem toValue_eq_ok {value : Value} :
    configuration.toValue = .ok value ↔
      configuration.validate = .ok () ∧ .map configuration.fields = value := by
  rw [toValue, check_bind_eq_ok_iff, Except.ok.injEq]

theorem word_le (value : Bool) : ¬ 1 < word value := by
  cases value <;> decide

theorem fromValue_fields (valid : configuration.validate = .ok ()) :
    fromValue (.map configuration.fields) = .ok configuration := by
  have opened : StrictMap.new "raster configuration" (.map configuration.fields)
      [0, 1, 2, 3, 4, 5, 6, 7] = .ok ⟨"raster configuration", configuration.fields⟩ := rfl
  unfold fromValue
  rw [opened, ok_bind, @StrictMap.requiredU64_of_lookup _ 2 1 rfl, ok_bind, if_neg (by simp),
    @StrictMap.requiredU64_of_lookup _ 7 1 rfl, ok_bind]
  dsimp only
  rw [if_neg (by simp), @StrictMap.requiredU64_of_lookup _ 4 (word configuration.deltaEnabled) rfl,
    ok_bind, @StrictMap.requiredU64_of_lookup _ 6 (word configuration.zstdEnabled) rfl, ok_bind,
    if_neg (not_or_intro (word_le _) (word_le _)),
    @requiredU32_of_lookup _ 0 configuration.width rfl, ok_bind,
    @requiredU32_of_lookup _ 1 configuration.height rfl, ok_bind,
    @StrictMap.requiredU64_of_lookup _ 3 configuration.alphaMode rfl, ok_bind,
    @requiredU8_of_lookup _ _ 5 configuration.maximumDeltaOperations rfl, ok_bind, word_beq,
    word_beq]
  simp only [valid, ok_bind]

theorem fits (configuration : RasterConfiguration) {levels : Nat} :
    Value.Fits (levels + 2) (.map configuration.fields) := by
  refine Value.fits_map.mpr ⟨by simp [fields, Cbor.maxContainerLength], rfl, ?_⟩
  simp [fields]

end RasterConfiguration

/-! ## Encoded images -/

namespace ImageConfiguration

variable {configuration : ImageConfiguration}

theorem toValue_eq_ok {value : Value} :
    configuration.toValue = .ok value ↔
      configuration.validate = .ok () ∧ .map configuration.fields = value := by
  rw [toValue, check_bind_eq_ok_iff, Except.ok.injEq]

theorem opened (configuration : ImageConfiguration) :
    StrictMap.new "image configuration" (.map configuration.fields) [0, 1, 2, 3, 4, 5, 6] =
      .ok ⟨"image configuration", configuration.fields⟩ := by
  unfold fields
  cases configuration.sha256 <;> rfl

theorem lookup_sha256 (configuration : ImageConfiguration) :
    configuration.fields.lookup 4 = configuration.sha256.map fun hash => .bytes hash.toList := by
  unfold fields
  cases configuration.sha256 <;> rfl

theorem lookup_after (configuration : ImageConfiguration) :
    configuration.fields.lookup 5 = some (.unsigned 1) ∧
      configuration.fields.lookup 6 = some (.bool configuration.cacheLookup) := by
  unfold fields
  cases configuration.sha256 <;> exact ⟨rfl, rfl⟩

theorem fromValue_fields (valid : configuration.validate = .ok ()) :
    fromValue (.map configuration.fields) = .ok configuration := by
  unfold fromValue
  rw [opened, ok_bind, StrictMap.requiredU64_of_lookup configuration.lookup_after.1, ok_bind,
    if_neg (by simp), @StrictMap.requiredU64_of_lookup _ 0 configuration.encoding rfl, ok_bind,
    @requiredU32_of_lookup _ 1 configuration.width rfl, ok_bind,
    @requiredU32_of_lookup _ 2 configuration.height rfl, ok_bind,
    @requiredU32_of_lookup _ 3 configuration.encodedLength rfl, ok_bind,
    StrictMap.optionalFixedBytes_eq_ok.mpr configuration.lookup_sha256, ok_bind,
    StrictMap.requiredBool_of_lookup configuration.lookup_after.2, ok_bind]
  simp only [valid, ok_bind]

theorem fits (configuration : ImageConfiguration) {levels : Nat} :
    Value.Fits (levels + 2) (.map configuration.fields) := by
  refine Value.fits_map.mpr ⟨?_, ?_, ?_⟩
  · unfold fields
    cases configuration.sha256 <;> simp [Cbor.maxContainerLength]
  · unfold fields
    cases configuration.sha256 <;> rfl
  · unfold fields
    rw [List.forall_mem_append, List.forall_mem_append]
    refine ⟨⟨by simp, ?_⟩, by simp⟩
    refine fits_entry fun hash _ => ?_
    have sized : hash.toList.length ≤ 32 := by simp
    exact fits_bytes sized (by decide)

end ImageConfiguration

/-! ## Vector scenes -/

namespace VectorConfiguration

variable {configuration : VectorConfiguration}

theorem toValue_eq_map {value : Value} (written : configuration.toValue = .ok value) :
    .map configuration.fields = value := by
  rw [toValue, ite_error_eq_ok_iff] at written
  exact Except.ok.inj written.2

theorem fromValue_fields {value : Value} (written : configuration.toValue = .ok value) :
    fromValue (.map configuration.fields) = .ok configuration := by
  have opened : StrictMap.new "vector configuration" (.map configuration.fields) [0, 1, 2] =
      .ok ⟨"vector configuration", configuration.fields⟩ := rfl
  unfold fromValue
  rw [opened, ok_bind, @readField_of_lookup _ 0 configuration.width rfl, ok_bind,
    @readField_of_lookup _ 1 configuration.height rfl, ok_bind,
    @readField_of_lookup _ 2 configuration.maximumSceneBytes rfl, ok_bind]
  simp only [written, ok_bind]

theorem fits (configuration : VectorConfiguration) {levels : Nat} :
    Value.Fits (levels + 2) (.map configuration.fields) := by
  refine Value.fits_map.mpr ⟨by simp [fields, Cbor.maxContainerLength], rfl, ?_⟩
  simp [fields]

end VectorConfiguration

/-! ## Kinds -/

/-- What a kind writes is read back under that kind, and fits. -/
theorem KindConfiguration.toValue_readsBack {kind : KindConfiguration} {value : Value}
    (written : kind.toValue = .ok value) :
    KindConfiguration.fromValue kind.kind value = .ok kind ∧
      ∀ {levels : Nat}, value.Fits (levels + 2) := by
  cases kind with
  | video configuration =>
      obtain ⟨valid, same⟩ := VideoConfiguration.toValue_eq_ok.mp written
      rw [← same]
      refine ⟨?_, VideoConfiguration.fits valid⟩
      rw [KindConfiguration.kind, fromValue, VideoConfiguration.fromValue_fields valid, ok_bind]
  | audio configuration =>
      obtain ⟨valid, same⟩ := AudioConfiguration.toValue_eq_ok.mp written
      rw [← same]
      refine ⟨?_, AudioConfiguration.fits valid⟩
      rw [KindConfiguration.kind, fromValue, AudioConfiguration.fromValue_fields valid, ok_bind]
  | raster configuration =>
      obtain ⟨valid, same⟩ := RasterConfiguration.toValue_eq_ok.mp written
      rw [← same]
      refine ⟨?_, configuration.fits⟩
      rw [KindConfiguration.kind, fromValue, RasterConfiguration.fromValue_fields valid, ok_bind]
  | encodedImage configuration =>
      obtain ⟨valid, same⟩ := ImageConfiguration.toValue_eq_ok.mp written
      rw [← same]
      refine ⟨?_, configuration.fits⟩
      rw [KindConfiguration.kind, fromValue, ImageConfiguration.fromValue_fields valid, ok_bind]
  | vectorScene configuration =>
      have read := VectorConfiguration.fromValue_fields written
      rw [← VectorConfiguration.toValue_eq_map written]
      refine ⟨?_, configuration.fits⟩
      rw [KindConfiguration.kind, fromValue, read, ok_bind]

/-! ## Tracks -/

section Words

theorem TrackKind.tryFrom_toWord (kind : TrackKind) : tryFrom kind.toWord = .ok kind := by
  cases kind <;> rfl

theorem LaneClass.tryFrom_toWord (lane : LaneClass) : tryFrom lane.toWord = .ok lane := by
  cases lane <;> rfl

theorem TrackMode.tryFrom_toWord (mode : TrackMode) : tryFrom mode.toWord = .ok mode := by
  cases mode <;> rfl

end Words

namespace TrackConfiguration

variable {configuration : TrackConfiguration} {probe : Bool}

theorem payload_eq_ok {payload : PayloadMap} :
    configuration.payload probe = .ok payload ↔ configuration.validate probe = .ok () ∧
      ∃ kind, configuration.kind.toValue = .ok kind ∧ configuration.fields kind = payload := by
  rw [TrackConfiguration.payload, check_bind_eq_ok_iff]
  simp only [bind_eq_ok_iff, Except.ok.injEq]

/-- The check of a track writes its kind. -/
theorem toValue_of_valid (valid : configuration.validate probe = .ok ()) :
    ∃ kind, configuration.kind.toValue = .ok kind := by
  unfold validate at valid
  simp only [ite_error_eq_ok_iff, bind_eq_ok_iff] at valid
  obtain ⟨_, _, _, _, _, _, _, _, _, _, _, kind, written, _⟩ := valid
  exact ⟨kind, written⟩

theorem opened (configuration : TrackConfiguration) (kind : Value) :
    StrictMap.new "track configuration" (.map (configuration.fields kind))
      [0, 1, 2, 3, 4, 5, 6, 7, 8, 9, 10, 11, 12, 13, 14, 15, 16] =
      .ok ⟨"track configuration", configuration.fields kind⟩ := by
  unfold fields
  cases configuration.direction <;> rfl

/-- A direction left out is the default one. -/
theorem direction_of_fields (configuration : TrackConfiguration) (kind : Value) :
    ∃ written, (configuration.fields kind).lookup 16 = Option.map .unsigned written ∧
      TrackDirection.tryFrom (written.getD 0) = .ok configuration.direction := by
  unfold fields
  cases configuration.direction with
  | downlink => exact ⟨none, rfl, rfl⟩
  | uplink => exact ⟨some 1, rfl, rfl⟩

theorem decode_fields (valid : configuration.validate probe = .ok ()) {kind : Value}
    (written : configuration.kind.toValue = .ok kind) :
    decode configuration.trackId (.map (configuration.fields kind)) probe = .ok configuration := by
  obtain ⟨direction, held, read⟩ := configuration.direction_of_fields kind
  unfold decode
  rw [opened, ok_bind, @StrictMap.requiredU64_of_lookup _ 2 configuration.trackId rfl, ok_bind,
    validateHeaderObject_self, ok_bind,
    @StrictMap.requiredU64_of_lookup _ 3 configuration.kind.kind.toWord rfl, ok_bind,
    TrackKind.tryFrom_toWord, ok_bind, StrictMap.optionalU64_eq_ok.mpr held, ok_bind, read, ok_bind,
    @StrictMap.requiredU64_of_lookup _ 0 configuration.contextId rfl, ok_bind,
    @StrictMap.requiredU64_of_lookup _ 1 configuration.surfaceId rfl, ok_bind,
    @StrictMap.requiredU64_of_lookup _ 4 configuration.slot rfl, ok_bind,
    @StrictMap.requiredU64_of_lookup _ 5 configuration.mode.toWord rfl, ok_bind,
    TrackMode.tryFrom_toWord, ok_bind,
    @StrictMap.requiredU64_of_lookup _ 6 configuration.lane.toWord rfl, ok_bind,
    LaneClass.tryFrom_toWord, ok_bind,
    @requiredU32_of_lookup _ 7 configuration.maximumRecordBody rfl, ok_bind,
    @StrictMap.requiredU64_of_lookup _ 8 configuration.maximumRateMillihertz rfl, ok_bind,
    @StrictMap.requiredU64_of_lookup _ 9 configuration.maximumEncodedBitsPerSecond rfl, ok_bind,
    @StrictMap.requiredU64_of_lookup _ 10 configuration.maximumRecordsPerSecond rfl, ok_bind,
    @StrictMap.requiredU64_of_lookup _ 11 configuration.maximumInflightBodyBytes rfl, ok_bind,
    @StrictMap.required_iff _ 12 kind |>.mpr rfl, ok_bind,
    (KindConfiguration.toValue_readsBack written).1, ok_bind,
    @StrictMap.requiredU64_of_lookup _ 13 configuration.targetLatencyUs rfl, ok_bind,
    @StrictMap.requiredU64_of_lookup _ 14 configuration.maximumLatencyUs rfl, ok_bind,
    @StrictMap.requiredU64_of_lookup _ 15 configuration.retainedPixelCharge rfl, ok_bind]
  simp only [valid, ok_bind]

theorem fits {kind : Value} (written : configuration.kind.toValue = .ok kind) :
    Value.Fits (maxDepth + 1) (.map (configuration.fields kind)) := by
  have inner : kind.Fits maxDepth := (KindConfiguration.toValue_readsBack written).2
  refine Value.fits_map.mpr ⟨?_, ?_, ?_⟩
  · unfold fields
    cases configuration.direction <;> simp [Cbor.maxContainerLength]
  · unfold fields
    cases configuration.direction <;> rfl
  · have plain : ∀ value : UInt64, Value.Fits maxDepth (.unsigned value) :=
      Value.fits_unsigned
    unfold fields
    cases configuration.direction <;> simp [plain, inner]

/-- What is read has passed the check under the track ID of the header. -/
theorem decode_checked {above : UInt64} {payload : Value}
    (accepted : decode above payload probe = .ok configuration) :
    above = configuration.trackId ∧ configuration.validate probe = .ok () := by
  obtain ⟨map, -, accepted⟩ := bind_eq_ok_iff.mp accepted
  obtain ⟨trackId, -, accepted⟩ := bind_eq_ok_iff.mp accepted
  obtain ⟨_, header, accepted⟩ := bind_eq_ok_iff.mp accepted
  -- The other fields are read between the two checks.
  iterate 21 obtain ⟨_, -, accepted⟩ := bind_eq_ok_iff.mp accepted
  obtain ⟨_, valid, same⟩ := bind_eq_ok_iff.mp accepted
  cases same
  exact ⟨validateHeaderObject_eq_ok.mp header, valid⟩

end TrackConfiguration

/-- What a configuration is written as is read back as itself, also through its bytes,
and a configuration that was read passes its check and is written and read again. -/
theorem track_configurations_survive :
    (∀ (configuration : TrackConfiguration) (probe : Bool) (payload : PayloadMap),
      configuration.payload probe = .ok payload →
        TrackConfiguration.decode configuration.trackId (.map payload) probe = .ok configuration ∧
          ∃ bytes, Cbor.encode (.map payload) = .ok bytes ∧
            ∃ value, Cbor.decode bytes = .ok value ∧
              TrackConfiguration.decode configuration.trackId value probe = .ok configuration) ∧
      ∀ (headerObjectId : UInt64) (payload : Value) (probe : Bool)
        (configuration : TrackConfiguration),
        TrackConfiguration.decode headerObjectId payload probe = .ok configuration →
          configuration.validate probe = .ok () ∧
            ∃ written, configuration.payload probe = .ok written ∧
              TrackConfiguration.decode headerObjectId (.map written) probe =
                .ok configuration := by
  constructor
  · intro configuration probe payload sent
    obtain ⟨valid, kind, written, same⟩ := TrackConfiguration.payload_eq_ok.mp sent
    rw [← same]
    have read := TrackConfiguration.decode_fields valid written
    obtain ⟨bytes, encoded, decoded⟩ := (TrackConfiguration.fits written).throughBytes
    exact ⟨read, bytes, encoded, _, decoded, read⟩
  · intro headerObjectId payload probe configuration accepted
    obtain ⟨header, valid⟩ := TrackConfiguration.decode_checked accepted
    obtain ⟨kind, written⟩ := TrackConfiguration.toValue_of_valid valid
    rw [header]
    exact ⟨valid, configuration.fields kind,
      TrackConfiguration.payload_eq_ok.mpr ⟨valid, kind, written, rfl⟩,
      TrackConfiguration.decode_fields valid written⟩

/-- A microphone track: uplink, live and realtime, with its limits. -/
def microphone : TrackConfiguration :=
  { direction := .uplink
    contextId := 1
    surfaceId := 1
    trackId := 7
    slot := 0
    mode := .live
    lane := .realtime
    maximumRecordBody := 65584
    maximumRateMillihertz := 50000
    maximumEncodedBitsPerSecond := 1536000
    maximumRecordsPerSecond := 50
    maximumInflightBodyBytes := 65584
    kind := .audio
      { codec := "pcm_s16le"
        packetization := "pcm-packet-v1"
        extradata := []
        sampleRate := 48000
        channels := 2
        channelMask := 3
        maximumAccessUnitBytes := 65536
        codecString := none }
    targetLatencyUs := 20000
    maximumLatencyUs := 100000
    retainedPixelCharge := 0 }

theorem track_configurations_survive_microphone :
    ∃ payload, microphone.payload false = .ok payload ∧
      TrackConfiguration.decode 7 (.map payload) false = .ok microphone ∧
        microphone.validate false = .ok () := by
  have valid : microphone.validate false = .ok () := rfl
  obtain ⟨kind, written⟩ := TrackConfiguration.toValue_of_valid valid
  have sent := TrackConfiguration.payload_eq_ok.mpr ⟨valid, kind, written, rfl⟩
  have read := (track_configurations_survive.1 microphone false _ sent).1
  exact ⟨_, sent, read, (track_configurations_survive.2 _ _ _ _ read).1⟩

end VividProtocol.Track

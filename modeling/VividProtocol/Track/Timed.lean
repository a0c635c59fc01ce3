import Mathlib.Tactic
import VividProtocol.Control.ErrorReply
import VividProtocol.Track.Survival

/-!
# Timed playback

The records of `timed.rs`: how a producer starts playback, how a presenter holds
it, and how it asks for a keyframe when the surface resumes.  Positions carry a
sign, so a decoder is an inverse of its writer on what came through an envelope.
-/

set_option autoImplicit false

namespace VividProtocol

/-- `fmt::Display`. -/
def MessageError.display : MessageError → String
  | .cbor message => "CBOR error: " ++ message
  | .expectedMap schema => schema ++ " is not a map"
  | .missingKey schema key => schema ++ " omits key " ++ toString key
  | .unknownKey schema key => schema ++ " contains unknown key " ++ toString key
  | .wrongType schema key => schema ++ " key " ++ toString key ++ " has the wrong type"
  | .invalidValue schema key reason => schema ++ " key " ++ toString key ++ " " ++ reason
  | .headerObjectMismatch header payload =>
      "record object ID " ++ toString header ++ " does not match payload object ID " ++
        toString payload

/-- `From<MessageError>` for `io::Error`. -/
def orIoError {α : Type} : Except MessageError α → Except IoError α
  | .ok value => .ok value
  | .error error => .error ⟨.invalidData, error.display⟩

theorem orIoError_eq_ok {α : Type} {result : Except MessageError α} {value : α} :
    orIoError result = .ok value ↔ result = .ok value := by
  cases result <;> simp [orIoError]

end VividProtocol

namespace VividProtocol.Track

open VividProtocol.Cbor
open VividProtocol.Input (signed signed_asI64)
open VividProtocol.Library
open VividProtocol.Library.Result
open VividProtocol.Library.Codec
open VividProtocol.Library.Association

def PRESENTATION_RESUMED : UInt64 := 6

def invalidData (message : String) : IoError := ⟨.invalidData, message⟩

/-- `as_i64().ok_or_else(..)`. -/
def orNoInteger (message : String) (value : Value) : Except IoError Int64 :=
  match value.asI64 with
  | some word => .ok word
  | none => .error (invalidData message)

structure TrackAddress where
  contextId : UInt64
  surfaceId : UInt64
  trackId : UInt64
  channelGeneration : ChannelGeneration
  deriving Repr, DecidableEq

namespace TrackAddress

/-- `TrackAddress::prefix`. -/
def leading (address : TrackAddress) : PayloadMap :=
  [(0, .unsigned address.contextId),
    (1, .unsigned address.surfaceId),
    (2, .unsigned address.trackId),
    (3, .unsigned address.channelGeneration.value)]

/-- No part of the address is zero. -/
structure Named (address : TrackAddress) : Prop where
  contextId : address.contextId ≠ 0
  surfaceId : address.surfaceId ≠ 0
  trackId : address.trackId ≠ 0
  channelGeneration : address.channelGeneration.value ≠ 0

end TrackAddress

def needKeyframePayload (address : TrackAddress) (minimumEpoch : UInt32) (reason : UInt64) :
    PayloadMap :=
  address.leading ++ [(4, .unsigned minimumEpoch.toUInt64), (5, .unsigned reason)]

structure NeedKeyframe where
  address : TrackAddress
  minimumEpoch : UInt32
  reason : UInt64
  presentationPtsUs : Option Int64
  holdSerial : Option UInt64
  deriving Repr, DecidableEq

/-- Key 6 is only looked at. -/
def NeedKeyframe.decode (value : Value) : Except IoError NeedKeyframe := do
  let map ← orIoError (StrictMap.new "NEED_KEYFRAME" value [0, 1, 2, 3, 4, 5, 6, 7, 8])
  let _ ← orIoError (map.optionalU64 6)
  let contextId ← orIoError (map.requiredU64 0)
  let surfaceId ← orIoError (map.requiredU64 1)
  let trackId ← orIoError (map.requiredU64 2)
  let channelGeneration ← orIoError (map.requiredU64 3)
  let minimumEpoch ← orIoError (map.requiredU32 4)
  let reason ← orIoError (map.requiredU64 5)
  let presentationPtsUs ← transpose (orNoInteger "invalid recovery PTS") (map.optional 7)
  let holdSerial ← orIoError (map.optionalU64 8)
  if contextId = 0 ∨ surfaceId = 0 ∨ trackId = 0 ∨ channelGeneration = 0 ∨
      ¬ (1 ≤ reason ∧ reason ≤ PRESENTATION_RESUMED) ∨ holdSerial = some 0 ∨
      reason = PRESENTATION_RESUMED ∧ holdSerial = none ∨
      reason ≠ PRESENTATION_RESUMED ∧ (holdSerial ≠ none ∨ presentationPtsUs ≠ none) then
    .error (invalidData "invalid recovery reason or correlation")
  else
    .ok
      { address := ⟨contextId, surfaceId, trackId, ⟨channelGeneration⟩⟩
        minimumEpoch := minimumEpoch
        reason := reason
        presentationPtsUs := presentationPtsUs
        holdSerial := holdSerial }

inductive StartPolicy where
  | afterMinimumBuffer
  | synchronized
  deriving Repr, DecidableEq

namespace StartPolicy

def toWord : StartPolicy → UInt64
  | .afterMinimumBuffer => 1
  | .synchronized => 2

/-- The match of `PlayOptions::decode`. -/
def ofWord (value : UInt64) : Except IoError StartPolicy :=
  if value = 1 then .ok .afterMinimumBuffer
  else if value = 2 then .ok .synchronized
  else .error (invalidData "unsupported PLAY start policy")

theorem ofWord_eq_ok {value : UInt64} {policy : StartPolicy} :
    ofWord value = .ok policy ↔ value = policy.toWord := by
  constructor
  · intro read
    unfold ofWord at read
    split_ifs at read <;> cases read <;> assumption
  · intro same
    rw [same]
    cases policy <;> rfl

end StartPolicy

structure PlayOptions where
  startPtsUs : Int64
  minimumBufferUs : UInt64
  maximumLatencyUs : UInt64
  startPolicy : StartPolicy
  holdSerial : Option UInt64
  deriving Repr, DecidableEq

namespace PlayOptions

/-- The fields of a `PLAY`, at unit rate and without loops. -/
def fields (options : PlayOptions) (address : TrackAddress) : PayloadMap :=
  let always : PayloadMap :=
    [(0, .unsigned address.contextId),
      (1, .unsigned address.surfaceId),
      (2, .unsigned address.trackId),
      (3, signed options.startPtsUs),
      (4, .unsigned options.minimumBufferUs),
      (5, .unsigned options.maximumLatencyUs),
      (6, .unsigned ((1 : UInt64) <<< 32)),
      (7, .unsigned 1),
      (8, .unsigned 0),
      (9, .unsigned options.startPolicy.toWord),
      (10, .unsigned address.channelGeneration.value)]
  always ++ entry 11 (options.holdSerial.map .unsigned)

def payload (options : PlayOptions) (address : TrackAddress) : Except IoError PayloadMap :=
  if address.contextId = 0 ∨ address.surfaceId = 0 ∨ address.trackId = 0 ∨
      address.channelGeneration.value = 0 ∨
      options.maximumLatencyUs < options.minimumBufferUs ∨ options.holdSerial = some 0 ∨
      options.holdSerial ≠ none ∧ options.startPolicy ≠ .synchronized then
    .error (invalidData "invalid timed playback options")
  else .ok (options.fields address)

def decode (value : Value) : Except IoError (TrackAddress × PlayOptions) := do
  let map ← orIoError (StrictMap.new "PLAY" value [0, 1, 2, 3, 4, 5, 6, 7, 8, 9, 10, 11])
  let contextId ← orIoError (map.requiredU64 0)
  let surfaceId ← orIoError (map.requiredU64 1)
  let trackId ← orIoError (map.requiredU64 2)
  let channelGeneration ← orIoError (map.requiredU64 10)
  let address : TrackAddress := ⟨contextId, surfaceId, trackId, ⟨channelGeneration⟩⟩
  let supported ← unitRate map
  if ¬ supported then
    .error (invalidData "unsupported PLAY rate, late policy or loop count")
  else do
    let startPts ← orIoError (map.required 3)
    let startPtsUs ← orNoInteger "invalid PLAY PTS" startPts
    let minimumBufferUs ← orIoError (map.requiredU64 4)
    let maximumLatencyUs ← orIoError (map.requiredU64 5)
    let policy ← orIoError (map.requiredU64 9)
    let startPolicy ← StartPolicy.ofWord policy
    let holdSerial ← orIoError (map.optionalU64 11)
    let options : PlayOptions :=
      { startPtsUs := startPtsUs
        minimumBufferUs := minimumBufferUs
        maximumLatencyUs := maximumLatencyUs
        startPolicy := startPolicy
        holdSerial := holdSerial }
    let _ ← options.payload address
    .ok (address, options)
where
  /-- The `||` stops at the first part that differs. -/
  unitRate (map : StrictMap) : Except IoError Bool := do
    let rate ← orIoError (map.requiredU64 6)
    if rate ≠ (1 : UInt64) <<< 32 then .ok false
    else do
      let late ← orIoError (map.requiredU64 7)
      if late ≠ 1 then .ok false
      else do
        let loops ← orIoError (map.requiredU64 8)
        .ok (decide (loops = 0))

end PlayOptions

structure HeldPosition where
  trackId : UInt64
  channelGeneration : UInt64
  epoch : UInt32
  ptsUs : Int64
  estimated : Bool
  deriving Repr, DecidableEq

namespace HeldPosition

def fields (position : HeldPosition) : PayloadMap :=
  [(0, .unsigned position.trackId),
    (1, .unsigned position.channelGeneration),
    (2, .unsigned position.epoch.toUInt64),
    (3, signed position.ptsUs),
    (4, .bool position.estimated)]

def decode (value : Value) : Except IoError HeldPosition := do
  let map ← orIoError (StrictMap.new "held position" value [0, 1, 2, 3, 4])
  let trackId ← orIoError (map.requiredU64 0)
  let channelGeneration ← orIoError (map.requiredU64 1)
  let epoch ← orIoError (map.requiredU32 2)
  let pts ← orIoError (map.required 3)
  let ptsUs ← orNoInteger "invalid held PTS" pts
  let estimated ← orIoError (map.requiredBool 4)
  .ok
    { trackId := trackId
      channelGeneration := channelGeneration
      epoch := epoch
      ptsUs := ptsUs
      estimated := estimated }

end HeldPosition

structure PlaybackHold where
  contextId : UInt64
  surfaceId : UInt64
  serial : UInt64
  held : Bool
  reasons : UInt64
  playingIntent : Bool
  recoveryRequired : Bool
  position : Option HeldPosition
  deriving Repr, DecidableEq

namespace PlaybackHold

def fields (hold : PlaybackHold) : PayloadMap :=
  let always : PayloadMap :=
    [(0, .unsigned hold.contextId),
      (1, .unsigned hold.surfaceId),
      (2, .unsigned hold.serial),
      (3, .bool hold.held),
      (4, .unsigned hold.reasons),
      (5, .bool hold.playingIntent),
      (6, .bool hold.recoveryRequired)]
  always ++ entry 7 (hold.position.map fun position => .map position.fields)

/-- `is_some_and` on the position. -/
def unqualified (hold : PlaybackHold) : Bool :=
  hold.position.any fun position => position.trackId == 0 || position.channelGeneration == 0

def payload (hold : PlaybackHold) : Except IoError PayloadMap :=
  if hold.contextId = 0 ∨ hold.surfaceId = 0 ∨ hold.serial = 0 ∨ hold.reasons &&& ~~~15 ≠ 0 ∨
      hold.held = true ∧ hold.reasons = 0 ∨ hold.held = false ∧ hold.reasons ≠ 0 ∨
      hold.unqualified = true then
    .error (invalidData "invalid playback hold")
  else .ok hold.fields

def decode (value : Value) : Except IoError PlaybackHold := do
  let map ← orIoError (StrictMap.new "PLAYBACK_HOLD" value [0, 1, 2, 3, 4, 5, 6, 7])
  let position ← transpose HeldPosition.decode (map.optional 7)
  let contextId ← orIoError (map.requiredU64 0)
  let surfaceId ← orIoError (map.requiredU64 1)
  let serial ← orIoError (map.requiredU64 2)
  let held ← orIoError (map.requiredBool 3)
  let reasons ← orIoError (map.requiredU64 4)
  let playingIntent ← orIoError (map.requiredBool 5)
  let recoveryRequired ← orIoError (map.requiredBool 6)
  let hold : PlaybackHold :=
    { contextId := contextId
      surfaceId := surfaceId
      serial := serial
      held := held
      reasons := reasons
      playingIntent := playingIntent
      recoveryRequired := recoveryRequired
      position := position }
  let _ ← hold.payload
  .ok hold

end PlaybackHold

/-! ## Readers -/

section Readers

variable {levels : Nat} {entries : PayloadMap} {message : String}

theorem toInt_toInt64 {word : UInt64} (small : word.toNat < 2 ^ 63) :
    word.toInt64.toInt = word.toNat := by
  have half : 2 * word.toBitVec.toNat < 2 ^ 64 := by
    rw [UInt64.toNat_toBitVec]
    omega
  rw [← UInt64.toNat_toBitVec, ← BitVec.toInt_eq_toNat_of_lt half, ← UInt64.toBitVec_toInt64]
  rfl

/-- A sign is written in one way only. -/
theorem asI64_eq_some {value : Value} {word : Int64} (fits : value.Fits levels) :
    value.asI64 = some word ↔ value = signed word := by
  constructor
  · intro read
    cases levels with
    | zero => exact fits.elim
    | succ levels =>
        cases value with
        | unsigned number =>
            simp only [Value.asI64, Option.ite_none_right_eq_some, Option.some.injEq] at read
            obtain ⟨small, rfl⟩ := read
            have positive : 0 ≤ number.toInt64 := by
              rw [Int64.le_iff_toInt_le, toInt_toInt64 small]
              exact Int.natCast_nonneg _
            rw [signed, if_pos positive, UInt64.toUInt64_toInt64]
        | negative number =>
            simp only [Value.asI64, Option.some.injEq] at read
            rw [← read, signed, if_neg (Int64.not_le.mpr fits)]
        | _ => cases read
  · intro same
    rw [same, signed_asI64]

theorem orNoInteger_eq_ok {value : Value} {word : Int64} (fits : value.Fits levels) :
    orNoInteger message value = .ok word ↔ value = signed word := by
  rw [← asI64_eq_some fits, orNoInteger]
  cases value.asI64 <;> simp

theorem optional_orNoInteger_eq_ok {key : UInt64} {map : StrictMap} {part : Option Int64}
    (fits : (Value.map map.entries).Fits (levels + 1)) :
    transpose (orNoInteger message) (map.optional key) = .ok part ↔
      map.entries.lookup key = part.map signed := by
  unfold StrictMap.optional
  cases held : map.entries.lookup key with
  | none => cases part <;> simp [transpose]
  | some value =>
      have each := fits.2.2 _ (mem_of_lookup held)
      cases part with
      | none => simp [transpose, bind_eq_ok_iff]
      | some word => simp [transpose, bind_eq_ok_iff, orNoInteger_eq_ok each]

/-- A map that fits and has known keys only is its parts under these keys. -/
theorem assemble_fits {known : List UInt64} (fits : (Value.map entries).Fits (levels + 1))
    (ordered : known.Pairwise (· < ·)) (only : ∀ entry ∈ entries, entry.1 ∈ known) :
    assemble known (fun key => entries.lookup key) = entries := by
  refine StrictMap.assemble_sorted ?_ ordered only
  rw [← unsorted_eq_false, ← unsortedKeys_eq]
  exact fits.2.1

theorem lookup_optional {always : PayloadMap} {key : UInt64} {part : Option Value}
    (absent : always.lookup key = none) : (always ++ entry key part).lookup key = part := by
  rw [List.lookup_append, absent, Option.none_or, lookup_entry, if_pos (beq_self_eq_true key)]

theorem entry_keys (key : UInt64) (part : Option Value) :
    ((entry key part).map Prod.fst).Sublist [key] := by
  cases part with
  | none => exact List.nil_sublist [key]
  | some value => exact List.Sublist.refl [key]

/-- The keys of a map with one optional part at its end. -/
theorem mem_known {always : PayloadMap} {key : UInt64} {part : Option Value} :
    ∀ pair ∈ always ++ entry key part, pair.1 ∈ always.map Prod.fst ++ [key] := by
  intro pair among
  have kept : ((always ++ entry key part).map Prod.fst).Sublist (always.map Prod.fst ++ [key]) := by
    rw [List.map_append]
    exact (List.Sublist.refl _).append (entry_keys key part)
  exact kept.subset (List.mem_map_of_mem among)

end Readers

/-! ## What the decoders read -/

section Decoders

variable {levels : Nat} {entries : PayloadMap}

namespace PlayOptions

variable {options : PlayOptions} {address : TrackAddress}

/-- What the writer checks. -/
structure Legal (options : PlayOptions) (address : TrackAddress) : Prop where
  named : address.Named
  buffered : options.minimumBufferUs ≤ options.maximumLatencyUs
  correlated : options.holdSerial ≠ some 0
  resumed : options.holdSerial ≠ none → options.startPolicy = .synchronized

theorem payload_eq_ok :
    options.payload address = .ok entries ↔
      options.Legal address ∧ options.fields address = entries := by
  unfold payload
  rw [ite_error_eq_ok_iff, Except.ok.injEq]
  refine and_congr_left fun _ => ?_
  simp only [not_or, not_and, not_not, UInt64.not_lt]
  constructor
  · rintro ⟨context, surface, track, generation, buffered, correlated, resumed⟩
    exact ⟨⟨context, surface, track, generation⟩, buffered, correlated, resumed⟩
  · rintro ⟨⟨context, surface, track, generation⟩, buffered, correlated, resumed⟩
    exact ⟨context, surface, track, generation, buffered, correlated, resumed⟩

theorem unitRate_eq_ok {map : StrictMap} :
    decode.unitRate map = .ok true ↔
      map.entries.lookup 6 = some (.unsigned ((1 : UInt64) <<< 32)) ∧
      map.entries.lookup 7 = some (.unsigned 1) ∧ map.entries.lookup 8 = some (.unsigned 0) := by
  have gate : ∀ {apart : Prop} [Decidable apart] {rest : Except IoError Bool},
      (if apart then .ok false else rest) = .ok true ↔ ¬ apart ∧ rest = .ok true := by
    intro apart _ rest
    by_cases holds : apart <;> simp [holds]
  simp only [decode.unitRate, bind_eq_ok_iff, orIoError_eq_ok, StrictMap.requiredU64_iff, gate,
    not_not, Except.ok.injEq, decide_eq_true_eq]
  constructor
  · rintro ⟨_, six, rfl, _, seven, rfl, _, eight, rfl⟩
    exact ⟨six, seven, eight⟩
  · rintro ⟨six, seven, eight⟩
    exact ⟨_, six, rfl, _, seven, rfl, _, eight, rfl⟩

/-- The decoder accepts what the writer writes, and nothing else. -/
theorem decode_eq_ok (fits : (Value.map entries).Fits (levels + 1)) :
    decode (.map entries) = .ok (address, options) ↔ options.payload address = .ok entries := by
  unfold decode
  simp only [bind_eq_ok_iff, orIoError_eq_ok, StrictMap.new_eq_ok, StrictMap.requiredU64_iff,
    StrictMap.required_iff, StrictMap.optionalU64_eq_ok, StartPolicy.ofWord_eq_ok,
    ite_error_eq_ok_iff, not_not, Except.ok.injEq]
  constructor
  · rintro ⟨map, ⟨-, same, known⟩, contextId, zero, surfaceId, one, trackId, two, generation, ten,
      _, rate, rfl, start, three, startPtsUs, position, minimum, four, maximum, five, _, nine,
      policy, rfl, serial, eleven, written, checked, built⟩
    obtain ⟨rfl, rfl⟩ := Prod.mk.inj built
    have held := Value.map.inj same
    obtain ⟨six, seven, eight⟩ := unitRate_eq_ok.mp rate
    rw [← held] at known zero one two three four five six seven eight nine ten eleven
    have first : start = signed startPtsUs :=
      (orNoInteger_eq_ok (fits.2.2 (3, start) (mem_of_lookup three))).mp position
    rw [first] at three
    refine payload_eq_ok.mpr ⟨(payload_eq_ok.mp checked).1, ?_⟩
    rw [← assemble_fits fits (by decide) known]
    simp only [assemble_cons, assemble_nil, zero, one, two, three, four, five, six, seven, eight,
      nine, ten, eleven, entry_some, List.append_nil]
    rfl
  · intro written
    obtain ⟨legal, rfl⟩ := payload_eq_ok.mp written
    have position : orNoInteger "invalid PLAY PTS" (signed options.startPtsUs) =
        .ok options.startPtsUs := by
      rw [orNoInteger, signed_asI64]
    refine ⟨⟨"PLAY", options.fields address⟩, ⟨rfl, rfl, ?_⟩, _, rfl, _, rfl, _, rfl, _, rfl, true,
      unitRate_eq_ok.mpr ⟨rfl, rfl, rfl⟩, rfl, _, rfl, _, position, _, rfl, _, rfl, _, rfl, _, rfl,
      options.holdSerial, ?_, _, written, rfl⟩
    · exact mem_known
    · exact lookup_optional rfl

end PlayOptions

namespace HeldPosition

variable {position : HeldPosition} {value : Value}

theorem decode_eq_ok (fits : value.Fits (levels + 1)) :
    decode value = .ok position ↔ value = .map position.fields := by
  unfold decode
  simp only [bind_eq_ok_iff, orIoError_eq_ok, StrictMap.new_eq_ok, StrictMap.requiredU64_iff,
    StrictMap.requiredU32_eq_ok, StrictMap.required_iff, StrictMap.requiredBool_iff,
    Except.ok.injEq]
  constructor
  · rintro ⟨map, ⟨-, rfl, known⟩, trackId, zero, generation, one, epoch, two, pts, three, ptsUs,
      read, estimated, four, rfl⟩
    have first : pts = signed ptsUs :=
      (orNoInteger_eq_ok (fits.2.2 (3, pts) (mem_of_lookup three))).mp read
    rw [first] at three
    rw [← assemble_fits fits (by decide) known]
    simp only [assemble_cons, assemble_nil, zero, one, two, three, four, entry_some]
    rfl
  · rintro rfl
    have read : orNoInteger "invalid held PTS" (signed position.ptsUs) = .ok position.ptsUs := by
      rw [orNoInteger, signed_asI64]
    exact ⟨⟨"held position", position.fields⟩, ⟨rfl, rfl, fun _ among => List.mem_map_of_mem among⟩,
      _, rfl, _, rfl, _, rfl, _, rfl, _, read, _, rfl, rfl⟩

end HeldPosition

namespace PlaybackHold

variable {hold : PlaybackHold}

/-- What the writer checks: the known reasons, some when held and none otherwise, and
a position that is under a clock. -/
structure Legal (hold : PlaybackHold) : Prop where
  contextId : hold.contextId ≠ 0
  surfaceId : hold.surfaceId ≠ 0
  serial : hold.serial ≠ 0
  known : hold.reasons &&& ~~~15 = 0
  held : hold.held = true ↔ hold.reasons ≠ 0
  clocked : ∀ position, hold.position = some position →
    position.trackId ≠ 0 ∧ position.channelGeneration ≠ 0

theorem qualified_iff : ¬ hold.unqualified = true ↔
    ∀ position, hold.position = some position →
      position.trackId ≠ 0 ∧ position.channelGeneration ≠ 0 := by
  unfold unqualified
  cases hold.position <;> simp

theorem payload_eq_ok : hold.payload = .ok entries ↔ hold.Legal ∧ hold.fields = entries := by
  unfold payload
  rw [ite_error_eq_ok_iff, Except.ok.injEq]
  refine and_congr_left fun _ => ?_
  simp only [not_or, not_and, not_not, qualified_iff]
  constructor
  · rintro ⟨context, surface, serial, known, some, none, clocked⟩
    refine ⟨context, surface, serial, known, ⟨some, fun reasons => ?_⟩, clocked⟩
    exact Bool.not_eq_false _ ▸ fun free => reasons (none free)
  · rintro ⟨context, surface, serial, known, held, clocked⟩
    refine ⟨context, surface, serial, known, held.mp, fun free => ?_, clocked⟩
    by_contra reasons
    rw [held.mpr reasons] at free
    cases free

theorem optional_position_eq_ok {map : StrictMap} {part : Option HeldPosition}
    (fits : (Value.map map.entries).Fits (levels + 2)) :
    transpose HeldPosition.decode (map.optional 7) = .ok part ↔
      map.entries.lookup 7 = part.map fun position => .map position.fields := by
  unfold StrictMap.optional
  cases held : map.entries.lookup 7 with
  | none => cases part <;> simp [transpose]
  | some value =>
      have each := fits.2.2 _ (mem_of_lookup held)
      cases part with
      | none => simp [transpose, bind_eq_ok_iff]
      | some position => simp [transpose, bind_eq_ok_iff, HeldPosition.decode_eq_ok each]

/-- The decoder accepts what the writer writes, and nothing else. -/
theorem decode_eq_ok (fits : (Value.map entries).Fits (levels + 2)) :
    decode (.map entries) = .ok hold ↔ hold.payload = .ok entries := by
  unfold decode
  simp only [bind_eq_ok_iff, orIoError_eq_ok, StrictMap.new_eq_ok, StrictMap.requiredU64_iff,
    StrictMap.requiredBool_iff, Except.ok.injEq]
  constructor
  · rintro ⟨map, ⟨-, same, known⟩, position, seven, contextId, zero, surfaceId, one, serial, two,
      held, three, reasons, four, intent, five, recovery, six, written, checked, rfl⟩
    have content := Value.map.inj same
    rw [content] at fits
    rw [optional_position_eq_ok fits] at seven
    rw [← content] at fits known zero one two three four five six seven
    refine payload_eq_ok.mpr ⟨(payload_eq_ok.mp checked).1, ?_⟩
    rw [← assemble_fits fits (by decide) known]
    simp only [assemble_cons, assemble_nil, zero, one, two, three, four, five, six, seven,
      entry_some, List.append_nil]
    rfl
  · intro written
    obtain ⟨legal, rfl⟩ := payload_eq_ok.mp written
    exact ⟨⟨"PLAYBACK_HOLD", hold.fields⟩, ⟨rfl, rfl, mem_known⟩, hold.position,
      (optional_position_eq_ok fits).mpr (lookup_optional rfl), _, rfl, _, rfl, _, rfl, _, rfl, _,
      rfl, _, rfl, _, rfl, _, written, rfl⟩

end PlaybackHold

namespace NeedKeyframe

variable {request : NeedKeyframe}

/-- What the decoder checks: only a resume is correlated to a hold, and every resume is. -/
structure Legal (request : NeedKeyframe) : Prop where
  named : request.address.Named
  known : 1 ≤ request.reason ∧ request.reason ≤ PRESENTATION_RESUMED
  correlated : request.holdSerial ≠ some 0
  resumed : request.reason = PRESENTATION_RESUMED ↔ request.holdSerial ≠ none
  positioned : request.presentationPtsUs ≠ none → request.reason = PRESENTATION_RESUMED

/-- The condition of the decoder. -/
theorem checked_iff :
    ¬ (request.address.contextId = 0 ∨ request.address.surfaceId = 0 ∨
        request.address.trackId = 0 ∨ request.address.channelGeneration.value = 0 ∨
        ¬ (1 ≤ request.reason ∧ request.reason ≤ PRESENTATION_RESUMED) ∨
        request.holdSerial = some 0 ∨
        request.reason = PRESENTATION_RESUMED ∧ request.holdSerial = none ∨
        request.reason ≠ PRESENTATION_RESUMED ∧
          (request.holdSerial ≠ none ∨ request.presentationPtsUs ≠ none)) ↔ request.Legal := by
  constructor
  · intro checked
    simp only [not_or, not_not] at checked
    obtain ⟨context, surface, track, channel, range, nonzero, resumed, plain⟩ := checked
    refine ⟨⟨context, surface, track, channel⟩, range, nonzero, ⟨?_, ?_⟩, ?_⟩
    · exact fun reason none => resumed ⟨reason, none⟩
    · exact fun serial => by_contra fun reason => plain ⟨reason, .inl serial⟩
    · exact fun pts => by_contra fun reason => plain ⟨reason, .inr pts⟩
  · rintro ⟨⟨context, surface, track, channel⟩, range, nonzero, resumed, positioned⟩
    rintro (zero | zero | zero | zero | outside | zero | ⟨reason, none⟩ | ⟨reason, serial | pts⟩)
    · exact context zero
    · exact surface zero
    · exact track zero
    · exact channel zero
    · exact outside range
    · exact nonzero zero
    · exact resumed.mp reason none
    · exact reason (resumed.mpr serial)
    · exact reason (positioned pts)

/-- The optional fields of a request, with the one that is only looked at. -/
def correlation (request : NeedKeyframe) (ignored : Option UInt64) : PayloadMap :=
  entry 6 (ignored.map .unsigned) ++ (entry 7 (request.presentationPtsUs.map signed) ++
    entry 8 (request.holdSerial.map .unsigned))

def fields (request : NeedKeyframe) (ignored : Option UInt64) : PayloadMap :=
  needKeyframePayload request.address request.minimumEpoch request.reason ++
    request.correlation ignored

theorem fields_keys (request : NeedKeyframe) (ignored : Option UInt64) :
    ((request.fields ignored).map Prod.fst).Sublist [0, 1, 2, 3, 4, 5, 6, 7, 8] := by
  rw [fields, List.map_append, correlation, List.map_append, List.map_append]
  exact (List.Sublist.refl [0, 1, 2, 3, 4, 5]).append
    ((entry_keys 6 _).append ((entry_keys 7 _).append (entry_keys 8 _)))

theorem decode_eq_ok (fits : (Value.map entries).Fits (levels + 1)) :
    decode (.map entries) = .ok request ↔
      request.Legal ∧ ∃ ignored, request.fields ignored = entries := by
  unfold decode
  simp only [bind_eq_ok_iff, orIoError_eq_ok, StrictMap.new_eq_ok, StrictMap.requiredU64_iff,
    StrictMap.requiredU32_eq_ok, StrictMap.optionalU64_eq_ok, ite_error_eq_ok_iff,
    Except.ok.injEq]
  constructor
  · rintro ⟨map, ⟨-, same, known⟩, ignored, six, contextId, zero, surfaceId, one, trackId, two,
      generation, three, epoch, four, reason, five, pts, seven, serial, eight, checked, rfl⟩
    have content := Value.map.inj same
    rw [content] at fits
    rw [optional_orNoInteger_eq_ok fits] at seven
    rw [← content] at fits known zero one two three four five six seven eight
    refine ⟨checked_iff.mp checked, ignored, ?_⟩
    rw [← assemble_fits fits (by decide) known]
    simp only [assemble_cons, assemble_nil, zero, one, two, three, four, five, six, seven, eight,
      entry_some, List.append_nil]
    rfl
  · rintro ⟨legal, ignored, rfl⟩
    have optional : ∀ key part, (request.correlation ignored).lookup key = part →
        (needKeyframePayload request.address request.minimumEpoch request.reason).lookup key =
          none → (request.fields ignored).lookup key = part := by
      intro key part held absent
      rw [fields, List.lookup_append, absent, Option.none_or, held]
    refine ⟨⟨"NEED_KEYFRAME", request.fields ignored⟩, ⟨rfl, rfl, fun _ among =>
      (request.fields_keys ignored).subset (List.mem_map_of_mem among)⟩, ignored, ?_, _, rfl,
      _, rfl, _, rfl, _, rfl, _, rfl, _, rfl, request.presentationPtsUs, ?_,
      request.holdSerial, ?_, checked_iff.mpr legal, rfl⟩
    · refine optional 6 _ ?_ rfl
      simp [correlation, List.lookup_append, lookup_entry]
    · refine (optional_orNoInteger_eq_ok fits).mpr (optional 7 _ ?_ rfl)
      simp [correlation, List.lookup_append, lookup_entry]
    · refine optional 8 _ ?_ rfl
      simp [correlation, List.lookup_append, lookup_entry]

end NeedKeyframe

end Decoders

/-! ## Through an envelope -/

section Delivery

variable {α : Type} {fields : PayloadMap} {read : Value → Except IoError α} {value : α}

/-- The fields can be sent under any request ID, and are read as the value. -/
def Delivers (fields : PayloadMap) (read : Value → Except IoError α) (value : α) : Prop :=
  ∀ requestId, ∃ body envelope, encodePayload requestId fields = .ok body ∧
    decodeControl body = .ok envelope ∧ envelope.requestId = requestId ∧
    read (.map envelope.payload) = .ok value

theorem delivers_of_fits (fits : (Value.map fields).Fits maxDepth)
    (reads : read (.map fields) = .ok value) : Delivers fields read value := by
  intro requestId
  obtain ⟨body, written⟩ := Envelope.encode_new requestId fits
  have normal : Value.normEntries fields = fields := Value.map.inj fits.norm
  exact ⟨body, _, written, Envelope.decode_new written normal, rfl, reads⟩

end Delivery

theorem fits_of_known {levels : Nat} {entries : PayloadMap} {known : List UInt64}
    (kept : (entries.map Prod.fst).Sublist known) (ordered : known.Pairwise (· < ·))
    (few : known.length ≤ maxContainerLength) (each : ∀ entry ∈ entries, entry.2.Fits levels) :
    (Value.map entries).Fits (levels + 1) := by
  have length := kept.length_le
  rw [List.length_map] at length
  exact Value.fits_map.mpr ⟨length.trans few, unsortedKeys_of_sublist kept ordered, each⟩

theorem PlayOptions.fits_fields (options : PlayOptions) (address : TrackAddress) :
    (Value.map (options.fields address)).Fits maxDepth := by
  have kept : ((options.fields address).map Prod.fst).Sublist
      [0, 1, 2, 3, 4, 5, 6, 7, 8, 9, 10, 11] := by
    rw [fields, List.map_append]
    exact (List.Sublist.refl [0, 1, 2, 3, 4, 5, 6, 7, 8, 9, 10]).append (entry_keys 11 _)
  refine fits_of_known kept (by decide) (by decide) ?_
  rw [fields, List.forall_mem_append]
  constructor
  · simp only [List.forall_mem_cons]
    exact ⟨trivial, trivial, trivial, fits_signed _, trivial, trivial, trivial, trivial, trivial,
      trivial, trivial, nofun⟩
  · exact fits_entry fun _ _ => trivial

theorem HeldPosition.fits_fields (position : HeldPosition) :
    (Value.map position.fields).Fits 15 := by
  have kept : (position.fields.map Prod.fst).Sublist [0, 1, 2, 3, 4] := List.Sublist.refl _
  refine fits_of_known kept (by decide) (by decide) ?_
  simp only [fields, List.forall_mem_cons]
  exact ⟨trivial, trivial, trivial, fits_signed _, trivial, nofun⟩

theorem PlaybackHold.fits_fields (hold : PlaybackHold) :
    (Value.map hold.fields).Fits maxDepth := by
  have kept : (hold.fields.map Prod.fst).Sublist [0, 1, 2, 3, 4, 5, 6, 7] := by
    rw [fields, List.map_append]
    exact (List.Sublist.refl [0, 1, 2, 3, 4, 5, 6]).append (entry_keys 7 _)
  refine fits_of_known kept (by decide) (by decide) ?_
  rw [fields, List.forall_mem_append]
  constructor
  · simp only [List.forall_mem_cons]
    exact ⟨trivial, trivial, trivial, trivial, trivial, trivial, trivial, nofun⟩
  · exact fits_entry fun position _ => position.fits_fields

theorem NeedKeyframe.fits_fields (request : NeedKeyframe) (ignored : Option UInt64) :
    (Value.map (request.fields ignored)).Fits maxDepth := by
  refine fits_of_known (request.fields_keys ignored) (by decide) (by decide) ?_
  rw [fields, List.forall_mem_append, correlation, List.forall_mem_append, List.forall_mem_append]
  refine ⟨?_, fits_entry fun _ _ => trivial, fits_entry fun _ _ => fits_signed _,
    fits_entry fun _ _ => trivial⟩
  simp only [needKeyframePayload, TrackAddress.leading, List.cons_append, List.nil_append,
    List.forall_mem_cons]
  exact ⟨trivial, trivial, trivial, trivial, trivial, trivial, nofun⟩

/-- Timed playback means one thing on both sides.  What an envelope carried is read as
a `PLAY` or a `PLAYBACK_HOLD` only if it is what the writer writes for what was read, and
as a request for a keyframe only if exactly a resume names a hold; and whatever passes
these checks can be sent and is read as itself. -/
theorem timed_records_exact :
    (∀ (body : List UInt8) (envelope : Envelope), decodeControl body = .ok envelope →
      (∀ address options, PlayOptions.decode (.map envelope.payload) = .ok (address, options) ↔
        options.payload address = .ok envelope.payload) ∧
      (∀ hold, PlaybackHold.decode (.map envelope.payload) = .ok hold ↔
        hold.payload = .ok envelope.payload) ∧
      ∀ request, NeedKeyframe.decode (.map envelope.payload) = .ok request ↔
        request.Legal ∧ ∃ ignored, request.fields ignored = envelope.payload) ∧
    (∀ address options fields, PlayOptions.payload options address = .ok fields →
      Delivers fields PlayOptions.decode (address, options)) ∧
    (∀ hold fields, PlaybackHold.payload hold = .ok fields →
      Delivers fields PlaybackHold.decode hold) ∧
    ∀ request ignored, NeedKeyframe.Legal request →
      Delivers (request.fields ignored) NeedKeyframe.decode request := by
  refine ⟨fun body envelope decoded => ?_, ?_, ?_, ?_⟩
  · have fits := payload_fits decoded
    exact ⟨fun address options => PlayOptions.decode_eq_ok fits,
      fun hold => PlaybackHold.decode_eq_ok fits, fun request => NeedKeyframe.decode_eq_ok fits⟩
  · intro address options fields written
    obtain ⟨-, rfl⟩ := PlayOptions.payload_eq_ok.mp written
    have fits := options.fits_fields address
    exact delivers_of_fits fits ((PlayOptions.decode_eq_ok fits).mpr written)
  · intro hold fields written
    obtain ⟨-, rfl⟩ := PlaybackHold.payload_eq_ok.mp written
    have fits := hold.fits_fields
    exact delivers_of_fits fits ((PlaybackHold.decode_eq_ok fits).mpr written)
  · intro request ignored legal
    have fits := request.fits_fields ignored
    exact delivers_of_fits fits ((NeedKeyframe.decode_eq_ok fits).mpr ⟨legal, ignored, rfl⟩)

def resumedAddress : TrackAddress := ⟨1, 2, 3, ⟨4⟩⟩
def resumedOptions : PlayOptions := ⟨-5, 1, 2, .synchronized, some 9⟩

theorem timed_records_exact_resumed :
    ∃ body envelope, decodeControl body = .ok envelope ∧
      PlayOptions.decode (.map envelope.payload) = .ok (resumedAddress, resumedOptions) ∧
      resumedOptions.payload resumedAddress = .ok envelope.payload := by
  have written : resumedOptions.payload resumedAddress =
      .ok (resumedOptions.fields resumedAddress) := rfl
  obtain ⟨body, envelope, -, decoded, -, read⟩ := timed_records_exact.2.1 _ _ _ written 1
  exact ⟨body, envelope, decoded, read,
    ((timed_records_exact.1 body envelope decoded).1 resumedAddress resumedOptions).mp read⟩

end VividProtocol.Track

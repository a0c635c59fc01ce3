import Mathlib.Tactic
import VividProtocol.Auth.Transcript
import VividProtocol.Control.ErrorReply
import VividProtocol.Control.Establishment
import VividProtocol.FileDrop.LaneAgreement
import VividProtocol.Track.Configuration

/-!
# Openings

The records that open a further connection of a session: an interactive lane, a
media channel and a file transfer.  Each carries a tag under the channel key of
the session.
-/

set_option autoImplicit false

namespace VividProtocol

open VividProtocol.Cbor
open VividProtocol.FileDrop
open VividProtocol.Library.Result
open VividProtocol.Track

structure LaneOpen where
  sessionId : UInt64
  laneGeneration : UInt64
  clientNonce : Bytes 16
  authenticationTag : Bytes 16
  deriving DecidableEq

namespace LaneOpen

def payload (opening : LaneOpen) : PayloadMap :=
  [(0, .unsigned opening.sessionId),
    (1, .unsigned LaneClass.interactive.toWord),
    (2, .unsigned opening.laneGeneration),
    (3, .bytes opening.clientNonce.toList),
    (4, .bytes opening.authenticationTag.toList)]

def decode (body : List UInt8) : Except MessageError LaneOpen := do
  let envelope ← decodeControl body
  envelope.validateRequest
  let map ← StrictMap.new "LANE_OPEN" (.map envelope.payload) [0, 1, 2, 3, 4]
  let lane ← map.requiredU64 1
  let lane ← LaneClass.tryFrom lane
  if lane ≠ .interactive then
    .error (invalidValue "LANE_OPEN" 1 "must be interactive")
  else do
    let sessionId ← map.requiredU64 0
    let sessionId ← requireNonzero "LANE_OPEN" 0 sessionId
    let laneGeneration ← map.requiredU64 2
    let laneGeneration ← requireNonzero "LANE_OPEN" 2 laneGeneration
    let clientNonce ← map.requiredFixedBytes 3 16
    let authenticationTag ← map.requiredFixedBytes 4 16
    .ok
      { sessionId := sessionId
        laneGeneration := laneGeneration
        clientNonce := clientNonce
        authenticationTag := authenticationTag }

end LaneOpen

structure ChannelOpen where
  sessionId : UInt64
  contextId : UInt64
  surfaceId : UInt64
  trackId : UInt64
  channelGeneration : UInt64
  trackKind : TrackKind
  lane : LaneClass
  clientNonce : Bytes 16
  authenticationTag : Bytes 16
  deriving DecidableEq

namespace ChannelOpen

def payload (opening : ChannelOpen) : PayloadMap :=
  [(0, .unsigned opening.sessionId),
    (1, .unsigned opening.contextId),
    (2, .unsigned opening.surfaceId),
    (3, .unsigned opening.trackId),
    (4, .unsigned opening.channelGeneration),
    (5, .unsigned opening.trackKind.toWord),
    (6, .unsigned opening.lane.toWord),
    (7, .bytes opening.clientNonce.toList),
    (8, .bytes opening.authenticationTag.toList)]

def decode (headerObjectId : UInt64) (body : List UInt8) : Except MessageError ChannelOpen := do
  let envelope ← decodeControl body
  envelope.validateRequest
  let map ← StrictMap.new "CHANNEL_OPEN" (.map envelope.payload) [0, 1, 2, 3, 4, 5, 6, 7, 8]
  let trackId ← map.requiredU64 3
  let trackId ← requireNonzero "CHANNEL_OPEN" 3 trackId
  validateHeaderObject headerObjectId trackId
  let lane ← map.requiredU64 6
  let lane ← LaneClass.tryFrom lane
  if ¬ (lane = .realtime ∨ lane = .bulk) then
    .error (invalidValue "CHANNEL_OPEN" 6 "must use the realtime or bulk lane")
  else do
    let sessionId ← map.requiredU64 0
    let sessionId ← requireNonzero "CHANNEL_OPEN" 0 sessionId
    let contextId ← map.requiredU64 1
    let contextId ← requireNonzero "CHANNEL_OPEN" 1 contextId
    let surfaceId ← map.requiredU64 2
    let surfaceId ← requireNonzero "CHANNEL_OPEN" 2 surfaceId
    let channelGeneration ← map.requiredU64 4
    let channelGeneration ← requireNonzero "CHANNEL_OPEN" 4 channelGeneration
    let trackKind ← map.requiredU64 5
    let trackKind ← TrackKind.tryFrom trackKind
    let clientNonce ← map.requiredFixedBytes 7 16
    let authenticationTag ← map.requiredFixedBytes 8 16
    .ok
      { sessionId := sessionId
        contextId := contextId
        surfaceId := surfaceId
        trackId := trackId
        channelGeneration := channelGeneration
        trackKind := trackKind
        lane := lane
        clientNonce := clientNonce
        authenticationTag := authenticationTag }

end ChannelOpen

/-! ## Codes -/

theorem laneClass_eq_ok {value : UInt64} {lane : LaneClass} :
    LaneClass.tryFrom value = .ok lane ↔ value = lane.toWord := by
  constructor
  · intro read
    unfold LaneClass.tryFrom at read
    split_ifs at read <;> cases read <;> assumption
  · intro same
    rw [same]
    cases lane <;> rfl

theorem trackKind_eq_ok {value : UInt64} {kind : TrackKind} :
    TrackKind.tryFrom value = .ok kind ↔ value = kind.toWord := by
  constructor
  · intro read
    unfold TrackKind.tryFrom at read
    split_ifs at read <;> cases read <;> assumption
  · intro same
    rw [same]
    cases kind <;> rfl

/-! ## What the decoders read -/

/-- The envelope of the body names its request and holds these fields. -/
def Encloses (body : List UInt8) (fields : PayloadMap) : Prop :=
  ∃ envelope, decodeControl body = .ok envelope ∧ envelope.requestId ≠ 0 ∧
    envelope.payload = fields

section Enclosed

variable {body : List UInt8} {fields : PayloadMap}

/-- A sorted payload with the keys of the fields that holds them all is the fields. -/
theorem encloses_of_held {envelope : Envelope} (decoded : decodeControl body = .ok envelope)
    (ordered : (fields.map Prod.fst).Pairwise (· < ·))
    (named : envelope.requestId ≠ 0)
    (known : ∀ entry ∈ envelope.payload, entry.1 ∈ fields.map Prod.fst)
    (held : ∀ field ∈ fields, envelope.payload.lookup field.1 = some field.2) :
    Encloses body fields := by
  obtain ⟨_, -, reads⟩ := decodeControl_eq_ok.mp decoded
  have holds : Holds (.map envelope.payload) fields := ⟨_, rfl, known, held⟩
  exact ⟨envelope, decoded, named, holds.eq reads.payloadSorted ordered⟩

/-- What is enclosed under a request ID can be written under it, and is written as
it stood if the envelope held nothing else. -/
theorem Encloses.written (encloses : Encloses body fields)
    (normal : Value.normEntries fields = fields) :
    ∃ named written, named ≠ 0 ∧ encodePayload named fields = .ok written ∧
      Encloses written fields ∧ (encodePayload named fields = .ok body ↔ Bare body) := by
  obtain ⟨envelope, decoded, named, same⟩ := encloses
  obtain ⟨written, encoded⟩ := Envelope.encode_new envelope.requestId (payload_fits decoded)
  have bare := encodePayload_iff_bare decoded
  rw [same] at encoded bare
  exact ⟨_, written, named, encoded, ⟨_, Envelope.decode_new encoded normal, named, rfl⟩, bare⟩

theorem encloses_iff {requestId : UInt64} (written : encodePayload requestId fields = .ok body)
    (normal : Value.normEntries fields = fields) : Encloses body fields ↔ requestId ≠ 0 := by
  have decoded := Envelope.decode_new written normal
  constructor
  · rintro ⟨envelope, again, named, -⟩
    rw [decoded] at again
    cases again
    exact named
  · intro named
    exact ⟨_, decoded, named, rfl⟩

end Enclosed

namespace LaneOpen

variable {opening : LaneOpen} {body : List UInt8}

theorem payload_ordered (opening : LaneOpen) :
    (opening.payload.map Prod.fst).Pairwise (· < ·) := by
  simp only [payload, List.map_cons, List.map_nil]
  decide

/-- What the decoder checks. -/
structure Legal (opening : LaneOpen) : Prop where
  sessionId : opening.sessionId ≠ 0
  laneGeneration : opening.laneGeneration ≠ 0

theorem decode_eq_ok :
    decode body = .ok opening ↔ Encloses body opening.payload ∧ opening.Legal := by
  unfold decode
  simp only [bind_eq_ok_iff, Envelope.validateRequest_eq_ok, StrictMap.new_eq_ok,
    StrictMap.requiredU64_iff, laneClass_eq_ok, ite_error_eq_ok_iff, not_not, requireNonzero_eq_ok,
    StrictMap.requiredFixedBytes_eq_ok]
  constructor
  · intro read
    obtain ⟨envelope, decoded, _, named, map, ⟨_, carried, known⟩, _, one, _, lane, same, _, zero,
      _, ⟨session, sessionSame⟩, _, two, _, ⟨generation, generationSame⟩, _, three, _, four,
      built⟩ := read
    have entries := Value.map.inj carried
    rw [← entries] at known zero one two three four
    cases same
    cases lane
    cases sessionSame
    cases generationSame
    cases built
    refine ⟨encloses_of_held decoded (payload_ordered _) named known ?_, session, generation⟩
    simp only [payload, List.forall_mem_cons]
    exact ⟨zero, one, two, three, four, nofun⟩
  · intro held
    obtain ⟨⟨envelope, decoded, named, same⟩, legal⟩ := held
    refine ⟨envelope, decoded, (), named, ⟨"LANE_OPEN", envelope.payload⟩, ⟨rfl, rfl, ?_⟩, ?_⟩
    · rw [same]
      exact fun entry among => List.mem_map_of_mem among
    · dsimp only
      rw [same]
      exact ⟨_, rfl, _, rfl, rfl, _, rfl, _, ⟨legal.sessionId, rfl⟩, _, rfl, _,
        ⟨legal.laneGeneration, rfl⟩, _, rfl, _, rfl, rfl⟩

end LaneOpen

namespace ChannelOpen

variable {opening : ChannelOpen} {body : List UInt8} {above : UInt64}

theorem payload_ordered (opening : ChannelOpen) :
    (opening.payload.map Prod.fst).Pairwise (· < ·) := by
  simp only [payload, List.map_cons, List.map_nil]
  decide

/-- What the decoder checks. -/
structure Legal (opening : ChannelOpen) : Prop where
  sessionId : opening.sessionId ≠ 0
  contextId : opening.contextId ≠ 0
  surfaceId : opening.surfaceId ≠ 0
  trackId : opening.trackId ≠ 0
  channelGeneration : opening.channelGeneration ≠ 0
  lane : opening.lane = .realtime ∨ opening.lane = .bulk

theorem decode_eq_ok :
    decode above body = .ok opening ↔
      Encloses body opening.payload ∧ above = opening.trackId ∧ opening.Legal := by
  unfold decode
  simp only [bind_eq_ok_iff, Envelope.validateRequest_eq_ok, StrictMap.new_eq_ok,
    StrictMap.requiredU64_iff, laneClass_eq_ok, trackKind_eq_ok, ite_error_eq_ok_iff, not_not,
    requireNonzero_eq_ok, validateHeaderObject_eq_ok, StrictMap.requiredFixedBytes_eq_ok]
  constructor
  · intro read
    obtain ⟨envelope, decoded, _, named, map, ⟨_, carried, known⟩, _, three, _, ⟨track, trackSame⟩,
      _, header, _, six, _, laneSame, lane, _, zero, _, ⟨session, sessionSame⟩, _, one, _,
      ⟨context, contextSame⟩, _, two, _, ⟨surface, surfaceSame⟩, _, four, _,
      ⟨generation, generationSame⟩, _, five, _, kindSame, _, seven, _, eight, built⟩ := read
    have entries := Value.map.inj carried
    rw [← entries] at known zero one two three four five six seven eight
    cases trackSame
    cases laneSame
    cases sessionSame
    cases contextSame
    cases surfaceSame
    cases generationSame
    cases kindSame
    cases built
    refine ⟨encloses_of_held decoded (payload_ordered _) named known ?_, header, session, context,
      surface, track, generation, lane⟩
    simp only [payload, List.forall_mem_cons]
    exact ⟨zero, one, two, three, four, five, six, seven, eight, nofun⟩
  · intro held
    obtain ⟨⟨envelope, decoded, named, same⟩, header, legal⟩ := held
    refine ⟨envelope, decoded, (), named, ⟨"CHANNEL_OPEN", envelope.payload⟩, ⟨rfl, rfl, ?_⟩, ?_⟩
    · rw [same]
      exact fun entry among => List.mem_map_of_mem among
    · dsimp only
      rw [same]
      exact ⟨_, rfl, _, ⟨legal.trackId, rfl⟩, (), header, _, rfl, _, rfl, legal.lane, _, rfl, _,
        ⟨legal.sessionId, rfl⟩, _, rfl, _, ⟨legal.contextId, rfl⟩, _, rfl, _,
        ⟨legal.surfaceId, rfl⟩, _, rfl, _, ⟨legal.channelGeneration, rfl⟩, _, rfl, _, rfl, _, rfl,
        _, rfl, rfl⟩

end ChannelOpen

/-! ## Both openings in an envelope -/

inductive OpeningKind where
  | lane
  | channel
  deriving Repr, DecidableEq

namespace OpeningKind

abbrev Record : OpeningKind → Type
  | lane => LaneOpen
  | channel => ChannelOpen

def payload : (kind : OpeningKind) → kind.Record → PayloadMap
  | lane => LaneOpen.payload
  | channel => ChannelOpen.payload

/-- The decoder of a lane does not look at the header. -/
def decode : (kind : OpeningKind) → UInt64 → List UInt8 → Except MessageError kind.Record
  | lane => fun _ => LaneOpen.decode
  | channel => ChannelOpen.decode

/-- What the decoder checks of the record and the object ID above it. -/
def Legal : (kind : OpeningKind) → UInt64 → kind.Record → Prop
  | lane => fun _ => LaneOpen.Legal
  | channel => fun above opening => above = opening.trackId ∧ opening.Legal

variable {kind : OpeningKind} {above : UInt64} {body : List UInt8} {opening : kind.Record}

theorem decode_eq_ok :
    kind.decode above body = .ok opening ↔
      Encloses body (kind.payload opening) ∧ kind.Legal above opening := by
  cases kind with
  | lane => exact LaneOpen.decode_eq_ok
  | channel => exact ChannelOpen.decode_eq_ok

theorem payload_normal : Value.normEntries (kind.payload opening) = kind.payload opening := by
  cases kind with
  | lane => rfl
  | channel => rfl

end OpeningKind

/-- An opening that is written is read back exactly if it names its request and is
legal under the object ID of the header.  One that is read is legal, and can be
written so that it is read again, as it stood if its envelope held nothing else. -/
theorem openings_read_iff (kind : OpeningKind) (opening : kind.Record) (above : UInt64) :
    (∀ (requestId : UInt64) (body : List UInt8),
        encodePayload requestId (kind.payload opening) = .ok body →
          (kind.decode above body = .ok opening ↔ requestId ≠ 0 ∧ kind.Legal above opening)) ∧
      ∀ body, kind.decode above body = .ok opening →
        kind.Legal above opening ∧ ∃ requestId written, requestId ≠ 0 ∧
          encodePayload requestId (kind.payload opening) = .ok written ∧
          kind.decode above written = .ok opening ∧
          (encodePayload requestId (kind.payload opening) = .ok body ↔ Bare body) := by
  constructor
  · intro requestId body written
    rw [OpeningKind.decode_eq_ok, encloses_iff written OpeningKind.payload_normal]
  · intro body read
    obtain ⟨encloses, legal⟩ := OpeningKind.decode_eq_ok.mp read
    obtain ⟨requestId, written, named, encoded, again, bare⟩ :=
      encloses.written OpeningKind.payload_normal
    exact ⟨legal, requestId, written, named, encoded,
      OpeningKind.decode_eq_ok.mpr ⟨again, legal⟩, bare⟩

/-- An interactive lane of session 4. -/
def sampleLane : LaneOpen where
  sessionId := 4
  laneGeneration := 1
  clientNonce := Vector.replicate 16 8
  authenticationTag := Vector.replicate 16 0

theorem openings_read_iff_lane :
    ∃ body, encodePayload 1 sampleLane.payload = .ok body ∧
      LaneOpen.decode body = .ok sampleLane ∧ Bare body := by
  obtain ⟨body, written⟩ : ∃ body, encodePayload 1 sampleLane.payload = .ok body := ⟨_, rfl⟩
  have agree := openings_read_iff .lane sampleLane 0
  have read := (agree.1 1 body written).mpr ⟨by decide, ⟨by decide, by decide⟩⟩
  have decoded := Envelope.decode_new written rfl
  exact ⟨body, written, read, (encodePayload_iff_bare decoded).mp written⟩

/-! ## Their tags -/

/-- An opening of any of the three kinds. -/
inductive Opening where
  | lane (opening : LaneOpen)
  | channel (opening : ChannelOpen)
  | fileTransfer (opening : FileTransferOpen)

namespace Opening

open VividProtocol.Auth

/-- What `channel_tag` is given for the opening. -/
def channelBinding (opening : ChannelOpen) : ChannelBinding :=
  { sessionId := opening.sessionId
    contextId := opening.contextId
    surfaceId := opening.surfaceId
    trackId := opening.trackId
    channelGeneration := opening.channelGeneration
    trackKind := opening.trackKind.toWord.toUInt32
    lane := opening.lane.toWord.toUInt32
    clientNonce := opening.clientNonce }

/-- What `file_transfer_tag` is given for the opening. -/
def fileTransferBinding (opening : FileTransferOpen) : FileTransferBinding :=
  { sessionId := opening.sessionId
    contextId := opening.contextId
    surfaceId := opening.surfaceId
    producerEpoch := opening.producerEpoch.value
    grantGeneration := opening.grantGeneration.value
    surfaceGeneration := opening.surfaceGeneration.value
    dropId := opening.dropId
    transferId := opening.transferId
    transferGeneration := opening.transferGeneration.value
    resumeOffset := opening.resumeOffset
    maximumRecordBody := opening.maximumRecordBody
    maximumBodyBytes := opening.maximumBodyBytes
    maximumRecords := opening.maximumRecords
    clientNonce := opening.clientNonce }

def tag : Opening → Bytes 16
  | lane opening => opening.authenticationTag
  | channel opening => opening.authenticationTag
  | fileTransfer opening => opening.authenticationTag

def withTag : Opening → Bytes 16 → Opening
  | lane opening, tag => lane { opening with authenticationTag := tag }
  | channel opening, tag => channel { opening with authenticationTag := tag }
  | fileTransfer opening, tag => fileTransfer { opening with authenticationTag := tag }

/-- The call that computes the tag. -/
def call : Opening → Call
  | lane opening =>
      .lane opening.sessionId LaneClass.interactive.toWord.toUInt32 opening.laneGeneration
        opening.clientNonce
  | channel opening => .channel (channelBinding opening)
  | fileTransfer opening => .fileTransfer (fileTransferBinding opening)

section Tags

variable (hmac : HmacSha256) (sha256 : Sha256) (channelKey : Bytes 32)

/-- The tag of the opening under the channel key of its session. -/
def expectedTag : Opening → Bytes 16
  | lane opening =>
      laneTag hmac channelKey opening.sessionId LaneClass.interactive.toWord.toUInt32
        opening.laneGeneration opening.clientNonce
  | channel opening => channelTag hmac channelKey (channelBinding opening)
  | fileTransfer opening => fileTransferTag hmac channelKey (fileTransferBinding opening)

def sign (opening : Opening) : Opening := opening.withTag (opening.expectedTag hmac channelKey)

def verified (opening : Opening) : Bool :=
  verifyTag (opening.expectedTag hmac channelKey) opening.tag.toList

end Tags

variable {hmac : HmacSha256} {sha256 : Sha256} {channelKey : Bytes 32} {tag : Bytes 16}

@[simp] theorem tag_withTag (opening : Opening) : (opening.withTag tag).tag = tag := by
  cases opening with
  | _ => rfl

@[simp] theorem withTag_tag (opening : Opening) : opening.withTag opening.tag = opening := by
  cases opening with
  | _ => rfl

@[simp] theorem call_withTag (opening : Opening) : (opening.withTag tag).call = opening.call := by
  cases opening with
  | _ => rfl

theorem expectedTag_withTag (opening : Opening) :
    (opening.withTag tag).expectedTag hmac channelKey = opening.expectedTag hmac channelKey := by
  cases opening with
  | _ => rfl

/-- The tag is what the call answers. -/
theorem answer_call (opening : Opening) :
    opening.call.answer hmac sha256 channelKey =
      (opening.expectedTag hmac channelKey).toList := by
  cases opening with
  | _ => rfl

theorem hashed_call (opening : Opening) : opening.call.hashed = ∅ := by
  cases opening with
  | _ => rfl

theorem verified_iff {opening : Opening} :
    opening.verified hmac channelKey = true ↔
      opening.tag = opening.expectedTag hmac channelKey := by
  simp [verified, verifyTag, Vector.toList_inj, eq_comm]

theorem laneWord_injective : Function.Injective fun lane : LaneClass => lane.toWord.toUInt32 := by
  intro first second same
  cases first <;> cases second <;> first | rfl | exact absurd same (by decide)

theorem kindWord_injective : Function.Injective fun kind : TrackKind => kind.toWord.toUInt32 := by
  intro first second same
  cases first <;> cases second <;> first | rfl | exact absurd same (by decide)

theorem counter_value_inj {label : String} {first second : Counter label} :
    first.value = second.value ↔ first = second := by
  cases first
  cases second
  rw [Counter.mk.injEq]

/-- An opening is its call and its tag. -/
theorem eq_of_call {first second : Opening} (calls : first.call = second.call)
    (tags : first.tag = second.tag) : first = second := by
  cases first with
  | lane opening =>
      cases second with
      | lane other =>
          cases opening
          cases other
          simp_all [call, Opening.tag]
      | channel other => cases calls
      | fileTransfer other => cases calls
  | channel opening =>
      cases second with
      | channel other =>
          cases opening
          cases other
          simp only [call, channelBinding, Call.channel.injEq, ChannelBinding.mk.injEq] at calls
          obtain ⟨rfl, rfl, rfl, rfl, rfl, kinds, lanes, rfl⟩ := calls
          cases kindWord_injective kinds
          cases laneWord_injective lanes
          simp_all [Opening.tag]
      | lane other => cases calls
      | fileTransfer other => cases calls
  | fileTransfer opening =>
      cases second with
      | fileTransfer other =>
          cases opening
          cases other
          obtain ⟨rfl, rfl, rfl, epochs, grants, generations, rfl, rfl, transfers, rfl, rfl, rfl,
            rfl, rfl⟩ := FileTransferBinding.mk.inj (Call.fileTransfer.inj calls)
          cases counter_value_inj.mp epochs
          cases counter_value_inj.mp grants
          cases counter_value_inj.mp generations
          cases counter_value_inj.mp transfers
          cases tags
          rfl
      | lane other => cases calls
      | channel other => cases calls

/-- The bytes whose HMAC the tag is cut from. -/
def fed (sha256 : Sha256) (opening : Opening) : List UInt8 := opening.call.fed sha256

/-- Openings with one tag are one call, where HMAC tells apart what they feed. -/
theorem call_of_tags {inputs : Set (List UInt8)} {first second : Opening}
    (apart : Set.InjOn (fun input => (hmac channelKey.toList input).toList.take 16) inputs)
    (one : first.fed sha256 ∈ inputs) (other : second.fed sha256 ∈ inputs)
    (tags : first.expectedTag hmac channelKey = second.expectedTag hmac channelKey) :
    first.call = second.call := by
  have answers := congrArg (fun tag : Bytes 16 => tag.toList.take 16) tags
  rw [← @answer_call hmac sha256, ← @answer_call hmac sha256, Call.answer_take,
    Call.answer_take] at answers
  obtain ⟨purposes, parts⟩ := Call.parts_of_fed (apart one other answers)
  refine Call.eq_of_parts purposes parts ?_
  rw [hashed_call, hashed_call, Set.empty_union]
  exact Set.injOn_empty sha256

end Opening

open VividProtocol.Auth

/-- A tag opens what it was issued for.  Of the openings that carry the tag of one
of those the initiator signed, of whatever kind, the signed ones verify and no
others, where HMAC tells apart what they feed. -/
theorem opening_tags_bind (hmac : HmacSha256) (sha256 : Sha256) (channelKey : Bytes 32)
    (issued : List Opening) (received : Opening)
    (carries : received.tag ∈ issued.map fun opening => (opening.sign hmac channelKey).tag)
    (apart : Set.InjOn (fun input => (hmac channelKey.toList input).toList.take 16)
      {input | ∃ opening ∈ received :: issued, input = opening.fed sha256}) :
    received.verified hmac channelKey = true ↔
      received ∈ issued.map fun opening => opening.sign hmac channelKey := by
  rw [Opening.verified_iff]
  constructor
  · intro verified
    obtain ⟨opening, among, carried⟩ := List.mem_map.mp carries
    have expected : (opening.sign hmac channelKey).tag = opening.expectedTag hmac channelKey :=
      opening.tag_withTag
    have tags : opening.expectedTag hmac channelKey = received.expectedTag hmac channelKey := by
      rw [← expected, carried, verified]
    have calls := Opening.call_of_tags apart ⟨opening, List.mem_cons_of_mem _ among, rfl⟩
      ⟨received, List.mem_cons_self, rfl⟩ tags
    refine List.mem_map.mpr ⟨opening, among, Opening.eq_of_call ?_ carried⟩
    exact opening.call_withTag.trans calls
  · intro signed
    obtain ⟨opening, -, rfl⟩ := List.mem_map.mp signed
    unfold Opening.sign
    rw [Opening.tag_withTag, Opening.expectedTag_withTag]

/-- HMAC-SHA-256 under a key of nines of what `sampleLane` feeds, and of what it
feeds with its next generation. -/
def laneHmac : HmacSha256 := fun _ input =>
  if input[31]? = some 1 then
    #v[60, 40, 63, 174, 197, 157, 32, 183, 196, 59, 49, 134, 8, 174, 8, 234, 111, 159, 8, 136,
      203, 183, 104, 248, 116, 51, 16, 244, 201, 46, 146, 252]
  else
    #v[208, 82, 97, 71, 76, 237, 27, 238, 160, 84, 243, 2, 206, 167, 22, 85, 62, 18, 129, 155,
      59, 224, 143, 203, 133, 47, 58, 253, 52, 10, 209, 97]

/-- The next generation of the lane with the tag of this one. -/
def replayedLane : Opening :=
  .lane
    { sampleLane with
      laneGeneration := 2
      authenticationTag :=
        #v[60, 40, 63, 174, 197, 157, 32, 183, 196, 59, 49, 134, 8, 174, 8, 234] }

theorem opening_tags_bind_replayed :
    ¬ replayedLane.verified laneHmac (Vector.replicate 32 9) = true := by
  intro verified
  have bound := opening_tags_bind laneHmac sampleDigest (Vector.replicate 32 9)
    [.lane sampleLane] replayedLane (List.mem_singleton.mpr (by decide)) ?_
  · have issued := List.mem_singleton.mp (bound.mp verified)
    injection issued with same
    exact absurd (congrArg LaneOpen.laneGeneration same) (by decide)
  · rintro _ ⟨first, among, rfl⟩ _ ⟨second, among', rfl⟩ same
    simp only [List.mem_cons, List.not_mem_nil, or_false] at among among'
    rcases among with rfl | rfl <;> rcases among' with rfl | rfl <;>
      first | rfl | exact absurd same (by decide)

end VividProtocol

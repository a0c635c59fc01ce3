import Mathlib.Tactic
import VividProtocol.Counters
import VividProtocol.Cbor.Codec
import VividProtocol.Library.BigEndian

/-!
# Authenticated transcripts

The proofs, tags and key expansions of `auth.rs` and the authenticator of
`anchor.rs`.  What each of them feeds to HMAC is a label and fields of fixed
width, and its length alone tells which of them it is.
-/

set_option autoImplicit false

namespace VividProtocol.Auth

open VividProtocol.Library
open VividProtocol.Cbor

/-- `Hmac<Sha256>` of a key and an input, a parameter of what authenticates. -/
abbrev HmacSha256 := List UInt8 → List UInt8 → Bytes 32

/-- `u64::to_be_bytes`. -/
def beBytes (value : UInt64) : List UInt8 := BigEndian.toBytes 8 value.toNat

/-- `u32::to_be_bytes`. -/
def beBytes32 (value : UInt32) : List UInt8 := BigEndian.toBytes 4 value.toNat

/-- The identifiers that `channel_tag` binds. -/
structure ChannelBinding where
  sessionId : UInt64
  contextId : UInt64
  surfaceId : UInt64
  trackId : UInt64
  channelGeneration : UInt64
  trackKind : UInt32
  lane : UInt32
  clientNonce : Bytes 16
  deriving DecidableEq

/-- The identifiers that `file_transfer_tag` binds. -/
structure FileTransferBinding where
  sessionId : UInt64
  contextId : UInt64
  surfaceId : UInt64
  producerEpoch : UInt64
  grantGeneration : UInt64
  surfaceGeneration : UInt64
  dropId : UInt64
  transferId : UInt64
  transferGeneration : UInt64
  resumeOffset : UInt64
  maximumRecordBody : UInt32
  maximumBodyBytes : UInt64
  maximumRecords : UInt64
  clientNonce : Bytes 16
  deriving DecidableEq

/-! ## What is fed -/

section Parts

variable (sha256 : Sha256)

def rootHelloParts (preface : Bytes 16) (helloAuthless : List UInt8) : List (List UInt8) :=
  [textBytes "VIVID-ROOT-HELLO-1", preface.toList, (sha256 helloAuthless).toList]

def welcomeParts (welcomeUnconfirmed : List UInt8) : List (List UInt8) :=
  [textBytes "VIVID-WELCOME-1", (sha256 welcomeUnconfirmed).toList]

def resumeHelloParts (preface : Bytes 16) (leaseId sessionId resumeGeneration : UInt64)
    (attemptId : Bytes 16) (helloAuthless : List UInt8) : List (List UInt8) :=
  [textBytes "VIVID-RESUME-HELLO-1", preface.toList, beBytes leaseId, beBytes sessionId,
    beBytes resumeGeneration, attemptId.toList, (sha256 helloAuthless).toList]

def laneParts (sessionId : UInt64) (laneClass : UInt32) (laneGeneration : UInt64)
    (clientNonce : Bytes 16) : List (List UInt8) :=
  [textBytes "VIVID-LANE-1", beBytes sessionId, beBytes32 laneClass, beBytes laneGeneration,
    clientNonce.toList]

def channelParts (binding : ChannelBinding) : List (List UInt8) :=
  [textBytes "VIVID-CHANNEL-1", beBytes binding.sessionId, beBytes binding.contextId,
    beBytes binding.surfaceId, beBytes binding.trackId, beBytes binding.channelGeneration,
    beBytes32 binding.trackKind, beBytes32 binding.lane, binding.clientNonce.toList]

def fileTransferParts (binding : FileTransferBinding) : List (List UInt8) :=
  [textBytes "VIVID-FILE-TRANSFER-1", beBytes binding.sessionId, beBytes binding.contextId,
    beBytes binding.surfaceId, beBytes binding.producerEpoch, beBytes binding.grantGeneration,
    beBytes binding.surfaceGeneration, beBytes binding.dropId, beBytes binding.transferId,
    beBytes binding.transferGeneration, beBytes binding.resumeOffset,
    beBytes32 binding.maximumRecordBody, beBytes binding.maximumBodyBytes,
    beBytes binding.maximumRecords, binding.clientNonce.toList]

def channelInfo (sessionId : UInt64) : List (List UInt8) :=
  [textBytes "VIVID-SESSION-CHANNEL-1", beBytes sessionId]

def resumeInfo (sessionId resumeGeneration : UInt64) : List (List UInt8) :=
  [textBytes "VIVID-SESSION-RESUME-1", beBytes sessionId, beBytes resumeGeneration]

def anchorInfo (sessionTag : Bytes 16) : List (List UInt8) :=
  [textBytes "VIVID-ANCHOR-KEY-3", sessionTag.toList]

def anchorParts (sessionTag : Bytes 16) (contextId anchorId : UInt64) : List (List UInt8) :=
  [textBytes "VIVID-ANCHOR-3", sessionTag.toList, beBytes contextId, beBytes anchorId]

end Parts

/-! ## The functions -/

section Functions

variable (hmac : HmacSha256) (sha256 : Sha256)

def hmacParts (key : List UInt8) (parts : List (List UInt8)) : Bytes 32 := hmac key parts.flatten

def hkdfExpand (prk : Bytes 32) (info : List (List UInt8)) : Bytes 32 :=
  hmac prk.toList (info.flatten ++ [1])

def truncateTag (value : Bytes 32) : Bytes 16 := value.take 16

def rootHelloProof (rootSecret : Bytes 32) (preface : Bytes 16) (helloAuthless : List UInt8) :
    Bytes 32 :=
  hmacParts hmac rootSecret.toList (rootHelloParts sha256 preface helloAuthless)

structure SessionKeys where
  channel : Bytes 32
  resume : Bytes 32

/-- The session keys and the anchor key. -/
def deriveSessionKeys (prk : Bytes 32) (sessionId resumeGeneration : UInt64)
    (sessionTag : Bytes 16) : SessionKeys × Bytes 32 :=
  let channel := hkdfExpand hmac prk (channelInfo sessionId)
  let resume := hkdfExpand hmac prk (resumeInfo sessionId resumeGeneration)
  let anchor := hkdfExpand hmac prk (anchorInfo sessionTag)
  ({ channel := channel, resume := resume }, anchor)

def welcomeConfirmation (prk : Bytes 32) (welcomeUnconfirmed : List UInt8) : Bytes 32 :=
  hmacParts hmac prk.toList (welcomeParts sha256 welcomeUnconfirmed)

def resumeHelloProof (priorResumeKey : Bytes 32) (preface : Bytes 16)
    (leaseId sessionId resumeGeneration : UInt64) (attemptId : Bytes 16)
    (helloAuthless : List UInt8) : Bytes 32 :=
  hmacParts hmac priorResumeKey.toList
    (resumeHelloParts sha256 preface leaseId sessionId resumeGeneration attemptId helloAuthless)

def laneTag (sessionChannelKey : Bytes 32) (sessionId : UInt64) (laneClass : UInt32)
    (laneGeneration : UInt64) (clientNonce : Bytes 16) : Bytes 16 :=
  truncateTag (hmacParts hmac sessionChannelKey.toList
    (laneParts sessionId laneClass laneGeneration clientNonce))

def channelTag (sessionChannelKey : Bytes 32) (binding : ChannelBinding) : Bytes 16 :=
  truncateTag (hmacParts hmac sessionChannelKey.toList (channelParts binding))

def fileTransferTag (sessionChannelKey : Bytes 32) (binding : FileTransferBinding) : Bytes 16 :=
  truncateTag (hmacParts hmac sessionChannelKey.toList (fileTransferParts binding))

/-- `anchor::authenticator`. -/
def authenticator (key : Bytes 32) (sessionTag : Bytes 16) (contextId anchorId : UInt64) :
    Bytes 16 :=
  truncateTag (hmacParts hmac key.toList (anchorParts sessionTag contextId anchorId))

end Functions

/-! ## Calls -/

/-- A call of one of the functions, without its key.  The three expansions of
`derive_session_keys` are three calls. -/
inductive Call where
  | rootHello (preface : Bytes 16) (helloAuthless : List UInt8)
  | welcome (welcomeUnconfirmed : List UInt8)
  | resumeHello (preface : Bytes 16) (leaseId sessionId resumeGeneration : UInt64)
      (attemptId : Bytes 16) (helloAuthless : List UInt8)
  | lane (sessionId : UInt64) (laneClass : UInt32) (laneGeneration : UInt64)
      (clientNonce : Bytes 16)
  | channel (binding : ChannelBinding)
  | fileTransfer (binding : FileTransferBinding)
  | channelKey (sessionId : UInt64)
  | resumeKey (sessionId resumeGeneration : UInt64)
  | anchorKey (sessionTag : Bytes 16)
  | anchor (sessionTag : Bytes 16) (contextId anchorId : UInt64)

/-- The functions, and the expansions one by one. -/
inductive Purpose where
  | rootHello
  | welcome
  | resumeHello
  | lane
  | channel
  | fileTransfer
  | channelKey
  | resumeKey
  | anchorKey
  | anchor
  deriving Repr, DecidableEq

namespace Purpose

/-- The widths of what is fed, label first. -/
def widths : Purpose → List Nat
  | .rootHello => [18, 16, 32]
  | .welcome => [15, 32]
  | .resumeHello => [20, 16, 8, 8, 8, 16, 32]
  | .lane => [12, 8, 4, 8, 16]
  | .channel => [15, 8, 8, 8, 8, 8, 4, 4, 16]
  | .fileTransfer => [21, 8, 8, 8, 8, 8, 8, 8, 8, 8, 8, 4, 8, 8, 16]
  | .channelKey => [23, 8]
  | .resumeKey => [22, 8, 8]
  | .anchorKey => [18, 16]
  | .anchor => [14, 16, 8, 8]

/-- The byte that `hkdf_expand` appends. -/
def suffix : Purpose → List UInt8
  | .channelKey => [1]
  | .resumeKey => [1]
  | .anchorKey => [1]
  | _ => []

/-- How many bytes are fed. -/
def size (purpose : Purpose) : Nat := purpose.widths.sum + purpose.suffix.length

/-- The purpose that feeds so many bytes. -/
def ofSize : Nat → Option Purpose
  | 66 => some .rootHello
  | 47 => some .welcome
  | 108 => some .resumeHello
  | 48 => some .lane
  | 79 => some .channel
  | 137 => some .fileTransfer
  | 32 => some .channelKey
  | 39 => some .resumeKey
  | 35 => some .anchorKey
  | 46 => some .anchor
  | _ => none

theorem ofSize_size (purpose : Purpose) : ofSize purpose.size = some purpose := by
  cases purpose with
  | _ => rfl

/-- No two purposes feed equally many bytes. -/
theorem size_injective : Function.Injective size := by
  intro first second same
  have found := congrArg ofSize same
  rw [ofSize_size, ofSize_size] at found
  exact Option.some.inj found

end Purpose

namespace Call

def purpose : Call → Purpose
  | .rootHello .. => .rootHello
  | .welcome _ => .welcome
  | .resumeHello .. => .resumeHello
  | .lane .. => .lane
  | .channel _ => .channel
  | .fileTransfer _ => .fileTransfer
  | .channelKey _ => .channelKey
  | .resumeKey .. => .resumeKey
  | .anchorKey _ => .anchorKey
  | .anchor .. => .anchor

/-- The message a call hashes before it authenticates. -/
def hashed : Call → Set (List UInt8)
  | .rootHello _ helloAuthless => {helloAuthless}
  | .welcome welcomeUnconfirmed => {welcomeUnconfirmed}
  | .resumeHello _ _ _ _ _ helloAuthless => {helloAuthless}
  | _ => ∅

variable (hmac : HmacSha256) (sha256 : Sha256)

def parts : Call → List (List UInt8)
  | .rootHello preface helloAuthless => rootHelloParts sha256 preface helloAuthless
  | .welcome welcomeUnconfirmed => welcomeParts sha256 welcomeUnconfirmed
  | .resumeHello preface leaseId sessionId resumeGeneration attemptId helloAuthless =>
      resumeHelloParts sha256 preface leaseId sessionId resumeGeneration attemptId helloAuthless
  | .lane sessionId laneClass laneGeneration clientNonce =>
      laneParts sessionId laneClass laneGeneration clientNonce
  | .channel binding => channelParts binding
  | .fileTransfer binding => fileTransferParts binding
  | .channelKey sessionId => channelInfo sessionId
  | .resumeKey sessionId resumeGeneration => resumeInfo sessionId resumeGeneration
  | .anchorKey sessionTag => anchorInfo sessionTag
  | .anchor sessionTag contextId anchorId => anchorParts sessionTag contextId anchorId

/-- The bytes a call feeds to HMAC. -/
def fed (call : Call) : List UInt8 := (call.parts sha256).flatten ++ call.purpose.suffix

/-- What a call returns under a key, of the keys that are derived the one it expands. -/
def answer (key : Bytes 32) : Call → List UInt8
  | .rootHello preface helloAuthless =>
      (rootHelloProof hmac sha256 key preface helloAuthless).toList
  | .welcome welcomeUnconfirmed => (welcomeConfirmation hmac sha256 key welcomeUnconfirmed).toList
  | .resumeHello preface leaseId sessionId resumeGeneration attemptId helloAuthless =>
      (resumeHelloProof hmac sha256 key preface leaseId sessionId resumeGeneration attemptId
        helloAuthless).toList
  | .lane sessionId laneClass laneGeneration clientNonce =>
      (laneTag hmac key sessionId laneClass laneGeneration clientNonce).toList
  | .channel binding => (channelTag hmac key binding).toList
  | .fileTransfer binding => (fileTransferTag hmac key binding).toList
  | .channelKey sessionId =>
      (deriveSessionKeys hmac key sessionId 0 (Vector.replicate 16 0)).1.channel.toList
  | .resumeKey sessionId resumeGeneration =>
      (deriveSessionKeys hmac key sessionId resumeGeneration
        (Vector.replicate 16 0)).1.resume.toList
  | .anchorKey sessionTag => (deriveSessionKeys hmac key 0 0 sessionTag).2.toList
  | .anchor sessionTag contextId anchorId =>
      (authenticator hmac key sessionTag contextId anchorId).toList

end Call

/-! ## Separation -/

theorem beBytes_injective : Function.Injective beBytes := by
  intro first second same
  have values := congrArg BigEndian.ofBytes same
  unfold beBytes at values
  rw [BigEndian.ofBytes_toBytes 8 _ first.toNat_lt, BigEndian.ofBytes_toBytes 8 _ second.toNat_lt]
    at values
  exact UInt64.toNat_inj.mp values

theorem beBytes32_injective : Function.Injective beBytes32 := by
  intro first second same
  have values := congrArg BigEndian.ofBytes same
  unfold beBytes32 at values
  rw [BigEndian.ofBytes_toBytes 4 _ first.toNat_lt, BigEndian.ofBytes_toBytes 4 _ second.toNat_lt]
    at values
  exact UInt32.toNat_inj.mp values

@[simp] theorem beBytes_inj {first second : UInt64} : beBytes first = beBytes second ↔ first = second :=
  beBytes_injective.eq_iff

@[simp] theorem beBytes32_inj {first second : UInt32} :
    beBytes32 first = beBytes32 second ↔ first = second :=
  beBytes32_injective.eq_iff

@[simp] theorem length_beBytes (value : UInt64) : (beBytes value).length = 8 :=
  BigEndian.length_toBytes 8 _

@[simp] theorem length_beBytes32 (value : UInt32) : (beBytes32 value).length = 4 :=
  BigEndian.length_toBytes 4 _

namespace Call

variable {hmac : HmacSha256} {sha256 : Sha256}

/-- The parts of a call have the widths of its purpose. -/
theorem parts_widths (sha256 : Sha256) (call : Call) :
    (call.parts sha256).map List.length = call.purpose.widths := by
  cases call with
  | rootHello =>
      simp [parts, rootHelloParts, purpose, Purpose.widths]
      rfl
  | welcome =>
      simp [parts, welcomeParts, purpose, Purpose.widths]
      rfl
  | resumeHello =>
      simp [parts, resumeHelloParts, purpose, Purpose.widths]
      rfl
  | lane =>
      simp [parts, laneParts, purpose, Purpose.widths]
      rfl
  | channel =>
      simp [parts, channelParts, purpose, Purpose.widths]
      rfl
  | fileTransfer =>
      simp [parts, fileTransferParts, purpose, Purpose.widths]
      rfl
  | channelKey =>
      simp [parts, channelInfo, purpose, Purpose.widths]
      rfl
  | resumeKey =>
      simp [parts, resumeInfo, purpose, Purpose.widths]
      rfl
  | anchorKey =>
      simp [parts, anchorInfo, purpose, Purpose.widths]
      rfl
  | anchor =>
      simp [parts, anchorParts, purpose, Purpose.widths]
      rfl

theorem length_fed (sha256 : Sha256) (call : Call) :
    (call.fed sha256).length = call.purpose.size := by
  unfold fed Purpose.size
  rw [List.length_append, List.length_flatten, parts_widths]

/-- Equal bytes are fed for one purpose, part by part. -/
theorem parts_of_fed {first second : Call} (same : first.fed sha256 = second.fed sha256) :
    first.purpose = second.purpose ∧ first.parts sha256 = second.parts sha256 := by
  have sizes := congrArg List.length same
  rw [length_fed, length_fed] at sizes
  have purposes := Purpose.size_injective sizes
  refine ⟨purposes, List.eq_iff_flatten_eq.mpr ⟨?_, ?_⟩⟩
  · unfold fed at same
    rw [purposes] at same
    exact List.append_cancel_right same
  · rw [parts_widths, parts_widths, purposes]

/-- Calls of one function with the same parts have the same arguments, where the
messages they hash are told apart. -/
theorem eq_of_parts {first second : Call} (purposes : first.purpose = second.purpose)
    (parts : first.parts sha256 = second.parts sha256)
    (injective : Set.InjOn sha256 (first.hashed ∪ second.hashed)) : first = second := by
  have message : ∀ {one other : List UInt8}, one ∈ first.hashed → other ∈ second.hashed →
      sha256 one = sha256 other → one = other :=
    fun inside inside' digests => injective (.inl inside) (.inr inside') digests
  cases first with
  | rootHello preface hello =>
      cases second with
      | rootHello preface' hello' =>
          simp [Call.parts, rootHelloParts, Vector.toList_inj] at parts
          obtain ⟨rfl, digests⟩ := parts
          rw [message (Set.mem_singleton hello) (Set.mem_singleton hello') digests]
      | _ => cases purposes
  | welcome unconfirmed =>
      cases second with
      | welcome unconfirmed' =>
          simp [Call.parts, welcomeParts, Vector.toList_inj] at parts
          rw [message (Set.mem_singleton unconfirmed) (Set.mem_singleton unconfirmed') parts]
      | _ => cases purposes
  | resumeHello preface leaseId sessionId generation attemptId hello =>
      cases second with
      | resumeHello preface' leaseId' sessionId' generation' attemptId' hello' =>
          simp [Call.parts, resumeHelloParts, Vector.toList_inj] at parts
          obtain ⟨rfl, rfl, rfl, rfl, rfl, digests⟩ := parts
          rw [message (Set.mem_singleton hello) (Set.mem_singleton hello') digests]
      | _ => cases purposes
  | lane sessionId laneClass generation nonce =>
      cases second with
      | lane sessionId' laneClass' generation' nonce' =>
          simp [Call.parts, laneParts, Vector.toList_inj] at parts
          obtain ⟨rfl, rfl, rfl, rfl⟩ := parts
          rfl
      | _ => cases purposes
  | channel binding =>
      cases second with
      | channel binding' =>
          cases binding
          cases binding'
          simp [Call.parts, channelParts, Vector.toList_inj] at parts
          simpa using parts
      | _ => cases purposes
  | fileTransfer binding =>
      cases second with
      | fileTransfer binding' =>
          cases binding
          cases binding'
          simp [Call.parts, fileTransferParts, Vector.toList_inj] at parts
          simpa using parts
      | _ => cases purposes
  | channelKey sessionId =>
      cases second with
      | channelKey sessionId' =>
          simp [Call.parts, channelInfo] at parts
          rw [parts]
      | _ => cases purposes
  | resumeKey sessionId generation =>
      cases second with
      | resumeKey sessionId' generation' =>
          simp [Call.parts, resumeInfo] at parts
          rw [parts.1, parts.2]
      | _ => cases purposes
  | anchorKey sessionTag =>
      cases second with
      | anchorKey sessionTag' =>
          simp [Call.parts, anchorInfo, Vector.toList_inj] at parts
          rw [parts]
      | _ => cases purposes
  | anchor sessionTag contextId anchorId =>
      cases second with
      | anchor sessionTag' contextId' anchorId' =>
          simp [Call.parts, anchorParts, Vector.toList_inj] at parts
          rw [parts.1, parts.2.1, parts.2.2]
      | _ => cases purposes

theorem toList_truncateTag (value : Bytes 32) :
    (truncateTag value).toList = value.toList.take 16 :=
  Vector.toList_take

/-- What a call returns begins like what HMAC makes of the bytes that it feeds. -/
theorem answer_take (hmac : HmacSha256) (sha256 : Sha256) (key : Bytes 32) (call : Call) :
    (call.answer hmac sha256 key).take 16 = (hmac key.toList (call.fed sha256)).toList.take 16 := by
  have whole : ∀ parts : List (List UInt8), (hmacParts hmac key.toList parts).toList.take 16 =
      (hmac key.toList (parts.flatten ++ [])).toList.take 16 := fun parts => by
    rw [List.append_nil]
    rfl
  have short : ∀ parts : List (List UInt8),
      (truncateTag (hmacParts hmac key.toList parts)).toList.take 16 =
        (hmac key.toList (parts.flatten ++ [])).toList.take 16 := fun parts => by
    rw [toList_truncateTag, List.take_take, Nat.min_self, whole]
  cases call with
  | rootHello => exact whole _
  | welcome => exact whole _
  | resumeHello => exact whole _
  | lane => exact short _
  | channel => exact short _
  | fileTransfer => exact short _
  | channelKey => rfl
  | resumeKey => rfl
  | anchorKey => rfl
  | anchor => exact short _

end Call

/-- Two calls feed the same bytes to HMAC only if they are one call, where SHA-256
tells the messages apart that they hash; and they return the same bytes under one
key only then, where HMAC tells apart what they feed. -/
theorem transcripts_separate (sha256 : Sha256) (first second : Call)
    (injective : Set.InjOn sha256 (first.hashed ∪ second.hashed)) :
    (first.fed sha256 = second.fed sha256 → first = second) ∧
      ∀ (hmac : HmacSha256) (key : Bytes 32),
        Set.InjOn (fun input => (hmac key.toList input).toList.take 16)
          {first.fed sha256, second.fed sha256} →
        first.answer hmac sha256 key = second.answer hmac sha256 key → first = second := by
  have separate : first.fed sha256 = second.fed sha256 → first = second := by
    intro same
    obtain ⟨purposes, parts⟩ := Call.parts_of_fed same
    exact Call.eq_of_parts purposes parts injective
  refine ⟨separate, fun hmac key apart answers => separate ?_⟩
  have heads := congrArg (List.take 16) answers
  rw [Call.answer_take, Call.answer_take] at heads
  exact apart (.inl rfl) (.inr rfl) heads

/-- SHA-256 of the empty message and of the message `abc`. -/
def sampleDigest : Sha256 := fun message =>
  if message = [] then
    #v[227, 176, 196, 66, 152, 252, 28, 20, 154, 251, 244, 200, 153, 111, 185, 36, 39, 174, 65,
      228, 100, 155, 147, 76, 164, 149, 153, 27, 120, 82, 184, 85]
  else
    #v[186, 120, 22, 191, 143, 1, 207, 234, 65, 65, 64, 222, 93, 174, 34, 35, 176, 3, 97, 163,
      150, 23, 122, 156, 180, 16, 255, 97, 242, 0, 21, 173]

theorem transcripts_separate_messages :
    (Call.rootHello (Vector.replicate 16 0) []).fed sampleDigest ≠
      (Call.rootHello (Vector.replicate 16 0) [97, 98, 99]).fed sampleDigest := by
  intro same
  have one := (transcripts_separate sampleDigest (.rootHello (Vector.replicate 16 0) [])
    (.rootHello (Vector.replicate 16 0) [97, 98, 99]) ?_).1 same
  · cases one
  · intro left inside right inside' digests
    simp only [Call.hashed, Set.union_singleton, Set.mem_insert_iff, Set.mem_singleton_iff]
      at inside inside'
    rcases inside with rfl | rfl
    · rcases inside' with rfl | rfl
      · rfl
      · exact absurd digests (by decide)
    · rcases inside' with rfl | rfl
      · exact absurd digests (by decide)
      · rfl

end VividProtocol.Auth

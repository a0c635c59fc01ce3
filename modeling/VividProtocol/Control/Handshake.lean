import Mathlib.Tactic
import VividProtocol.Control.Welcome

/-!
# The handshake

What the two transcripts of a handshake determine, and when the records of a
handshake survive the wire.
-/

set_option autoImplicit false
set_option maxRecDepth 4000

namespace VividProtocol

open VividProtocol.Cbor
open VividProtocol.Registry

/-- The extensions have nothing for the encoder to change. -/
def ExtensionsNormal (extensions : PayloadMap) : Prop :=
  ∀ extension ∈ extensions, extension.2.norm = extension.2

theorem extensionsNormal_nil : ExtensionsNormal [] := fun _ among => nomatch among

/-! ## Transcripts -/

/-- A transcript determines its record except for the proof or confirmation. -/
theorem handshake_transcripts_bind :
    (∀ first second : Hello,
      ExtensionsNormal first.extensions → ExtensionsNormal second.extensions →
      (∃ bytes, first.authlessPayload = .ok bytes) →
      (first.authlessPayload = second.authlessPayload ↔
        first.withoutProof = second.withoutProof)) ∧
    ∀ first second : Welcome,
      ExtensionsNormal first.extensions → ExtensionsNormal second.extensions →
      first.DescriptorNormal → second.DescriptorNormal →
      (∃ bytes, first.unconfirmedPayload = .ok bytes) →
      (first.unconfirmedPayload = second.unconfirmedPayload ↔
        first.withoutConfirmation = second.withoutConfirmation) := by
  constructor
  · intro first second firstNormal secondNormal written
    obtain ⟨bytes, one⟩ := written
    constructor
    · intro same
      have two := one
      rw [same] at two
      exact Hello.authlessPayload_injective firstNormal secondNormal one two
    · intro same
      rw [← first.authlessPayload_withoutProof, same, second.authlessPayload_withoutProof]
  · intro first second firstNormal secondNormal firstDescriptor secondDescriptor written
    obtain ⟨bytes, one⟩ := written
    constructor
    · intro same
      have two := one
      rw [same] at two
      have bound := Welcome.unconfirmedPayload_injective firstNormal secondNormal one two
      rwa [Welcome.norm_eq_self.mpr firstDescriptor, Welcome.norm_eq_self.mpr secondDescriptor]
        at bound
    · intro same
      rw [← first.unconfirmedPayload_withoutConfirmation, same,
        second.unconfirmedPayload_withoutConfirmation]

/-- A small HELLO for a terminal. -/
def greeting (authentication : HelloAuthentication) (extensions : PayloadMap) : Hello :=
  { producerName := "p"
    producerVersion := "1"
    requiredProfiles := [TERMINAL_SURFACE, CORE_CONTROL]
    optionalProfiles := []
    maximumControlBody := 1024
    clientNonce := Vector.replicate 32 0
    authentication := authentication
    targetProfile := TERMINAL_SURFACE
    extensions := extensions }

/-- A small WELCOME for a terminal. -/
def answer (confirmation : Bytes 32) (targetDescriptor : PayloadMap) : Welcome :=
  { sessionId := 1
    sessionTag := Vector.replicate 16 0
    rootContextId := 1
    targetGeneration := 1
    targetProfile := TERMINAL_SURFACE
    targetDescriptor := targetDescriptor
    acceptedProfiles := [TERMINAL_SURFACE, CORE_CONTROL]
    maximumControlBody := 1024
    serverNonce := Vector.replicate 32 0
    authentication :=
      { kind := AUTHENTICATION_ROOT
        confirmation := confirmation
        leaseState := 0
        activationAttemptStatus := 0 }
    sessionRevision := 0
    sceneRevision := 0
    resourceContract := { values := Vector.replicate RESOURCE_COUNT 0 }
    establishmentState := 0
    resumeGeneration := 0
    extensions := [] }

theorem handshake_transcripts_bind_proofs :
    (greeting (.root (Vector.replicate 32 0)) []).authlessPayload =
        (greeting (.root (Vector.replicate 32 1)) []).authlessPayload ∧
      (answer (Vector.replicate 32 0) [(0, .null)]).unconfirmedPayload =
        (answer (Vector.replicate 32 1) [(0, .null)]).unconfirmedPayload := by
  have normal : (answer (Vector.replicate 32 0) [(0, .null)]).DescriptorNormal := by
    intro entry among
    rw [List.mem_singleton.mp among]
    rfl
  have none := extensionsNormal_nil
  constructor
  · exact (handshake_transcripts_bind.1 _ _ none none ⟨_, rfl⟩).mpr rfl
  · exact (handshake_transcripts_bind.2 _ _ none none normal normal ⟨_, rfl⟩).mpr rfl

/-- Arrays in one another. -/
def nested : Nat → Value
  | 0 => .null
  | levels + 1 => .array [nested levels]

/-- Two records without a payload fail alike, and a descriptor is written in its
normal form. -/
theorem handshake_transcripts_not_bind :
    ((greeting (.root (Vector.replicate 32 0)) [(8, nested 16)]).validate = .ok () ∧
      (greeting (.root (Vector.replicate 32 0)) [(9, nested 16)]).validate = .ok () ∧
      (greeting (.root (Vector.replicate 32 0)) [(8, nested 16)]).authlessPayload =
        .error (.cbor "CBOR nesting exceeds 16 levels") ∧
      (greeting (.root (Vector.replicate 32 0)) [(9, nested 16)]).authlessPayload =
        .error (.cbor "CBOR nesting exceeds 16 levels") ∧
      (greeting (.root (Vector.replicate 32 0)) [(8, nested 16)]).withoutProof ≠
        (greeting (.root (Vector.replicate 32 0)) [(9, nested 16)]).withoutProof) ∧
    (answer (Vector.replicate 32 0) [(0, .unsigned 5)]).validate = .ok () ∧
      (answer (Vector.replicate 32 0) [(0, .negative 5)]).validate = .ok () ∧
      (answer (Vector.replicate 32 0) [(0, .unsigned 5)]).unconfirmedPayload =
        (answer (Vector.replicate 32 0) [(0, .negative 5)]).unconfirmedPayload ∧
      (answer (Vector.replicate 32 0) [(0, .unsigned 5)]).withoutConfirmation ≠
        (answer (Vector.replicate 32 0) [(0, .negative 5)]).withoutConfirmation := by
  refine ⟨⟨rfl, rfl, rfl, rfl, ?_⟩, rfl, rfl, rfl, ?_⟩
  · intro same
    cases congrArg Hello.extensions same
  · intro same
    cases congrArg Welcome.targetDescriptor same

/-! ## The wire -/

/-- HELLO survives the wire exactly if its authentication has its IDs, and WELCOME
exactly if its target descriptor is normal; what either receiver accepts is sent
again and accepted as itself. -/
theorem handshake_survives_iff (requestId : UInt64) (body : List UInt8) :
    ((∀ hello : Hello, ExtensionsNormal hello.extensions → hello.encode requestId = .ok body →
        (Hello.decode body = .ok (requestId, hello) ↔ hello.authentication.Named)) ∧
      ∀ hello : Hello, Hello.decode body = .ok (requestId, hello) →
        ∃ again, hello.encode requestId = .ok again ∧
          Hello.decode again = .ok (requestId, hello)) ∧
    (∀ welcome : Welcome,
        ExtensionsNormal welcome.extensions → welcome.encode requestId = .ok body →
        (Welcome.decode body = .ok (requestId, welcome) ↔ welcome.DescriptorNormal)) ∧
      ∀ welcome : Welcome, Welcome.decode body = .ok (requestId, welcome) →
        ∃ again, welcome.encode requestId = .ok again ∧
          Welcome.decode again = .ok (requestId, welcome) := by
  refine ⟨⟨?_, ?_⟩, ?_, ?_⟩
  · intro hello normal written
    exact Hello.decode_encode_iff normal written
  · intro hello read
    exact Hello.encode_of_decode read
  · intro welcome normal written
    have read := Welcome.decode_of_encode normal written
    rw [read, Except.ok.injEq, Prod.mk.injEq, ← Welcome.norm_eq_self]
    exact and_iff_right rfl
  · intro welcome read
    exact Welcome.encode_of_decode read

/-- A lease activation, and a resumption, with all their IDs. -/
def activation : HelloAuthentication :=
  .leaseActivation 2 3 (Vector.replicate 32 5) (Vector.replicate 16 6) (some [1, 2])

def resumption : HelloAuthentication :=
  .resume 2 3 4 1 (Vector.replicate 16 6) (Vector.replicate 32 5)

theorem handshake_survives_iff_lease :
    (∀ authentication ∈ [activation, resumption],
      ∃ body again, (greeting authentication [(8, .text "x")]).encode 1 = .ok body ∧
        Hello.decode body = .ok (1, greeting authentication [(8, .text "x")]) ∧
        (greeting authentication [(8, .text "x")]).encode 1 = .ok again) ∧
    ∃ body again, (answer (Vector.replicate 32 0) [(0, .null)]).encode 1 = .ok body ∧
      Welcome.decode body = .ok (1, answer (Vector.replicate 32 0) [(0, .null)]) ∧
      (answer (Vector.replicate 32 0) [(0, .null)]).encode 1 = .ok again := by
  constructor
  · intro authentication among
    have named : authentication.Named := by
      simp only [List.mem_cons, List.not_mem_nil, or_false] at among
      rcases among with rfl | rfl
      · exact ⟨by decide, by decide⟩
      · exact ⟨by decide, by decide, by decide⟩
    have normal : ExtensionsNormal (greeting authentication [(8, .text "x")]).extensions := by
      intro extension inside
      rw [List.mem_singleton.mp inside]
      rfl
    obtain ⟨body, written⟩ : ∃ body,
        (greeting authentication [(8, .text "x")]).encode 1 = .ok body := by
      simp only [List.mem_cons, List.not_mem_nil, or_false] at among
      rcases among with rfl | rfl
      · exact ⟨_, rfl⟩
      · exact ⟨_, rfl⟩
    have read := ((handshake_survives_iff 1 body).1.1 _ normal written).mpr named
    obtain ⟨again, resent, _⟩ := (handshake_survives_iff 1 body).1.2 _ read
    exact ⟨body, again, written, read, resent⟩
  · have read := ((handshake_survives_iff 1 _).2.1 (answer (Vector.replicate 32 0) [(0, .null)])
      extensionsNormal_nil rfl).mpr (by
        intro entry among
        rw [List.mem_singleton.mp among]
        rfl)
    obtain ⟨again, written, _⟩ := (handshake_survives_iff 1 _).2.2 _ read
    exact ⟨_, again, rfl, read, written⟩

/-- A lease activation without its context. -/
def unnamed : HelloAuthentication :=
  .leaseActivation 0 1 (Vector.replicate 32 0) (Vector.replicate 16 0) none

/-- The sender writes IDs of zero, which the receiver refuses. -/
theorem handshake_not_survives :
    ∃ body, (greeting unnamed []).encode 1 = .ok body ∧
      Hello.decode body =
        .error (invalidValue "lease activation authentication" 1 "must be nonzero") :=
  ⟨_, rfl, rfl⟩

end VividProtocol

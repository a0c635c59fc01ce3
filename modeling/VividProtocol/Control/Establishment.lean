import Mathlib.Tactic
import VividProtocol.Auth.Transcript
import VividProtocol.Control.Handshake

/-!
# Establishing a session

The proofs of `auth.rs` as HELLO and WELCOME carry them.  Over the wire each
proof verifies against the record that was read, both sides derive the same
keys, and a later HELLO proves that it holds them.
-/

set_option autoImplicit false
set_option maxRecDepth 4000

namespace VividProtocol.Auth

open VividProtocol.Cbor

section Verifiers

variable (hmac : HmacSha256) (sha256 : Sha256)

/-- `ct_eq` of arrays after the check of the length. -/
def verifyProof (expected : Bytes 32) (supplied : List UInt8) : Bool :=
  decide (supplied.length = 32) && decide (expected.toList = supplied)

def verifyTag (expected : Bytes 16) (supplied : List UInt8) : Bool :=
  decide (supplied.length = 16) && decide (expected.toList = supplied)

def verifyRootHelloProof (rootSecret : Bytes 32) (preface : Bytes 16)
    (helloAuthless proof : List UInt8) : Bool :=
  if proof.length ≠ 32 then false
  else decide ((rootHelloProof hmac sha256 rootSecret preface helloAuthless).toList = proof)

def extractHandshakePrk (sessionSecret clientNonce serverNonce carrierBindingKey : Bytes 32) :
    Bytes 32 :=
  hmacParts hmac (clientNonce.toList ++ serverNonce.toList ++ carrierBindingKey.toList)
    [sessionSecret.toList]

def verifyWelcomeConfirmation (prk : Bytes 32) (welcomeUnconfirmed confirmation : List UInt8) :
    Bool :=
  if confirmation.length ≠ 32 then false
  else decide ((welcomeConfirmation hmac sha256 prk welcomeUnconfirmed).toList = confirmation)

end Verifiers

theorem verifyProof_iff {expected supplied : Bytes 32} :
    verifyProof expected supplied.toList = true ↔ supplied = expected := by
  simp [verifyProof, Vector.toList_inj, eq_comm]

theorem verifyRootHelloProof_iff {hmac : HmacSha256} {sha256 : Sha256} {rootSecret : Bytes 32}
    {preface : Bytes 16} {helloAuthless : List UInt8} {proof : Bytes 32} :
    verifyRootHelloProof hmac sha256 rootSecret preface helloAuthless proof.toList = true ↔
      proof = rootHelloProof hmac sha256 rootSecret preface helloAuthless := by
  unfold verifyRootHelloProof
  rw [if_neg (not_not.mpr proof.length_toList), decide_eq_true_iff, Vector.toList_inj]
  exact eq_comm

end VividProtocol.Auth

namespace VividProtocol

open VividProtocol.Auth
open VividProtocol.Cbor
open VividProtocol.Library.Result

section Authentication

variable (hmac : HmacSha256) (sha256 : Sha256)

namespace Hello

def authenticateRoot (hello : Hello) (rootSecret : Bytes 32) (preface : Bytes 16) :
    Except MessageError Hello :=
  match hello.authentication with
  | .root _ => do
      let authless ← hello.authlessPayload
      let proof := rootHelloProof hmac sha256 rootSecret preface authless
      .ok { hello with authentication := .root proof }
  | _ => .error (invalidValue "HELLO authentication" 0 "is not root authentication")

def authenticateResume (hello : Hello) (priorResumeKey : Bytes 32) (preface : Bytes 16) :
    Except MessageError Hello :=
  match hello.authentication with
  | .resume contextId leaseId sessionId resumeGeneration attemptId _ => do
      let authless ← hello.authlessPayload
      let proof := resumeHelloProof hmac sha256 priorResumeKey preface leaseId sessionId
        resumeGeneration attemptId authless
      .ok { hello with
        authentication :=
          .resume contextId leaseId sessionId resumeGeneration attemptId proof }
  | _ => .error (invalidValue "HELLO authentication" 0 "is not resume authentication")

end Hello

def Welcome.confirm (welcome : Welcome) (prk : Bytes 32) : Except MessageError Welcome := do
  let unconfirmed ← welcome.unconfirmedPayload
  .ok { welcome with
    authentication :=
      { welcome.authentication with
        confirmation := welcomeConfirmation hmac sha256 prk unconfirmed } }

/-! ## What the peer verifies -/

/-- The body is a HELLO whose root proof verifies. -/
def RootVerified (rootSecret : Bytes 32) (preface : Bytes 16) (received : Hello) : Prop :=
  ∃ proof authless, received.authentication = .root proof ∧
    received.authlessPayload = .ok authless ∧
    verifyRootHelloProof hmac sha256 rootSecret preface authless proof.toList = true

/-- The proof of a resumption verifies under the key kept from the session. -/
def ResumeVerified (resumeKey : Bytes 32) (preface : Bytes 16) (received : Hello) : Prop :=
  ∃ contextId leaseId sessionId resumeGeneration attemptId proof authless,
    received.authentication =
      .resume contextId leaseId sessionId resumeGeneration attemptId proof ∧
    received.authlessPayload = .ok authless ∧
    verifyProof
      (resumeHelloProof hmac sha256 resumeKey preface leaseId sessionId resumeGeneration attemptId
        authless) proof.toList = true

def WelcomeVerified (prk : Bytes 32) (accepted : Welcome) : Prop :=
  ∃ unconfirmed, accepted.unconfirmedPayload = .ok unconfirmed ∧
    verifyWelcomeConfirmation hmac sha256 prk unconfirmed
      accepted.authentication.confirmation.toList = true

end Authentication

variable {hmac : HmacSha256} {sha256 : Sha256} {preface : Bytes 16}

/-- A HELLO that differs from another in its proof only has its transcript. -/
theorem Hello.authlessPayload_congr {first second : Hello}
    (same : first.withoutProof = second.withoutProof) :
    first.authlessPayload = second.authlessPayload := by
  rw [← first.authlessPayload_withoutProof, same, second.authlessPayload_withoutProof]

/-- What two records that differ in their proofs share. -/
theorem Hello.shared {first second : Hello} (same : first.withoutProof = second.withoutProof) :
    first.extensions = second.extensions ∧ first.clientNonce = second.clientNonce ∧
      (first.authentication.Named ↔ second.authentication.Named) := by
  have extensions := congrArg Hello.extensions same
  have nonce := congrArg Hello.clientNonce same
  have authentication := congrArg Hello.authentication same
  have named (authentication : HelloAuthentication) :
      authentication.withoutProof.Named ↔ authentication.Named := by
    cases authentication <;> rfl
  refine ⟨extensions, nonce, ?_⟩
  rw [← named, ← named second.authentication]
  exact iff_of_eq (congrArg HelloAuthentication.Named authentication)

/-- What two records that differ in their confirmations share. -/
theorem Welcome.shared {first second : Welcome}
    (same : first.withoutConfirmation = second.withoutConfirmation) :
    first.sessionId = second.sessionId ∧ first.sessionTag = second.sessionTag ∧
      first.serverNonce = second.serverNonce ∧
      first.resumeGeneration = second.resumeGeneration := by
  have session := congrArg Welcome.sessionId same
  have tag := congrArg Welcome.sessionTag same
  have nonce := congrArg Welcome.serverNonce same
  have generation := congrArg Welcome.resumeGeneration same
  exact ⟨session, tag, nonce, generation⟩

theorem Hello.root_verified {hello signed : Hello} {rootSecret : Bytes 32}
    (signs : hello.authenticateRoot hmac sha256 rootSecret preface = .ok signed) :
    RootVerified hmac sha256 rootSecret preface signed ∧ signed.authentication.Named ∧
      signed.withoutProof = hello.withoutProof := by
  unfold authenticateRoot at signs
  cases kind : hello.authentication with
  | root unsigned =>
      rw [kind] at signs
      obtain ⟨authless, written, built⟩ := bind_eq_ok_iff.mp signs
      cases built
      have unchanged : ({ hello with
          authentication := .root (rootHelloProof hmac sha256 rootSecret preface authless) } :
          Hello).withoutProof = hello.withoutProof := by
        unfold withoutProof
        rw [kind]
        rfl
      refine ⟨⟨_, authless, rfl, ?_, ?_⟩, trivial, unchanged⟩
      · rw [authlessPayload_congr unchanged]
        exact written
      · exact verifyRootHelloProof_iff.mpr rfl
  | leaseActivation contextId leaseId activationSecret attemptId proof =>
      rw [kind] at signs
      cases signs
  | resume contextId leaseId sessionId resumeGeneration attemptId proof =>
      rw [kind] at signs
      cases signs

theorem Hello.resume_verified {hello signed : Hello} {resumeKey : Bytes 32}
    (signs : hello.authenticateResume hmac sha256 resumeKey preface = .ok signed) :
    ResumeVerified hmac sha256 resumeKey preface signed ∧
      signed.withoutProof = hello.withoutProof := by
  unfold authenticateResume at signs
  cases kind : hello.authentication with
  | resume contextId leaseId sessionId resumeGeneration attemptId unsigned =>
      rw [kind] at signs
      obtain ⟨authless, written, built⟩ := bind_eq_ok_iff.mp signs
      cases built
      have unchanged : ({ hello with
          authentication := .resume contextId leaseId sessionId resumeGeneration attemptId
            (resumeHelloProof hmac sha256 resumeKey preface leaseId sessionId resumeGeneration
              attemptId authless) } : Hello).withoutProof = hello.withoutProof := by
        unfold withoutProof
        rw [kind]
        rfl
      refine ⟨⟨contextId, leaseId, sessionId, resumeGeneration, attemptId, _, authless, rfl, ?_,
        verifyProof_iff.mpr rfl⟩, unchanged⟩
      rw [authlessPayload_congr unchanged]
      exact written
  | root proof =>
      rw [kind] at signs
      cases signs
  | leaseActivation contextId leaseId activationSecret attemptId proof =>
      rw [kind] at signs
      cases signs

/-- The normal form of a record has its transcript. -/
theorem Welcome.unconfirmedPayload_norm {welcome : Welcome} {unconfirmed : List UInt8}
    (normal : ExtensionsNormal welcome.extensions) (valid : welcome.norm.validate = .ok ())
    (written : welcome.unconfirmedPayload = .ok unconfirmed) :
    welcome.norm.unconfirmedPayload = .ok unconfirmed := by
  have encoded := (unconfirmedPayload_eq_ok.mp written).2
  have again := Cbor.encode_of_decode (Cbor.decode_of_encode encoded)
  rw [Value.norm, fields_norm true normal] at again
  exact unconfirmedPayload_eq_ok.mpr ⟨valid, again⟩

/-- A confirmed WELCOME verifies as its receiver reads it. -/
theorem Welcome.verified {welcome confirmed : Welcome} {prk : Bytes 32} {replyId : UInt64}
    {body : List UInt8} (normal : ExtensionsNormal welcome.extensions)
    (confirms : welcome.confirm hmac sha256 prk = .ok confirmed)
    (answered : confirmed.encode replyId = .ok body) :
    Welcome.decode body = .ok (replyId, confirmed.norm) ∧
      WelcomeVerified hmac sha256 prk confirmed.norm ∧
      confirmed.withoutConfirmation = welcome.withoutConfirmation := by
  obtain ⟨unconfirmed, written, built⟩ := bind_eq_ok_iff.mp confirms
  have built := (Except.ok.inj built).symm
  have same : confirmed.withoutConfirmation = welcome.withoutConfirmation := by
    rw [built]
    rfl
  have confirmedNormal : ExtensionsNormal confirmed.extensions := by
    rw [built]
    exact normal
  have read := Welcome.decode_of_encode confirmedNormal answered
  obtain ⟨_, -, -, -, accepted⟩ := Welcome.decode_eq_ok.mp read
  refine ⟨read, ⟨unconfirmed, ?_, ?_⟩, same⟩
  · refine Welcome.unconfirmedPayload_norm confirmedNormal
      (Welcome.ofPayload_eq_ok.mp accepted).valid ?_
    rw [← Welcome.unconfirmedPayload_withoutConfirmation, same,
      Welcome.unconfirmedPayload_withoutConfirmation]
    exact written
  · have confirmation : confirmed.norm.authentication.confirmation =
        welcomeConfirmation hmac sha256 prk unconfirmed := by
      rw [built]
      rfl
    unfold verifyWelcomeConfirmation
    simp [confirmation]

/-! ## A session -/

/-- A root session.  The HELLO an initiator signs is accepted and its proof
verifies; whatever WELCOME the receiver confirms under the key it extracts is
accepted and verifies under the key the initiator extracts; both derive the same
keys, and a HELLO the initiator signs with its resume key verifies under the
receiver's. -/
theorem session_established (hmac : HmacSha256) (sha256 : Sha256)
    (rootSecret carrierBindingKey : Bytes 32) (preface : Bytes 16) (requestId : UInt64)
    (hello signed : Hello) (helloBody : List UInt8) (normal : ExtensionsNormal hello.extensions)
    (signs : hello.authenticateRoot hmac sha256 rootSecret preface = .ok signed)
    (sent : signed.encode requestId = .ok helloBody) :
    ∃ received, Hello.decode helloBody = .ok (requestId, received) ∧
      RootVerified hmac sha256 rootSecret preface received ∧
      ∀ (welcome confirmed : Welcome) (replyId : UInt64) (welcomeBody : List UInt8),
        ExtensionsNormal welcome.extensions →
        let receiverPrk := extractHandshakePrk hmac rootSecret received.clientNonce
          welcome.serverNonce carrierBindingKey
        welcome.confirm hmac sha256 receiverPrk = .ok confirmed →
        confirmed.encode replyId = .ok welcomeBody →
        ∃ accepted, Welcome.decode welcomeBody = .ok (replyId, accepted) ∧
          let initiatorPrk := extractHandshakePrk hmac rootSecret hello.clientNonce
            accepted.serverNonce carrierBindingKey
          WelcomeVerified hmac sha256 initiatorPrk accepted ∧
          let initiatorKeys := deriveSessionKeys hmac initiatorPrk accepted.sessionId
            accepted.resumeGeneration accepted.sessionTag
          let receiverKeys := deriveSessionKeys hmac receiverPrk welcome.sessionId
            welcome.resumeGeneration welcome.sessionTag
          initiatorKeys = receiverKeys ∧
          ∀ (later resumed : Hello) (laterPreface : Bytes 16) (laterId : UInt64)
            (laterBody : List UInt8),
            ExtensionsNormal later.extensions → later.authentication.Named →
            later.authenticateResume hmac sha256 initiatorKeys.1.resume laterPreface =
              .ok resumed →
            resumed.encode laterId = .ok laterBody →
            ∃ arrived, Hello.decode laterBody = .ok (laterId, arrived) ∧
              ResumeVerified hmac sha256 receiverKeys.1.resume laterPreface arrived := by
  obtain ⟨verified, named, unchanged⟩ := Hello.root_verified signs
  obtain ⟨extensions, nonce, -⟩ := Hello.shared unchanged
  rw [← extensions] at normal
  refine ⟨signed, (Hello.decode_encode_iff normal sent).mpr named, verified, ?_⟩
  intro welcome confirmed replyId welcomeBody welcomeNormal receiverPrk confirms answered
  obtain ⟨read, confirmation, same⟩ := Welcome.verified welcomeNormal confirms answered
  obtain ⟨session, tag, serverNonce, generation⟩ := Welcome.shared same
  refine ⟨confirmed.norm, read, ?_⟩
  intro initiatorPrk
  have agreed : initiatorPrk = receiverPrk := by
    change extractHandshakePrk hmac rootSecret hello.clientNonce confirmed.serverNonce
      carrierBindingKey = _
    rw [serverNonce, ← nonce]
  have keys : deriveSessionKeys hmac initiatorPrk confirmed.norm.sessionId
      confirmed.norm.resumeGeneration confirmed.norm.sessionTag =
        deriveSessionKeys hmac receiverPrk welcome.sessionId welcome.resumeGeneration
          welcome.sessionTag := by
    change deriveSessionKeys hmac initiatorPrk confirmed.sessionId confirmed.resumeGeneration
      confirmed.sessionTag = _
    rw [agreed, session, generation, tag]
  refine ⟨?_, keys, ?_⟩
  · rw [agreed]
    exact confirmation
  · rw [keys]
    intro later resumed laterPreface laterId laterBody laterNormal laterNamed resumes laterSent
    obtain ⟨resumedVerified, laterSame⟩ := Hello.resume_verified resumes
    obtain ⟨laterExtensions, -, namedIff⟩ := Hello.shared laterSame
    rw [← laterExtensions] at laterNormal
    exact ⟨resumed, (Hello.decode_encode_iff laterNormal laterSent).mpr (namedIff.mpr laterNamed),
      resumedVerified⟩

/-- SHA-256 of the transcripts of `greeting` and `answer`. -/
def greetingDigest : Sha256 := fun message =>
  if message.length = 117 then
    #v[104, 234, 36, 132, 134, 164, 147, 108, 113, 135, 14, 146, 15, 240, 237, 198, 48, 127, 200,
      150, 237, 145, 94, 121, 108, 103, 85, 201, 79, 49, 172, 51]
  else
    #v[59, 151, 234, 243, 200, 76, 171, 188, 136, 120, 147, 185, 60, 76, 108, 49, 19, 29, 156,
      251, 72, 183, 106, 207, 202, 238, 35, 244, 238, 34, 173, 225]

/-- HMAC-SHA-256 of a session between them under a secret of sevens. -/
def greetingHmac : HmacSha256 := fun key input =>
  if key.length = 96 then
    #v[181, 154, 72, 177, 240, 184, 147, 146, 153, 204, 144, 157, 39, 112, 149, 231, 185, 17,
      252, 22, 116, 168, 47, 193, 213, 4, 83, 141, 140, 217, 4, 36]
  else if input.length = 66 ∧ input[24]? = some 0 then
    #v[3, 247, 219, 11, 92, 190, 41, 87, 59, 158, 170, 168, 172, 154, 151, 244, 1, 167, 155, 33,
      160, 250, 1, 17, 16, 127, 244, 77, 91, 89, 79, 120]
  else if input.length = 66 then
    #v[63, 55, 81, 11, 44, 214, 140, 233, 229, 176, 48, 233, 249, 133, 53, 49, 209, 54, 78, 166,
      20, 216, 17, 43, 19, 145, 27, 40, 98, 65, 3, 216]
  else if input.length = 47 then
    #v[77, 159, 13, 252, 126, 187, 120, 19, 215, 1, 247, 191, 145, 114, 142, 163, 168, 216, 114,
      119, 137, 84, 191, 209, 95, 78, 197, 236, 17, 13, 175, 239]
  else if input.length = 32 then
    #v[45, 219, 192, 227, 88, 210, 241, 147, 169, 37, 252, 58, 255, 21, 233, 156, 179, 210, 159,
      244, 234, 151, 196, 34, 245, 35, 188, 214, 164, 182, 18, 138]
  else if input.length = 39 then
    #v[66, 78, 29, 115, 70, 96, 235, 231, 25, 158, 205, 95, 87, 165, 3, 80, 99, 142, 217, 168,
      83, 86, 193, 14, 249, 181, 83, 113, 244, 165, 1, 212]
  else
    #v[239, 163, 224, 219, 170, 1, 22, 184, 220, 30, 69, 205, 53, 154, 139, 38, 57, 237, 193,
      143, 163, 60, 17, 53, 245, 141, 41, 129, 35, 35, 41, 148]

def controlPreface : Bytes 16 := #v[86, 73, 86, 68, 1, 5, 0, 0, 0, 16, 0, 0, 0, 0, 0, 0]

def lanePreface : Bytes 16 := #v[86, 73, 86, 68, 1, 5, 1, 0, 0, 16, 0, 0, 0, 0, 0, 0]

/-- The greeting with its proof. -/
def signedGreeting : Hello :=
  greeting
    (.root
      #v[3, 247, 219, 11, 92, 190, 41, 87, 59, 158, 170, 168, 172, 154, 151, 244, 1, 167, 155,
        33, 160, 250, 1, 17, 16, 127, 244, 77, 91, 89, 79, 120])
    []

theorem session_established_greeting :
    ∃ (helloBody welcomeBody : List UInt8) (received : Hello) (accepted : Welcome),
      Hello.decode helloBody = .ok (1, received) ∧
        RootVerified greetingHmac greetingDigest (Vector.replicate 32 7) controlPreface received ∧
        Welcome.decode welcomeBody = .ok (1, accepted) ∧
        WelcomeVerified greetingHmac greetingDigest
          (extractHandshakePrk greetingHmac (Vector.replicate 32 7) (Vector.replicate 32 0)
            accepted.serverNonce (Vector.replicate 32 0)) accepted := by
  obtain ⟨body, sent⟩ : ∃ body, signedGreeting.encode 1 = .ok body := ⟨_, rfl⟩
  obtain ⟨received, read, verified, answers⟩ :=
    session_established greetingHmac greetingDigest (Vector.replicate 32 7)
      (Vector.replicate 32 0) controlPreface 1 (greeting (.root (Vector.replicate 32 0)) [])
      signedGreeting body extensionsNormal_nil rfl sent
  have plain : ExtensionsNormal signedGreeting.extensions := extensionsNormal_nil
  have known : Hello.decode body = .ok (1, signedGreeting) :=
    (Hello.decode_encode_iff plain sent).mpr trivial
  rw [known] at read
  cases read
  obtain ⟨accepted, reread, confirmed, -⟩ :=
    answers (answer (Vector.replicate 32 0) [])
      (answer
        #v[77, 159, 13, 252, 126, 187, 120, 19, 215, 1, 247, 191, 145, 114, 142, 163, 168, 216,
          114, 119, 137, 84, 191, 209, 95, 78, 197, 236, 17, 13, 175, 239]
        [])
      1 _ extensionsNormal_nil rfl rfl
  exact ⟨body, _, signedGreeting, accepted, known, verified, reread, confirmed⟩

/-! ## What a proof binds -/

/-- The proof a HELLO carries. -/
def HelloAuthentication.proof : HelloAuthentication → Option (Bytes 32)
  | .root proof => some proof
  | .leaseActivation .. => none
  | .resume _ _ _ _ _ proof => some proof

/-- The call that computes the proof of a HELLO. -/
def Hello.call (hello : Hello) (preface : Bytes 16) (authless : List UInt8) : Option Call :=
  match hello.authentication with
  | .root _ => some (.rootHello preface authless)
  | .leaseActivation .. => none
  | .resume _ leaseId sessionId resumeGeneration attemptId _ =>
      some (.resumeHello preface leaseId sessionId resumeGeneration attemptId authless)

/-- The initiator signed the HELLO, in either of the two ways. -/
def Signed (hmac : HmacSha256) (sha256 : Sha256) (key : Bytes 32) (preface : Bytes 16)
    (hello signed : Hello) : Prop :=
  hello.authenticateRoot hmac sha256 key preface = .ok signed ∨
    hello.authenticateResume hmac sha256 key preface = .ok signed

/-- The receiver verified the HELLO, in the way it is signed. -/
def Verified (hmac : HmacSha256) (sha256 : Sha256) (key : Bytes 32) (preface : Bytes 16)
    (received : Hello) : Prop :=
  RootVerified hmac sha256 key preface received ∨ ResumeVerified hmac sha256 key preface received

theorem fed_root (authless : List UInt8) (key : Bytes 32) :
    rootHelloProof hmac sha256 key preface authless =
      hmac key.toList ((Call.rootHello preface authless).fed sha256) := by
  unfold rootHelloProof hmacParts Call.fed
  rw [show (Call.rootHello preface authless).purpose.suffix = [] from rfl, List.append_nil]
  rfl

theorem fed_resume (leaseId sessionId resumeGeneration : UInt64) (attemptId : Bytes 16)
    (authless : List UInt8) (key : Bytes 32) :
    resumeHelloProof hmac sha256 key preface leaseId sessionId resumeGeneration attemptId
        authless =
      hmac key.toList
        ((Call.resumeHello preface leaseId sessionId resumeGeneration attemptId authless).fed
          sha256) := by
  unfold resumeHelloProof hmacParts Call.fed
  rw [show (Call.resumeHello preface leaseId sessionId resumeGeneration attemptId
    authless).purpose.suffix = [] from rfl, List.append_nil]
  rfl

/-- A HELLO verifies if it carries the proof of its own call. -/
theorem verified_iff {key : Bytes 32} {received : Hello} {authless : List UInt8}
    (written : received.authlessPayload = .ok authless) :
    Verified hmac sha256 key preface received ↔
      ∃ call ∈ received.call preface authless,
        received.authentication.proof = some (hmac key.toList (call.fed sha256)) := by
  unfold Verified RootVerified ResumeVerified Hello.call
  rw [written]
  cases received.authentication with
  | root proof =>
      constructor
      · rintro (⟨_, _, same, read, checked⟩ | ⟨_, _, _, _, _, _, _, impossible, -⟩)
        · cases same
          cases read
          rw [verifyRootHelloProof_iff, fed_root] at checked
          exact ⟨_, rfl, congrArg some checked⟩
        · cases impossible
      · rintro ⟨_, ⟨⟩, proofs⟩
        left
        refine ⟨_, _, rfl, rfl, verifyRootHelloProof_iff.mpr ?_⟩
        rw [fed_root]
        exact Option.some.inj proofs
  | leaseActivation contextId leaseId activationSecret attemptId proof => simp
  | resume contextId leaseId sessionId resumeGeneration attemptId proof =>
      constructor
      · rintro (⟨_, _, impossible, -⟩ | ⟨_, _, _, _, _, _, _, same, read, checked⟩)
        · cases impossible
        · cases same
          cases read
          rw [verifyProof_iff, fed_resume] at checked
          exact ⟨_, rfl, congrArg some checked⟩
      · rintro ⟨_, ⟨⟩, proofs⟩
        right
        refine ⟨_, _, _, _, _, _, _, rfl, rfl, verifyProof_iff.mpr ?_⟩
        rw [fed_resume]
        exact Option.some.inj proofs

/-- A record is what it is without its proof, and the proof. -/
theorem Hello.eq_of_proof {first second : Hello} (same : first.withoutProof = second.withoutProof)
    (proofs : first.authentication.proof = second.authentication.proof) : first = second := by
  obtain ⟨name, version, required, optional, maximum, nonce, authentication, target, extensions⟩ :=
    first
  obtain ⟨name', version', required', optional', maximum', nonce', authentication', target',
    extensions'⟩ := second
  unfold withoutProof at same
  simp only [Hello.mk.injEq] at same proofs ⊢
  obtain ⟨rfl, rfl, rfl, rfl, rfl, rfl, bare, rfl, rfl⟩ := same
  refine ⟨rfl, rfl, rfl, rfl, rfl, rfl, ?_, rfl, rfl⟩
  cases authentication <;> cases authentication' <;>
    simp_all [HelloAuthentication.withoutProof, HelloAuthentication.proof]

/-- A signed HELLO verifies and has the transcript of the unsigned one. -/
theorem Signed.verified {key : Bytes 32} {hello signed : Hello}
    (signs : Signed hmac sha256 key preface hello signed) :
    Verified hmac sha256 key preface signed ∧ signed.withoutProof = hello.withoutProof := by
  rcases signs with root | resume
  · obtain ⟨verified, -, same⟩ := Hello.root_verified root
    exact ⟨.inl verified, same⟩
  · obtain ⟨verified, same⟩ := Hello.resume_verified resume
    exact ⟨.inr verified, same⟩

theorem Hello.call_congr {first second : Hello} {authless : List UInt8}
    (same : first.withoutProof = second.withoutProof) :
    first.call preface authless = second.call preface authless := by
  have bare := congrArg Hello.authentication same
  unfold withoutProof at bare
  unfold call
  revert bare
  cases first.authentication <;> cases second.authentication <;>
    simp_all [HelloAuthentication.withoutProof]

/-- What the call of a HELLO was made over. -/
theorem Hello.call_over {hello : Hello} {authless : List UInt8} {call : Call}
    (among : call ∈ hello.call preface authless) :
    call.hashed = {authless} ∧ ∀ (other : Hello) (behind : Bytes 16) (got : List UInt8),
      call ∈ other.call behind got → behind = preface ∧ got = authless := by
  unfold Hello.call at among
  cases kind : hello.authentication with
  | root proof =>
      rw [kind] at among
      cases among
      refine ⟨rfl, ?_⟩
      intro other behind got again
      unfold Hello.call at again
      cases kind' : other.authentication <;> rw [kind'] at again <;> cases again
      exact ⟨rfl, rfl⟩
  | leaseActivation contextId leaseId activationSecret attemptId proof =>
      rw [kind] at among
      cases among
  | resume contextId leaseId sessionId resumeGeneration attemptId proof =>
      rw [kind] at among
      cases among
      refine ⟨rfl, ?_⟩
      intro other behind got again
      unfold Hello.call at again
      cases kind' : other.authentication <;> rw [kind'] at again <;> cases again
      exact ⟨rfl, rfl⟩

/-- A proof binds the HELLO it was made for.  Carried by another HELLO, or received
behind another preface, it does not verify, where HMAC and SHA-256 tell the two
transcripts apart. -/
theorem hello_proof_binds (hmac : HmacSha256) (sha256 : Sha256) (key : Bytes 32)
    (preface other : Bytes 16) (hello signed received : Hello) (sent got : List UInt8)
    (normal : ExtensionsNormal hello.extensions) (plain : ExtensionsNormal received.extensions)
    (signs : Signed hmac sha256 key preface hello signed)
    (carries : received.authentication.proof = signed.authentication.proof)
    (written : hello.authlessPayload = .ok sent) (rewritten : received.authlessPayload = .ok got)
    (hashes : Set.InjOn sha256 {sent, got})
    (macs : ∀ first ∈ hello.call preface sent, ∀ second ∈ received.call other got,
      hmac key.toList (first.fed sha256) = hmac key.toList (second.fed sha256) →
        first.fed sha256 = second.fed sha256) :
    Verified hmac sha256 key other received ↔ other = preface ∧ received = signed := by
  obtain ⟨verified, same⟩ := signs.verified
  constructor
  · intro accepted
    rw [← Hello.authlessPayload_congr same] at written
    obtain ⟨first, made, proof⟩ := (verified_iff written).mp verified
    obtain ⟨second, remade, reproof⟩ := (verified_iff rewritten).mp accepted
    rw [carries, proof] at reproof
    rw [Hello.call_congr same] at made
    obtain ⟨hashed, unique⟩ := Hello.call_over made
    have fed := macs first made second remade (Option.some.inj reproof)
    obtain ⟨purposes, parts⟩ := Call.parts_of_fed fed
    have one : first = second := by
      refine Call.eq_of_parts purposes parts ?_
      rw [hashed, (Hello.call_over remade).1]
      exact hashes
    rw [← one] at remade
    obtain ⟨behind, transcript⟩ := unique received other got remade
    rw [transcript] at rewritten
    obtain ⟨extensions, -, -⟩ := Hello.shared same
    rw [← extensions] at normal
    exact ⟨behind, Hello.eq_of_proof
      (Hello.authlessPayload_injective plain normal rewritten written) carries⟩
  · rintro ⟨rfl, rfl⟩
    exact verified

theorem hello_proof_binds_preface :
    ¬ Verified greetingHmac greetingDigest (Vector.replicate 32 7) lanePreface signedGreeting := by
  obtain ⟨sent, written⟩ :
      ∃ sent, (greeting (.root (Vector.replicate 32 0)) []).authlessPayload = .ok sent := ⟨_, rfl⟩
  have rewritten : signedGreeting.authlessPayload = .ok sent := written
  intro verified
  have bound := (hello_proof_binds greetingHmac greetingDigest (Vector.replicate 32 7)
    controlPreface lanePreface (greeting (.root (Vector.replicate 32 0)) []) signedGreeting
    signedGreeting sent sent extensionsNormal_nil extensionsNormal_nil (.inl rfl) rfl written
    rewritten (by simp) ?_).mp verified
  · exact absurd bound.1 (by decide)
  · rintro _ ⟨⟩ _ ⟨⟩ same
    -- The two inputs have one length and differ in the kind of the preface.
    have size (preface : Bytes 16) :
        ((Call.rootHello preface sent).fed greetingDigest).length = 66 := Call.length_fed _ _
    have control : ((Call.rootHello controlPreface sent).fed greetingDigest)[24]? = some 0 := rfl
    have lane : ((Call.rootHello lanePreface sent).fed greetingDigest)[24]? = some 1 := rfl
    unfold greetingHmac at same
    rw [size, size, control, lane] at same
    exact absurd same (by decide)

end VividProtocol

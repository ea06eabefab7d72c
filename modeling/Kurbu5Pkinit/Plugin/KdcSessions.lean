import Kurbu5Pkinit.Agreement
import Kurbu5Pkinit.Crypto.Provenance
import Kurbu5Pkinit.Plugin.KdcReply

/-!
# A KDC process and its replies

The KDC keeps what `verify` accepted with the request it came in, and gives it
back to the plugin when that request is answered. Requests come and go in any
order. A reply has the nonce of the request it answers under the KDC's
signature, and only an accepted request is answered (`kdcMachine_replies`).
-/

set_option autoImplicit false

namespace Kurbu5Pkinit

open Library

variable {platform : Platform} {kdc : PkinitKdc}

/-- A call of the KDC, for one of the requests it is working on. -/
inductive KdcCall where
  | verify (id : Nat) (instant : Instant) (paData : PaData) (callbacks : KdcpreauthCallbacks)
  /-- `return_padata` for padata of the type `PA_PK_AS_REQ`. -/
  | returnPadata (id : Nat) (instant : Instant) (request : Option (Option Principal))
      (requestPacket : Bytes) (callbacks : ReplyCallbacks)

inductive KdcAnswer where
  | verified (response : VerifyResponse)
  | padata (result : Except Krb5Error (PaData × DerivedKey))
  deriving DecidableEq

/-- The requests that were accepted, each under its number. -/
abbrev KdcSessions : Type := List (Nat × VerifiedRequest)

def kdcMachine (platform : Platform) (kdc : PkinitKdc) : Machine KdcSessions KdcCall KdcAnswer
  | sessions, .verify id instant paData callbacks =>
      match kdc.verify platform instant paData callbacks with
      | .accepted verified indicators =>
          ((id, verified) :: sessions, .verified (.accepted verified indicators))
      | refused => (sessions, .verified refused)
  | sessions, .returnPadata id instant request requestPacket callbacks =>
      (sessions, .padata (kdc.returnPkinitDh platform instant
        ⟨sessions.lookup id, request, requestPacket⟩ callbacks))

abbrev KdcEvent : Type :=
  Event KdcSessions KdcCall KdcAnswer

/-- The call accepted this request. -/
def KdcEvent.Accepted (e : KdcEvent) (verified : VerifiedRequest) : Prop :=
  ∃ id instant paData callbacks indicators, e.input = .verify id instant paData callbacks ∧
    e.output = .verified (.accepted verified indicators)

/-! ## What a reply carries -/

/-- The CMS object in a reply, with the type of content it is there for. -/
inductive CarriesEnvelope (platform : Platform) (paRepDer : Bytes) : Bytes → Oid → Prop
  | dh {dhRepInfo : DhRepInfo} (tag : isKemRep paRepDer = false)
      (parsed : platform.synta.paPkAsRep.fromDer paRepDer = .ok (.dhInfo dhRepInfo)) :
      CarriesEnvelope platform paRepDer dhRepInfo.dhSignedData ID_PKINIT_DHKEY_DATA
  | kem {content : Bytes} {kemRepInfo : KemRepInfo} (tag : isKemRep paRepDer = true)
      (unwrapped : decodeKemRepContent platform.usizeBits paRepDer = .ok content)
      (parsed : platform.synta.kemRepInfo.fromDer content = .ok kemRepInfo) :
      CarriesEnvelope platform paRepDer kemRepInfo.kemSignedData ID_PKINIT_KEM_KEY_DATA

theorem CarriesEnvelope.unique {paRepDer envelope envelope' : Bytes}
    {contentType contentType' : Oid}
    (carries : CarriesEnvelope platform paRepDer envelope contentType)
    (carries' : CarriesEnvelope platform paRepDer envelope' contentType') :
    envelope = envelope' ∧ contentType = contentType' := by
  cases carries with
  | dh tag parsed =>
      cases carries' with
      | dh _ parsed' =>
          cases parsed.symm.trans parsed'
          exact ⟨rfl, rfl⟩
      | kem tag' => exact absurd (tag.symm.trans tag') (by decide)
  | kem tag unwrapped parsed =>
      cases carries' with
      | dh tag' => exact absurd (tag.symm.trans tag') (by decide)
      | kem _ unwrapped' parsed' =>
          obtain rfl := Except.ok.inj (unwrapped.symm.trans unwrapped')
          obtain rfl := Except.ok.inj (parsed.symm.trans parsed')
          exact ⟨rfl, rfl⟩

/-- A signed content answers the nonce. -/
inductive ContentAnswers (platform : Platform) (nonce : Int32) (content : Bytes) : Oid → Prop
  | dh {info : KdcDhKeyInfo} (decoded : platform.synta.kdcDhKeyInfo.fromDer content = .ok info)
      (answers : info.nonce = encodeNonce nonce) :
      ContentAnswers platform nonce content ID_PKINIT_DHKEY_DATA
  | kem {info : KdcKemInfo} (decoded : platform.synta.kdcKemInfo.fromDer content = .ok info)
      (answers : info.nonce = some (encodeNonce nonce)) :
      ContentAnswers platform nonce content ID_PKINIT_KEM_KEY_DATA

/-- A content answers one nonce only. -/
theorem ContentAnswers.unique {nonce nonce' : Int32} {content : Bytes} {contentType : Oid}
    (answers : ContentAnswers platform nonce content contentType)
    (answers' : ContentAnswers platform nonce' content contentType) : nonce = nonce' := by
  have injective : ∀ m n : Int32, encodeNonce m = encodeNonce n → m = n := by
    intro m n same
    have decoded := decodeNonce_encodeNonce platform.synta m
    rw [same, decodeNonce_encodeNonce] at decoded
    exact (Except.ok.inj decoded).symm
  generalize named : contentType = contentType' at answers'
  cases answers with
  | dh decoded answers =>
      cases answers' with
      | dh decoded' answers' =>
          obtain rfl := Except.ok.inj (decoded.symm.trans decoded')
          exact injective _ _ (answers.symm.trans answers')
      | kem => exact absurd named (by decide)
  | kem decoded answers =>
      cases answers' with
      | kem decoded' answers' =>
          obtain rfl := Except.ok.inj (decoded.symm.trans decoded')
          exact injective _ _ (Option.some.inj (answers.symm.trans answers'))
      | dh => exact absurd named (by decide)

/-- The KDC sent a reply with an envelope that it signed for this content. -/
def SignedInReply (platform : Platform) (kdc : PkinitKdc) (e : KdcEvent) (content : Bytes)
    (contentType : Oid) : Prop :=
  ∃ paData key envelope instant pathType, e.output = .padata (.ok (paData, key)) ∧
    CarriesEnvelope platform paData.contents envelope pathType ∧
    kdc.state.signReply platform instant content contentType = .ok envelope

/-- The call answered this request with the content, which has the nonce of the
request. -/
structure Replied (platform : Platform) (e : KdcEvent) (verified : VerifiedRequest)
    (content : Bytes) (contentType : Oid) : Prop where
  request : ∃ id instant request requestPacket callbacks,
    e.input = .returnPadata id instant request requestPacket callbacks ∧
    e.before.lookup id = some verified
  answers : ContentAnswers platform verified.nonce content contentType

theorem buildAsRep_answers (laws : LawfulPlatform platform) {o2k : OctetString2Key}
    {instant : Instant} {state : PkinitKdcState} {verified : VerifiedRequest}
    {params : BuildAsRepParams} {reply : Bytes} {key : DerivedKey} (small : reply.length < 2 ^ 32)
    (answered : state.buildAsRep platform o2k instant verified params = .ok (reply, key)) :
    ∃ content contentType envelope, CarriesEnvelope platform reply envelope contentType ∧
      envelope.length ≤ reply.length ∧
      state.signReply platform instant content contentType = .ok envelope ∧
      ContentAnswers platform params.nonce content contentType := by
  unfold PkinitKdcState.buildAsRep at answered
  cases path : verified.keyExchange with
  | dh group =>
      rw [path] at answered
      obtain ⟨_, _, _, _, infoDer, envelope, _, _, _, _, _, encoded, signed, written, _⟩ :=
        buildDhRep_eq_ok answered
      have tag : isKemRep reply = false := by
        simp [isKemRep, laws.messages.dhInfoTag _ _ written, PA_PK_AS_REP_KEM_TAG]
      exact ⟨infoDer, ID_PKINIT_DHKEY_DATA, envelope,
        .dh tag (laws.messages.paPkAsRep _ _ written), laws.messages.dhInfoHolds _ _ written,
        signed,
        .dh (laws.messages.kdcDhKeyInfo _ _ encoded) rfl⟩
  | kem algorithm =>
      rw [path] at answered
      obtain ⟨_, _, infoDer, envelope, _, encoded, signed, wrapped, _⟩ :=
        buildKemRep_eq_ok answered
      have wrapper := wrapped
      simp only [encodeKemRepWrapper, bind_eq_ok, mapError_eq_ok] at wrapper
      obtain ⟨inner, innerEncoded, written⟩ := wrapper
      have holds := laws.messages.kemInfoHolds _ _ innerEncoded
      have inside : inner.length ≤ reply.length := by
        rw [← Except.ok.inj written, List.length_append]
        exact Nat.le_add_left _ _
      have usize := laws.usize
      have fits : reply.length < 2 ^ platform.usizeBits :=
        Nat.lt_of_lt_of_le small (Nat.pow_le_pow_right (by decide) usize)
      have unwrapped := decodeKemRepContent_encodeKemRepWrapper
        (by omega : 8 < platform.usizeBits) wrapped innerEncoded small fits
      exact ⟨infoDer, ID_PKINIT_KEM_KEY_DATA, envelope,
        .kem (isKemRep_of_encodeKemRepWrapper wrapped) unwrapped
          (laws.messages.kemRepInfo _ _ innerEncoded), holds.trans inside, signed,
        .kem (laws.messages.kdcKemInfo _ _ encoded) rfl⟩

/-- A reply that went out was built for the request that is kept. -/
theorem returnPkinitDh_eq_ok {instant : Instant} {req : ReturnPadataRequest}
    {callbacks : ReplyCallbacks} {paData : PaData} {key : DerivedKey}
    (returned : kdc.returnPkinitDh platform instant req callbacks = .ok (paData, key)) :
    ∃ verified params reply, req.modreq = some verified ∧ params.nonce = verified.nonce ∧
      kdc.state.buildAsRep platform (krb5OctetString2Key platform) instant verified params =
        .ok (reply, key) ∧ paData = ⟨PA_PK_AS_REP, reply⟩ := by
  simp only [PkinitKdc.returnPkinitDh, bind_eq_ok, okOr_eq_ok, mapError_eq_ok, pure_eq_ok,
    Except.ok.injEq, Prod.mk.injEq, Prod.exists] at returned
  obtain ⟨verified, kept, _, _, _, _, _, _, _, _, reply, derived, built, _, _, rfl, rfl⟩ := returned
  exact ⟨verified, _, reply, kept, rfl, built, rfl⟩

/-- An envelope was signed for one content. -/
theorem signReply_unique (codecs : EnvelopeCodecs platform.synta) {state : PkinitKdcState}
    {instant instant' : Instant} {content content' envelope : Bytes}
    {contentType contentType' : Oid}
    (signed : state.signReply platform instant content contentType = .ok envelope)
    (signed' : state.signReply platform instant' content' contentType' = .ok envelope) :
    content = content' ∧ contentType = contentType' := by
  simp only [PkinitKdcState.signReply, bind_eq_ok, okOr_eq_ok] at signed signed'
  obtain ⟨_, _, created⟩ := signed
  obtain ⟨_, _, created'⟩ := signed'
  obtain ⟨signedData, _, _, wrapped, holds⟩ := createSignedData_eq_ok created
  obtain ⟨signedData', _, _, wrapped', holds'⟩ := createSignedData_eq_ok created'
  have unwrapped := unwrapSignedData_wrapSignedData codecs wrapped
  rw [unwrapSignedData_wrapSignedData codecs wrapped'] at unwrapped
  obtain rfl := Except.ok.inj unwrapped
  have same := holds.encapsulated.symm.trans holds'.encapsulated
  cases same
  exact ⟨rfl, rfl⟩

/-- To verify a request is not to answer it. -/
theorem verify_output_ne_padata {sessions : KdcSessions} {id : Nat} {instant : Instant}
    {paData : PaData} {callbacks : KdcpreauthCallbacks}
    {result : Except Krb5Error (PaData × DerivedKey)} :
    ((kdcMachine platform kdc).event sessions (.verify id instant paData callbacks)).output ≠
      .padata result := by
  rw [Machine.event_output]
  intro output
  cases response : kdc.verify platform instant paData callbacks <;>
    simp [kdcMachine, response] at output

/-- What is signed in a reply answers the request that the call is for. -/
theorem replied_of_signed (laws : LawfulPlatform platform) {sessions : KdcSessions} {i : KdcCall}
    {content : Bytes} {contentType : Oid}
    (small : ∀ paData key, ((kdcMachine platform kdc).event sessions i).output =
      .padata (.ok (paData, key)) → paData.contents.length < 2 ^ 32)
    (signed : SignedInReply platform kdc ((kdcMachine platform kdc).event sessions i) content
      contentType) :
    ∃ verified, Replied platform ((kdcMachine platform kdc).event sessions i) verified content
      contentType := by
  obtain ⟨paData, key, envelope, instant, pathType, output, carries, made⟩ := signed
  cases i with
  | verify => exact absurd output verify_output_ne_padata
  | returnPadata id instant' request requestPacket callbacks =>
      have short := small paData key output
      rw [Machine.event_output, kdcMachine, KdcAnswer.padata.injEq] at output
      obtain ⟨verified, params, reply, kept, nonce, built, rfl⟩ := returnPkinitDh_eq_ok output
      obtain ⟨content', contentType', envelope', carries', _, made', answers⟩ :=
        buildAsRep_answers laws short built
      obtain ⟨rfl, rfl⟩ := carries.unique carries'
      obtain ⟨rfl, rfl⟩ := signReply_unique laws.envelopes made made'
      exact ⟨verified, ⟨id, instant', request, requestPacket, callbacks, rfl, kept⟩,
        nonce ▸ answers⟩

/-! ## Runs -/

/-- Every request that is kept was accepted. -/
def SessionsAccepted (history : List KdcEvent) (sessions : KdcSessions) : Prop :=
  ∀ session ∈ sessions, ∃ e ∈ history, e.Accepted session.2

/-- What the KDC signs in a reply answers a request that it accepted before. -/
def RepliesToAccepted (platform : Platform) (kdc : PkinitKdc) (older : List KdcEvent)
    (e : KdcEvent) : Prop :=
  ∀ content contentType, SignedInReply platform kdc e content contentType →
    ∃ verified, Replied platform e verified content contentType ∧
      ∃ earlier ∈ older, earlier.Accepted verified

/-- Messages are shorter than 4 GiB. -/
def ShortReply (e : KdcEvent) : Prop :=
  ∀ paData key, e.output = .padata (.ok (paData, key)) → paData.contents.length < 2 ^ 32

theorem sessionsAccepted_step {history : List KdcEvent} {sessions : KdcSessions} (i : KdcCall)
    (accepted : SessionsAccepted history sessions) :
    SessionsAccepted ((kdcMachine platform kdc).event sessions i :: history)
      (kdcMachine platform kdc sessions i).1 := by
  have older : SessionsAccepted ((kdcMachine platform kdc).event sessions i :: history)
      sessions := by
    intro session member
    obtain ⟨e, earlier, admitted⟩ := accepted session member
    exact ⟨e, List.mem_cons_of_mem _ earlier, admitted⟩
  cases i with
  | returnPadata => exact older
  | verify id instant paData callbacks =>
      cases response : kdc.verify platform instant paData callbacks with
      | err | errWithEdata => simpa only [kdcMachine, response] using older
      | accepted verified indicators =>
          have after : kdcMachine platform kdc sessions (.verify id instant paData callbacks) =
              ((id, verified) :: sessions, .verified (.accepted verified indicators)) := by
            simp only [kdcMachine, response]
          rw [after]
          intro session member
          rcases List.mem_cons.mp member with rfl | kept
          · exact ⟨_, List.mem_cons_self, id, instant, paData, callbacks, indicators, rfl,
              congrArg Prod.snd after⟩
          · exact older session kept

/-- **The KDC answers accepted requests only, each with its own nonce.** -/
theorem kdcMachine_replies (laws : LawfulPlatform platform) {history : List KdcEvent}
    {sessions : KdcSessions} (run : Run (kdcMachine platform kdc) [] history sessions)
    (short : ∀ e ∈ history, ShortReply e) : Each (RepliesToAccepted platform kdc) history := by
  refine (Run.rule (J := SessionsAccepted) (A := fun _ e => ShortReply e)
    (P := RepliesToAccepted platform kdc) (by intro session member; cases member) ?_ run ?_).1
  · intro history sessions i accepted short
    refine ⟨?_, sessionsAccepted_step i accepted⟩
    intro content contentType signed
    obtain ⟨verified, replied⟩ := replied_of_signed laws short signed
    obtain ⟨id, _, _, _, _, _, kept⟩ := replied.request
    obtain ⟨newer, before, split, _⟩ := List.lookup_eq_some_iff.mp kept
    have member : (id, verified) ∈ sessions := by
      rw [show sessions = newer ++ (id, verified) :: before from split]
      simp
    exact ⟨verified, replied, accepted (id, verified) member⟩
  · intro newer e older split
    exact short e (by simp [split])

end Kurbu5Pkinit

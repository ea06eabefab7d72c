import Kurbu5Pkinit.Library.Beside
import Kurbu5Pkinit.Plugin.KdcSessions
import Kurbu5Pkinit.Plugin.TrustOnFirstUse
import Kurbu5Pkinit.Reference.Laws

/-!
# The client and the KDC over a network

A client module and a KDC process, each with calls of its own, and between them
whoever carries the messages: every call is given whatever bytes he likes. He
cannot sign for the KDC, and that is all that is asked of him (`KdcUnforged`);
one who delivers the KDC's replies as they are keeps to it
(`unforged_of_delivered`).

A key that the client reads from a reply under the KDC's certificate was then in
an earlier reply of the KDC to a request that it had accepted, with the nonce of
the client's call (`keys_are_the_kdcs`).
-/

set_option autoImplicit false

namespace Kurbu5Pkinit

open Library

variable {platform : Platform} {varlink : Varlink} {kdc : PkinitKdc}

/-- The client and the KDC, each with its own calls. -/
def network (platform : Platform) (varlink : Varlink) (kdc : PkinitKdc) :
    Machine (PkinitClient × KdcSessions) (PluginCall ⊕ KdcCall) (PluginAnswer ⊕ KdcAnswer) :=
  (pluginMachine platform varlink).beside (kdcMachine platform kdc)

abbrev NetworkEvent : Type :=
  Event (PkinitClient × KdcSessions) (PluginCall ⊕ KdcCall) (PluginAnswer ⊕ KdcAnswer)

/-! ## Who signs for the KDC -/

/-- The client is given no signature of the KDC but over what the KDC signed in
an earlier reply. -/
def KdcUnforged (platform : Platform) (kdc : PkinitKdc) (older : List NetworkEvent)
    (e : NetworkEvent) : Prop :=
  ∀ l req envelope pathType message, e.left? = some l → l.input = .process req →
    CarriesEnvelope platform req.paData.contents envelope pathType →
    SignatureOver platform kdc.state.identity.certDer envelope message →
    ∃ r ∈ rights older, ∃ content contentType, SignedInReply platform kdc r content contentType ∧
      SignedFor platform (digestForSigner platform kdc.state.identity.certDer) content contentType
        message

/-- A reply that the client is given, the KDC sent before. -/
def Delivered (platform : Platform) (older : List NetworkEvent) (e : NetworkEvent) : Prop :=
  ∀ l req envelope pathType, e.left? = some l → l.input = .process req →
    CarriesEnvelope platform req.paData.contents envelope pathType →
    ∃ r ∈ rights older, ∃ paData key, r.output = .padata (.ok (paData, key)) ∧
      req.paData.contents = paData.contents

variable {older : List NetworkEvent} {s : PkinitClient × KdcSessions}

theorem Delivered.of_client {i : PluginCall}
    (sent : ∀ req envelope pathType, i = .process req →
      CarriesEnvelope platform req.paData.contents envelope pathType →
      ∃ r ∈ rights older, ∃ paData key, r.output = .padata (.ok (paData, key)) ∧
        req.paData.contents = paData.contents) :
    Delivered platform older ((network platform varlink kdc).event s (.inl i)) := by
  intro l req envelope pathType left input carries
  obtain rfl := Option.some.inj ((beside_left? s i).symm.trans left)
  exact sent req envelope pathType input carries

theorem Delivered.of_kdc {i : KdcCall} :
    Delivered platform older ((network platform varlink kdc).event s (.inr i)) := by
  intro l req envelope pathType left
  cases (beside_left?_inr s i).symm.trans left

/-- The KDC's own envelopes are signed for what the KDC put into them. -/
theorem signedInReply_of_padata (laws : LawfulPlatform platform) {sessions : KdcSessions}
    {i : KdcCall} {paData : PaData} {key : DerivedKey} {envelope message : Bytes} {pathType : Oid}
    (short : ShortReply ((kdcMachine platform kdc).event sessions i))
    (replied : ((kdcMachine platform kdc).event sessions i).output = .padata (.ok (paData, key)))
    (carries : CarriesEnvelope platform paData.contents envelope pathType)
    (stands : SignatureOver platform kdc.state.identity.certDer envelope message) :
    ∃ content contentType,
      SignedInReply platform kdc ((kdcMachine platform kdc).event sessions i) content contentType ∧
      SignedFor platform (digestForSigner platform kdc.state.identity.certDer) content contentType
        message := by
  have small := short paData key replied
  cases i with
  | verify => exact absurd replied verify_output_ne_padata
  | returnPadata id instant request requestPacket callbacks =>
      have output := replied
      rw [Machine.event_output, kdcMachine, KdcAnswer.padata.injEq] at output
      obtain ⟨verified, params, reply, _, _, built, rfl⟩ := returnPkinitDh_eq_ok output
      obtain ⟨content, contentType, envelope', carries', inside, made, _⟩ :=
        buildAsRep_answers laws small built
      obtain ⟨rfl, rfl⟩ := carries.unique carries'
      refine ⟨content, _, ⟨_, _, envelope, _, _, replied, carries, made⟩, ?_⟩
      simp only [PkinitKdcState.signReply, bind_eq_ok, okOr_eq_ok] at made
      obtain ⟨_, _, created⟩ := made
      exact SignatureOver.signedFor laws.envelopes laws.messages created (inside.trans_lt small)
        stands

/-- **To deliver is not to forge.** -/
theorem unforged_of_delivered (laws : LawfulPlatform platform) {history : List NetworkEvent}
    {s : PkinitClient × KdcSessions} (run : Run (network platform varlink kdc) ({}, []) history s)
    (short : ∀ e ∈ rights history, ShortReply e) (delivered : Each (Delivered platform) history) :
    Each (KdcUnforged platform kdc) history := by
  obtain ⟨client, sessions⟩ := s
  intro newer e older split l req envelope pathType message left input carries stands
  obtain ⟨r, member, paData, key, replied, same⟩ :=
    delivered newer e older split l req envelope pathType left input carries
  refine ⟨r, member, ?_⟩
  have placed : r ∈ rights history := by
    obtain ⟨taken, inOlder, right⟩ := List.mem_filterMap.mp member
    exact List.mem_filterMap.mpr ⟨taken, by simp [split, inOlder], right⟩
  have small := short r placed
  rw [← (Run.beside run).2.event_eq placed] at small replied ⊢
  exact signedInReply_of_padata laws small replied (same ▸ carries) stands

/-! ## The KDC's replies at the client -/

theorem AnswersNonce.contentAnswers {paRepDer : Bytes} {nonce : Int32} {v : VerifiedSignedData}
    (answers : AnswersNonce platform paRepDer nonce v) :
    ContentAnswers platform nonce v.content v.contentType := by
  cases answers with
  | dh _ _ _ contentType decoded answers => exact contentType ▸ .dh decoded answers
  | kem _ _ _ _ contentType decoded answers => exact contentType ▸ .kem decoded answers

/-- The envelope of an answer is in the reply, and attests its content. -/
theorem AnswersNonce.attested {paRepDer : Bytes} {nonce : Int32} {v : VerifiedSignedData}
    (answers : AnswersNonce platform paRepDer nonce v) :
    ∃ envelope pathType message, CarriesEnvelope platform paRepDer envelope pathType ∧
      SignatureOver platform v.signerCertDer envelope message ∧ Attested platform v message := by
  cases answers with
  | dh tag parsed signed _ _ _ =>
      obtain ⟨signedData, signerInfo, unwrapped, binding⟩ := signed
      obtain ⟨message, stands, attested⟩ := binding.attested unwrapped
      exact ⟨_, _, message, .dh tag parsed, stands, attested⟩
  | kem tag unwrapped parsed signed _ _ _ =>
      obtain ⟨signedData, signerInfo, opened, binding⟩ := signed
      obtain ⟨message, stands, attested⟩ := binding.attested opened
      exact ⟨_, _, message, .kem tag unwrapped parsed, stands, attested⟩

/-- The KDC answered an accepted request with what the client verified, and the
request had this nonce; or two contents collide. -/
def AnsweredByKdc (platform : Platform) (kdc : PkinitKdc) (older : List KdcEvent) (nonce : Int32)
    (v : VerifiedSignedData) : Prop :=
  ∃ newer r before content verified, older = newer ++ r :: before ∧
    SignedInReply platform kdc r content v.contentType ∧
    Replied platform r verified content v.contentType ∧
    (∃ earlier ∈ before, earlier.Accepted verified) ∧
    (v.content = content ∧ verified.nonce = nonce ∨ Collide platform v.content content)

/-- A key of the call comes from a trusted KDC, and if that is this one, out of
its answer to the nonce of the call. -/
def KeysFromKdc (platform : Platform) (varlink : Varlink) (kdc : PkinitKdc)
    (older : List NetworkEvent) (e : NetworkEvent) : Prop :=
  ∀ l key, e.left? = some l → l.output.asKey = some key →
    ∃ req setUp v, l.input = .process req ∧ InForce platform varlink (l :: lefts older) setUp ∧
      AnswersNonce platform req.paData.contents req.nonce v ∧
      Vouched platform varlink req.instant setUp v ∧
      (v.signerCertDer = kdc.state.identity.certDer →
        AnsweredByKdc platform kdc (rights older) req.nonce v)

/-- **The keys are the KDC's.** -/
theorem keys_are_the_kdcs (platform : Platform) (varlink : Varlink) (kdc : PkinitKdc)
    (laws : LawfulPlatform platform) (history : List NetworkEvent)
    (s : PkinitClient × KdcSessions) (run : Run (network platform varlink kdc) ({}, []) history s)
    (short : ∀ e ∈ rights history, ShortReply e)
    (unforged : Each (KdcUnforged platform kdc) history) :
    Each (KeysFromKdc platform varlink kdc) history := by
  obtain ⟨client, sessions⟩ := s
  obtain ⟨clientRun, kdcRun⟩ := Run.beside run
  have vouched := each_filterMap.mp (keysVouchedFor_run clientRun)
  have replies := kdcMachine_replies laws kdcRun short
  intro newer e older split l key left handed
  obtain ⟨req, setUp, v, input, inForce, answers, vouches⟩ :=
    vouched newer e older split l left key handed
  refine ⟨req, setUp, v, input, inForce, answers, vouches, ?_⟩
  intro signer
  obtain ⟨envelope, pathType, message, carries, stands, attested⟩ := answers.attested
  rw [signer] at stands
  obtain ⟨r, member, content, contentType, signed, signedFor⟩ :=
    unforged newer e older split l req envelope pathType message left input carries stands
  obtain ⟨rfl, same⟩ := signedFor.content laws.envelopes attested
  obtain ⟨later, before, parted⟩ := List.append_of_mem member
  have placed : rights history = (rights (newer ++ [e]) ++ later) ++ r :: before := by
    rw [split, List.append_assoc, ← parted, ← List.singleton_append, ← List.append_assoc]
    exact List.filterMap_append
  obtain ⟨verified, replied, accepted⟩ := replies _ r before placed content _ signed
  refine ⟨later, r, before, content, verified, parted, signed, replied, accepted, ?_⟩
  refine same.imp_left fun same => ⟨same, ?_⟩
  exact replied.answers.unique (same ▸ answers.contentAnswers)

namespace Reference

/-! ## Armor over the network -/

theorem chainedRecorded_lawful : LawfulPlatform chainedRecorded := by
  unfold chainedRecorded
  exact lawful_of_keys rfl rfl

/-- The realm's KDC, which sends the CA's certificate along. -/
def armorKdc : PkinitKdc where
  state := {
    identity := ⟨kdcCertDer, some kdcPrivateKey, [caCertDer]⟩
    trustStore := trustStore
    config := {}
    supportedAlgorithmsHint := none
    tdEphemeralKeyParams := [] }
  config := {}

/-- What the client sends when armor is asked for. -/
def armorRequest : PaData :=
  ((exec (pluginMachine chainedRecorded firstUseVarlink) ([], {}) (firstUseCalls.take 2)).1.flatMap
    fun e => e.output.sent).headD ⟨PA_PK_AS_REQ, []⟩

def verifyArmor : KdcCall :=
  .verify 0 kdcInstant armorRequest {
    maxTimeSkew := 300
    clientNamePrincipal := some anonymousPrincipal
    requestBody := requestBody
    checkFreshnessToken := fun _ => true }

def returnArmor : KdcCall :=
  .returnPadata 0 kdcInstant (some (some kdcPrincipal)) asReqDer {
    fastArmor := none
    clientNameString := some anonymousName
    replaceReplyKey := fun _ => .ok () }

/-- The client asks, the KDC answers, and the client reads the answer. -/
def networkCalls : List (PluginCall ⊕ KdcCall) :=
  [.inl (initFor anonymousPrincipal), .inl (processAnonymously ⟨PA_PK_AS_REQ, []⟩),
    .inr verifyArmor, .inr returnArmor,
    .inl (processAnonymously ⟨PA_PK_AS_REP, chainedReply⟩)]

def networkRun : List NetworkEvent × (PkinitClient × KdcSessions) :=
  exec (network chainedRecorded firstUseVarlink armorKdc) ([], ({}, [])) networkCalls

/-- **The KDC's answer is what the client reads.** -/
theorem armorKdc_returns :
    ((kdcMachine chainedRecorded armorKdc).event
      (kdcMachine chainedRecorded armorKdc [] verifyArmor).1 returnArmor).output =
        .padata (.ok (⟨PA_PK_AS_REP, chainedReply⟩, ⟨18, chainedReplyKey⟩)) := by
  decide +kernel

theorem lefts_networkRun : lefts networkRun.1 = firstUseRun.1 :=
  lefts_exec _ networkCalls

theorem rights_networkRun : rights networkRun.1 =
    [(kdcMachine chainedRecorded armorKdc).event
      (kdcMachine chainedRecorded armorKdc [] verifyArmor).1 returnArmor,
     (kdcMachine chainedRecorded armorKdc).event [] verifyArmor] :=
  rights_exec _ networkCalls

/-- What the client reads, the KDC sent. -/
theorem networkRun_delivered : Each (Delivered chainedRecorded) networkRun.1 := by
  have silent : ∀ envelope pathType, ¬ CarriesEnvelope chainedRecorded [] envelope pathType := by
    rintro envelope pathType (⟨_, parsed⟩ | ⟨tag⟩)
    · cases parsed
    · cases tag
  simp only [networkRun, networkCalls, exec, each_cons, each_nil, and_true]
  refine ⟨.of_client ?_, .of_kdc, .of_kdc, .of_client ?_, .of_client ?_⟩
  · rintro req envelope pathType ⟨⟩ carries
    exact ⟨_, List.mem_cons_self, _, _, armorKdc_returns, rfl⟩
  · rintro req envelope pathType ⟨⟩ carries
    exact absurd carries (silent envelope pathType)
  · rintro req envelope pathType ⟨⟩

theorem networkRun_short : ∀ e ∈ rights networkRun.1, ShortReply e := by
  have fits : chainedReply.length < 2 ^ 32 := by decide +kernel
  rw [rights_networkRun]
  intro e member paData key output
  rcases List.mem_cons.mp member with rfl | first
  · cases armorKdc_returns.symm.trans output
    exact fits
  · obtain rfl := List.mem_singleton.mp first
    exact absurd output verify_output_ne_padata

end Reference

/-- Armor of the recorded realm, asked for and answered over the network. -/
theorem keys_are_the_kdcs_armor :
    (lefts Reference.networkRun.1).head?.bind (fun e => e.output.asKey) =
        some ⟨18, Reference.chainedReplyKey⟩ ∧
      Each (KeysFromKdc Reference.chainedRecorded Reference.firstUseVarlink Reference.armorKdc)
        Reference.networkRun.1 := by
  have laws := Reference.chainedRecorded_lawful
  have run := run_exec (network Reference.chainedRecorded Reference.firstUseVarlink
    Reference.armorKdc) ({}, []) Reference.networkCalls
  constructor
  · rw [Reference.lefts_networkRun]
    exact Reference.firstUseRun_key
  · exact keys_are_the_kdcs _ _ _ laws _ _ run Reference.networkRun_short
      (unforged_of_delivered laws run Reference.networkRun_short Reference.networkRun_delivered)

end Kurbu5Pkinit

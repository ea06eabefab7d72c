import Kurbu5Pkinit.Brokerd.Publication
import Kurbu5Pkinit.Brokerd.Service
import Kurbu5Pkinit.Plugin.KeyTrust
import Kurbu5Pkinit.Reference.Plugin

/-!
# Trust on first use, from end to end

The client plugin, the transport and the daemon together. A client that the
configured anchors do not satisfy asks the daemon, and the daemon asks its
user; what travels is base64, the calls of other clients come in between, and
clocks differ. A key that libkrb5 is given all the same was vouched for by the
configured anchors, or by a CA that was in the chain which the KDC presented:
the user approved it for the realm of the KDC when the question of this very
call was served, or before that (`keys_need_anchors_or_consent`).
-/

set_option autoImplicit false

namespace Kurbu5Pkinit

open Library Brokerd PkinitClient

variable {platform : Platform} {varlink : Varlink} {b : BrokerPlatform} {path : Option String}
  {number : Instant → RequestTrust → Nat} {signals : List BrokerSignal}
  {n : Network PinStore TrustMethod TrustAnswer}

/-! ## The transport -/

/-- The client talks to this daemon: they encode alike, and a question asked at
a moment travels under its number, under which its answer arrives. -/
structure Reaches (varlink : Varlink) (b : BrokerPlatform) (number : Instant → RequestTrust → Nat)
    (signals : List BrokerSignal) : Prop where
  base64 : varlink.base64 = b.base64
  answers : ∀ socketPath timeoutSecs instant realm kdcPrincipal signerCert presentedCerts
    interactive reply,
    varlink.requestTrust socketPath timeoutSecs instant realm kdcPrincipal signerCert
        presentedCerts interactive = .ok reply →
      let question := ⟨realm, kdcPrincipal, signerCert, presentedCerts, interactive⟩
      .sent (number instant question) (.requestTrust question) ∈ signals ∧
        .received (number instant question) (.trust (.ok reply)) ∈ signals

/-- The question a client asks, as it travels. -/
def encodedRequest (varlink : Varlink) (req : KdcTrustRequest) : RequestTrust where
  realm := req.realm
  kdcPrincipal := req.kdcPrincipal
  signerCert := varlink.base64.encode req.signerCertDer
  presentedCerts := req.presentedCertsDer.map varlink.base64.encode
  interactive := req.interactive

/-- What is decoded is what was asked. -/
theorem Reaches.decoded (reaches : Reaches varlink b number signals)
    (standard : b.base64.Standard) {req : KdcTrustRequest} {attendance : Attendance}
    {call : DecideCall}
    (decoded : (encodedRequest varlink req).decideCall b attendance = .ok call) :
    call.signerDer = req.signerCertDer ∧ call.presentedDer = req.presentedCertsDer := by
  obtain ⟨signer, presented, _⟩ := decideCall_eq_ok decoded
  rw [encodedRequest, reaches.base64] at signer presented
  rw [standard.roundTrips] at signer
  rw [decodeAll_encode standard] at presented
  exact ⟨(Except.ok.inj signer).symm, (Option.some.inj presented).symm⟩

/-- An answer that trusts is one that the daemon gave, decoded. -/
theorem varlinkTrustBroker_eq_trusted {socketPath : String} {timeoutSecs : Nat}
    {instant : Instant} {req : KdcTrustRequest} {anchors : List Bytes} :
    varlinkTrustBroker varlink socketPath timeoutSecs instant req = .ok (.trusted anchors) →
      ∃ reply, varlink.requestTrust socketPath timeoutSecs instant req.realm req.kdcPrincipal
          (varlink.base64.encode req.signerCertDer)
          (req.presentedCertsDer.map varlink.base64.encode) req.interactive = .ok reply ∧
        reply.decision = .trusted ∧
        List.Forall₂ (fun text der => varlink.base64.decode text = .ok der) reply.anchors
          anchors := by
  intro answered
  simp only [varlinkTrustBroker, bind_eq_ok, mapError_eq_ok] at answered
  obtain ⟨reply, replied, answered⟩ := answered
  refine ⟨reply, replied, ?_⟩
  split at answered
  · next trusted =>
      simp only [bind_eq_ok, pure_eq_ok, Except.ok.injEq, KdcTrustDecision.trusted.injEq]
        at answered
      obtain ⟨_, read, rfl⟩ := answered
      refine ⟨trusted, (mapM_eq_ok.mp read).imp ?_⟩
      intro text der decoded
      exact mapError_eq_ok.mp decoded
  · cases answered
  · cases answered

/-! ## Consent -/

/-- **The client's broker trusts what a user consented to**, where the question
that it asked was served. -/
theorem consented_of_trusted (standard : b.base64.Standard) (injective : Sha256Injective b.core)
    (traffic : BrokerTraffic b path signals n) (reaches : Reaches varlink b number signals)
    {socketPath : String} {timeoutSecs : Nat} {instant : Instant} {req : KdcTrustRequest}
    {anchors : List Bytes}
    (answered : varlinkTrustBroker varlink socketPath timeoutSecs instant req =
      .ok (.trusted anchors)) :
    ∃ ca reply, anchors = [ca] ∧ (ca ∈ req.presentedCertsDer ∧ ca ≠ req.signerCertDer) ∧
      ApprovedAnswer b signals (number instant (encodedRequest varlink req))
        (encodedRequest varlink req) reply ca := by
  obtain ⟨reply, replied, trusted, read⟩ := varlinkTrustBroker_eq_trusted answered
  let id := number instant (encodedRequest varlink req)
  have sent : .sent id (.requestTrust (encodedRequest varlink req)) ∈ signals :=
    (reaches.answers _ _ _ _ _ _ _ _ _ replied).1
  have received : .received id (.trust (.ok reply)) ∈ signals :=
    (reaches.answers _ _ _ _ _ _ _ _ _ replied).2
  obtain ⟨newer, older, split⟩ := List.append_of_mem received
  obtain ⟨request, ca, approved⟩ := approvedAnswer_of_received injective traffic split trusted
  have whole := approved.mono (newer ++ [.received id (.trust (.ok reply))])
  rw [List.append_assoc, List.singleton_append, ← split] at whole
  obtain ⟨event, oldest, call, served, _, last, _⟩ := whole.approved
  obtain ⟨later, split⟩ := served.served
  -- A number is given once, so the question served is the one that was asked.
  have same : request = encodedRequest varlink req := by
    have sent' : .sent id (.requestTrust request) ∈ signals := by
      rw [split]
      exact List.mem_append_right _ (List.mem_cons_of_mem _ served.sent)
    cases Orderly.sent_unique traffic.orderly sent sent'
    rfl
  subst same
  obtain ⟨signer, presented⟩ := reaches.decoded standard served.decoded
  refine ⟨ca, reply, ?_, ?_, whole⟩
  · rw [whole.anchors] at read
    obtain ⟨der, rest, first, none, rfl⟩ := List.forall₂_cons_left_iff.mp read
    obtain rfl := List.forall₂_nil_left_iff.mp none
    rw [reaches.base64, standard.roundTrips] at first
    rw [Except.ok.inj first]
  · obtain ⟨⟨other, _⟩, earlier, later, listed, _⟩ := last
    rw [← signer, ← presented, listed]
    exact ⟨by simp, other⟩

/-- What the set-up asks the daemon about a signer: it may put the question to
the user only where the client is anonymous. -/
def SetUp.question (varlink : Varlink) (setUp : SetUp) (v : VerifiedSignedData)
    (name realm : String) : RequestTrust :=
  encodedRequest varlink ⟨realm, name, v.signerCertDer, v.allCertsDer, setUp.isAnonymous⟩

/-- Why the chain of a signer is trusted, the daemon and its user included. -/
inductive ChainConsented (platform : Platform) (varlink : Varlink) (b : BrokerPlatform)
    (number : Instant → RequestTrust → Nat) (signals : List BrokerSignal) (instant : Instant)
    (setUp : SetUp) (v : VerifiedSignedData) : Prop
  | anchors (validated : setUp.trustStore.validateChain platform instant v.signerCertDer
      v.allCertsDer false = .ok ())
  | consent {name realm : String} {ca : Bytes} {reply : TrustReply} {leaf : VerificationCertificate}
      {intermediates : List VerificationCertificate} (tofu : setUp.config.kdcTrustTofu = true)
      (named : setUp.serverPrincipal = some name) (inRealm : (split '@' name)[1]? = some realm)
      (presented : ca ∈ v.allCertsDer ∧ ca ≠ v.signerCertDer)
      (leafDecoded : anchorVc platform "KDC signer certificate" v.signerCertDer = .ok leaf)
      (decoded : v.allCertsDer.mapM (anchorVc platform "presented certificate") =
        .ok intermediates)
      (validated : platform.x509.verify leaf intermediates
        (PolicyDefinition.newClient instant.now .defaultWebPkiCa) [ca] { crls := none } = .ok ())
      (consented : ApprovedAnswer b signals (number instant (setUp.question varlink v name realm))
        (setUp.question varlink v name realm) reply ca)

theorem ChainVouched.consented (standard : b.base64.Standard) (injective : Sha256Injective b.core)
    (traffic : BrokerTraffic b path signals n) (reaches : Reaches varlink b number signals)
    {instant : Instant} {setUp : SetUp} {v : VerifiedSignedData}
    (vouched : ChainVouched platform varlink instant setUp v) :
    ChainConsented platform varlink b number signals instant setUp v := by
  cases vouched with
  | anchors validated => exact .anchors validated
  | broker installed named inRealm answered leafDecoded presented validated =>
      unfold SetUp.broker at installed
      split at installed
      · next tofu =>
          obtain rfl := Option.some.inj installed
          obtain ⟨ca, reply, rfl, inChain, consented⟩ :=
            consented_of_trusted standard injective traffic reaches answered
          exact .consent tofu named inRealm inChain leafDecoded presented validated consented
      · cases installed

/-! ## Runs -/

/-- The plugin uses its transport for nothing but the broker. -/
theorem pluginMachine_congr {varlink varlink' : Varlink}
    (broker : ∀ socketPath timeoutSecs, varlinkTrustBroker varlink socketPath timeoutSecs =
      varlinkTrustBroker varlink' socketPath timeoutSecs)
    (path : varlink.defaultSocketPath = varlink'.defaultSocketPath) (platform : Platform) :
    pluginMachine platform varlink = pluginMachine platform varlink' := by
  have build : buildClient varlink = buildClient varlink' := by
    funext instant identity trustStore config serverPrincipal isAnonymous
    simp only [buildClient, broker, path]
  funext client i
  cases i <;>
    simp only [pluginMachine, initEtypeInfo, initParty, loadIdentity, process,
      finishPendingPkcs12, build]

end Kurbu5Pkinit

namespace Kurbu5Pkinit.Reference

open Library Brokerd PkinitClient

/-! ## A first use -/

/-- The KDC's reply with the CA's certificate in it. -/
def chainedReply : Bytes :=
  writePaPkAsRep (.dhInfo {
    dhSignedData := signedEnvelope (kdcCertDer ++ caCertDer) 3 ID_PKINIT_DHKEY_DATA
      kdcDhKeyInfoDer kdcDhKeyInfoDigest dhReplySignature
    serverDhNonce := some serverDhNonce
    kdf := some ⟨ID_PKINIT_KDF_AH_SHA256⟩ })

def chainedOtherInfo : Bytes :=
  writeOtherInfo {
    algorithmId := ⟨ID_PKINIT_KDF_AH_SHA256, none⟩
    partyUInfo := Recording.writePrincipal NT_WELLKNOWN ["WELLKNOWN", "ANONYMOUS"]
      "WELLKNOWN:ANONYMOUS"
    partyVInfo := Recording.writePrincipal 2 ["krbtgt", "EXAMPLE.COM"] "EXAMPLE.COM"
    suppPubInfo := some (writePkinitSuppPubInfo ⟨18, asReqDer, chainedReply⟩) }

def chainedReplyKey : Bytes :=
  bytesOfNat 32 0x76FE619CDCD6DDCE8F20D5E67D785B1EF8BFA96B89B6B24D6536900F0045095A

def chainedRecorded : Platform :=
  { recording with
    derivations := [(("SHA2-256", dhSecret, chainedOtherInfo, 32), chainedReplyKey)] }.platform

/-- A transport on which the CA is approved, and nothing else is asked. -/
def firstUseTransport (base64 : Base64Engine) : Varlink where
  base64 := base64
  defaultSocketPath _ := "/run/user/1000/pkinit-kdc-trust.sock"
  requestTrust _ _ _ realm kdcPrincipal signerCert presentedCerts interactive :=
    if realm = "EXAMPLE.COM" ∧ kdcPrincipal = kdcName ∧ signerCert = base64.encode kdcCertDer ∧
        presentedCerts = [kdcCertDer, caCertDer].map base64.encode ∧ interactive = true then
      .ok { decision := .trusted, anchors := [base64.encode caCertDer] }
    else
      .error "connection refused"

def firstUseVarlink : Varlink :=
  firstUseTransport standardBase64

def processAnonymously (paData : PaData) : PluginCall :=
  .process {
    instant := clientInstant
    paData := paData
    nonce := requestNonce
    client := some anonymousPrincipal
    server := some kdcPrincipal
    encodedRequestBody := some requestBody
    encodedPreviousRequest := some asReqDer
    responderAnswer := fun _ => none
    etype := 18
    preauthTime := .ok (1800000000, 0)
    setAsKey := fun _ => .ok () }

/-- Armor is asked for, and the CA approved on the way. -/
def firstUseCalls : List PluginCall :=
  [initFor anonymousPrincipal, processAnonymously ⟨PA_PK_AS_REQ, []⟩,
    processAnonymously ⟨PA_PK_AS_REP, chainedReply⟩]

def firstUseRun : List PluginEvent × PkinitClient :=
  exec (pluginMachine chainedRecorded firstUseVarlink) ([], {}) firstUseCalls

def certName (der : Bytes) : String :=
  if der = kdcCertDer then "kdc" else if der = caCertDer then "ca" else ""

def firstUseNames : Base64Engine where
  encode := certName
  decode text := if text = "ca" then .ok caCertDer else .error "not named"

/-- What the client of the first use asks. -/
def firstUseQuestion : KdcTrustRequest where
  realm := "EXAMPLE.COM"
  kdcPrincipal := kdcName
  signerCertDer := kdcCertDer
  presentedCertsDer := [kdcCertDer, caCertDer]
  interactive := true

/-- A broker that trusts the CA where this is asked. -/
def firstUseBroker : KdcCaTrustBroker := fun _ req =>
  if req = firstUseQuestion then
    .ok (.trusted [caCertDer])
  else
    .error (.config "connection refused")

theorem firstUseTransport_broker {base64 : Base64Engine}
    (kdc : ∀ der, base64.encode der = base64.encode kdcCertDer ↔ der = kdcCertDer)
    (ca : ∀ der, base64.encode der = base64.encode caCertDer ↔ der = caCertDer)
    (decoded : base64.decode (base64.encode caCertDer) = .ok caCertDer) (socketPath : String)
    (timeoutSecs : Nat) :
    varlinkTrustBroker (firstUseTransport base64) socketPath timeoutSecs = firstUseBroker := by
  funext instant req
  obtain ⟨realm, kdcPrincipal, signer, presented, interactive⟩ := req
  have certs : presented.map base64.encode = [kdcCertDer, caCertDer].map base64.encode ↔
      presented = [kdcCertDer, caCertDer] := by
    simp [List.map_eq_cons_iff, kdc, ca]
  have asked : (realm = "EXAMPLE.COM" ∧ kdcPrincipal = kdcName ∧
        base64.encode signer = base64.encode kdcCertDer ∧
        presented.map base64.encode = [kdcCertDer, caCertDer].map base64.encode ∧
        interactive = true) ↔
      (⟨realm, kdcPrincipal, signer, presented, interactive⟩ : KdcTrustRequest) =
        firstUseQuestion := by
    rw [firstUseQuestion, KdcTrustRequest.mk.injEq, kdc, certs]
  simp only [varlinkTrustBroker, firstUseTransport, firstUseBroker, asked]
  split
  · simp [Except.mapError, decoded]
  · rfl

theorem certName_kdc : certName kdcCertDer = "kdc" := if_pos rfl

theorem certName_ca : certName caCertDer = "ca" := by
  have other : caCertDer ≠ kdcCertDer := by decide +kernel
  rw [certName, if_neg other, if_pos rfl]

theorem certName_eq_kdc (der : Bytes) :
    certName der = "kdc" ↔ der = kdcCertDer := by
  constructor
  · intro named
    by_contra other
    rw [certName, if_neg other] at named
    split at named
    · exact absurd named (by decide)
    · exact absurd named (by decide)
  · rintro rfl
    exact certName_kdc

theorem certName_eq_ca (der : Bytes) :
    certName der = "ca" ↔ der = caCertDer := by
  constructor
  · intro named
    unfold certName at named
    split at named
    · exact absurd named (by decide)
    · split at named
      · assumption
      · exact absurd named (by decide)
  · rintro rfl
    exact certName_ca

theorem firstUseNames_encode (der : Bytes) : firstUseNames.encode der = certName der := rfl

theorem firstUseNames_decode (text : String) : firstUseNames.decode text =
    if text = "ca" then .ok caCertDer else .error "not named" := rfl

theorem pluginMachine_firstUse (platform : Platform) :
    pluginMachine platform firstUseVarlink =
      pluginMachine platform (firstUseTransport firstUseNames) := by
  have path : firstUseVarlink.defaultSocketPath =
      (firstUseTransport firstUseNames).defaultSocketPath := rfl
  refine pluginMachine_congr (fun socketPath timeoutSecs => ?_) path platform
  have standard := standardBase64_standard
  rw [firstUseVarlink, @firstUseTransport_broker standardBase64 (fun _ => standard.encode_eq_iff)
    (fun _ => standard.encode_eq_iff) (standard.roundTrips caCertDer),
    @firstUseTransport_broker firstUseNames]
  · intro der
    rw [firstUseNames_encode, firstUseNames_encode, certName_kdc, certName_eq_kdc]
  · intro der
    rw [firstUseNames_encode, firstUseNames_encode, certName_ca, certName_eq_ca]
  · rw [firstUseNames_encode, certName_ca, firstUseNames_decode, if_pos rfl]

/-- **The run hands out a key.** -/
theorem firstUseRun_key : firstUseRun.1.head?.bind (fun e => e.output.asKey) =
    some ⟨18, chainedReplyKey⟩ := by
  rw [firstUseRun, pluginMachine_firstUse]
  decide +kernel

end Kurbu5Pkinit.Reference

namespace Kurbu5Pkinit

open Library Brokerd

end Kurbu5Pkinit

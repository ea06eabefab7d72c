import Kurbu5Pkinit.Client.Outcomes
import Kurbu5Pkinit.Crypto.CmsSoundness
import Kurbu5Pkinit.Reference.Client

/-!
# What an accepted reply proves

The two reply paths of the client, read backwards from a key. Whatever the
broker does and whichever anchors validated, the envelope was signed by a
certificate that is trusted, has the purpose of a KDC and names the principal;
what was signed answers this exchange.
-/

set_option autoImplicit false

namespace Kurbu5Pkinit

open Library

variable {platform : Platform} {instant : Instant} {state : PkinitClientState}

/-! ## The chain -/

/-- Why a chain was trusted: the configured anchors validate it, or a broker
was asked, approved some anchors, and those validate it under the strict policy
for CAs. -/
inductive ChainTrusted (platform : Platform) (instant : Instant) (state : PkinitClientState)
    (signerCertDer : Bytes) (allCertsDer : List Bytes) : Prop
  | configured
      (validated : state.trustStore.validateChain platform instant signerCertDer allCertsDer false =
        .ok ())
  | approved {broker : KdcCaTrustBroker} {req : KdcTrustRequest} {anchors : List Bytes}
      {leaf : VerificationCertificate} {intermediates : List VerificationCertificate}
      (installed : state.broker = some broker)
      (asked : state.kdcTrustRequest signerCertDer allCertsDer = some (broker, req))
      (answered : broker instant req = .ok (.trusted anchors))
      (leafDecoded : anchorVc platform "KDC signer certificate" signerCertDer = .ok leaf)
      (presented : allCertsDer.mapM (anchorVc platform "presented certificate") = .ok intermediates)
      (validated : platform.x509.verify leaf intermediates
        (PolicyDefinition.newClient instant.now .defaultWebPkiCa) anchors { crls := none } = .ok ())

theorem installed_of_kdcTrustRequest {signerCertDer : Bytes} {allCertsDer : List Bytes}
    {broker : KdcCaTrustBroker} {req : KdcTrustRequest}
    (asked : state.kdcTrustRequest signerCertDer allCertsDer = some (broker, req)) :
    state.broker = some broker := by
  simp only [PkinitClientState.kdcTrustRequest, Option.bind_eq_bind, Option.bind_eq_some_iff,
    Option.pure_def, Option.some.injEq, Prod.mk.injEq] at asked
  obtain ⟨_, installed, _, _, _, _, rfl, _⟩ := asked
  exact installed

theorem validateBrokerAnchors_sound {anchors : List Bytes} {signerCertDer : Bytes}
    {allCertsDer : List Bytes}
    (validated : validateBrokerAnchors platform instant anchors signerCertDer allCertsDer =
      .ok ()) :
    ∃ leaf intermediates, anchorVc platform "KDC signer certificate" signerCertDer = .ok leaf ∧
      allCertsDer.mapM (anchorVc platform "presented certificate") = .ok intermediates ∧
      platform.x509.verify leaf intermediates
        (PolicyDefinition.newClient instant.now .defaultWebPkiCa) anchors { crls := none } =
        .ok () := by
  simp only [validateBrokerAnchors, bind_eq_ok, mapError_eq_ok] at validated
  obtain ⟨_, _, intermediates, presented, leaf, decoded, verified⟩ := validated
  exact ⟨leaf, intermediates, decoded, presented, verified⟩

theorem validateKdcAnchors_sound {signerCertDer : Bytes} {allCertsDer : List Bytes}
    (validated : state.validateKdcAnchors platform instant signerCertDer allCertsDer = .ok ()) :
    ChainTrusted platform instant state signerCertDer allCertsDer := by
  unfold PkinitClientState.validateKdcAnchors at validated
  split at validated
  · next configured => exact .configured configured
  · split at validated
    · cases validated
    · next broker req asked =>
        simp only [bind_eq_ok] at validated
        obtain ⟨decision, answered, checked⟩ := validated
        cases decision with
        | denied reason => cases checked
        | unknown => cases checked
        | trusted anchors =>
            obtain ⟨leaf, intermediates, decoded, presented, verified⟩ :=
              validateBrokerAnchors_sound checked
            exact .approved (installed_of_kdcTrustRequest asked) asked answered decoded presented
              verified

/-- A broker that fails, denies or does not know leaves the decision to the
configured anchors. -/
theorem ChainTrusted.configured_of_unapproved {signerCertDer : Bytes} {allCertsDer : List Bytes}
    (trusted : ChainTrusted platform instant state signerCertDer allCertsDer)
    (unapproved : ∀ broker req anchors,
      state.kdcTrustRequest signerCertDer allCertsDer = some (broker, req) →
      broker instant req ≠ .ok (.trusted anchors)) :
    state.trustStore.validateChain platform instant signerCertDer allCertsDer false = .ok () := by
  cases trusted with
  | configured validated => exact validated
  | approved _ asked answered => exact absurd answered (unapproved _ _ _ asked)

/-! ## The signer -/

/-- The KDC behind an envelope: who signed it, and why that is the KDC. -/
structure SignedByKdc (platform : Platform) (instant : Instant) (state : PkinitClientState)
    (kdcPrincipal : String) (envelope : Bytes) (contentType : Oid) (v : VerifiedSignedData) :
    Prop where
  signature : ∃ signedData signerInfo, unwrapSignedData platform envelope = .ok signedData ∧
    SignatureBinding platform signedData signerInfo v
  contentType : v.contentType = contentType
  chain : ChainTrusted platform instant state v.signerCertDer v.allCertsDer
  /-- A broker error, denial or ignorance never stands in for the anchors. -/
  otherAnswers : (∀ broker req anchors,
      state.kdcTrustRequest v.signerCertDer v.allCertsDer = some (broker, req) →
      broker instant req ≠ .ok (.trusted anchors)) →
    state.trustStore.validateChain platform instant v.signerCertDer v.allCertsDer false = .ok ()
  eku : verifyKdcEku platform v.signerCertDer = .ok ()
  san : verifyKdcSan platform v.signerCertDer kdcPrincipal state.kdcHostname = .ok ()

theorem signedByKdc_of_validateKdcChain {kdcPrincipal : String} {envelope : Bytes}
    {contentType : Oid} {v : VerifiedSignedData} (known : state.kdcPrincipal = some kdcPrincipal)
    (verified : verifySignedData platform envelope = .ok v)
    (typed : v.contentType = contentType)
    (chain : state.validateKdcChain platform instant v.signerCertDer v.allCertsDer = .ok ()) :
    SignedByKdc platform instant state kdcPrincipal envelope contentType v := by
  simp only [PkinitClientState.validateKdcChain, PkinitClientState.validateKdcNames, known,
    bind_eq_ok] at chain
  obtain ⟨_, anchors, _, eku, san⟩ := chain
  have trusted := validateKdcAnchors_sound anchors
  exact {
    signature := SignatureBinding.of_verified verified
    contentType := typed
    chain := trusted
    otherAnswers := trusted.configured_of_unapproved
    eku := eku
    san := san }

/-! ## The reply -/

/-- A reply as the client may accept it, on either path. -/
inductive AuthenticReply (platform : Platform) (instant : Instant) (state : PkinitClientState)
    (kdcPrincipal : String) (paRepDer : Bytes) (params : AsRepParams) : Prop
  | dh {dhRepInfo : DhRepInfo} {v : VerifiedSignedData} {info : KdcDhKeyInfo} {dhKey : DhKeyPair}
      (tag : isKemRep paRepDer = false)
      (parsed : platform.synta.paPkAsRep.fromDer paRepDer = .ok (.dhInfo dhRepInfo))
      (kdc : SignedByKdc platform instant state kdcPrincipal dhRepInfo.dhSignedData
        ID_PKINIT_DHKEY_DATA v)
      (decoded : platform.synta.kdcDhKeyInfo.fromDer v.content = .ok info)
      (nonce : info.nonce = encodeNonce params.nonce)
      (held : state.dhKey = some dhKey)
  | kem {kemRepContent : Bytes} {kemRepInfo : KemRepInfo} {v : VerifiedSignedData}
      {info : KdcKemInfo} {kemKey : KemKeyPair}
      (tag : isKemRep paRepDer = true)
      (unwrapped : decodeKemRepContent platform.usizeBits paRepDer = .ok kemRepContent)
      (parsed : platform.synta.kemRepInfo.fromDer kemRepContent = .ok kemRepInfo)
      (kdc : SignedByKdc platform instant state kdcPrincipal kemRepInfo.kemSignedData
        ID_PKINIT_KEM_KEY_DATA v)
      (decoded : platform.synta.kdcKemInfo.fromDer v.content = .ok info)
      (nonce : info.nonce = some (encodeNonce params.nonce))
      (held : state.kemKey = some kemKey)
      (fits : PkinitClientState.FitsKemKey platform kemKey.algorithm params.nonce info)
      (postQuantum : state.hasPqCertificate platform = true →
        isPqSignatureAlgorithm platform v.signerAlgorithmOid = true)

/-- **KDC authentication.** A client that knows its KDC's principal takes a key
only from an authentic reply, whatever reply it is given and whatever its
broker answers. -/
theorem processAsRep_authenticates_kdc (platform : Platform) (o2k : OctetString2Key)
    (instant : Instant) (state state' : PkinitClientState) (kdcPrincipal : String)
    (paRepDer : Bytes) (params : AsRepParams) (key : DerivedKey)
    (known : state.kdcPrincipal = some kdcPrincipal)
    (accepted : call (PkinitClientState.processAsRep platform o2k instant paRepDer params) state =
      (state', .ok key)) :
    AuthenticReply platform instant state kdcPrincipal paRepDer params := by
  have outcome := PkinitClientState.processAsRep_outcome platform o2k instant state paRepDer params
  unfold Ends at outcome
  rw [accepted] at outcome
  cases outcome with
  | dh tag parsed processed =>
      obtain ⟨v, dhKey, accepts⟩ := PkinitClientState.processDhRep_eq_ok.mp processed
      obtain ⟨info, _, _, decoded, nonce, _⟩ := accepts.agreed
      exact .dh tag parsed
        (signedByKdc_of_validateKdcChain known accepts.signature accepts.contentType accepts.chain)
        decoded (decodeNonce_eq_ok.mp nonce) accepts.held
  | kem tag held opened =>
      obtain ⟨v, info, accepts⟩ := PkinitClientState.openKemRep_eq_ok.mp opened
      obtain ⟨content, rep, _, unwrapped, parsed, signature, _⟩ := accepts.opened
      obtain ⟨replyNonce, present, read⟩ := accepts.fits.nonce
      rw [decodeNonce_eq_ok.mp read] at present
      -- Taking the key pair out touches nothing the chain check reads.
      exact .kem tag unwrapped parsed
        (signedByKdc_of_validateKdcChain known signature accepts.contentType accepts.chain)
        accepts.decoded present held accepts.fits accepts.postQuantum

/-- The recorded reply, at an anonymous client that sent its request. -/
theorem processAsRep_authenticates_kdc_agileDhReply :
    AuthenticReply Reference.recorded Reference.clientInstant Reference.waitingClient
      Reference.kdcName Reference.agileDhReply
      (Reference.replyParams Reference.agileDhReply) := by
  have known : Reference.waitingClient.kdcPrincipal = some Reference.kdcName := by
    decide +kernel
  exact processAsRep_authenticates_kdc _ _ _ _ _ _ _ _ _ known
    (call_of_result Reference.readReply_answered.1)

end Kurbu5Pkinit

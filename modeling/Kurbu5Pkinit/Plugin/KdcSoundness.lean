import Mathlib.Data.Fintype.EquivFin
import Kurbu5Pkinit.Plugin.Kdc
import Kurbu5Pkinit.Verification

/-!
# What an accepted request proves

The verify callback of the KDC plugin, read backwards. The first half states
what acceptance guarantees: the client either is anonymous and sent unsigned
content, or holds the key of a trusted certificate that names the principal.

The second half states what acceptance does not depend on. The callback passes
no request body to the core, and the core looks at the freshness token only to
see whether there is one.
-/

set_option autoImplicit false

namespace Kurbu5Pkinit

open Library

variable {platform : Platform}

/-! ## The principal -/

/-- The certificate names the principal: by a PKINIT name equal to it, or,
where allowed, by a UPN equal to it up to ASCII case. -/
def NamesPrincipal (platform : Platform) (certDer : Bytes) (allowUpn : Bool) (name : String) :
    Prop :=
  (∃ sans, extractPkinitSans platform certDer = .ok sans ∧ name ∈ sans) ∨
    (allowUpn = true ∧ ∃ upns, extractUpnSans platform certDer = .ok upns ∧
      ∃ upn ∈ upns, eqIgnoreAsciiCase upn name = true)

theorem verifyClientSan_authorized {certDer : Bytes} {name : String} {allowUpn : Bool}
    (authorized : verifyClientSan platform certDer name allowUpn = .ok .authorized) :
    NamesPrincipal platform certDer allowUpn name := by
  simp only [verifyClientSan, bind_eq_ok] at authorized
  obtain ⟨sans, extracted, checked⟩ := authorized
  split at checked
  · next named =>
      refine .inl ⟨sans, extracted, ?_⟩
      simpa using named
  · split at checked
    · next allowed =>
        simp only [bind_eq_ok] at checked
        obtain ⟨upns, upnsExtracted, checked⟩ := checked
        split at checked
        · next named =>
            refine .inr ⟨allowed, upns, upnsExtracted, ?_⟩
            simpa using named
        · cases checked
    · cases checked

theorem authorizeClient_eq_ok {kdc : PkinitKdc} {verified : VerifiedRequest}
    {callbacks : KdcpreauthCallbacks}
    (authorized : kdc.authorizeClient platform verified callbacks = .ok ()) :
    ∃ client, callbacks.clientNamePrincipal = some client ∧
      ((verified.isAnonymous = true ∧ client.isAnonymous = true) ∨
        (verified.isAnonymous = false ∧ ∃ name, platform.krb5.unparsePrincipal client = .ok name ∧
          NamesPrincipal platform verified.clientCertDer kdc.config.allowUpn name)) := by
  simp only [PkinitKdc.authorizeClient, bind_eq_ok, okOr_eq_ok] at authorized
  obtain ⟨client, present, checked⟩ := authorized
  refine ⟨client, present, ?_⟩
  split at checked
  · next anonymous => exact .inl ⟨anonymous, by simpa using checked⟩
  · next named =>
      simp only [bind_eq_ok, mapError_eq_ok, rejectIf_eq_ok, not_not] at checked
      obtain ⟨name, unparsed, _, authorized, rfl⟩ := checked
      exact .inr ⟨by simpa using named, name, unparsed, verifyClientSan_authorized authorized⟩

/-! ## Acceptance -/

/-- **The callback accepts exactly when the core verifies the request without a
body and the principal is authorized.** -/
theorem accepts_iff {instant : Instant} {kdc : PkinitKdc} {paData : PaData}
    {callbacks : KdcpreauthCallbacks} {verified : VerifiedRequest} :
    (∃ indicators, kdc.verify platform instant paData callbacks = .accepted verified indicators) ↔
      paData.contents ≠ [] ∧
      kdc.state.verifyAsReq platform instant paData.contents none callbacks.maxTimeSkew
        instant.now = .ok verified ∧
      kdc.authorizeClient platform verified callbacks = .ok () := by
  unfold PkinitKdc.verify
  constructor
  · rintro ⟨indicators, accepted⟩
    split at accepted
    · cases accepted
    · next nonempty =>
        split at accepted
        · unfold PkinitKdc.errorResponse at accepted
          split at accepted <;> cases accepted
        · next verified' verifies =>
            split at accepted
            · cases accepted
            · next authorized =>
                cases accepted
                exact ⟨by simpa using nonempty, verifies, authorized⟩
  · rintro ⟨nonempty, verifies, authorized⟩
    refine ⟨if verified.isAnonymous then [] else kdc.config.authIndicators, ?_⟩
    rw [if_neg (by simpa using nonempty), verifies]
    simp only [authorized]

theorem withImplicitKems_fields (config : PkinitKdcConfig) :
    config.withImplicitKems.requireEku = config.requireEku ∧
      config.withImplicitKems.acceptSecondaryEku = config.acceptSecondaryEku ∧
      config.withImplicitKems.requireCrlChecking = config.requireCrlChecking ∧
      config.withImplicitKems.requireFreshness = config.requireFreshness := by
  unfold PkinitKdcConfig.withImplicitKems
  split <;> exact ⟨rfl, rfl, rfl, rfl⟩

theorem PkinitKdc.new_eq_ok {identity : PkinitIdentity} {trustStore : TrustStore}
    {config : PkinitKdcConfig} {kdc : PkinitKdc}
    (built : PkinitKdc.new platform identity trustStore config = .ok kdc) :
    kdc.config = config ∧ kdc.state.config = config.withImplicitKems ∧
      kdc.state.trustStore = trustStore ∧ kdc.state.identity = identity := by
  simp only [PkinitKdc.new, PkinitKdcState.new, bind_eq_ok, pure_eq_ok, Except.ok.injEq] at built
  obtain ⟨_, ⟨_, _, _, _, rfl⟩, rfl⟩ := built
  exact ⟨rfl, rfl, rfl, rfl⟩

/-- The chain and purpose checks under the configuration the module was built
from. -/
theorem SignedRequest.of_implicit {instant : Instant} {trustStore : TrustStore}
    {config : PkinitKdcConfig} {der : Bytes} {v : VerifiedSignedData}
    (signed : SignedRequest platform instant trustStore config.withImplicitKems der v) :
    SignedRequest platform instant trustStore config der v := by
  obtain ⟨eku, secondary, crl, _⟩ := withImplicitKems_fields config
  exact ⟨signed.signature, signed.contentType, crl ▸ signed.chain,
    fun required => secondary ▸ signed.eku (eku.trans required)⟩

/-- **Client authentication.** An accepted request is unsigned content of type
`id-pkinit-authData` for the anonymous principal, or carries a signature that
verifies under a trusted certificate naming the principal. A `SignedData` with
a signer is never taken as anonymous. -/
theorem verify_authenticates_client (platform : Platform) (identity : PkinitIdentity)
    (trustStore : TrustStore) (config : PkinitKdcConfig) (kdc : PkinitKdc) (instant : Instant)
    (paData : PaData) (callbacks : KdcpreauthCallbacks) (verified : VerifiedRequest)
    (indicators : List String)
    (built : PkinitKdc.new platform identity trustStore config = .ok kdc)
    (accepted : kdc.verify platform instant paData callbacks = .accepted verified indicators) :
    ∃ paReq client, platform.synta.paPkAsReq.fromDer paData.contents = .ok paReq ∧
      callbacks.clientNamePrincipal = some client ∧
      ((verified.isAnonymous = true ∧
          IsUnsigned platform paReq.signedAuthPack ID_PKINIT_AUTH_DATA ∧
          client.isAnonymous = true) ∨
        (verified.isAnonymous = false ∧ ∃ v name,
          SignedRequest platform instant trustStore config paReq.signedAuthPack v ∧
          platform.krb5.unparsePrincipal client = .ok name ∧
          NamesPrincipal platform v.signerCertDer config.allowUpn name)) ∧
      ∀ signedData, unwrapSignedData platform paReq.signedAuthPack = .ok signedData →
        signedData.signerInfos ≠ [] → verified.isAnonymous = false := by
  obtain ⟨sameConfig, sameState, sameStore, _⟩ := PkinitKdc.new_eq_ok built
  obtain ⟨_, verifies, authorized⟩ := accepts_iff.mp ⟨indicators, accepted⟩
  obtain ⟨authPack, cert, anonymous, ⟨paReq, authPackDer, parsed, opened, _⟩, passes⟩ :=
    verifyAsReq_eq_ok.mp verifies
  obtain ⟨client, present, principal⟩ := authorizeClient_eq_ok authorized
  have isAnonymous := passes.anonymous
  refine ⟨paReq, client, parsed, present, ?_⟩
  rcases openAuthPack_sound opened with ⟨rfl, unsigned⟩ | ⟨rfl, v, rfl, signed⟩
  · rcases principal with ⟨_, wellKnown⟩ | ⟨named, _⟩
    · exact ⟨.inl ⟨isAnonymous, unsigned, wellKnown⟩, fun signedData unwrapped signers =>
        absurd (unsigned.no_signers unwrapped) signers⟩
    · exact absurd (isAnonymous.symm.trans named) (by decide)
  · rcases principal with ⟨unnamed, _⟩ | ⟨_, name, unparsed, names⟩
    · exact absurd (isAnonymous.symm.trans unnamed) (by decide)
    · rw [passes.cert, sameConfig] at names
      rw [sameState, sameStore] at signed
      exact ⟨.inr ⟨isAnonymous, v, name, signed.of_implicit, unparsed, names⟩,
        fun _ _ _ => isAnonymous⟩

/-! ## A recorded request -/

namespace Reference

/-- The KDC of the recorded realm demands a freshness token. -/
def kdcConfig : PkinitKdcConfig := { requireFreshness := true }

/-- The MODP groups, in the KDC's order. -/
def modpAlgIds : Bytes :=
  sequence ([OAKLEY_4096_DER, OAKLEY_2048_DER].flatMap fun params =>
    writeAlgorithmIdentifier ⟨DHPUBLICNUMBER, some (.other params)⟩)

def kdc : PkinitKdc where
  state := {
    identity := kdcIdentity
    trustStore := trustStore
    config := kdcConfig
    supportedAlgorithmsHint := some (sequence (explicitly 0 modpAlgIds))
    tdEphemeralKeyParams := modpAlgIds }
  config := kdcConfig

/-- A request for `alice@EXAMPLE.COM`, at a KDC that issued the first token
only. -/
def aliceCallbacks (requestBody : Bytes) : KdcpreauthCallbacks where
  maxTimeSkew := 300
  clientNamePrincipal := some ⟨[asciiBytes "alice"], asciiBytes "EXAMPLE.COM"⟩
  requestBody := requestBody
  checkFreshnessToken token := token = firstToken

/-- What the KDC reads out of the client's requests. -/
def verifiedRequest : VerifiedRequest where
  clientCertDer := aliceCertDer
  clientDhPublic := clientDhSpki
  nonce := requestNonce
  supportedKdfs := [ID_PKINIT_KDF_AH_SHA256, ID_PKINIT_KDF_AH_SHA512, ID_PKINIT_KDF_AH_SHA1]
  clientDhNonce := some clientDhNonce
  isAnonymous := false
  keyExchange := .dh .ecP256

set_option maxRecDepth 16384 in
theorem opens_firstRequest : Opens recorded kdcInstant kdc.state firstRequest
    (dhAuthPack firstToken) aliceCertDer false :=
  ⟨{ signedAuthPack := firstSignedAuthPack }, dhAuthPackDer firstToken, by decide,
    by decide, by decide⟩

set_option maxRecDepth 16384 in
theorem opens_secondRequest : Opens recorded kdcInstant kdc.state secondRequest
    (dhAuthPack secondToken) aliceCertDer false :=
  ⟨{ signedAuthPack := secondSignedAuthPack }, dhAuthPackDer secondToken, by decide,
    by decide, by decide⟩

set_option maxRecDepth 16384 in
/-- Both requests pass the KDC's checks. -/
theorem passes_dhAuthPack (token : Bytes) : Passes recorded kdc.state none 300 kdcInstant.now
    (dhAuthPack token) aliceCertDer false verifiedRequest where
  skew := by
    change (((1800000000 : Int) - (1800000000 : Nat)).natAbs : Int) ≤ 300
    decide
  fresh := fun _ => Option.some_ne_none token
  body := rfl
  publicValue := ⟨.other clientDhSpki, rfl, by decide⟩
  keyExchange := by
    change kdc.state.selectKeyExchange recorded clientDhSpki (some clientDhNonce) =
      .ok (.dh .ecP256)
    decide
  nonce := decodeNonce_encodeNonce _ _
  cert := rfl
  kdfs := rfl
  dhNonce := rfl
  anonymous := rfl

set_option maxRecDepth 16384 in
/-- A request that opens with such an `AuthPack` is accepted for the client. -/
theorem accepts_of_opens {request token : Bytes} (nonempty : request ≠ [])
    (opens : Opens recorded kdcInstant kdc.state request (dhAuthPack token) aliceCertDer false)
    (requestBody : Bytes) :
    ∃ indicators, kdc.verify recorded kdcInstant ⟨PA_PK_AS_REQ, request⟩
      (aliceCallbacks requestBody) = .accepted verifiedRequest indicators := by
  have authorized : kdc.authorizeClient recorded verifiedRequest (aliceCallbacks []) = .ok () := by
    decide
  exact accepts_iff.mpr ⟨nonempty, verifyAsReq_eq_ok.mpr ⟨_, _, _, opens, passes_dhAuthPack token⟩,
    authorized⟩

end Reference

set_option maxRecDepth 16384 in
/-- The client's first request is accepted. -/
theorem verify_authenticates_client_firstRequest :
    ∃ paReq client, Reference.recorded.synta.paPkAsReq.fromDer Reference.firstRequest = .ok paReq ∧
      (Reference.aliceCallbacks Reference.requestBody).clientNamePrincipal = some client ∧
      ((Reference.verifiedRequest.isAnonymous = true ∧
          IsUnsigned Reference.recorded paReq.signedAuthPack ID_PKINIT_AUTH_DATA ∧
          client.isAnonymous = true) ∨
        (Reference.verifiedRequest.isAnonymous = false ∧ ∃ v name,
          SignedRequest Reference.recorded Reference.kdcInstant Reference.trustStore
            Reference.kdcConfig paReq.signedAuthPack v ∧
          Reference.recorded.krb5.unparsePrincipal client = .ok name ∧
          NamesPrincipal Reference.recorded v.signerCertDer Reference.kdcConfig.allowUpn name)) ∧
      ∀ signedData, unwrapSignedData Reference.recorded paReq.signedAuthPack = .ok signedData →
        signedData.signerInfos ≠ [] → Reference.verifiedRequest.isAnonymous = false := by
  obtain ⟨indicators, accepted⟩ := Reference.accepts_of_opens (by decide)
    Reference.opens_firstRequest Reference.requestBody
  exact verify_authenticates_client Reference.recorded Reference.kdcIdentity Reference.trustStore
    Reference.kdcConfig Reference.kdc Reference.kdcInstant
    ⟨PA_PK_AS_REQ, Reference.firstRequest⟩ (Reference.aliceCallbacks Reference.requestBody)
    Reference.verifiedRequest indicators (by decide) accepted

/-! ## What acceptance does not depend on -/

/-- A request opens in one way. -/
theorem Opens.unique {instant : Instant} {state : PkinitKdcState} {paReqDer cert cert' : Bytes}
    {authPack authPack' : AuthPack} {anonymous anonymous' : Bool}
    (left : Opens platform instant state paReqDer authPack cert anonymous)
    (right : Opens platform instant state paReqDer authPack' cert' anonymous') :
    authPack = authPack' ∧ cert = cert' ∧ anonymous = anonymous' := by
  obtain ⟨paReq, der, parsed, opened, decoded⟩ := left
  obtain ⟨paReq', der', parsed', opened', decoded'⟩ := right
  obtain rfl := Except.ok.inj (parsed.symm.trans parsed')
  obtain ⟨rfl, rfl, rfl⟩ : der = der' ∧ cert = cert' ∧ anonymous = anonymous' := by
    simpa using opened.symm.trans opened'
  exact ⟨Except.ok.inj (decoded.symm.trans decoded'), rfl, rfl⟩

/-- The digests of the body an authenticator has room for: `paChecksum` as
SHA-1 or as SHA-256, and `paChecksum2` under the algorithm it names. -/
inductive DigestSlot where
  | paChecksumSha1
  | paChecksumSha256
  | paChecksum2
  deriving DecidableEq

instance : Finite DigestSlot :=
  Finite.of_surjective
    (fun place : Fin 3 => [DigestSlot.paChecksumSha1, .paChecksumSha256, .paChecksum2].get place)
    (by rintro (_ | _ | _) <;> first | exact ⟨0, rfl⟩ | exact ⟨1, rfl⟩ | exact ⟨2, rfl⟩)

/-- The authenticator carries the digest of the body in this place. -/
def CarriesDigestAt (platform : Platform) (pkAuth : PkAuthenticator) (body : Bytes) :
    DigestSlot → Prop
  | .paChecksumSha1 => ∃ checksum, pkAuth.paChecksum = some checksum ∧
      platform.crypto.hashData "sha1" body = .ok checksum
  | .paChecksumSha256 => ∃ checksum, pkAuth.paChecksum = some checksum ∧
      platform.crypto.hashData "sha256" body = .ok checksum
  | .paChecksum2 => ∃ checksum2 alg, pkAuth.paChecksum2 = some checksum2 ∧
      platform.crypto.digestOidToName checksum2.algorithmIdentifier.algorithm = some alg ∧
      platform.crypto.hashData alg body = .ok checksum2.checksum

def CarriesDigest (platform : Platform) (pkAuth : PkAuthenticator) (body : Bytes) : Prop :=
  ∃ slot, CarriesDigestAt platform pkAuth body slot

/-- No two inputs of one hash have the same digest. -/
def CollisionFree (platform : Platform) : Prop :=
  ∀ alg data data' digest, platform.crypto.hashData alg data = .ok digest →
    platform.crypto.hashData alg data' = .ok digest → data = data'

theorem CarriesDigestAt.unique (collisionFree : CollisionFree platform)
    {pkAuth : PkAuthenticator} {body body' : Bytes} {slot : DigestSlot}
    (left : CarriesDigestAt platform pkAuth body slot)
    (right : CarriesDigestAt platform pkAuth body' slot) : body = body' := by
  cases slot with
  | paChecksumSha1 | paChecksumSha256 =>
      obtain ⟨checksum, present, hashed⟩ := left
      obtain ⟨checksum', present', hashed'⟩ := right
      obtain rfl := Option.some.inj (present.symm.trans present')
      exact collisionFree _ _ _ _ hashed hashed'
  | paChecksum2 =>
      obtain ⟨checksum, alg, present, named, hashed⟩ := left
      obtain ⟨checksum', alg', present', named', hashed'⟩ := right
      obtain rfl := Option.some.inj (present.symm.trans present')
      obtain rfl := Option.some.inj (named.symm.trans named')
      exact collisionFree _ _ _ _ hashed hashed'

/-- An authenticator has room for three digests, so it misses some body. -/
theorem exists_not_carriesDigest (collisionFree : CollisionFree platform)
    (pkAuth : PkAuthenticator) : ∃ body, ¬ CarriesDigest platform pkAuth body := by
  by_contra carried
  simp only [not_exists, not_not] at carried
  choose slot holds using carried
  have injective : Function.Injective slot := by
    intro body body' same
    have right := holds body'
    rw [← same] at right
    exact (holds body).unique collisionFree right
  exact not_injective_infinite_finite slot injective

/-- **The request body plays no part in acceptance.** A request accepted with
one body is accepted with every body, and with some body of which it carries no
digest. -/
theorem verify_ignores_request_body (platform : Platform) (instant : Instant) (kdc : PkinitKdc)
    (paData : PaData) (callbacks : KdcpreauthCallbacks) (collisionFree : CollisionFree platform)
    (accepted : kdc.Accepts platform instant paData callbacks) :
    (∀ body, kdc.Accepts platform instant paData { callbacks with requestBody := body }) ∧
      ∃ body authPack cert isAnonymous,
        Opens platform instant kdc.state paData.contents authPack cert isAnonymous ∧
        ¬ CarriesDigest platform authPack.pkAuthenticator body ∧
        kdc.Accepts platform instant paData { callbacks with requestBody := body } := by
  have anyBody : ∀ body, kdc.Accepts platform instant paData
      { callbacks with requestBody := body } := fun _ => accepted
  obtain ⟨verified, indicators, answer⟩ := accepted
  obtain ⟨_, verifies, _⟩ := accepts_iff.mp ⟨indicators, answer⟩
  obtain ⟨authPack, cert, anonymous, opens, _⟩ := verifyAsReq_eq_ok.mp verifies
  obtain ⟨body, uncarried⟩ := exists_not_carriesDigest collisionFree authPack.pkAuthenticator
  exact ⟨anyBody, body, authPack, cert, anonymous, opens, uncarried, anyBody body⟩

/-- The client's first request, accepted with the body of another. -/
theorem verify_accepts_other_request_body :
    Reference.requestBody ≠ Reference.otherBody ∧
      Reference.kdc.Accepts Reference.recorded Reference.kdcInstant
        ⟨PA_PK_AS_REQ, Reference.firstRequest⟩ (Reference.aliceCallbacks Reference.requestBody) ∧
      Reference.kdc.Accepts Reference.recorded Reference.kdcInstant
        ⟨PA_PK_AS_REQ, Reference.firstRequest⟩ (Reference.aliceCallbacks Reference.otherBody) ∧
      ∃ authPack cert isAnonymous,
        Opens Reference.recorded Reference.kdcInstant Reference.kdc.state Reference.firstRequest
          authPack cert isAnonymous ∧
        ¬ CarriesDigest Reference.recorded authPack.pkAuthenticator Reference.otherBody := by
  have nonempty : Reference.firstRequest ≠ [] := by decide
  have opens := Reference.opens_firstRequest
  refine ⟨by decide, ⟨_, Reference.accepts_of_opens nonempty opens _⟩,
    ⟨_, Reference.accepts_of_opens nonempty opens _⟩, _, _, _, opens, ?_⟩
  rintro ⟨slot, carried⟩
  cases slot with
  | paChecksumSha1 =>
      obtain ⟨_, ⟨⟩, hashed⟩ := carried
      exact absurd hashed (by decide)
  | paChecksumSha256 =>
      obtain ⟨_, ⟨⟩, hashed⟩ := carried
      exact absurd hashed (by decide)
  | paChecksum2 =>
      obtain ⟨_, alg, ⟨⟩, named, hashed⟩ := carried
      have sha256 : Reference.recorded.crypto.digestOidToName ID_SHA256 = some "sha256" := by
        decide
      obtain rfl := Option.some.inj (sha256.symm.trans named)
      exact absurd hashed (by decide)

theorem verify_ignores_request_body_firstRequest :
    (∀ body, Reference.kdc.Accepts Reference.recorded Reference.kdcInstant
      ⟨PA_PK_AS_REQ, Reference.firstRequest⟩
      { Reference.aliceCallbacks Reference.requestBody with requestBody := body }) ∧
      ∃ body authPack cert isAnonymous,
        Opens Reference.recorded Reference.kdcInstant Reference.kdc.state Reference.firstRequest
          authPack cert isAnonymous ∧
        ¬ CarriesDigest Reference.recorded authPack.pkAuthenticator body ∧
        Reference.kdc.Accepts Reference.recorded Reference.kdcInstant
          ⟨PA_PK_AS_REQ, Reference.firstRequest⟩
          { Reference.aliceCallbacks Reference.requestBody with requestBody := body } :=
  verify_ignores_request_body Reference.recorded Reference.kdcInstant Reference.kdc
    ⟨PA_PK_AS_REQ, Reference.firstRequest⟩ (Reference.aliceCallbacks Reference.requestBody)
    (fun _ _ _ _ left right => Reference.hashData_injective left right)
    ⟨_, Reference.accepts_of_opens (by decide) Reference.opens_firstRequest _⟩

/-- The same request with another freshness token. -/
def AuthPack.withFreshnessToken (authPack : AuthPack) (token : Bytes) : AuthPack :=
  { authPack with pkAuthenticator :=
      { authPack.pkAuthenticator with freshnessToken := some token } }

/-- **The value of the freshness token plays no part in acceptance.** A request
is accepted whatever the KDC thinks of its token, and stays accepted when its
client signs it again with any other token. -/
theorem verify_ignores_freshness_token (platform : Platform) (instant : Instant)
    (kdc : PkinitKdc) (paData : PaData) (callbacks : KdcpreauthCallbacks)
    (accepted : kdc.Accepts platform instant paData callbacks) :
    (∀ judge, kdc.Accepts platform instant paData
      { callbacks with checkFreshnessToken := judge }) ∧
      ∀ paData' authPack cert isAnonymous token, paData'.contents ≠ [] →
        Opens platform instant kdc.state paData.contents authPack cert isAnonymous →
        Opens platform instant kdc.state paData'.contents (authPack.withFreshnessToken token) cert
          isAnonymous →
        kdc.Accepts platform instant paData' callbacks := by
  refine ⟨fun _ => accepted, fun paData' authPack cert anonymous token nonempty opens opens' => ?_⟩
  obtain ⟨verified, indicators, answer⟩ := accepted
  obtain ⟨_, verifies, authorized⟩ := accepts_iff.mp ⟨indicators, answer⟩
  obtain ⟨_, _, _, opensToo, passes⟩ := verifyAsReq_eq_ok.mp verifies
  obtain ⟨rfl, rfl, rfl⟩ := opens.unique opensToo
  have passes' : Passes platform kdc.state none callbacks.maxTimeSkew instant.now
      (authPack.withFreshnessToken token) cert anonymous verified :=
    { passes with fresh := fun _ => Option.some_ne_none _, body := rfl }
  exact ⟨verified, accepts_iff.mpr ⟨nonempty,
    verifyAsReq_eq_ok.mpr ⟨_, _, _, opens', passes'⟩, authorized⟩⟩

/-- A KDC that demands freshness accepts the client's second request, under a
token it never issued. -/
theorem verify_accepts_made_up_token :
    Reference.kdc.config.requireFreshness = true ∧
      (Reference.aliceCallbacks Reference.requestBody).checkFreshnessToken Reference.secondToken =
        false ∧
      Reference.kdc.Accepts Reference.recorded Reference.kdcInstant
        ⟨PA_PK_AS_REQ, Reference.firstRequest⟩ (Reference.aliceCallbacks Reference.requestBody) ∧
      Reference.kdc.Accepts Reference.recorded Reference.kdcInstant
        ⟨PA_PK_AS_REQ, Reference.secondRequest⟩ (Reference.aliceCallbacks Reference.requestBody) ∧
      ∃ authPack cert isAnonymous,
        Opens Reference.recorded Reference.kdcInstant Reference.kdc.state Reference.firstRequest
          authPack cert isAnonymous ∧
        Opens Reference.recorded Reference.kdcInstant Reference.kdc.state Reference.secondRequest
          (authPack.withFreshnessToken Reference.secondToken) cert isAnonymous :=
  ⟨rfl, by decide,
    ⟨_, Reference.accepts_of_opens (by decide) Reference.opens_firstRequest _⟩,
    ⟨_, Reference.accepts_of_opens (by decide) Reference.opens_secondRequest _⟩,
    _, _, _, Reference.opens_firstRequest, Reference.opens_secondRequest⟩

theorem verify_ignores_freshness_token_firstRequest :
    (∀ judge, Reference.kdc.Accepts Reference.recorded Reference.kdcInstant
      ⟨PA_PK_AS_REQ, Reference.firstRequest⟩
      { Reference.aliceCallbacks Reference.requestBody with checkFreshnessToken := judge }) ∧
      ∀ paData' authPack cert isAnonymous token, paData'.contents ≠ [] →
        Opens Reference.recorded Reference.kdcInstant Reference.kdc.state Reference.firstRequest
          authPack cert isAnonymous →
        Opens Reference.recorded Reference.kdcInstant Reference.kdc.state paData'.contents
          (authPack.withFreshnessToken token) cert isAnonymous →
        Reference.kdc.Accepts Reference.recorded Reference.kdcInstant paData'
          (Reference.aliceCallbacks Reference.requestBody) :=
  verify_ignores_freshness_token Reference.recorded Reference.kdcInstant Reference.kdc
    ⟨PA_PK_AS_REQ, Reference.firstRequest⟩ (Reference.aliceCallbacks Reference.requestBody)
    ⟨_, Reference.accepts_of_opens (by decide) Reference.opens_firstRequest _⟩

end Kurbu5Pkinit

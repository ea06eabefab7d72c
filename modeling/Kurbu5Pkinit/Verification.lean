import Kurbu5Pkinit.Crypto.CmsSoundness
import Kurbu5Pkinit.Server

/-!
# The requests the core verifies

`verifyAsReq` read backwards: a request it verified opened, as unsigned
content or under a trusted certificate, and passed every check on what was
inside.
-/

set_option autoImplicit false

namespace Kurbu5Pkinit

open Library

variable {platform : Platform}

/-! ## Opening the request -/

/-- The CMS object carries no signature: a `SignedData` without signers, or a
`ContentInfo` around a bare `OCTET STRING`. -/
inductive IsUnsigned (platform : Platform) (der : Bytes) (contentType : Oid) : Prop
  | noSigners {signedData : SignedData} (unwrapped : unwrapSignedData platform der = .ok signedData)
      (unsigned : signedData.signerInfos = [])
      (type : signedData.encapContentInfo.eContentType = contentType)
  | bare {ci : ContentInfo} {inner content : Bytes}
      (parsed : platform.synta.contentInfo.fromDer der = .ok ci)
      (entered : platform.synta.enterExplicit 0 ci.content = .ok inner)
      (octets : platform.synta.octetString.fromDer inner = .ok content)
      (type : ci.contentType = contentType)

theorem extractUnsignedContent_sound {der content : Bytes} {contentType : Oid}
    (extracted : extractUnsignedContent platform der = .ok (content, contentType)) :
    IsUnsigned platform der contentType := by
  simp only [extractUnsignedContent, bind_eq_ok, okOr_eq_ok, rejectIf_eq_ok, pure_eq_ok,
    Except.ok.injEq, Prod.mk.injEq, Bool.not_eq_false, List.isEmpty_iff] at extracted
  obtain ⟨signedData, unwrapped, _, unsigned, _, _, _, type⟩ := extracted
  exact .noSigners unwrapped unsigned type

theorem extractBareContent_sound {der content : Bytes} {contentType : Oid}
    (extracted : extractBareContent platform der = .ok (content, contentType)) :
    IsUnsigned platform der contentType := by
  simp only [extractBareContent, bind_eq_ok, mapError_eq_ok, pure_eq_ok, Except.ok.injEq,
    Prod.mk.injEq] at extracted
  obtain ⟨ci, parsed, inner, entered, octets, decoded, _, type⟩ := extracted
  exact .bare parsed entered decoded type

theorem unsignedContent_sound {der content : Bytes} {contentType : Oid}
    (extracted : unsignedContent platform der = some (content, contentType)) :
    IsUnsigned platform der contentType := by
  unfold unsignedContent at extracted
  split at extracted
  · next unsigned =>
      cases extracted
      exact extractUnsignedContent_sound unsigned
  · cases bare : extractBareContent platform der with
    | error e => simp [bare, Except.toOption] at extracted
    | ok pair =>
        simp only [bare, Except.toOption, Option.some.injEq] at extracted
        subst extracted
        exact extractBareContent_sound bare

/-- Unsigned content of the request's type has no signer in any reading: a
`SignedData` around signers has another outer type. -/
theorem IsUnsigned.no_signers {der : Bytes} {signedData : SignedData}
    (unsigned : IsUnsigned platform der ID_PKINIT_AUTH_DATA)
    (unwrapped : unwrapSignedData platform der = .ok signedData) :
    signedData.signerInfos = [] := by
  cases unsigned with
  | noSigners unwrapped' none _ =>
      obtain rfl := Except.ok.inj (unwrapped.symm.trans unwrapped')
      exact none
  | bare parsed _ _ type =>
      simp only [unwrapSignedData, bind_eq_ok, mapError_eq_ok, newOid_eq_ok, rejectIf_eq_ok,
        not_not] at unwrapped
      obtain ⟨ci, parsed', _, ⟨_, rfl⟩, _, outer, _⟩ := unwrapped
      obtain rfl := Except.ok.inj (parsed.symm.trans parsed')
      exact absurd (outer.symm.trans type) (by decide)

/-- A signed request the KDC trusts: its signature, its certificate's chain
and, where demanded, the certificate's purpose. -/
structure SignedRequest (platform : Platform) (instant : Instant) (trustStore : TrustStore)
    (config : PkinitKdcConfig) (der : Bytes) (v : VerifiedSignedData) : Prop where
  signature : ∃ signedData signerInfo, unwrapSignedData platform der = .ok signedData ∧
    SignatureBinding platform signedData signerInfo v
  contentType : v.contentType = ID_PKINIT_AUTH_DATA
  chain : trustStore.validateChain platform instant v.signerCertDer v.allCertsDer
    config.requireCrlChecking = .ok ()
  eku : config.requireEku = true →
    verifyClientEku platform v.signerCertDer config.acceptSecondaryEku = .ok .authorized

/-- **An `AuthPack` is opened as anonymous only from unsigned content, and as a
client's only under that client's trusted certificate.** -/
theorem openAuthPack_sound {instant : Instant} {state : PkinitKdcState} {der content cert : Bytes}
    {isAnonymous : Bool}
    (opened : state.openAuthPack platform instant der = .ok (content, cert, isAnonymous)) :
    (isAnonymous = true ∧ IsUnsigned platform der ID_PKINIT_AUTH_DATA) ∨
      (isAnonymous = false ∧ ∃ v, cert = v.signerCertDer ∧
        SignedRequest platform instant state.trustStore state.config der v) := by
  unfold PkinitKdcState.openAuthPack at opened
  split at opened
  · next content' ct unsigned =>
      simp only [bind_eq_ok, rejectIf_eq_ok, not_not, pure_eq_ok, Except.ok.injEq,
        Prod.mk.injEq] at opened
      obtain ⟨_, rfl, _, _, rfl⟩ := opened
      exact .inl ⟨rfl, unsignedContent_sound unsigned⟩
  · simp only [bind_eq_ok, rejectIf_eq_ok, not_not] at opened
    obtain ⟨v, verified, _, contentType, _, chain, checked⟩ := opened
    refine .inr ?_
    have signature := SignatureBinding.of_verified verified
    split at checked
    · next required =>
        simp only [bind_eq_ok, rejectIf_eq_ok, not_not, pure_eq_ok, Except.ok.injEq,
          Prod.mk.injEq] at checked
        obtain ⟨_, eku, _, rfl, _, rfl, rfl⟩ := checked
        exact ⟨rfl, v, rfl, signature, contentType, chain, fun _ => eku⟩
    · next lax =>
        simp only [pure_eq_ok, Except.ok.injEq, Prod.mk.injEq] at checked
        obtain ⟨_, rfl, rfl⟩ := checked
        exact ⟨rfl, v, rfl, signature, contentType, chain, fun required => absurd required lax⟩

/-! ## The verified request -/

/-- What the KDC reads out of a request: the `AuthPack`, the certificate it
was signed under, and whether it is anonymous. -/
structure Opens (platform : Platform) (instant : Instant) (state : PkinitKdcState)
    (paReqDer : Bytes) (authPack : AuthPack) (clientCertDer : Bytes) (isAnonymous : Bool) :
    Prop where
  opened : ∃ paReq authPackDer,
    platform.synta.paPkAsReq.fromDer paReqDer = .ok paReq ∧
    state.openAuthPack platform instant paReq.signedAuthPack =
      .ok (authPackDer, clientCertDer, isAnonymous) ∧
    platform.synta.authPack.fromDer authPackDer = .ok authPack

/-- The checks the core makes on an opened request, with what it returns. -/
structure Passes (platform : Platform) (state : PkinitKdcState) (reqBodyDer : Option Bytes)
    (maxSkew currentTime : Int) (authPack : AuthPack) (clientCertDer : Bytes)
    (isAnonymous : Bool) (verified : VerifiedRequest) : Prop where
  skew : ((authPack.pkAuthenticator.ctime.unix - currentTime).natAbs : Int) ≤ maxSkew
  fresh : state.config.requireFreshness = true → authPack.pkAuthenticator.freshnessToken ≠ none
  body : checkRequestBody platform reqBodyDer authPack.pkAuthenticator = .ok ()
  publicValue : ∃ value, authPack.clientPublicValue = some value ∧
    platform.synta.element.toDer value = .ok verified.clientDhPublic
  keyExchange : state.selectKeyExchange platform verified.clientDhPublic authPack.clientDhNonce =
    .ok verified.keyExchange
  nonce : decodeNonce platform.synta authPack.pkAuthenticator.nonce = .ok verified.nonce
  cert : verified.clientCertDer = clientCertDer
  kdfs : verified.supportedKdfs = (authPack.supportedKdfs.getD []).map KdfAlgorithmId.kdfId
  dhNonce : verified.clientDhNonce = authPack.clientDhNonce
  anonymous : verified.isAnonymous = isAnonymous

/-- **The core verifies exactly the requests that open and pass its checks.** -/
theorem verifyAsReq_eq_ok {instant : Instant} {state : PkinitKdcState} {paReqDer : Bytes}
    {reqBodyDer : Option Bytes} {maxSkew currentTime : Int} {verified : VerifiedRequest} :
    state.verifyAsReq platform instant paReqDer reqBodyDer maxSkew currentTime = .ok verified ↔
      ∃ authPack clientCertDer isAnonymous,
        Opens platform instant state paReqDer authPack clientCertDer isAnonymous ∧
        Passes platform state reqBodyDer maxSkew currentTime authPack clientCertDer isAnonymous
          verified := by
  simp only [PkinitKdcState.verifyAsReq, bind_eq_ok, mapError_eq_ok, rejectIf_eq_ok, okOr_eq_ok,
    pure_eq_ok, Except.ok.injEq, Prod.exists, not_lt, not_and]
  constructor
  · rintro ⟨paReq, parsed, authPackDer, cert, anonymous, opened, authPack, decoded, _, skew, _,
      fresh, _, body, value, present, spki, encoded, keyExchange, selected, nonce, read, rfl⟩
    exact ⟨authPack, cert, anonymous, ⟨paReq, authPackDer, parsed, opened, decoded⟩,
      ⟨skew, fresh, body, ⟨value, present, encoded⟩, selected, read, rfl, rfl, rfl, rfl⟩⟩
  · rintro ⟨authPack, cert, anonymous, ⟨paReq, authPackDer, parsed, opened, decoded⟩, passes⟩
    obtain ⟨value, present, encoded⟩ := passes.publicValue
    refine ⟨paReq, parsed, authPackDer, cert, anonymous, opened, authPack, decoded, (),
      passes.skew, (), passes.fresh, (), passes.body, value, present, _, encoded, _,
      passes.keyExchange, _, passes.nonce, ?_⟩
    rw [← passes.cert, ← passes.kdfs, ← passes.dhNonce, ← passes.anonymous]

end Kurbu5Pkinit

import Mathlib.Data.List.Sort
import Kurbu5Pkinit.Certauth
import Kurbu5Pkinit.Config
import Kurbu5Pkinit.Crypto.Checksum
import Kurbu5Pkinit.Crypto.Cms
import Kurbu5Pkinit.Crypto.Dh
import Kurbu5Pkinit.Crypto.Kdf
import Kurbu5Pkinit.Crypto.Kem
import Kurbu5Pkinit.Identity

/-!
# The KDC's half of the exchange

Verifying a request and answering it. A request is signed or, recognised by
its shape alone, unsigned; its key is a KEM key or a group member, told apart
by the algorithm of the public key. The answer follows the key exchange of the
request.
-/

set_option autoImplicit false

namespace Kurbu5Pkinit

open Library

structure VerifiedRequest where
  clientCertDer : Bytes
  clientDhPublic : Bytes
  nonce : Int32
  supportedKdfs : List Oid
  clientDhNonce : Option Bytes
  isAnonymous : Bool
  keyExchange : KeyExchangeType
  deriving DecidableEq, Repr

structure BuildAsRepParams where
  nonce : Int32
  enctype : Int32
  asReqDer : Bytes
  clientName : String
  serverName : String
  deriving DecidableEq, Repr

structure PkinitKdcState where
  identity : PkinitIdentity
  trustStore : TrustStore
  config : PkinitKdcConfig
  supportedAlgorithmsHint : Option Bytes
  tdEphemeralKeyParams : Bytes
  deriving DecidableEq, Repr

/-! ## What the KDC advertises -/

def groupAlgorithmIdentifier (platform : Platform) (group : DhGroup) :
    Except PkinitError AlgorithmIdentifier := do
  let (algorithm, parameters) ← groupAlgorithmOidAndParams platform group
  let algorithm ← (platform.synta.newOid algorithm).mapError (asn1Err "algorithm OID")
  return ⟨algorithm, parameters⟩

def kemAlgorithmIdentifier (platform : Platform) (alg : KemAlgorithm) :
    Except PkinitError AlgorithmIdentifier := do
  let algorithm ← (platform.synta.newOid alg.oid).mapError (asn1Err "KEM OID")
  return ⟨algorithm, none⟩

/-- Every acceptable algorithm, best first: the pure KEMs by strength, the
composite ones, then the groups at or above the minimum. -/
def acceptableKeyEstablishmentAlgIds (platform : Platform) (config : PkinitKdcConfig) :
    Except PkinitError (List AlgorithmIdentifier) := do
  let pureKems := config.supportedKemAlgorithms.insertionSort
    fun stronger weaker => weaker.strengthOrder ≤ stronger.strengthOrder
  let kemIds ← (pureKems ++ config.supportedCompositeKemAlgorithms).mapM
    (kemAlgorithmIdentifier platform)
  let groups := [DhGroup.ecP521, .ecP384, .ecP256, .oakley4096, .oakley2048].filter
    fun group => !config.requireKem && config.dhMinBits ≤ group.minBits
  let groupIds ← groups.mapM (groupAlgorithmIdentifier platform)
  return kemIds ++ groupIds

def buildSupportedAlgorithmsHint (platform : Platform) (config : PkinitKdcConfig) :
    Except PkinitError (Option Bytes) := do
  let algIds ← acceptableKeyEstablishmentAlgIds platform config
  if algIds.isEmpty then
    return none
  else
    some <$> encodePkinitHintAlgIds platform.synta algIds

def buildTdEphemeralKeyParams (platform : Platform) (config : PkinitKdcConfig) :
    Except PkinitError Bytes := do
  let algIds ← acceptableKeyEstablishmentAlgIds platform config
  (platform.synta.algorithmIdentifiers.toDer algIds).mapError (asn1Err "encode TD params")

/-- With `requireKem` and no KEM configured, every pure one is. -/
def PkinitKdcConfig.withImplicitKems (config : PkinitKdcConfig) : PkinitKdcConfig :=
  if config.requireKem ∧ config.supportedKemAlgorithms.isEmpty ∧
      config.supportedCompositeKemAlgorithms.isEmpty then
    { config with supportedKemAlgorithms := KemAlgorithm.mlKem512.algorithmsAtOrAbove }
  else
    config

/-! ## The client's public key -/

/-- The KEM of a public key, none for a group member; a KEM key must have no
parameters. -/
def detectSpkiAlgorithm (platform : Platform) (spkiDer : Bytes) :
    Except PkinitError (Option KemAlgorithm) := do
  let spki ← (platform.synta.subjectPublicKeyInfo.fromDer spkiDer).mapError (asn1Err "decode SPKI")
  match KemAlgorithm.fromOid spki.algorithm.algorithm with
  | none => return none
  | some kemAlg =>
      rejectIf (spki.algorithm.parameters.isSome = true)
        (.kemAlgorithmNotSupported
          s!"{kemAlg.parameterSetName} key with algorithm parameters (they must be absent)")
      return some kemAlg

def extractPubKeyBits (platform : Platform) (spkiDer : Bytes) : Except PkinitError Bytes := do
  let spki ← (platform.synta.subjectPublicKeyInfo.fromDer spkiDer).mapError (asn1Err "decode SPKI")
  return spki.subjectPublicKey.bytes

/-! ## The parts of a request -/

/-- The content of an unsigned request and its type: either shape, or none. -/
def unsignedContent (platform : Platform) (signedAuthPack : Bytes) : Option (Bytes × Oid) :=
  match extractUnsignedContent platform signedAuthPack with
  | .ok content => some content
  | .error _ => (extractBareContent platform signedAuthPack).toOption

/-- The checksums are compared when a body is given and, of the two, when they
are present. -/
def checkRequestBody (platform : Platform) (reqBodyDer : Option Bytes)
    (pkAuth : PkAuthenticator) : Except PkinitError Unit :=
  let paChecksum2Info := pkAuth.paChecksum2.map fun pc2 =>
    (pc2.checksum, pc2.algorithmIdentifier.algorithm)
  match reqBodyDer with
  | none => .ok ()
  | some body =>
      match pkAuth.paChecksum, paChecksum2Info with
      | some paChecksum, _ => verifyChecksums platform body paChecksum paChecksum2Info
      | none, some (checksum2Bytes, oid) => verifyChecksum2 platform body checksum2Bytes oid
      | none, none => .ok ()

namespace PkinitKdcState

def new (platform : Platform) (identity : PkinitIdentity) (trustStore : TrustStore)
    (config : PkinitKdcConfig) : Except PkinitError PkinitKdcState := do
  let config := config.withImplicitKems
  let supportedAlgorithmsHint ← Kurbu5Pkinit.buildSupportedAlgorithmsHint platform config
  let tdEphemeralKeyParams ← Kurbu5Pkinit.buildTdEphemeralKeyParams platform config
  return ⟨identity, trustStore, config, supportedAlgorithmsHint, tdEphemeralKeyParams⟩

/-- Composite KEMs are accepted when listed; pure ones when listed, or all of
them when none is. -/
def acceptsKem (state : PkinitKdcState) (alg : KemAlgorithm) : Bool :=
  if alg.isComposite then
    state.config.supportedCompositeKemAlgorithms.contains alg
  else
    state.config.supportedKemAlgorithms.isEmpty || state.config.supportedKemAlgorithms.contains alg

/-! ## Verifying a request -/

/-- The `AuthPack`, the client's certificate and whether the request is
anonymous. Unsigned content is recognised by its shape; everything else must
carry a signature that verifies, under a certificate the KDC trusts. -/
def openAuthPack (platform : Platform) (instant : Instant) (state : PkinitKdcState)
    (signedAuthPack : Bytes) : Except PkinitError (Bytes × Bytes × Bool) :=
  match unsignedContent platform signedAuthPack with
  | some (content, ct) => do
      rejectIf (ct ≠ ID_PKINIT_AUTH_DATA) (.cmsContentTypeMismatch "id-pkinit-authData" s!"{ct}")
      return (content, [], true)
  | none => do
      let v ← verifySignedData platform signedAuthPack
      rejectIf (v.contentType ≠ ID_PKINIT_AUTH_DATA)
        (.cmsContentTypeMismatch "id-pkinit-authData" s!"{v.contentType}")
      state.trustStore.validateChain platform instant v.signerCertDer v.allCertsDer
        state.config.requireCrlChecking
      if state.config.requireEku then
        let ekuResult ← verifyClientEku platform v.signerCertDer state.config.acceptSecondaryEku
        rejectIf (ekuResult ≠ .authorized) (.ekuMismatch "client EKU check failed")
      return (v.content, v.signerCertDer, false)

/-- The key exchange of a public key, when the KDC accepts it. -/
def selectKeyExchange (platform : Platform) (state : PkinitKdcState) (clientDhPublic : Bytes)
    (clientDhNonce : Option Bytes) : Except PkinitError KeyExchangeType := do
  match ← detectSpkiAlgorithm platform clientDhPublic with
  | some kemAlg =>
      rejectIf (state.acceptsKem kemAlg = false) (.kemAlgorithmNotSupported kemAlg.parameterSetName)
      rejectIf (clientDhNonce.isSome = true) .kemNonceNotAllowed
      return .kem kemAlg
  | none =>
      rejectIf (state.config.requireKem = true)
        (.dhParamsRejected "classic DH/ECDH key exchange refused: pkinit_require_kem is set")
      .dh <$> validateDhParams platform clientDhPublic state.config.dhMinBits

def verifyAsReq (platform : Platform) (instant : Instant) (state : PkinitKdcState)
    (paReqDer : Bytes) (reqBodyDer : Option Bytes) (maxSkew currentTime : Int) :
    Except PkinitError VerifiedRequest := do
  let paReq ← (platform.synta.paPkAsReq.fromDer paReqDer).mapError (asn1Err "decode PA-PK-AS-REQ")
  let (authPackDer, clientCertDer, isAnonymous) ←
    state.openAuthPack platform instant paReq.signedAuthPack
  let authPack ← (platform.synta.authPack.fromDer authPackDer).mapError (asn1Err "decode AuthPack")
  let pkAuth := authPack.pkAuthenticator
  let clientTime := pkAuth.ctime.unix
  rejectIf (maxSkew < (clientTime - currentTime).natAbs) (.clockSkew clientTime maxSkew)
  rejectIf (state.config.requireFreshness = true ∧ pkAuth.freshnessToken = none)
    (.config "freshness token required but not provided by client")
  checkRequestBody platform reqBodyDer pkAuth
  let clientPublicValue ← okOr authPack.clientPublicValue
    (.dhParamsRejected "missing client DH public value")
  let clientDhPublic ← (platform.synta.element.toDer clientPublicValue).mapError
    (asn1Err "encode client SPKI")
  let keyExchange ← state.selectKeyExchange platform clientDhPublic authPack.clientDhNonce
  let nonce ← decodeNonce platform.synta pkAuth.nonce
  return {
    clientCertDer := clientCertDer
    clientDhPublic := clientDhPublic
    nonce := nonce
    supportedKdfs := (authPack.supportedKdfs.getD []).map KdfAlgorithmId.kdfId
    clientDhNonce := authPack.clientDhNonce
    isAnonymous := isAnonymous
    keyExchange := keyExchange }

/-! ## Building the reply -/

/-- Sign a reply's content with the KDC's identity. -/
def signReply (platform : Platform) (instant : Instant) (state : PkinitKdcState)
    (content : Bytes) (contentOid : Oid) : Except PkinitError Bytes := do
  let signerKey ← okOr state.identity.signingKey
    (.identityLoadFailed "KDC identity has no signing key")
  createSignedData platform instant content contentOid signerKey state.identity.certDer
    state.identity.chain (digestForSigner platform state.identity.certDer)

def buildKemRep (platform : Platform) (o2k : OctetString2Key) (instant : Instant)
    (state : PkinitKdcState) (verified : VerifiedRequest) (params : BuildAsRepParams)
    (kemAlg : KemAlgorithm) : Except PkinitError (Bytes × DerivedKey) := do
  rejectIf (verified.supportedKdfs ≠ [] ∧ ID_ALG_HKDF_WITH_SHA512 ∉ verified.supportedKdfs)
    .noAcceptableKdf
  let (kemct, sharedSecret) ← encapsulateForClient platform instant verified.clientDhPublic kemAlg
  let kemOid ← (platform.synta.newOid kemAlg.oid).mapError (asn1Err "KEM OID")
  let kdfOid ← (platform.synta.newOid ID_ALG_HKDF_WITH_SHA512).mapError (asn1Err "KDF OID")
  let kdcKemInfoDer ← (platform.synta.kdcKemInfo.toDer {
    kemAlgorithm := { algorithm := kemOid }
    kemct := kemct
    kdfAlgorithm := { algorithm := kdfOid }
    nonce := some (encodeNonce params.nonce)
    serverNonce := none }).mapError (asn1Err "encode KDCKEMInfo")
  let kemSignedData ← state.signReply platform instant kdcKemInfoDer ID_PKINIT_KEM_KEY_DATA
  let paRepDer ← encodeKemRepWrapper platform.synta ⟨kemSignedData⟩
  let derivedKey ← pkinitKemKdf platform o2k {
    sharedSecret := sharedSecret
    enctype := params.enctype
    asReqDer := params.asReqDer
    kemSignedData := kemSignedData }
  return (paRepDer, derivedKey)

/-- The reply key of the DH path on the KDC's side. -/
def deriveDhRepKey (platform : Platform) (o2k : OctetString2Key) (params : BuildAsRepParams)
    (selectedKdf : Option Oid) (clientDhNonce : Option Bytes)
    (sharedSecret serverDhNonce paRepDer : Bytes) : Except PkinitError DerivedKey :=
  match selectedKdf with
  | some kdfOid => do
      let partyU ← encodePrincipalForKdf platform params.clientName
      let partyV ← encodePrincipalForKdf platform params.serverName
      pkinitKdf platform o2k {
        sharedSecret := sharedSecret
        kdfOid := kdfOid
        enctype := params.enctype
        partyUInfo := partyU
        partyVInfo := partyV
        asReqDer := params.asReqDer
        paPkAsRepDer := paRepDer }
  | none =>
      let combinedNonce := clientDhNonce.getD [] ++ serverDhNonce
      octetstring2key o2k (sharedSecret ++ combinedNonce) params.enctype

def buildDhRep (platform : Platform) (o2k : OctetString2Key) (instant : Instant)
    (state : PkinitKdcState) (verified : VerifiedRequest) (params : BuildAsRepParams)
    (dhGroup : DhGroup) : Except PkinitError (Bytes × DerivedKey) := do
  let kdcDhKey ← DhKeyPair.generate platform instant dhGroup
  let kdcSpkiDer ← kdcDhKey.publicKeySpkiDer platform
  let sharedSecret ← kdcDhKey.deriveSharedSecret platform verified.clientDhPublic
  let kdcPubBits ← extractPubKeyBits platform kdcSpkiDer
  let subjectPublicKey ← (platform.synta.newBitString kdcPubBits 0).mapError
    (asn1Err "BitStringRef")
  let kdcDhKeyInfoDer ← (platform.synta.kdcDhKeyInfo.toDer {
    subjectPublicKey := subjectPublicKey
    nonce := encodeNonce params.nonce }).mapError (asn1Err "encode KDCDHKeyInfo")
  let signedKdcDh ← state.signReply platform instant kdcDhKeyInfoDer ID_PKINIT_DHKEY_DATA
  let serverDhNonce ← (platform.crypto.randomBytes instant 32).mapError
    fun e => .ossl s!"random bytes: {e}"
  let selectedKdf := pickKdfAlg verified.supportedKdfs
  -- `ObjectIdentifier::new(oid).unwrap()`
  let kdfAlgId ← selectedKdf.mapM fun oid =>
    KdfAlgorithmId.mk <$> (platform.synta.newOid oid).mapError PkinitError.panicked
  let paRepDer ← (platform.synta.paPkAsRep.toDer (.dhInfo {
    dhSignedData := signedKdcDh
    serverDhNonce := some serverDhNonce
    kdf := kdfAlgId })).mapError (asn1Err "encode PA-PK-AS-REP")
  let derivedKey ← deriveDhRepKey platform o2k params selectedKdf verified.clientDhNonce
    sharedSecret serverDhNonce paRepDer
  return (paRepDer, derivedKey)

def buildAsRep (platform : Platform) (o2k : OctetString2Key) (instant : Instant)
    (state : PkinitKdcState) (verified : VerifiedRequest) (params : BuildAsRepParams) :
    Except PkinitError (Bytes × DerivedKey) :=
  match verified.keyExchange with
  | .dh dhGroup => state.buildDhRep platform o2k instant verified params dhGroup
  | .kem kemAlg => state.buildKemRep platform o2k instant verified params kemAlg

end PkinitKdcState

end Kurbu5Pkinit

import Kurbu5Pkinit.Client.State
import Kurbu5Pkinit.Crypto.Checksum
import Kurbu5Pkinit.Crypto.Kdf

/-!
# The client's half of the exchange

Building a request with the key exchange currently selected, and processing
the reply. Building writes the keys it generates into the state as it goes, so
a request that fails late leaves them behind. Processing a KEM reply takes the
key pair out of the state first, so every outcome drops it; processing a DH
reply reads the state only.
-/

set_option autoImplicit false

namespace Kurbu5Pkinit

open Library

structure AsRepParams where
  nonce : Int32
  enctype : Int32
  asReqDer : Bytes
  paRepRaw : Bytes
  clientName : String
  serverName : String
  deriving DecidableEq, Repr

/-! ## Building a request -/

def buildPkAuthenticator (platform : Platform) (freshnessToken : Option Bytes) (nonce : Int32)
    (ctime : Int) (cusec : Int32) (reqBodyDer : Bytes) : Except PkinitError PkAuthenticator := do
  let checksums ← generateChecksums platform reqBodyDer
  let genTime ← okOr (platform.synta.generalizedTimeFromUnix ctime) (.asn1 "invalid ctime")
  let sha256 ← (platform.synta.newOid ID_SHA256).mapError (asn1Err "SHA-256 OID")
  return {
    cusec := cusec.toInt
    ctime := genTime
    nonce := encodeNonce nonce
    paChecksum := some checksums.sha1
    freshnessToken := freshnessToken
    paChecksum2 := some ⟨checksums.sha256, { algorithm := sha256 }⟩ }

def newKdfAlgorithmId (platform : Platform) (oid : Oid) : Except PkinitError KdfAlgorithmId :=
  KdfAlgorithmId.mk <$> (platform.synta.newOid oid).mapError (asn1Err "KDF OID")

/-- The functions the client offers: the KEM path's one, or the DH path's
three. -/
def offeredKdfs (platform : Platform) (useKem : Bool) : Except PkinitError (List KdfAlgorithmId) :=
  (if useKem then
    [ID_ALG_HKDF_WITH_SHA512]
  else
    [ID_PKINIT_KDF_AH_SHA256, ID_PKINIT_KDF_AH_SHA512, ID_PKINIT_KDF_AH_SHA1]).mapM
    (newKdfAlgorithmId platform)

/-- Sign the `AuthPack`, or wrap it unsigned when there is no certificate. -/
def signAuthPack (platform : Platform) (instant : Instant) (identity : PkinitIdentity)
    (authPackDer : Bytes) : Except PkinitError Bytes :=
  if identity.certDer.isEmpty then
    createUnsignedData platform authPackDer ID_PKINIT_AUTH_DATA
  else do
    let signerKey ← okOr identity.signingKey
      (.identityLoadFailed "client identity has a certificate but no signing key")
    createSignedData platform instant authPackDer ID_PKINIT_AUTH_DATA signerKey identity.certDer
      identity.chain (digestForSigner platform identity.certDer)

/-- The KDC's public key from its bare bits, in the group of the client's key. -/
def rebuildSpki (platform : Platform) (group : DhGroup) (pubKeyBits : Bytes) :
    Except PkinitError Bytes := do
  let (algorithm, parameters) ← groupAlgorithmOidAndParams platform group
  let algorithm ← (platform.synta.newOid algorithm).mapError (asn1Err "algorithm OID")
  let subjectPublicKey ← (platform.synta.newBitString pubKeyBits 0).mapError (asn1Err "BitString")
  (platform.synta.subjectPublicKeyInfo.toDer ⟨⟨algorithm, parameters⟩, subjectPublicKey⟩).mapError
    (asn1Err "encode SPKI")

namespace PkinitClientState

/-- The public key of the request. A KEM key pair is fresh for every request;
a DH key pair is generated when the state holds none. -/
def chooseEphemeralKey (platform : Platform) (instant : Instant) :
    EStateM PkinitError PkinitClientState Bytes := do
  let state ← get
  match state.config.kemAlgorithm with
  | some kemAlg =>
      modify fun s => { s with keyExchange := some (.kem kemAlg) }
      let kemKey ← lift (KemKeyPair.generate platform instant kemAlg)
      modify fun s => { s with kemKey := some kemKey }
      lift (kemKey.publicKeySpkiDer platform)
  | none =>
      modify fun s => { s with keyExchange := some (.dh state.config.dhGroup) }
      match state.dhKey with
      | some dhKey => lift (dhKey.publicKeySpkiDer platform)
      | none =>
          let dhKey ← lift (DhKeyPair.generate platform instant state.config.dhGroup)
          modify fun s => { s with dhKey := some dhKey }
          lift (dhKey.publicKeySpkiDer platform)

/-- The client's DH nonce, which a KEM request does not have. -/
def drawDhNonce (platform : Platform) (instant : Instant) (useKem : Bool) :
    EStateM PkinitError PkinitClientState (Option Bytes) :=
  if useKem then
    return none
  else do
    let nonce ← lift ((platform.crypto.randomBytes instant 32).mapError
      fun e => PkinitError.ossl s!"random bytes: {e}")
    modify fun s => { s with dhNonce := some nonce }
    return some nonce

/-- The request around a public key. -/
def encodeRequest (platform : Platform) (instant : Instant) (state : PkinitClientState)
    (pkAuth : PkAuthenticator) (clientSpkiElement : Element) (dhNonce : Option Bytes)
    (useKem : Bool) : Except PkinitError Bytes := do
  let supportedKdfs ← offeredKdfs platform useKem
  let authPackDer ← (platform.synta.authPack.toDer {
    pkAuthenticator := pkAuth
    clientPublicValue := some clientSpkiElement
    supportedCmsTypes := none
    clientDhNonce := dhNonce
    supportedKdfs := some supportedKdfs }).mapError (asn1Err "encode AuthPack")
  let signedAuthPack ← signAuthPack platform instant state.identity authPackDer
  (platform.synta.paPkAsReq.toDer { signedAuthPack := signedAuthPack }).mapError
    (asn1Err "encode PA-PK-AS-REQ")

/-- The second half of `build_as_req`: the key of the selected exchange, the
nonce that goes with it, and the request around both. -/
def requestWithKey (platform : Platform) (instant : Instant) (state : PkinitClientState)
    (pkAuth : PkAuthenticator) : EStateM PkinitError PkinitClientState Bytes := do
  let useKem := state.config.kemAlgorithm.isSome
  let clientSpkiDer ← chooseEphemeralKey platform instant
  let clientSpkiElement ← lift ((platform.synta.element.fromDer clientSpkiDer).mapError
    (asn1Err "decode SPKI element"))
  let dhNonce ← drawDhNonce platform instant useKem
  lift (encodeRequest platform instant state pkAuth clientSpkiElement dhNonce useKem)

def buildAsReq (platform : Platform) (instant : Instant) (nonce : Int32) (ctime : Int)
    (cusec : Int32) (reqBodyDer : Bytes) : EStateM PkinitError PkinitClientState Bytes := do
  let state ← get
  let pkAuth ← lift (buildPkAuthenticator platform state.freshnessToken nonce ctime cusec
    reqBodyDer)
  lift (rejectIf (state.config.requireKem = true ∧ state.config.kemAlgorithm = none)
    (.downgradeRejected "classic DH/ECDH key exchange refused: pkinit_require_kem is set"))
  requestWithKey platform instant state pkAuth

/-! ## Processing a reply -/

/-- The reply key of the DH path on the client's side. -/
def deriveDhKey (platform : Platform) (o2k : OctetString2Key) (state : PkinitClientState)
    (params : AsRepParams) (dhRepInfo : DhRepInfo) (sharedSecret : Bytes) :
    Except PkinitError DerivedKey :=
  match dhRepInfo.kdf with
  | some kdf => do
      let partyU ← encodePrincipalForKdf platform params.clientName
      let partyV ← encodePrincipalForKdf platform params.serverName
      pkinitKdf platform o2k {
        sharedSecret := sharedSecret
        kdfOid := kdf.kdfId
        enctype := params.enctype
        partyUInfo := partyU
        partyVInfo := partyV
        asReqDer := params.asReqDer
        paPkAsRepDer := params.paRepRaw }
  | none =>
      let combinedNonce := state.dhNonce.getD [] ++ dhRepInfo.serverDhNonce.getD []
      octetstring2key o2k (sharedSecret ++ combinedNonce) params.enctype

def processDhRep (platform : Platform) (o2k : OctetString2Key) (instant : Instant)
    (state : PkinitClientState) (dhRepInfo : DhRepInfo) (params : AsRepParams) :
    Except PkinitError DerivedKey := do
  let verified ← verifySignedData platform dhRepInfo.dhSignedData
  rejectIf (verified.contentType ≠ ID_PKINIT_DHKEY_DATA)
    (.cmsContentTypeMismatch "id-pkinit-DHKeyData" s!"{verified.contentType}")
  state.validateKdcChain platform instant verified.signerCertDer verified.allCertsDer
  let kdcDhKeyInfo ← (platform.synta.kdcDhKeyInfo.fromDer verified.content).mapError
    (asn1Err "decode KDCDHKeyInfo")
  let replyNonce ← decodeNonce platform.synta kdcDhKeyInfo.nonce
  rejectIf (replyNonce ≠ params.nonce) (.nonceMismatch params.nonce replyNonce)
  let dhKey ← okOr state.dhKey (.dhAgreementFailed "no DH key generated")
  let kdcSpkiDer ← rebuildSpki platform dhKey.group kdcDhKeyInfo.subjectPublicKey.bytes
  let sharedSecret ← dhKey.deriveSharedSecret platform kdcSpkiDer
  state.deriveDhKey platform o2k params dhRepInfo sharedSecret

/-- The checks on the signed `KDCKEMInfo`, for the algorithm of the key pair. -/
def checkKdcKemInfo (platform : Platform) (kemAlg : KemAlgorithm) (nonce : Int32)
    (info : KdcKemInfo) : Except PkinitError Unit := do
  rejectIf (info.serverNonce.isSome = true)
    (.kemDecapFailed "serverNonce must be absent for pure ML-KEM")
  let replyNonce ← okOr info.nonce (.asn1 "KDC omitted required nonce in KDCKEMInfo")
  let n ← decodeNonce platform.synta replyNonce
  rejectIf (n ≠ nonce) (.nonceMismatch nonce n)
  rejectIf (info.kemAlgorithm.algorithm ≠ kemAlg.oid)
    (.kemAlgorithmMismatch s!"{kemAlg.oid}" s!"{info.kemAlgorithm.algorithm}")
  rejectIf (info.kemAlgorithm.parameters.isSome = true)
    (.asn1 "KDCKEMInfo.kemAlgorithm parameters must be absent")
  let presence := if info.kdfAlgorithm.parameters.isSome then "present" else "absent"
  rejectIf (info.kdfAlgorithm.algorithm ≠ ID_ALG_HKDF_WITH_SHA512 ∨
      info.kdfAlgorithm.parameters.isSome = true)
    (.kdfNotOffered s!"{info.kdfAlgorithm.algorithm.dotted} (parameters {presence})")
  rejectIf (info.kemct.length ≠ kemAlg.ciphertextLen)
    (.kemCiphertextLengthInvalid kemAlg.ciphertextLen info.kemct.length)

/-- The rest of `process_kem_rep`, with the key pair taken out of the state. -/
def openKemRep (platform : Platform) (o2k : OctetString2Key) (instant : Instant)
    (state : PkinitClientState) (kemKey : KemKeyPair) (paRepDer : Bytes) (params : AsRepParams) :
    Except PkinitError DerivedKey := do
  let kemRepContent ← decodeKemRepContent platform.usizeBits paRepDer
  let kemRepInfo ← (platform.synta.kemRepInfo.fromDer kemRepContent).mapError
    (asn1Err "decode KEMRepInfo")
  let verified ← verifySignedData platform kemRepInfo.kemSignedData
  rejectIf (verified.contentType ≠ ID_PKINIT_KEM_KEY_DATA)
    (.cmsContentTypeMismatch "id-pkinit-KEMKeyData" s!"{verified.contentType}")
  rejectIf (state.hasPqCertificate platform = true ∧
      isPqSignatureAlgorithm platform verified.signerAlgorithmOid = false)
    (.downgradeRejected "KDC must use quantum-resistant signature with PQ client")
  state.validateKdcChain platform instant verified.signerCertDer verified.allCertsDer
  let kdcKemInfo ← (platform.synta.kdcKemInfo.fromDer verified.content).mapError
    (asn1Err "decode KDCKEMInfo")
  checkKdcKemInfo platform kemKey.algorithm params.nonce kdcKemInfo
  let sharedSecret ← kemKey.decapsulate platform kdcKemInfo.kemct
  pkinitKemKdf platform o2k {
    sharedSecret := sharedSecret
    enctype := params.enctype
    asReqDer := params.asReqDer
    kemSignedData := kemRepInfo.kemSignedData }

def processKemRep (platform : Platform) (o2k : OctetString2Key) (instant : Instant)
    (paRepDer : Bytes) (params : AsRepParams) :
    EStateM PkinitError PkinitClientState DerivedKey := do
  let state ← get
  -- The key pair leaves the state before anything can fail.
  set { state with kemKey := none }
  let kemKey ← lift (okOr state.kemKey
    (PkinitError.kemDecapFailed "no KEM key generated for this exchange"))
  lift (openKemRep platform o2k instant { state with kemKey := none } kemKey paRepDer params)

def processAsRep (platform : Platform) (o2k : OctetString2Key) (instant : Instant)
    (paRepDer : Bytes) (params : AsRepParams) :
    EStateM PkinitError PkinitClientState DerivedKey :=
  if isKemRep paRepDer then
    processKemRep platform o2k instant paRepDer params
  else do
    let state ← get
    let paRep ← lift ((platform.synta.paPkAsRep.fromDer paRepDer).mapError
      (asn1Err "decode PA-PK-AS-REP"))
    match paRep with
    | .dhInfo dhRepInfo => lift (state.processDhRep platform o2k instant dhRepInfo params)
    | .encKeyPack _ => throw (.unsupported "RSA key transport mode not supported")

end PkinitClientState

end Kurbu5Pkinit

import Kurbu5Pkinit.KemTypes

/-!
# CMS envelopes

Signing, verifying and opening the CMS objects both sides exchange: a
`ContentInfo` around a `SignedData` with one signer, around a `SignedData`
with none (an anonymous request), or around a bare `OCTET STRING`.

The signature covers the signed attributes, re-tagged from the `[0] IMPLICIT`
they travel under to the `SET OF` they are digested as. The attributes in turn
carry the digest of the content and the content's type.
-/

set_option autoImplicit false

namespace Kurbu5Pkinit

open Library

def cmsVerifyErr (context failure : String) : PkinitError :=
  .cmsVerifyFailed (context ++ ": " ++ failure)

def cmsSignErr (context failure : String) : PkinitError :=
  .cmsSignFailed (context ++ ": " ++ failure)

structure VerifiedSignedData where
  content : Bytes
  contentType : Oid
  signerCertDer : Bytes
  allCertsDer : List Bytes
  signerAlgorithmOid : Oid
  deriving DecidableEq, Repr

/-! ## Post-quantum signers -/

/-- ML-DSA and composite ML-DSA; one identifier names the key and the
signature. -/
def isPqSignatureAlgorithm (platform : Platform) (oid : Oid) : Bool :=
  oid = ID_ML_DSA_44 || oid = ID_ML_DSA_65 || oid = ID_ML_DSA_87 ||
    platform.crypto.isCompositeMlDsa oid

/-- Whether a certificate's own key makes post-quantum signatures. -/
def isPqSigningCertificate (platform : Platform) (certDer : Bytes) : Bool :=
  match platform.synta.certificate.fromDer certDer with
  | .error _ => false
  | .ok cert =>
      isPqSignatureAlgorithm platform cert.tbsCertificate.subjectPublicKeyInfo.algorithm.algorithm

/-- The digest of a signer's attributes: SHA-512 for post-quantum keys,
SHA-256 for classical ones. -/
def digestForSigner (platform : Platform) (signerCertDer : Bytes) : String :=
  if isPqSigningCertificate platform signerCertDer then "sha512" else "sha256"

/-! ## Signing -/

def issuerAndSerialDer (platform : Platform) (certDer : Bytes) : Except String Bytes := do
  let cert ← (platform.synta.certificate.fromDer certDer).mapError
    fun e => s!"parse certificate: {e}"
  let issuerName ← (platform.synta.name.fromDer cert.tbsCertificate.issuer).mapError
    fun e => s!"parse issuer Name: {e}"
  (platform.synta.issuerAndSerialNumber.toDer
    { issuer := issuerName, serialNumber := cert.tbsCertificate.serialNumber }).mapError
    fun e => s!"encode IssuerAndSerialNumber: {e}"

/-- The attributes to sign, as the `SET OF` that is signed and as the bytes
inside it. -/
def buildSignedAttrs (platform : Platform) (contentOid : Oid) (digest : Bytes) :
    Except String (Bytes × Bytes) := do
  let idCt ← (platform.synta.newOid PKCS9_CONTENT_TYPE).mapError
    fun _ => "invalid id-contentType OID"
  let idMd ← (platform.synta.newOid PKCS9_MESSAGE_DIGEST).mapError
    fun _ => "invalid id-messageDigest OID"
  let ctVals ← (platform.synta.setOfOids [contentOid]).mapError
    fun e => s!"encode contentType attrValues: {e}"
  let ctAttrDer ← (platform.synta.cmsAttribute.toDer ⟨idCt, ctVals⟩).mapError
    fun e => s!"encode contentType Attribute: {e}"
  let mdVals ← (platform.synta.setOfOctetStrings [digest]).mapError
    fun e => s!"encode messageDigest attrValues: {e}"
  let mdAttrDer ← (platform.synta.cmsAttribute.toDer ⟨idMd, mdVals⟩).mapError
    fun e => s!"encode messageDigest Attribute: {e}"
  let toSign ← (platform.synta.setOfRaw [ctAttrDer, mdAttrDer]).mapError
    fun e => s!"encode signedAttrs SET: {e}"
  let signedAttrsContent ← (platform.synta.enterSet toSign).mapError
    fun e => s!"strip SET outer tag: {e}"
  return (toSign, signedAttrsContent)

/-- Wrap an encoded `SignedData` in a `ContentInfo`. -/
def wrapSignedData (platform : Platform) (signedData : SignedData) :
    Except PkinitError Bytes := do
  let sdDer ← (platform.synta.signedData.toDer signedData).mapError
    (cmsSignErr "encode SignedData")
  let explicit0 ← (platform.synta.explicitTag 0 sdDer).mapError
    (cmsSignErr "encode [0] EXPLICIT")
  let idSignedData ← (platform.synta.newOid ID_SIGNED_DATA).mapError
    fun _ => .cmsSignFailed "invalid id-signedData OID"
  (platform.synta.contentInfo.toDer ⟨idSignedData, explicit0⟩).mapError
    (cmsSignErr "encode ContentInfo")

def createSignedData (platform : Platform) (instant : Instant) (content : Bytes)
    (contentOid : Oid) (signerKey : PrivateKey) (signerCertDer : Bytes)
    (extraCerts : List Bytes) (hashAlgorithm : String) : Except PkinitError Bytes := do
  let eContentType ← (platform.synta.newOid contentOid).mapError (cmsSignErr "eContentType OID")
  let digestAlg ← okOr (platform.crypto.digestAlgId hashAlgorithm)
    (.cmsSignFailed s!"unsupported hash: {hashAlgorithm}")
  let digestBytes ← (platform.crypto.hashData hashAlgorithm content).mapError (cmsSignErr "hash")
  let (toSign, signedAttrsContent) ← (buildSignedAttrs platform eContentType digestBytes).mapError
    (cmsSignErr "signed attrs")
  let sigAlgBytes ← (platform.crypto.signatureAlgorithmDer signerKey hashAlgorithm).mapError
    (cmsSignErr "sig alg")
  let signature ← (platform.crypto.signTbs instant signerKey hashAlgorithm toSign).mapError
    (cmsSignErr "sign")
  let iasDer ← (issuerAndSerialDer platform signerCertDer).mapError (cmsSignErr "signer cert")
  let sigAlg ← (platform.synta.algorithmIdentifier.fromDer sigAlgBytes).mapError
    (cmsSignErr "decode sig alg")
  let signerInfo : SignerInfo := {
    version := 1
    sid := iasDer
    digestAlgorithm := digestAlg
    signedAttrs := some signedAttrsContent
    signatureAlgorithm := sigAlg
    signature := signature }
  let certsContent := (signerCertDer :: extraCerts).flatten
  wrapSignedData platform {
    version := 3
    digestAlgorithms := [digestAlg]
    encapContentInfo := ⟨eContentType, some content⟩
    certificates := if certsContent.isEmpty then none else some certsContent
    signerInfos := [signerInfo] }

/-- An anonymous envelope: a `SignedData` without signers. -/
def createUnsignedData (platform : Platform) (content : Bytes) (contentOid : Oid) :
    Except PkinitError Bytes := do
  let eContentType ← (platform.synta.newOid contentOid).mapError (cmsSignErr "eContentType OID")
  wrapSignedData platform {
    version := 3
    digestAlgorithms := []
    encapContentInfo := ⟨eContentType, some content⟩
    certificates := none
    signerInfos := [] }

/-! ## Verifying -/

/-- The steps every reader of a `SignedData` starts with. -/
def unwrapSignedData (platform : Platform) (contentInfoDer : Bytes) :
    Except PkinitError SignedData := do
  let ci ← (platform.synta.contentInfo.fromDer contentInfoDer).mapError
    (cmsVerifyErr "parse ContentInfo")
  let expectedOid ← (platform.synta.newOid ID_SIGNED_DATA).mapError
    fun _ => .cmsVerifyFailed "invalid id-signedData OID"
  rejectIf (ci.contentType ≠ expectedOid)
    (.cmsContentTypeMismatch "id-signedData" ci.contentType.dotted)
  let sdBytes ← (platform.synta.enterExplicit 0 ci.content).mapError
    (cmsVerifyErr "unwrap [0] EXPLICIT")
  (platform.synta.signedData.fromDer sdBytes).mapError (cmsVerifyErr "parse SignedData")

/-- The certificates of the concatenated field. -/
def extractCertificates (platform : Platform) (certsRaw : Bytes) :
    Except PkinitError (List Bytes) :=
  platform.synta.rawDer.drain (cmsVerifyErr "parse cert in SET") certsRaw

/-- The certificates a `SignedData` presents. -/
def presentedCertificates (platform : Platform) (signedData : SignedData) :
    Except PkinitError (List Bytes) :=
  match signedData.certificates with
  | some certsRaw => extractCertificates platform certsRaw
  | none => .ok []

/-- The search of `find_signer_cert`: the first certificate with this issuer
and serial number. -/
def searchSignerCert (platform : Platform) (iasIssuerDer : Bytes) (serialNumber : Int) :
    List Bytes → Except PkinitError Bytes
  | [] => .error (.cmsVerifyFailed "signer certificate not found in SignedData")
  | certDer :: rest => do
      let cert ← (platform.synta.certificate.fromDer certDer).mapError (cmsVerifyErr "parse cert")
      if cert.tbsCertificate.serialNumber = serialNumber ∧
          cert.tbsCertificate.issuer = iasIssuerDer then
        return certDer
      else
        searchSignerCert platform iasIssuerDer serialNumber rest

def findSignerCert (platform : Platform) (certs : List Bytes) (ias : IssuerAndSerialNumber) :
    Except PkinitError Bytes := do
  let iasIssuerDer ← (platform.synta.name.toDer ias.issuer).mapError
    (cmsVerifyErr "encode IAS issuer")
  searchSignerCert platform iasIssuerDer ias.serialNumber certs

def digestAlgToName (platform : Platform) (alg : AlgorithmIdentifier) :
    Except PkinitError String :=
  okOr (platform.crypto.digestOidToName alg.algorithm)
    (.cmsVerifyFailed s!"unsupported digest algorithm: {alg.algorithm.dotted}")

/-- What `verify_message_digest` does with one attribute: settle the search at
the first `messageDigest`. -/
def checkMessageDigest (platform : Platform) (idMd : Oid) (expectedDigest : Bytes)
    (attr : Attribute) : Except PkinitError (Option Unit) :=
  if attr.attrType = idMd then do
    let inner ← (platform.synta.enterSet attr.attrValues).mapError
      (cmsVerifyErr "enter attrValues SET")
    let digest ← (platform.synta.octetString.fromDer inner).mapError
      (cmsVerifyErr "parse digest value")
    rejectIf (digest ≠ expectedDigest) (.cmsVerifyFailed "messageDigest does not match content")
    return some ()
  else
    return none

def verifyMessageDigest (platform : Platform) (signedAttrsContent expectedDigest : Bytes) :
    Except PkinitError Unit := do
  let idMd ← (platform.synta.newOid PKCS9_MESSAGE_DIGEST).mapError
    fun _ => .cmsVerifyFailed "invalid id-messageDigest OID"
  platform.synta.attributes.scan (cmsVerifyErr "parse attribute")
    (checkMessageDigest platform idMd expectedDigest)
    (.error (.cmsVerifyFailed "messageDigest attribute not found in signedAttrs"))
    signedAttrsContent

/-- What `verify_content_type` does with one attribute. -/
def checkContentType (platform : Platform) (idCt expectedContentType : Oid)
    (attr : Attribute) : Except PkinitError (Option Unit) :=
  if attr.attrType = idCt then do
    let inner ← (platform.synta.enterSet attr.attrValues).mapError
      (cmsVerifyErr "enter contentType attrValues SET")
    let oid ← (platform.synta.objectIdentifier.fromDer inner).mapError
      (cmsVerifyErr "parse contentType OID")
    rejectIf (oid ≠ expectedContentType)
      (.cmsVerifyFailed
        s!"contentType attribute {oid} does not match eContentType {expectedContentType}")
    return some ()
  else
    return none

def verifyContentType (platform : Platform) (signedAttrsContent : Bytes)
    (expectedContentType : Oid) : Except PkinitError Unit := do
  let idCt ← (platform.synta.newOid PKCS9_CONTENT_TYPE).mapError
    fun _ => .cmsVerifyFailed "invalid id-contentType OID"
  platform.synta.attributes.scan (cmsVerifyErr "parse attribute")
    (checkContentType platform idCt expectedContentType)
    (.error (.cmsVerifyFailed "contentType attribute not found in signedAttrs"))
    signedAttrsContent

/-- The attributes as the `SET OF` they are signed as. -/
def retagAsSet (content : Bytes) : Bytes :=
  0x31 :: derEncodeLength content.length ++ content

def verifySignedData (platform : Platform) (contentInfoDer : Bytes) :
    Except PkinitError VerifiedSignedData := do
  let signedData ← unwrapSignedData platform contentInfoDer
  let signerInfo ← okOr signedData.signerInfos.head?
    (.cmsVerifyFailed "no SignerInfo present")
  let allCertsDer ← presentedCertificates platform signedData
  let signerIas ← (platform.synta.issuerAndSerialNumber.fromDer signerInfo.sid).mapError
    (cmsVerifyErr "parse SignerIdentifier")
  let signerCertDer ← findSignerCert platform allCertsDer signerIas
  let signerCert ← (platform.synta.certificate.fromDer signerCertDer).mapError
    (cmsVerifyErr "parse signer cert")
  let spkiDer ← (platform.synta.subjectPublicKeyInfo.toDer
    signerCert.tbsCertificate.subjectPublicKeyInfo).mapError (cmsVerifyErr "encode SPKI")
  let pubKey ← (platform.crypto.publicKeyFromDer spkiDer).mapError
    (cmsVerifyErr "parse public key")
  let content ← okOr signedData.encapContentInfo.eContent
    (.cmsVerifyFailed "no eContent in SignedData")
  let contentType := signedData.encapContentInfo.eContentType
  let signedAttrsRaw ← okOr signerInfo.signedAttrs (.cmsVerifyFailed "no signedAttrs")
  let hashName ← digestAlgToName platform signerInfo.digestAlgorithm
  let computedDigest ← (platform.crypto.hashData hashName content).mapError
    (cmsVerifyErr "hash content")
  verifyMessageDigest platform signedAttrsRaw computedDigest
  verifyContentType platform signedAttrsRaw contentType
  let toVerify := retagAsSet signedAttrsRaw
  let sigAlgDer ← (platform.synta.algorithmIdentifier.toDer signerInfo.signatureAlgorithm).mapError
    (cmsVerifyErr "encode sig alg")
  (platform.crypto.verifySignature pubKey toVerify sigAlgDer signerInfo.signature).mapError
    (cmsVerifyErr "signature invalid")
  return {
    content := content
    contentType := contentType
    signerCertDer := signerCertDer
    allCertsDer := allCertsDer
    signerAlgorithmOid := signerInfo.signatureAlgorithm.algorithm }

/-! ## Unsigned content -/

/-- The content and type of a `SignedData` that has no signers. -/
def extractUnsignedContent (platform : Platform) (contentInfoDer : Bytes) :
    Except PkinitError (Bytes × Oid) := do
  let signedData ← unwrapSignedData platform contentInfoDer
  rejectIf (signedData.signerInfos.isEmpty = false)
    (.cmsVerifyFailed "SignedData has signers; expected unsigned anonymous content")
  let content ← okOr signedData.encapContentInfo.eContent
    (.cmsVerifyFailed "no eContent in SignedData")
  return (content, signedData.encapContentInfo.eContentType)

/-- The content and type of a `ContentInfo` around a bare `OCTET STRING`. -/
def extractBareContent (platform : Platform) (contentInfoDer : Bytes) :
    Except PkinitError (Bytes × Oid) := do
  let ci ← (platform.synta.contentInfo.fromDer contentInfoDer).mapError
    (cmsVerifyErr "parse ContentInfo")
  let contentBytes ← (platform.synta.enterExplicit 0 ci.content).mapError
    (cmsVerifyErr "unwrap [0] EXPLICIT")
  let content ← (platform.synta.octetString.fromDer contentBytes).mapError
    (cmsVerifyErr "extract OCTET STRING")
  return (content, ci.contentType)

end Kurbu5Pkinit

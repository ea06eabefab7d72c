import Kurbu5Pkinit.Crypto.Cms
import Kurbu5Pkinit.Reference.Exchange

/-!
# What a verified envelope binds

`verifySignedData` takes the certificate, the content and the attributes from
different parts of an attacker's message. `SignatureBinding` collects what
ties them together once it accepted: the certificate is one of those presented
and has the signer's issuer and serial number; the signature covers the
attributes as a `SET OF`; the attributes name the content's digest and type.

The module also says how the three readers of an envelope tell signed from
unsigned content apart.
-/

set_option autoImplicit false

namespace Kurbu5Pkinit

open Library

variable {platform : Platform}

/-! ## The certificate search -/

theorem searchSignerCert_sound {iasIssuerDer : Bytes} {serialNumber : Int} {certs : List Bytes}
    {certDer : Bytes}
    (found : searchSignerCert platform iasIssuerDer serialNumber certs = .ok certDer) :
    certDer ∈ certs ∧ ∃ cert, platform.synta.certificate.fromDer certDer = .ok cert ∧
      cert.tbsCertificate.serialNumber = serialNumber ∧
      cert.tbsCertificate.issuer = iasIssuerDer := by
  induction certs with
  | nil => cases found
  | cons head rest ih =>
      simp only [searchSignerCert, bind_eq_ok, mapError_eq_ok] at found
      obtain ⟨cert, parsed, taken⟩ := found
      split at taken
      · next named =>
          cases taken
          exact ⟨List.mem_cons_self .., cert, parsed, named⟩
      · obtain ⟨member, rest⟩ := ih taken
        exact ⟨List.mem_cons_of_mem _ member, rest⟩

/-! ## The attribute searches -/

/-- Somewhere among the attributes is one of this type whose value is a `SET`
of one `OCTET STRING`, this one. -/
def CarriesOctets (synta : Synta) (signedAttrs : Bytes) (attrType : Oid) (octets : Bytes) : Prop :=
  ∃ attr inner, synta.attributes.Yields signedAttrs attr ∧ attr.attrType = attrType ∧
    synta.enterSet attr.attrValues = .ok inner ∧ synta.octetString.fromDer inner = .ok octets

/-- As `CarriesOctets`, for an attribute whose value is an object identifier. -/
def CarriesOid (synta : Synta) (signedAttrs : Bytes) (attrType oid : Oid) : Prop :=
  ∃ attr inner, synta.attributes.Yields signedAttrs attr ∧ attr.attrType = attrType ∧
    synta.enterSet attr.attrValues = .ok inner ∧ synta.objectIdentifier.fromDer inner = .ok oid

theorem newOid_eq_ok {synta : Synta} {components oid : Oid} :
    synta.newOid components = .ok oid ↔ synta.checkOid components = .ok () ∧ oid = components := by
  simp only [Synta.newOid, bind_eq_ok, pure_eq_ok, Except.ok.injEq]
  constructor
  · rintro ⟨_, checked, rfl⟩
    exact ⟨checked, rfl⟩
  · rintro ⟨checked, rfl⟩
    exact ⟨(), checked, rfl⟩

theorem verifyMessageDigest_sound {signedAttrs digest : Bytes}
    (verified : verifyMessageDigest platform signedAttrs digest = .ok ()) :
    CarriesOctets platform.synta signedAttrs PKCS9_MESSAGE_DIGEST digest := by
  simp only [verifyMessageDigest, bind_eq_ok, mapError_eq_ok, newOid_eq_ok] at verified
  obtain ⟨idMd, ⟨_, rfl⟩, scanned⟩ := verified
  rcases StreamDecoder.scan_settled scanned with ended | ⟨attr, yields, visited⟩
  · cases ended
  · unfold checkMessageDigest at visited
    split at visited
    · next named =>
        simp only [bind_eq_ok, mapError_eq_ok, rejectIf_eq_ok, not_not] at visited
        obtain ⟨inner, entered, octets, parsed, _, rfl, _⟩ := visited
        exact ⟨attr, inner, yields, named, entered, parsed⟩
    · cases visited

theorem verifyContentType_sound {signedAttrs : Bytes} {contentType : Oid}
    (verified : verifyContentType platform signedAttrs contentType = .ok ()) :
    CarriesOid platform.synta signedAttrs PKCS9_CONTENT_TYPE contentType := by
  simp only [verifyContentType, bind_eq_ok, mapError_eq_ok, newOid_eq_ok] at verified
  obtain ⟨idCt, ⟨_, rfl⟩, scanned⟩ := verified
  rcases StreamDecoder.scan_settled scanned with ended | ⟨attr, yields, visited⟩
  · cases ended
  · unfold checkContentType at visited
    split at visited
    · next named =>
        simp only [bind_eq_ok, mapError_eq_ok, rejectIf_eq_ok, not_not] at visited
        obtain ⟨inner, entered, oid, parsed, _, rfl, _⟩ := visited
        exact ⟨attr, inner, yields, named, entered, parsed⟩
    · cases visited

/-! ## The binding -/

/-- The signature of `signerInfo` over the attributes, under a certificate's
key and the signer's own algorithm. -/
structure SignatureVerifies (platform : Platform) (signerInfo : SignerInfo) (cert : Certificate)
    (signedAttrs : Bytes) : Prop where
  carried : signerInfo.signedAttrs = some signedAttrs
  /-- The key is the certificate's; the message is tag `0x31`, the length of
  the attributes, and the attributes. -/
  verifies : ∃ spkiDer pubKey sigAlgDer,
    platform.synta.subjectPublicKeyInfo.toDer cert.tbsCertificate.subjectPublicKeyInfo =
      .ok spkiDer ∧
    platform.crypto.publicKeyFromDer spkiDer = .ok pubKey ∧
    platform.synta.algorithmIdentifier.toDer signerInfo.signatureAlgorithm = .ok sigAlgDer ∧
    platform.crypto.verifySignature pubKey
      (0x31 :: derEncodeLength signedAttrs.length ++ signedAttrs) sigAlgDer
      signerInfo.signature = .ok ()
  /-- The length is the definite length encoding. -/
  length : signedAttrs.length < 2 ^ 32 →
    derEncodeLength signedAttrs.length = derLength signedAttrs.length

/-- Everything a verified envelope ties together. -/
structure SignatureBinding (platform : Platform) (signedData : SignedData)
    (signerInfo : SignerInfo) (v : VerifiedSignedData) : Prop where
  first : signedData.signerInfos.head? = some signerInfo
  content : signedData.encapContentInfo.eContent = some v.content
  contentType : signedData.encapContentInfo.eContentType = v.contentType
  certificates : presentedCertificates platform signedData = .ok v.allCertsDer
  presented : v.signerCertDer ∈ v.allCertsDer
  /-- The signer's certificate has the issuer and serial number of `sid`, and
  its key verifies the signature over attributes that carry the digest of the
  content and the type of the content. -/
  signed : ∃ ias issuerDer cert signedAttrs hashName digest,
    platform.synta.issuerAndSerialNumber.fromDer signerInfo.sid = .ok ias ∧
    platform.synta.name.toDer ias.issuer = .ok issuerDer ∧
    platform.synta.certificate.fromDer v.signerCertDer = .ok cert ∧
    cert.tbsCertificate.serialNumber = ias.serialNumber ∧
    cert.tbsCertificate.issuer = issuerDer ∧
    SignatureVerifies platform signerInfo cert signedAttrs ∧
    platform.crypto.digestOidToName signerInfo.digestAlgorithm.algorithm = some hashName ∧
    platform.crypto.hashData hashName v.content = .ok digest ∧
    CarriesOctets platform.synta signedAttrs PKCS9_MESSAGE_DIGEST digest ∧
    CarriesOid platform.synta signedAttrs PKCS9_CONTENT_TYPE v.contentType
  algorithm : v.signerAlgorithmOid = signerInfo.signatureAlgorithm.algorithm

theorem SignatureBinding.of_verified {platform : Platform} {contentInfoDer : Bytes}
    {v : VerifiedSignedData} (verified : verifySignedData platform contentInfoDer = .ok v) :
    ∃ signedData signerInfo, unwrapSignedData platform contentInfoDer = .ok signedData ∧
      SignatureBinding platform signedData signerInfo v := by
  simp only [verifySignedData, bind_eq_ok, mapError_eq_ok, okOr_eq_ok, pure_eq_ok,
    Except.ok.injEq, findSignerCert, digestAlgToName, retagAsSet] at verified
  obtain ⟨signedData, unwrapped, signerInfo, first, allCertsDer, extracted, ias, sid,
    signerCertDer, ⟨issuerDer, issuer, found⟩, cert, parsed, spkiDer, spki, pubKey, key, content,
    eContent, signedAttrs, carried, hashName, hash, digest, hashed, _, digestChecked, _,
    typeChecked, sigAlgDer, sigAlg, _, signature, rfl⟩ := verified
  obtain ⟨presented, cert', parsed', serial, sameIssuer⟩ := searchSignerCert_sound found
  obtain rfl : cert = cert' := Except.ok.inj (parsed.symm.trans parsed')
  have length : signedAttrs.length < 2 ^ 32 →
      derEncodeLength signedAttrs.length = derLength signedAttrs.length :=
    derEncodeLength_eq_derLength
  exact ⟨signedData, signerInfo, unwrapped, {
    first := first
    content := eContent
    contentType := rfl
    certificates := extracted
    presented := presented
    signed := ⟨ias, issuerDer, cert, signedAttrs, hashName, digest, sid, issuer, parsed, serial,
      sameIssuer, ⟨carried, ⟨spkiDer, pubKey, sigAlgDer, spki, key, sigAlg, signature⟩, length⟩,
      hash, hashed, verifyMessageDigest_sound digestChecked, verifyContentType_sound typeChecked⟩
    algorithm := rfl }⟩

/-- **A verified envelope is bound by its first signer's signature.** Every
field returned comes from the object that signature covers, on every input. -/
theorem verifySignedData_sound (platform : Platform) (contentInfoDer : Bytes)
    (v : VerifiedSignedData) (verified : verifySignedData platform contentInfoDer = .ok v) :
    ∃ signedData signerInfo, unwrapSignedData platform contentInfoDer = .ok signedData ∧
      SignatureBinding platform signedData signerInfo v :=
  SignatureBinding.of_verified verified

/-- The KDC's signature over its P-256 key. -/
theorem verifySignedData_sound_signedKdcDh :
    ∃ signedData signerInfo,
      unwrapSignedData Reference.recorded Reference.signedKdcDh = .ok signedData ∧
      SignatureBinding Reference.recorded signedData signerInfo {
        content := Reference.kdcDhKeyInfoDer
        contentType := ID_PKINIT_DHKEY_DATA
        signerCertDer := Reference.kdcCertDer
        allCertsDer := [Reference.kdcCertDer]
        signerAlgorithmOid := Reference.Recording.ECDSA_WITH_SHA256 } :=
  verifySignedData_sound Reference.recorded Reference.signedKdcDh _ (by decide +kernel)

end Kurbu5Pkinit

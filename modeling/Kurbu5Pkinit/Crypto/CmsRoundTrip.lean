import Mathlib.Data.List.Permutation
import Kurbu5Pkinit.Crypto.CmsSoundness

/-!
# Reading back what was signed

An envelope this code signed verifies, and gives back what was put in. What
that takes of the ASN.1 library is `EnvelopeCodecs`: its encodings are read
back, a `SET OF` holds its elements in some order, and an attribute is one
value of the stream it stands in. What it takes of the signer is
`SigningPair`: the certificate's key verifies what the signing key signs.
-/

set_option autoImplicit false

namespace Kurbu5Pkinit

open Library

/-- What the ASN.1 library does with the parts of an envelope. -/
structure EnvelopeCodecs (synta : Synta) : Prop where
  contentInfo : synta.contentInfo.RoundTrips
  signedData : synta.signedData.RoundTrips
  signerIdentifier : synta.issuerAndSerialNumber.RoundTrips
  explicitTag : ∀ n raw der, synta.explicitTag n raw = .ok der →
    synta.enterExplicit n der = .ok raw
  setOfOid : ∀ oid der, synta.setOfOids [oid] = .ok der →
    ∃ inner, synta.enterSet der = .ok inner ∧ synta.objectIdentifier.fromDer inner = .ok oid
  setOfOctetString : ∀ octets der, synta.setOfOctetStrings [octets] = .ok der →
    ∃ inner, synta.enterSet der = .ok inner ∧ synta.octetString.fromDer inner = .ok octets
  /-- The elements of a `SET OF`, in whatever order they are sorted into. -/
  setOfRaw : ∀ elements der, synta.setOfRaw elements = .ok der →
    ∃ sorted, List.Perm sorted elements ∧
      der = 0x31 :: derLength sorted.flatten.length ++ sorted.flatten ∧
      synta.enterSet der = .ok sorted.flatten
  attributeFrames : ∀ attr der, synta.cmsAttribute.toDer attr = .ok der →
    synta.attributes.Frames der attr

/-- A signing key with its certificate, under the hash the key signs with. -/
structure SigningPair (platform : Platform) (certDer : Bytes) (key : PrivateKey)
    (hash : String) : Prop where
  framed : platform.synta.rawDer.Frames certDer certDer
  digest : ∀ alg, platform.crypto.digestAlgId hash = some alg →
    platform.crypto.digestOidToName alg.algorithm = some hash
  algorithm : ∀ sigAlgDer, platform.crypto.signatureAlgorithmDer key hash = .ok sigAlgDer →
    platform.synta.algorithmIdentifier.Canonical sigAlgDer
  issuer : ∀ cert, platform.synta.certificate.fromDer certDer = .ok cert →
    platform.synta.name.Canonical cert.tbsCertificate.issuer
  /-- The certificate's key can be read, and verifies every signature. -/
  verifies : ∀ cert, platform.synta.certificate.fromDer certDer = .ok cert →
    ∃ spkiDer pubKey,
      platform.synta.subjectPublicKeyInfo.toDer cert.tbsCertificate.subjectPublicKeyInfo =
        .ok spkiDer ∧
      platform.crypto.publicKeyFromDer spkiDer = .ok pubKey ∧
      ∀ instant message signature sigAlgDer,
        platform.crypto.signTbs instant key hash message = .ok signature →
        platform.crypto.signatureAlgorithmDer key hash = .ok sigAlgDer →
        platform.crypto.verifySignature pubKey message sigAlgDer signature = .ok ()

variable {platform : Platform} {instant : Instant}

/-! ## The wrapping -/

/-- **A `SignedData` that was wrapped is unwrapped again.** -/
theorem unwrapSignedData_wrapSignedData (codecs : EnvelopeCodecs platform.synta)
    {signedData : SignedData} {der : Bytes}
    (wrapped : wrapSignedData platform signedData = .ok der) :
    unwrapSignedData platform der = .ok signedData := by
  simp only [wrapSignedData, bind_eq_ok, mapError_eq_ok] at wrapped
  obtain ⟨sdDer, encoded, explicit0, tagged, idSignedData, oid, written⟩ := wrapped
  obtain ⟨-, rfl⟩ := newOid_eq_ok.mp oid
  have read := codecs.contentInfo _ _ written
  have entered := codecs.explicitTag _ _ _ tagged
  have decoded := codecs.signedData _ _ encoded
  unfold unwrapSignedData
  rw [read, oid]
  simp only [mapError_ok, ok_bind, entered, decoded]
  rw [rejectIf_of_not (by simp), ok_bind]

/-! ## The signed attributes -/

/-- The two attributes of a signature, in the order they are sorted into. -/
structure SignsContent (platform : Platform) (contentOid : Oid) (digest signedAttrs : Bytes) :
    Prop where
  ordered : ∃ typeDer digestDer typeAttr digestAttr,
    platform.synta.attributes.Frames typeDer typeAttr ∧
    platform.synta.attributes.Frames digestDer digestAttr ∧
    (signedAttrs = typeDer ++ digestDer ∨ signedAttrs = digestDer ++ typeDer) ∧
    typeAttr.attrType = PKCS9_CONTENT_TYPE ∧ digestAttr.attrType = PKCS9_MESSAGE_DIGEST ∧
    (∃ inner, platform.synta.enterSet typeAttr.attrValues = .ok inner ∧
      platform.synta.objectIdentifier.fromDer inner = .ok contentOid) ∧
    ∃ inner, platform.synta.enterSet digestAttr.attrValues = .ok inner ∧
      platform.synta.octetString.fromDer inner = .ok digest
  knownType : platform.synta.checkOid PKCS9_CONTENT_TYPE = .ok ()
  knownDigest : platform.synta.checkOid PKCS9_MESSAGE_DIGEST = .ok ()

theorem buildSignedAttrs_eq_ok (codecs : EnvelopeCodecs platform.synta) {contentOid : Oid}
    {digest toSign signedAttrs : Bytes}
    (built : buildSignedAttrs platform contentOid digest = .ok (toSign, signedAttrs)) :
    toSign = 0x31 :: derLength signedAttrs.length ++ signedAttrs ∧
      SignsContent platform contentOid digest signedAttrs := by
  simp only [buildSignedAttrs, bind_eq_ok, mapError_eq_ok, newOid_eq_ok, pure_eq_ok,
    Except.ok.injEq, Prod.mk.injEq] at built
  obtain ⟨_, ⟨knownType, rfl⟩, _, ⟨knownDigest, rfl⟩, typeSet, typeSetOf, typeDer, typeEncoded,
    digestSet, digestSetOf, digestDer, digestEncoded, set, setOf, content, entered, rfl, rfl⟩ :=
    built
  obtain ⟨sorted, permuted, encoded, inside⟩ := codecs.setOfRaw _ _ setOf
  obtain rfl : sorted.flatten = content := Except.ok.inj (inside.symm.trans entered)
  refine ⟨encoded, ⟨typeDer, digestDer, _, _, codecs.attributeFrames _ _ typeEncoded,
    codecs.attributeFrames _ _ digestEncoded, ?_, rfl, rfl, codecs.setOfOid _ _ typeSetOf,
    codecs.setOfOctetString _ _ digestSetOf⟩, knownType, knownDigest⟩
  rcases List.perm_pair.mp permuted with rfl | rfl <;> simp

/-- Each search finds its attribute, whichever comes first. -/
theorem SignsContent.verifies {contentOid : Oid} {digest signedAttrs : Bytes}
    (signs : SignsContent platform contentOid digest signedAttrs) :
    verifyMessageDigest platform signedAttrs digest = .ok () ∧
      verifyContentType platform signedAttrs contentOid = .ok () := by
  obtain ⟨typeDer, digestDer, typeAttr, digestAttr, typeFrames, digestFrames, order, isType,
    isDigest, ⟨typeInner, typeEntered, typeRead⟩, digestInner, digestEntered, digestRead⟩ :=
    signs.ordered
  have distinct : PKCS9_CONTENT_TYPE ≠ PKCS9_MESSAGE_DIGEST := by decide
  have findsDigest : checkMessageDigest platform PKCS9_MESSAGE_DIGEST digest digestAttr =
      .ok (some ()) := by
    simp [checkMessageDigest, isDigest, digestEntered, digestRead, rejectIf]
  have skipsType : checkMessageDigest platform PKCS9_MESSAGE_DIGEST digest typeAttr =
      .ok none := by
    simp [checkMessageDigest, isType, distinct]
  have findsType : checkContentType platform PKCS9_CONTENT_TYPE contentOid typeAttr =
      .ok (some ()) := by
    simp [checkContentType, isType, typeEntered, typeRead, rejectIf]
  have skipsDigest : checkContentType platform PKCS9_CONTENT_TYPE contentOid digestAttr =
      .ok none := by
    simp [checkContentType, isDigest, distinct.symm]
  unfold verifyMessageDigest verifyContentType
  rw [newOid_eq_ok.mpr ⟨signs.knownDigest, rfl⟩, newOid_eq_ok.mpr ⟨signs.knownType, rfl⟩]
  simp only [mapError_ok, ok_bind]
  rcases order with rfl | rfl
  · refine ⟨?_, typeFrames.scan_settles findsType⟩
    rw [typeFrames.scan_skips skipsType, ← List.append_nil digestDer]
    exact digestFrames.scan_settles findsDigest
  · refine ⟨digestFrames.scan_settles findsDigest, ?_⟩
    rw [digestFrames.scan_skips skipsDigest, ← List.append_nil typeDer]
    exact typeFrames.scan_settles findsType

/-! ## The round trip -/

/-- What `createSignedData` wrapped. -/
structure SignsEnvelope (platform : Platform) (instant : Instant) (content : Bytes)
    (contentOid : Oid) (key : PrivateKey) (certDer : Bytes) (extraCerts : List Bytes)
    (hash : String) (signedData : SignedData) (signerInfo : SignerInfo)
    (signedAttrs : Bytes) : Prop where
  signers : signedData.signerInfos = [signerInfo]
  encapsulated : signedData.encapContentInfo = ⟨contentOid, some content⟩
  certificates : signedData.certificates =
    if (certDer :: extraCerts).flatten.isEmpty then none else some (certDer :: extraCerts).flatten
  attributes : signerInfo.signedAttrs = some signedAttrs
  hashed : ∃ digest, platform.crypto.hashData hash content = .ok digest ∧
    platform.crypto.digestAlgId hash = some signerInfo.digestAlgorithm ∧
    ∃ toSign, buildSignedAttrs platform contentOid digest = .ok (toSign, signedAttrs) ∧
      platform.crypto.signTbs instant key hash toSign = .ok signerInfo.signature
  algorithm : ∃ sigAlgDer, platform.crypto.signatureAlgorithmDer key hash = .ok sigAlgDer ∧
    platform.synta.algorithmIdentifier.fromDer sigAlgDer = .ok signerInfo.signatureAlgorithm
  signer : issuerAndSerialDer platform certDer = .ok signerInfo.sid

theorem createSignedData_eq_ok {content : Bytes} {contentOid : Oid} {key : PrivateKey}
    {certDer : Bytes} {extraCerts : List Bytes} {hash : String} {der : Bytes}
    (created : createSignedData platform instant content contentOid key certDer extraCerts hash =
      .ok der) :
    ∃ signedData signerInfo signedAttrs, wrapSignedData platform signedData = .ok der ∧
      SignsEnvelope platform instant content contentOid key certDer extraCerts hash signedData
        signerInfo signedAttrs := by
  simp only [createSignedData, bind_eq_ok, mapError_eq_ok, okOr_eq_ok, newOid_eq_ok,
    Prod.exists] at created
  obtain ⟨_, ⟨_, rfl⟩, digestAlg, known, digest, hashed, toSign, signedAttrs, built, sigAlgDer,
    algorithm, signature, signed, sid, signer, sigAlg, decoded, wrapped⟩ := created
  exact ⟨_, _, signedAttrs, wrapped, {
    signers := rfl
    encapsulated := rfl
    certificates := rfl
    attributes := rfl
    hashed := ⟨digest, hashed, known, toSign, built, signed⟩
    algorithm := ⟨sigAlgDer, algorithm, decoded⟩
    signer := signer }⟩

/-- The signer's certificate comes first, so the search ends with it. -/
theorem findSignerCert_of_issuerAndSerialDer (codecs : EnvelopeCodecs platform.synta)
    {certDer sid : Bytes} (rest : List Bytes) {cert : Certificate}
    (parsed : platform.synta.certificate.fromDer certDer = .ok cert)
    (canonical : platform.synta.name.Canonical cert.tbsCertificate.issuer)
    (identified : issuerAndSerialDer platform certDer = .ok sid) :
    ∃ ias, platform.synta.issuerAndSerialNumber.fromDer sid = .ok ias ∧
      findSignerCert platform (certDer :: rest) ias = .ok certDer := by
  simp only [issuerAndSerialDer, bind_eq_ok, mapError_eq_ok, parsed, Except.ok.injEq,
    exists_eq_left'] at identified
  obtain ⟨issuer, named, encoded⟩ := identified
  refine ⟨_, codecs.signerIdentifier _ _ encoded, ?_⟩
  simp only [findSignerCert, canonical issuer named, mapError_ok, ok_bind, searchSignerCert,
    parsed, and_self, if_true, pure_eq_ok]

/-- **What was signed verifies.** The content and its type come back with the
signer's certificate, followed by the others in order. -/
theorem verifySignedData_of_signsEnvelope (codecs : EnvelopeCodecs platform.synta)
    {content : Bytes} {contentOid : Oid} {key : PrivateKey} {certDer : Bytes}
    {extraCerts : List Bytes} {hash : String} {signedData : SignedData}
    {signerInfo : SignerInfo} {signedAttrs der : Bytes}
    (pair : SigningPair platform certDer key hash)
    (framed : ∀ extra ∈ extraCerts, platform.synta.rawDer.Frames extra extra)
    (small : signedAttrs.length < 2 ^ 32)
    (envelope : SignsEnvelope platform instant content contentOid key certDer extraCerts hash
      signedData signerInfo signedAttrs)
    (unwrapped : unwrapSignedData platform der = .ok signedData) :
    verifySignedData platform der = .ok {
      content := content
      contentType := contentOid
      signerCertDer := certDer
      allCertsDer := certDer :: extraCerts
      signerAlgorithmOid := signerInfo.signatureAlgorithm.algorithm } := by
  obtain ⟨digest, hashed, known, toSign, built, signed⟩ := envelope.hashed
  obtain ⟨sigAlgDer, algorithm, decoded⟩ := envelope.algorithm
  obtain ⟨cert, parsed⟩ : ∃ cert, platform.synta.certificate.fromDer certDer = .ok cert := by
    have signer := envelope.signer
    simp only [issuerAndSerialDer, bind_eq_ok, mapError_eq_ok] at signer
    obtain ⟨cert, parsed, _⟩ := signer
    exact ⟨cert, parsed⟩
  obtain ⟨spkiDer, pubKey, spki, readKey, verifies⟩ := pair.verifies cert parsed
  obtain ⟨ias, sid, found⟩ := findSignerCert_of_issuerAndSerialDer codecs extraCerts parsed
    (pair.issuer cert parsed) envelope.signer
  obtain ⟨rfl, signs⟩ := buildSignedAttrs_eq_ok codecs built
  obtain ⟨digestChecked, typeChecked⟩ := signs.verifies
  have presented : presentedCertificates platform signedData = .ok (certDer :: extraCerts) := by
    have nonempty := pair.framed.ne_nil extraCerts.flatten
    rw [presentedCertificates, envelope.certificates, List.flatten_cons,
      if_neg (by simpa using nonempty)]
    have pieces : ∀ piece ∈ certDer :: extraCerts, platform.synta.rawDer.Frames piece piece :=
      List.forall_mem_cons.mpr ⟨pair.framed, framed⟩
    exact StreamDecoder.drain_flatten pieces
  have signature : platform.crypto.verifySignature pubKey (retagAsSet signedAttrs) sigAlgDer
      signerInfo.signature = .ok () := by
    rw [retagAsSet, derEncodeLength_eq_derLength small]
    exact verifies instant _ _ _ signed algorithm
  unfold verifySignedData digestAlgToName
  simp only [unwrapped, ok_bind, envelope.signers, List.head?_cons, okOr_some, presented, sid,
    mapError_ok, found, parsed, spki, readKey, envelope.encapsulated, envelope.attributes,
    pair.digest _ known, hashed, digestChecked, typeChecked, pair.algorithm _ algorithm _ decoded,
    signature, pure_eq_ok]

end Kurbu5Pkinit

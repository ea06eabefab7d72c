import Mathlib.Data.List.Sort
import Kurbu5Pkinit.Reference.Der

/-!
# The wire types of the reference encoding

A writer and a reader for each ASN.1 type of the exchange, after the modules
that define them: CMS, X.509, PKINIT and its agility and KEM extensions. From
these the ASN.1 library of the model is put together.
-/

set_option autoImplicit false

namespace Kurbu5Pkinit.Reference

open Library Reader

/-! ## Building blocks -/

def sequence (content : Bytes) : Bytes := tlv 0x30 content
def setOf (content : Bytes) : Bytes := tlv 0x31 content

/-- `[n] EXPLICIT`, `[n] IMPLICIT` of a constructed type, and `[n] IMPLICIT` of
a primitive one. -/
def explicitly (n : Nat) (der : Bytes) : Bytes := tlv (0xA0 + UInt8.ofNat n) der
def primitively (n : Nat) (content : Bytes) : Bytes := tlv (0x80 + UInt8.ofNat n) content

def writeOptional {α : Type} (write : α → Bytes) : Option α → Bytes
  | some x => write x
  | none => []

def readExplicitly {α : Type} (n : Nat) (inner : Reader α) : Reader α :=
  within (0xA0 + UInt8.ofNat n) inner

def readOptionally {α : Type} (n : Nat) (inner : Reader α) : Reader (Option α) :=
  optional (0xA0 + UInt8.ofNat n) (readExplicitly n inner)

/-- Byte strings in lexicographic order, as a `SET OF` sorts its elements. -/
def bytesLe : Bytes → Bytes → Bool
  | [], _ => true
  | _ :: _, [] => false
  | x :: xs, y :: ys => x < y || (x == y && bytesLe xs ys)

def sorted (elements : List Bytes) : List Bytes :=
  elements.insertionSort fun left right => bytesLe left right = true

/-! ## Algorithms, keys and names -/

def writeElement : Element → Bytes
  | .objectIdentifier oid => writeOid oid
  | .utf8String text => tlv 0x0C (asciiBytes text)
  | .other der => der

def readElement : Reader Element := do
  let der ← raw
  match readOid.whole der, (content 0x0C).whole der with
  | .ok oid, _ => return .objectIdentifier oid
  | .error _, .ok text => return .utf8String (textOfBytes text)
  | .error _, .error _ => return .other der

def writeAlgorithmIdentifier (alg : AlgorithmIdentifier) : Bytes :=
  sequence (writeOid alg.algorithm ++ writeOptional writeElement alg.parameters)

def readAlgorithmIdentifier : Reader AlgorithmIdentifier :=
  within 0x30 do
    let algorithm ← readOid
    let parameters ← unlessEnd readElement
    return ⟨algorithm, parameters⟩

def writeSubjectPublicKeyInfo (spki : SubjectPublicKeyInfo) : Bytes :=
  sequence (writeAlgorithmIdentifier spki.algorithm ++ writeBitString spki.subjectPublicKey)

def readSubjectPublicKeyInfo : Reader SubjectPublicKeyInfo :=
  within 0x30 do
    let algorithm ← readAlgorithmIdentifier
    let subjectPublicKey ← readBitString
    return ⟨algorithm, subjectPublicKey⟩

def writeName (name : Name) : Bytes :=
  sequence (name.flatMap fun rdn =>
    setOf (rdn.flatMap fun (type, value) => sequence (writeOid type ++ writeElement value)))

def readName : Reader Name :=
  within 0x30 (many (within 0x31 (many (within 0x30 do
    let type ← readOid
    let value ← readElement
    return (type, value)))))

/-! ## CMS -/

def writeContentInfo (ci : ContentInfo) : Bytes :=
  sequence (writeOid ci.contentType ++ ci.content)

def readContentInfo : Reader ContentInfo :=
  within 0x30 do
    let contentType ← readOid
    let content ← raw
    return ⟨contentType, content⟩

def writeAttribute (attr : Attribute) : Bytes :=
  sequence (writeOid attr.attrType ++ attr.attrValues)

def readAttribute : Reader Attribute :=
  within 0x30 do
    let attrType ← readOid
    let attrValues ← raw
    return ⟨attrType, attrValues⟩

def writeIssuerAndSerialNumber (ias : IssuerAndSerialNumber) : Bytes :=
  sequence (writeName ias.issuer ++ writeInteger ias.serialNumber)

def readIssuerAndSerialNumber : Reader IssuerAndSerialNumber :=
  within 0x30 do
    let issuer ← readName
    let serialNumber ← readInteger
    return ⟨issuer, serialNumber⟩

def writeSignerInfo (info : SignerInfo) : Bytes :=
  sequence (writeInteger info.version ++ info.sid ++
    writeAlgorithmIdentifier info.digestAlgorithm ++
    writeOptional (explicitly 0) info.signedAttrs ++
    writeAlgorithmIdentifier info.signatureAlgorithm ++ writeOctets info.signature ++
    writeOptional (explicitly 1) info.unsignedAttrs)

def readSignerInfo : Reader SignerInfo :=
  within 0x30 do
    let version ← readInteger
    let sid ← raw
    let digestAlgorithm ← readAlgorithmIdentifier
    let signedAttrs ← optional 0xA0 (content 0xA0)
    let signatureAlgorithm ← readAlgorithmIdentifier
    let signature ← readOctets
    let unsignedAttrs ← optional 0xA1 (content 0xA1)
    return ⟨version, sid, digestAlgorithm, signedAttrs, signatureAlgorithm, signature,
      unsignedAttrs⟩

def writeSignedData (data : SignedData) : Bytes :=
  sequence (writeInteger data.version ++
    setOf (sorted (data.digestAlgorithms.map writeAlgorithmIdentifier)).flatten ++
    sequence (writeOid data.encapContentInfo.eContentType ++
      writeOptional (fun octets => explicitly 0 (writeOctets octets))
        data.encapContentInfo.eContent) ++
    writeOptional (explicitly 0) data.certificates ++ writeOptional (explicitly 1) data.crls ++
    setOf (data.signerInfos.flatMap writeSignerInfo))

def readSignedData : Reader SignedData :=
  within 0x30 do
    let version ← readInteger
    let digestAlgorithms ← within 0x31 (many readAlgorithmIdentifier)
    let encapContentInfo ← within 0x30 do
      let eContentType ← readOid
      let eContent ← readOptionally 0 readOctets
      return ⟨eContentType, eContent⟩
    let certificates ← optional 0xA0 (content 0xA0)
    let crls ← optional 0xA1 (content 0xA1)
    let signerInfos ← within 0x31 (many readSignerInfo)
    return ⟨version, digestAlgorithms, encapContentInfo, certificates, crls, signerInfos⟩

/-! ## Certificates -/

def readTbsCertificate : Reader TbsCertificate :=
  within 0x30 do
    let _version ← readOptionally 0 readInteger
    let serialNumber ← readInteger
    let _signature ← readAlgorithmIdentifier
    let issuer ← raw
    let _validity ← raw
    let subject ← raw
    let subjectPublicKeyInfo ← readSubjectPublicKeyInfo
    let _issuerUniqueId ← optional 0x81 (content 0x81)
    let _subjectUniqueId ← optional 0x82 (content 0x82)
    let extensions ← readOptionally 3 raw
    return ⟨serialNumber, issuer, subject, subjectPublicKeyInfo, extensions⟩

def readCertificate : Reader Certificate :=
  within 0x30 do
    let tbsCertificate ← readTbsCertificate
    let _signatureAlgorithm ← readAlgorithmIdentifier
    let _signature ← readBitString
    return ⟨tbsCertificate⟩

/-- An extension: its name and its value. -/
def readExtension : Reader (Oid × Bytes) :=
  within 0x30 do
    let name ← readOid
    let _critical ← optional 0x01 (content 0x01)
    let value ← readOctets
    return (name, value)

def findExtensionValue (extensions : Bytes) (name : Oid) : Option Bytes :=
  match (within 0x30 (many readExtension)).whole extensions with
  | .ok entries => (entries.find? fun entry => entry.1 = name).map Prod.snd
  | .error _ => none

def writeOtherName (name : OtherName) : Bytes :=
  sequence (writeOid name.typeId ++ explicitly 0 (writeElement name.value))

def readOtherName (tag : UInt8) : Reader OtherName :=
  within tag do
    let typeId ← readOid
    let value ← readExplicitly 0 readElement
    return ⟨typeId, value⟩

def readGeneralName : Reader GeneralName := fun input =>
  if input.head? = some 0xA0 then
    (readOtherName 0xA0 input).map fun (name, rest) => (.otherName name, rest)
  else if input.head? = some 0x82 then
    (content 0x82 input).map fun (name, rest) => (.dnsName (textOfBytes name), rest)
  else
    (raw input).map fun (der, rest) => (.other der, rest)

def keyUsageBit (usage : BitString) (bit : Nat) : Bool :=
  match usage.bytes[bit / 8]? with
  | some byte => byte.toNat.testBit (7 - bit % 8)
  | none => false

/-! ## The request -/

def writePaChecksum2 (checksum : PaChecksum2) : Bytes :=
  sequence (explicitly 0 (writeOctets checksum.checksum) ++
    explicitly 1 (writeAlgorithmIdentifier checksum.algorithmIdentifier))

def readPaChecksum2 : Reader PaChecksum2 :=
  within 0x30 do
    let checksum ← readExplicitly 0 readOctets
    let algorithmIdentifier ← readExplicitly 1 readAlgorithmIdentifier
    return ⟨checksum, algorithmIdentifier⟩

def writePkAuthenticator (auth : PkAuthenticator) : Bytes :=
  sequence (explicitly 0 (writeInteger auth.cusec) ++ explicitly 1 (writeTime auth.ctime) ++
    explicitly 2 (writeInteger auth.nonce) ++
    writeOptional (fun octets => explicitly 3 (writeOctets octets)) auth.paChecksum ++
    writeOptional (fun octets => explicitly 4 (writeOctets octets)) auth.freshnessToken ++
    writeOptional (fun checksum => explicitly 5 (writePaChecksum2 checksum)) auth.paChecksum2)

def readPkAuthenticator : Reader PkAuthenticator :=
  within 0x30 do
    let cusec ← readExplicitly 0 readInteger
    let ctime ← readExplicitly 1 readTime
    let nonce ← readExplicitly 2 readInteger
    let paChecksum ← readOptionally 3 readOctets
    let freshnessToken ← readOptionally 4 readOctets
    let paChecksum2 ← readOptionally 5 readPaChecksum2
    return ⟨cusec, ctime, nonce, paChecksum, freshnessToken, paChecksum2⟩

def writeKdfAlgorithmId (kdf : KdfAlgorithmId) : Bytes :=
  sequence (explicitly 0 (writeOid kdf.kdfId))

def readKdfAlgorithmId : Reader KdfAlgorithmId :=
  within 0x30 (KdfAlgorithmId.mk <$> readExplicitly 0 readOid)

def writeAuthPack (pack : AuthPack) : Bytes :=
  sequence (explicitly 0 (writePkAuthenticator pack.pkAuthenticator) ++
    writeOptional (fun value => explicitly 1 (writeElement value)) pack.clientPublicValue ++
    writeOptional (fun types => explicitly 2 (sequence (types.flatMap writeAlgorithmIdentifier)))
      pack.supportedCmsTypes ++
    writeOptional (fun octets => explicitly 3 (writeOctets octets)) pack.clientDhNonce ++
    writeOptional (fun kdfs => explicitly 4 (sequence (kdfs.flatMap writeKdfAlgorithmId)))
      pack.supportedKdfs)

def readAuthPack : Reader AuthPack :=
  within 0x30 do
    let pkAuthenticator ← readExplicitly 0 readPkAuthenticator
    let clientPublicValue ← readOptionally 1 readElement
    let supportedCmsTypes ← readOptionally 2 (within 0x30 (many readAlgorithmIdentifier))
    let clientDhNonce ← readOptionally 3 readOctets
    let supportedKdfs ← readOptionally 4 (within 0x30 (many readKdfAlgorithmId))
    return ⟨pkAuthenticator, clientPublicValue, supportedCmsTypes, clientDhNonce, supportedKdfs⟩

def writePaPkAsReq (request : PaPkAsReq) : Bytes :=
  sequence (primitively 0 request.signedAuthPack ++
    writeOptional (explicitly 1) request.trustedCertifiers ++
    writeOptional (primitively 2) request.kdcPkId)

def readPaPkAsReq : Reader PaPkAsReq :=
  within 0x30 do
    let signedAuthPack ← content 0x80
    let trustedCertifiers ← optional 0xA1 (content 0xA1)
    let kdcPkId ← optional 0x82 (content 0x82)
    return ⟨signedAuthPack, trustedCertifiers, kdcPkId⟩

/-! ## The reply -/

def writeDhRepInfo (info : DhRepInfo) : Bytes :=
  sequence (primitively 0 info.dhSignedData ++
    writeOptional (fun octets => explicitly 1 (writeOctets octets)) info.serverDhNonce ++
    writeOptional (fun kdf => explicitly 2 (writeKdfAlgorithmId kdf)) info.kdf)

def readDhRepInfo : Reader DhRepInfo :=
  within 0x30 do
    let dhSignedData ← content 0x80
    let serverDhNonce ← readOptionally 1 readOctets
    let kdf ← readOptionally 2 readKdfAlgorithmId
    return ⟨dhSignedData, serverDhNonce, kdf⟩

def writePaPkAsRep : PaPkAsRep → Bytes
  | .dhInfo info => explicitly 0 (writeDhRepInfo info)
  | .encKeyPack der => primitively 1 der

def readPaPkAsRep : Reader PaPkAsRep := fun input =>
  if input.head? = some 0xA0 then
    (readExplicitly 0 readDhRepInfo input).map fun (info, rest) => (.dhInfo info, rest)
  else
    (content 0x81 input).map fun (der, rest) => (.encKeyPack der, rest)

def writeKdcDhKeyInfo (info : KdcDhKeyInfo) : Bytes :=
  sequence (explicitly 0 (writeBitString info.subjectPublicKey) ++
    explicitly 1 (writeInteger info.nonce) ++
    writeOptional (fun time => explicitly 2 (writeTime time)) info.dhKeyExpiration)

def readKdcDhKeyInfo : Reader KdcDhKeyInfo :=
  within 0x30 do
    let subjectPublicKey ← readExplicitly 0 readBitString
    let nonce ← readExplicitly 1 readInteger
    let dhKeyExpiration ← readOptionally 2 readTime
    return ⟨subjectPublicKey, nonce, dhKeyExpiration⟩

def writeKemRepInfo (info : KemRepInfo) : Bytes :=
  sequence (primitively 0 info.kemSignedData)

def readKemRepInfo : Reader KemRepInfo :=
  within 0x30 (KemRepInfo.mk <$> content 0x80)

def writeKdcKemInfo (info : KdcKemInfo) : Bytes :=
  sequence (explicitly 0 (writeAlgorithmIdentifier info.kemAlgorithm) ++
    explicitly 1 (writeOctets info.kemct) ++
    explicitly 2 (writeAlgorithmIdentifier info.kdfAlgorithm) ++
    writeOptional (fun nonce => explicitly 3 (writeInteger nonce)) info.nonce ++
    writeOptional (fun octets => explicitly 4 (writeOctets octets)) info.serverNonce)

def readKdcKemInfo : Reader KdcKemInfo :=
  within 0x30 do
    let kemAlgorithm ← readExplicitly 0 readAlgorithmIdentifier
    let kemct ← readExplicitly 1 readOctets
    let kdfAlgorithm ← readExplicitly 2 readAlgorithmIdentifier
    let nonce ← readOptionally 3 readInteger
    let serverNonce ← readOptionally 4 readOctets
    return ⟨kemAlgorithm, kemct, kdfAlgorithm, nonce, serverNonce⟩

/-! ## The derivation -/

def writePkinitSuppPubInfo (info : PkinitSuppPubInfo) : Bytes :=
  sequence (explicitly 0 (writeInteger info.enctype) ++ explicitly 1 (writeOctets info.asReq) ++
    explicitly 2 (writeOctets info.pkAsRep))

def readPkinitSuppPubInfo : Reader PkinitSuppPubInfo :=
  within 0x30 do
    let enctype ← readExplicitly 0 readInteger
    let asReq ← readExplicitly 1 readOctets
    let pkAsRep ← readExplicitly 2 readOctets
    return ⟨enctype, asReq, pkAsRep⟩

def writeOtherInfo (info : OtherInfo) : Bytes :=
  sequence (writeAlgorithmIdentifier info.algorithmId ++
    explicitly 0 (writeOctets info.partyUInfo) ++ explicitly 1 (writeOctets info.partyVInfo) ++
    writeOptional (fun octets => explicitly 2 (writeOctets octets)) info.suppPubInfo ++
    writeOptional (fun octets => explicitly 3 (writeOctets octets)) info.suppPrivInfo)

def readOtherInfo : Reader OtherInfo :=
  within 0x30 do
    let algorithmId ← readAlgorithmIdentifier
    let partyUInfo ← readExplicitly 0 readOctets
    let partyVInfo ← readExplicitly 1 readOctets
    let suppPubInfo ← readOptionally 2 readOctets
    let suppPrivInfo ← readOptionally 3 readOctets
    return ⟨algorithmId, partyUInfo, partyVInfo, suppPubInfo, suppPrivInfo⟩

def writePkinitKemSuppPubInfo (info : PkinitKemSuppPubInfo) : Bytes :=
  sequence (primitively 0 (integerBytes info.enctype) ++ primitively 1 info.asReq ++
    primitively 2 info.kemSignedData)

def readPkinitKemSuppPubInfo : Reader PkinitKemSuppPubInfo :=
  within 0x30 do
    let enctype ← content 0x80
    let asReq ← content 0x81
    let kemSignedData ← content 0x82
    return ⟨integerOfBytes enctype, asReq, kemSignedData⟩

/-! ## Preauthentication data -/

def writePaData (data : PaData) : Bytes :=
  sequence (explicitly 1 (writeInteger data.paType) ++ explicitly 2 (writeOctets data.contents))

def readPaData : Reader PaData :=
  within 0x30 do
    let paType ← readExplicitly 1 readInteger
    let contents ← readExplicitly 2 readOctets
    return ⟨paType, contents⟩

/-! ## The library -/

/-- A `SET OF` of encoded elements. -/
def encodeSet (elements : List Bytes) : Except String Bytes :=
  if (sorted elements).flatten.length < 2 ^ 32 then
    .ok (setOf (sorted elements).flatten)
  else
    .error "encoding too long"

def oidCodec : Codec Oid := checked writeOid readOid
def octetsCodec : Codec Bytes := checked writeOctets readOctets
def attributeCodec : Codec Attribute := checked writeAttribute readAttribute

/-- A decoder only. -/
def readOnly {α : Type} (read : Reader α) : Codec α where
  fromDer := read.whole
  toDer _ := .error "decoded only"

def rawStream : StreamDecoder Bytes where
  decode input :=
    match splitTlv input with
    | some (_, rest) => .ok (input.take (input.length - rest.length), rest)
    | none => .error "malformed encoding"
  consumes := by
    intro input value rest decoded
    split at decoded
    · next split =>
        cases decoded
        exact length_lt_of_splitTlv split
    · cases decoded

def attributeStream : StreamDecoder Attribute where
  decode input := do
    let (der, rest) ← rawStream.decode input
    let attr ← attributeCodec.fromDer der
    return (attr, rest)
  consumes := by
    intro input value rest decoded
    simp only [bind_eq_ok, pure_eq_ok, Except.ok.injEq, Prod.exists, Prod.mk.injEq] at decoded
    obtain ⟨der, rest', split, _, _, _, rfl⟩ := decoded
    exact rawStream.consumes split

/-- The reference encoding as the model's ASN.1 library. -/
def synta : Synta where
  checkOid oid := if isEncodable oid then .ok () else .error "invalid object identifier"
  checkBitString bits :=
    if bits.unusedBits < 8 ∧ (bits.bytes = [] → bits.unusedBits = 0) then
      .ok ()
    else
      .error "invalid bit string"
  integerOverflow := "integer too large"
  generalizedTimeFromUnix unix :=
    if -62167219200 ≤ unix ∧ unix < 253402300800 then some ⟨unix⟩ else none
  objectIdentifier := oidCodec
  octetString := octetsCodec
  element := checked writeElement readElement
  algorithmIdentifier := checked writeAlgorithmIdentifier readAlgorithmIdentifier
  algorithmIdentifiers := checked
    (fun algIds => sequence (algIds.flatMap writeAlgorithmIdentifier))
    (within 0x30 (many readAlgorithmIdentifier))
  subjectPublicKeyInfo := checked writeSubjectPublicKeyInfo readSubjectPublicKeyInfo
  name := checked writeName readName
  contentInfo := checked writeContentInfo readContentInfo
  signedData := checked writeSignedData readSignedData
  issuerAndSerialNumber := checked writeIssuerAndSerialNumber readIssuerAndSerialNumber
  cmsAttribute := attributeCodec
  certificate := readOnly readCertificate
  otherName := checked writeOtherName (readOtherName 0x30)
  generalNames := readOnly (within 0x30 (many readGeneralName))
  extendedKeyUsage := checked (fun oids => sequence (oids.flatMap writeOid))
    (within 0x30 (many readOid))
  keyUsage := checked writeBitString readBitString
  paPkAsReq := checked writePaPkAsReq readPaPkAsReq
  authPack := checked writeAuthPack readAuthPack
  paPkAsRep := checked writePaPkAsRep readPaPkAsRep
  kdcDhKeyInfo := checked writeKdcDhKeyInfo readKdcDhKeyInfo
  kemRepInfo := checked writeKemRepInfo readKemRepInfo
  kdcKemInfo := checked writeKdcKemInfo readKdcKemInfo
  pkinitSuppPubInfo := checked writePkinitSuppPubInfo readPkinitSuppPubInfo
  otherInfo := checked writeOtherInfo readOtherInfo
  pkinitKemSuppPubInfo := checked writePkinitKemSuppPubInfo readPkinitKemSuppPubInfo
  tdDhParameters := checked (fun elements => sequence (elements.flatMap writeElement))
    (within 0x30 (many readElement))
  methodData := checked (fun entries => sequence (entries.flatMap writePaData))
    (within 0x30 (many readPaData))
  setOfOids oids := do
    let elements ← oids.mapM oidCodec.toDer
    encodeSet elements
  setOfOctetStrings strings := do
    let elements ← strings.mapM octetsCodec.toDer
    encodeSet elements
  setOfRaw := encodeSet
  explicitTag n raw :=
    if raw.length < 2 ^ 32 then .ok (explicitly n raw) else .error "encoding too long"
  enterExplicit n := (content (0xA0 + UInt8.ofNat n)).whole
  enterSet := (content 0x31).whole
  rawDer := rawStream
  attributes := attributeStream
  findExtensionValue := findExtensionValue
  keyUsageBit := keyUsageBit

/-! ## What the reference encoding keeps -/

theorem whole_content (tag : UInt8) {bytes : Bytes} (small : bytes.length < 2 ^ 32) :
    (content tag).whole (tlv tag bytes) = .ok bytes := by
  have split := splitTlv_tlv tag small []
  rw [List.append_nil] at split
  simp [Reader.whole, content, split]

/-- A value is one piece of a stream. -/
theorem rawStream_frames (tag : UInt8) {bytes : Bytes} (small : bytes.length < 2 ^ 32) :
    rawStream.Frames (tlv tag bytes) (tlv tag bytes) := by
  intro rest
  simp [rawStream, splitTlv_tlv tag small rest]

theorem sorted_perm (elements : List Bytes) : List.Perm (sorted elements) elements :=
  List.perm_insertionSort _ elements

end Kurbu5Pkinit.Reference

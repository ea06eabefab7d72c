import Mathlib.Tactic.Common
import Kurbu5Pkinit.Library.Codecs

/-!
# The values carried on the wire

The ASN.1 types the exchange reads and writes, after decoding: the CMS
envelope, certificates, the PKINIT request and reply, and the inputs of the
key derivation. A field the source keeps as raw DER is a byte string here; an
`INTEGER` is an integer of any size; the components of an object identifier
are a list.

How these values are spelled in bytes is the ASN.1 library's business and is
a parameter of the model (`Kurbu5Pkinit.Platform`).
-/

set_option autoImplicit false

namespace Kurbu5Pkinit

export Library (Bytes)

/-- The components of an object identifier. -/
abbrev Oid : Type := List Nat

/-- An object identifier in dotted form, as `Display` prints it. -/
def Oid.dotted (oid : Oid) : String :=
  ".".intercalate (oid.map toString)

/-- An ASN.1 value of a type the schema leaves open. -/
inductive Element where
  | objectIdentifier (oid : Oid)
  | utf8String (text : String)
  | other (der : Bytes)
  deriving DecidableEq, Repr

structure AlgorithmIdentifier where
  algorithm : Oid
  parameters : Option Element := none
  deriving DecidableEq, Repr

/-- A `BIT STRING`: its bytes and the number of unused bits in the last. -/
structure BitString where
  bytes : Bytes
  unusedBits : Nat := 0
  deriving DecidableEq, Repr

structure SubjectPublicKeyInfo where
  algorithm : AlgorithmIdentifier
  subjectPublicKey : BitString
  deriving DecidableEq, Repr

/-- A distinguished name: its relative distinguished names in order, each a
set of attribute types with their values. -/
abbrev Name : Type := List (List (Oid × Element))

/-! ## Cryptographic messages -/

structure ContentInfo where
  contentType : Oid
  content : Bytes
  deriving DecidableEq, Repr

structure Attribute where
  attrType : Oid
  attrValues : Bytes
  deriving DecidableEq, Repr

structure EncapsulatedContentInfo where
  eContentType : Oid
  eContent : Option Bytes
  deriving DecidableEq, Repr

structure IssuerAndSerialNumber where
  issuer : Name
  serialNumber : Int
  deriving DecidableEq, Repr

structure SignerInfo where
  version : Int
  sid : Bytes
  digestAlgorithm : AlgorithmIdentifier
  signedAttrs : Option Bytes
  signatureAlgorithm : AlgorithmIdentifier
  signature : Bytes
  unsignedAttrs : Option Bytes := none
  deriving DecidableEq, Repr

structure SignedData where
  version : Int
  digestAlgorithms : List AlgorithmIdentifier
  encapContentInfo : EncapsulatedContentInfo
  certificates : Option Bytes
  crls : Option Bytes := none
  signerInfos : List SignerInfo
  deriving DecidableEq, Repr

/-! ## Certificates -/

structure TbsCertificate where
  serialNumber : Int
  issuer : Bytes
  subject : Bytes
  subjectPublicKeyInfo : SubjectPublicKeyInfo
  extensions : Option Bytes
  deriving DecidableEq, Repr

structure Certificate where
  tbsCertificate : TbsCertificate
  deriving DecidableEq, Repr

structure OtherName where
  typeId : Oid
  value : Element
  deriving DecidableEq, Repr

inductive GeneralName where
  | otherName (name : OtherName)
  | dnsName (name : String)
  | other (der : Bytes)
  deriving DecidableEq, Repr

/-! ## The PKINIT request -/

/-- A `KerberosTime`, by the second it names. -/
structure GeneralizedTime where
  unix : Int
  deriving DecidableEq, Repr

structure PaChecksum2 where
  checksum : Bytes
  algorithmIdentifier : AlgorithmIdentifier
  deriving DecidableEq, Repr

structure PkAuthenticator where
  cusec : Int
  ctime : GeneralizedTime
  nonce : Int
  paChecksum : Option Bytes
  freshnessToken : Option Bytes
  paChecksum2 : Option PaChecksum2
  deriving DecidableEq, Repr

structure KdfAlgorithmId where
  kdfId : Oid
  deriving DecidableEq, Repr

structure AuthPack where
  pkAuthenticator : PkAuthenticator
  clientPublicValue : Option Element
  supportedCmsTypes : Option (List AlgorithmIdentifier)
  clientDhNonce : Option Bytes
  supportedKdfs : Option (List KdfAlgorithmId)
  deriving DecidableEq, Repr

structure PaPkAsReq where
  signedAuthPack : Bytes
  trustedCertifiers : Option Bytes := none
  kdcPkId : Option Bytes := none
  deriving DecidableEq, Repr

/-! ## The PKINIT reply -/

structure DhRepInfo where
  dhSignedData : Bytes
  serverDhNonce : Option Bytes
  kdf : Option KdfAlgorithmId
  deriving DecidableEq, Repr

/-- The two arms of `PA-PK-AS-REP` the ASN.1 library knows; the third,
`kemInfo`, is recognised by its tag before this type is decoded. -/
inductive PaPkAsRep where
  | dhInfo (info : DhRepInfo)
  | encKeyPack (der : Bytes)
  deriving DecidableEq, Repr

structure KdcDhKeyInfo where
  subjectPublicKey : BitString
  nonce : Int
  dhKeyExpiration : Option GeneralizedTime := none
  deriving DecidableEq, Repr

structure KemRepInfo where
  kemSignedData : Bytes
  deriving DecidableEq, Repr

structure KdcKemInfo where
  kemAlgorithm : AlgorithmIdentifier
  kemct : Bytes
  kdfAlgorithm : AlgorithmIdentifier
  nonce : Option Int
  serverNonce : Option Bytes
  deriving DecidableEq, Repr

/-! ## Inputs of the key derivation -/

structure PkinitSuppPubInfo where
  enctype : Int
  asReq : Bytes
  pkAsRep : Bytes
  deriving DecidableEq, Repr

structure OtherInfo where
  algorithmId : AlgorithmIdentifier
  partyUInfo : Bytes
  partyVInfo : Bytes
  suppPubInfo : Option Bytes
  suppPrivInfo : Option Bytes := none
  deriving DecidableEq, Repr

structure PkinitKemSuppPubInfo where
  enctype : Int
  asReq : Bytes
  kemSignedData : Bytes
  deriving DecidableEq, Repr

/-! ## Kerberos names and preauthentication data -/

/-- A `PrincipalName`: its type and the bytes of its components. -/
structure PrincipalName where
  nameType : Int
  nameString : List Bytes
  deriving DecidableEq, Repr

structure PaData where
  paType : Int
  contents : Bytes
  deriving DecidableEq, Repr

end Kurbu5Pkinit

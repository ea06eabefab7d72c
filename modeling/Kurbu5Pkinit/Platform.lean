import Mathlib.Algebra.Group.Int.Defs
import Kurbu5Pkinit.Constants
import Kurbu5Pkinit.Error

/-!
# What the code is built on

The ASN.1 library, the cryptographic provider, the path validator, the
Kerberos library and the operating system are not part of the repository. The
model takes their operations as a parameter: one record per dependency, one
field per operation the code calls, each returning a value or the text of the
dependency's error. Nothing is assumed of a field beyond its type; a result
that needs more names what it needs.

An operation whose outcome the caller cannot predict (a clock, a random draw,
a signature, a key generation, a file) takes the `Instant` of the call, which
fixes every such outcome. A run over many calls gives each its own instant.
-/

set_option autoImplicit false

namespace Kurbu5Pkinit

open Library

/-- The moment of one call: the clock it reads, in seconds since the epoch,
and the draw that resolves everything random. -/
structure Instant where
  now : Nat
  draw : Nat := 0
  deriving DecidableEq, Repr

/-! ## The ASN.1 library -/

/-- Encoders and decoders. A type's decoder stands for `T::from_der` and for
`Decoder::new(..).decode()` alike. -/
structure Synta where
  /-- `ObjectIdentifier::new`: the components must be encodable. -/
  checkOid : Oid → Except String Unit
  /-- `BitString::new`: the unused bits must be possible. -/
  checkBitString : BitString → Except String Unit
  /-- The text of a failed `Integer::as_i64`. -/
  integerOverflow : String
  /-- `GeneralizedTime::from_unix`, defined on the representable years. -/
  generalizedTimeFromUnix : Int → Option GeneralizedTime
  objectIdentifier : Codec Oid
  octetString : Codec Bytes
  element : Codec Element
  algorithmIdentifier : Codec AlgorithmIdentifier
  algorithmIdentifiers : Codec (List AlgorithmIdentifier)
  subjectPublicKeyInfo : Codec SubjectPublicKeyInfo
  name : Codec Name
  contentInfo : Codec ContentInfo
  signedData : Codec SignedData
  issuerAndSerialNumber : Codec IssuerAndSerialNumber
  cmsAttribute : Codec Attribute
  certificate : Codec Certificate
  otherName : Codec OtherName
  generalNames : Codec (List GeneralName)
  extendedKeyUsage : Codec (List Oid)
  keyUsage : Codec BitString
  paPkAsReq : Codec PaPkAsReq
  authPack : Codec AuthPack
  paPkAsRep : Codec PaPkAsRep
  kdcDhKeyInfo : Codec KdcDhKeyInfo
  kemRepInfo : Codec KemRepInfo
  kdcKemInfo : Codec KdcKemInfo
  pkinitSuppPubInfo : Codec PkinitSuppPubInfo
  otherInfo : Codec OtherInfo
  pkinitKemSuppPubInfo : Codec PkinitKemSuppPubInfo
  tdDhParameters : Codec (List Element)
  methodData : Codec (List PaData)
  /-- `SetOf::to_der`, which sorts its elements. -/
  setOfOids : List Oid → Except String Bytes
  setOfOctetStrings : List Bytes → Except String Bytes
  setOfRaw : List Bytes → Except String Bytes
  /-- `ExplicitTag::context_specific(n, raw)`. -/
  explicitTag : Nat → Bytes → Except String Bytes
  /-- Enter a constructed context-specific `[n]`: the bytes inside. -/
  enterExplicit : Nat → Bytes → Except String Bytes
  /-- Enter a constructed `SET` (universal tag 17): the bytes inside. -/
  enterSet : Bytes → Except String Bytes
  /-- Take one value of any type off a stream, as its raw bytes. -/
  rawDer : StreamDecoder Bytes
  /-- Take one CMS attribute off a stream. -/
  attributes : StreamDecoder Attribute
  /-- `find_extension_value`: the value of the extension of this name. -/
  findExtensionValue : Bytes → Oid → Option Bytes
  /-- `key_usage_bit`. -/
  keyUsageBit : BitString → Nat → Bool

/-- `ObjectIdentifier::new`. -/
def Synta.newOid (synta : Synta) (components : Oid) : Except String Oid := do
  synta.checkOid components
  return components

/-- `BitString::new`. -/
def Synta.newBitString (synta : Synta) (bytes : Bytes) (unusedBits : Nat) :
    Except String BitString := do
  synta.checkBitString ⟨bytes, unusedBits⟩
  return ⟨bytes, unusedBits⟩

/-- `Integer::as_i64`. -/
def Synta.asI64 (synta : Synta) (value : Int) : Except String Int :=
  if -2 ^ 63 ≤ value ∧ value < 2 ^ 63 then .ok value else .error synta.integerOverflow

/-! ## Cryptography -/

/-- A private key, which only the provider looks into. -/
structure PrivateKey where
  handle : Bytes
  deriving DecidableEq, Repr

/-- A public key the provider decoded for verifying a signature. -/
structure PublicKey where
  spki : Bytes
  deriving DecidableEq, Repr

/-- A public key-agreement key the provider decoded: its size, and what its
exported parameters say of the group. -/
structure PeerKey where
  spki : Bytes
  bits : Nat
  groupName : Option String
  prime : Option Bytes
  deriving DecidableEq, Repr

structure Cryptography where
  /-- `digest_alg_id`: the identifier of a hash by its name. -/
  digestAlgId : String → Option AlgorithmIdentifier
  /-- `digest_oid_to_name`: the name of a hash by its identifier. -/
  digestOidToName : Oid → Option String
  hashData : String → Bytes → Except String Bytes
  /-- The signature algorithm a key uses under a hash, encoded. -/
  signatureAlgorithmDer : PrivateKey → String → Except String Bytes
  signTbs : Instant → PrivateKey → String → Bytes → Except String Bytes
  publicKeyFromDer : Bytes → Except String PublicKey
  /-- `verify_signature(message, algorithm, signature)`. -/
  verifySignature : PublicKey → Bytes → Bytes → Bytes → Except String Unit
  /-- Whether the identifier names a composite ML-DSA algorithm. -/
  isCompositeMlDsa : Oid → Bool
  randomBytes : Instant → Nat → Except String Bytes
  /-- Generate a key from encoded domain parameters. -/
  generateDhx : Instant → Bytes → Except String PrivateKey
  /-- Generate a key on a named curve. -/
  generateEc : Instant → String → Except String PrivateKey
  publicKeyToDer : PrivateKey → Except String Bytes
  peerKeyFromDer : Bytes → Except String PeerKey
  exportFailure : PeerKey → Option String
  derive : PrivateKey → PeerKey → Except String Bytes
  generateMlKem : Instant → String → Except String PrivateKey
  generateCompositeKem : Instant → Nat → Except String PrivateKey
  publicKeySpkiDer : PrivateKey → Except String Bytes
  mlKemEncapsulate : Instant → Bytes → Except String (Bytes × Bytes)
  compositeKemEncapsulate : Instant → Bytes → Except String (Bytes × Bytes)
  mlKemDecapsulate : PrivateKey → Bytes → Except String Bytes
  compositeKemDecapsulate : PrivateKey → Bytes → Except String Bytes
  hkdfExtract : String → Option Bytes → Bytes → Except String Bytes
  hkdfExpand : String → Bytes → Bytes → Nat → Except String Bytes
  /-- The single-step derivation under a digest. -/
  sskdf : String → Bytes → Bytes → Nat → Except String Bytes

/-! ## Path validation -/

structure VerificationCertificate where
  certificate : Certificate
  der : Bytes
  deriving DecidableEq, Repr

inductive ValidationProfile where
  | webPki
  | rfc5280
  deriving DecidableEq, Repr

/-- The two policies the code asks for: accept any extension, or the default
rules for a CA (a critical `BasicConstraints` with cA, and `keyCertSign`). -/
inductive ExtensionPolicy where
  | permitAll
  | defaultWebPkiCa
  deriving DecidableEq, Repr

/-- The lists of algorithms a path may use. -/
inductive PermittedAlgorithms where
  | webPki
  | webPkiWithPq
  deriving DecidableEq, Repr

structure PolicyDefinition where
  validationTime : Int
  profile : ValidationProfile
  extendedKeyUsage : Option Oid
  permittedSpkiAlgorithms : PermittedAlgorithms
  permittedSignatureAlgorithms : PermittedAlgorithms
  caExtensionPolicy : ExtensionPolicy
  eeExtensionPolicy : ExtensionPolicy
  deriving DecidableEq, Repr

/-- The policy every caller sets up, up to what is demanded of CAs. -/
def PolicyDefinition.newClient (now : Int) (ca : ExtensionPolicy) : PolicyDefinition where
  validationTime := now
  profile := .rfc5280
  extendedKeyUsage := none
  permittedSpkiAlgorithms := .webPkiWithPq
  permittedSignatureAlgorithms := .webPkiWithPq
  caExtensionPolicy := ca
  eeExtensionPolicy := .permitAll

structure RevocationChecks where
  crls : Option (List Bytes)
  ocsp : Option (List Bytes) := none
  deriving DecidableEq, Repr

structure X509Verification where
  /-- Whether a store can be built from these anchors. -/
  openStore : List Bytes → Except String Unit
  /-- Search for a path from the leaf to an anchor. -/
  verify : (leaf : VerificationCertificate) → (intermediates : List VerificationCertificate) →
    PolicyDefinition → (anchors : List Bytes) → RevocationChecks → Except String Unit

/-! ## Kerberos -/

/-- A principal as the Kerberos library holds it. -/
structure Principal where
  components : List Bytes
  realm : Bytes
  deriving DecidableEq, Repr

structure Kerberos where
  /-- `parse_principal`: the name and, where given, the realm. -/
  parsePrincipal : String → Option (PrincipalName × Option Bytes)
  realmToString : Bytes → String
  asLatin1String : Bytes → String
  /-- `encode_krb5_principal_name_from_parts`. -/
  encodePrincipalName : Int → List String → String → Except String Bytes
  /-- `decode_krb5_san`: the principal an encoded `OtherName` carries. -/
  decodeKrb5San : Bytes → Option String
  /-- `krb5_unparse_name`. -/
  unparsePrincipal : Principal → Except Int String
  /-- `krb5_c_keylengths`: the seed length and the key length. -/
  keylengths : Int32 → Except Int (Nat × Nat)
  /-- `krb5_c_random_to_key`, into a key of the given length. -/
  randomToKey : Int32 → Nat → Bytes → Except Int Bytes

/-- The key-derivation operations that need the Kerberos library. -/
structure OctetString2Key where
  randomToKey : Int32 → Bytes → Except PkinitError Bytes
  randomLength : Int32 → Except PkinitError Nat

/-! ## The operating system -/

structure DirEntry where
  path : String
  isFile : Bool
  deriving DecidableEq, Repr

/-- Why a PKCS#12 archive could not be opened: the decryption failed under
this password, or anything else. -/
inductive Pkcs12Error where
  | decryption (text : String)
  | other (text : String)
  deriving DecidableEq, Repr

structure Pkcs12Contents where
  certs : List Bytes
  keys : List Bytes
  deriving DecidableEq, Repr

/-- Files, environment variables, tokens, and the readers of what they hold. -/
structure Files where
  read : Instant → String → Except String Bytes
  readDir : Instant → String → Except String (List (Except String DirEntry))
  envVar : Instant → String → Except String String
  /-- `read_pki_blocks`: the labelled blocks of a PEM or DER file. -/
  readPkiBlocks : Bytes → Except String (List (String × Bytes))
  pkiFromPkcs12 : Bytes → Bytes → Except Pkcs12Error Pkcs12Contents
  privateKeyFromPkcs11Uri : Instant → String → Except String PrivateKey
  certsFromPkcs11Uri : Instant → String → Except String (List Bytes)

/-- Everything the core calls. The width of `usize` is the machine's. -/
structure Platform where
  usizeBits : Nat
  synta : Synta
  crypto : Cryptography
  x509 : X509Verification
  krb5 : Kerberos
  files : Files

end Kurbu5Pkinit

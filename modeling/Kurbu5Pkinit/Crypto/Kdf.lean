import Kurbu5Pkinit.Library.Fallible
import Kurbu5Pkinit.Platform

/-!
# Key derivation

Three derivations of a reply key: the agile one of the DH path over an
`OtherInfo`, the HKDF of the KEM path, and the legacy one used when no
function was negotiated.
-/

set_option autoImplicit false

namespace Kurbu5Pkinit

open Library

structure DerivedKey where
  enctype : Int32
  keyData : Bytes
  deriving DecidableEq, Repr

/-- The KDC's choice: the first of its preferences the client listed. -/
def pickKdfAlg (clientKdfs : List Oid) : Option Oid :=
  KDF_PREFERENCE_ORDER.find? fun preferred => clientKdfs.any fun kdf => kdf = preferred

def kdfOidToDigestName (kdfOid : Oid) : Except PkinitError String :=
  if kdfOid = ID_PKINIT_KDF_AH_SHA1 then
    .ok "SHA1"
  else if kdfOid = ID_PKINIT_KDF_AH_SHA256 then
    .ok "SHA2-256"
  else if kdfOid = ID_PKINIT_KDF_AH_SHA512 then
    .ok "SHA2-512"
  else
    .error .noSupportedKdf

structure KdfInput where
  sharedSecret : Bytes
  kdfOid : Oid
  enctype : Int32
  partyUInfo : Bytes
  partyVInfo : Bytes
  asReqDer : Bytes
  paPkAsRepDer : Bytes
  deriving DecidableEq, Repr

def pkinitKdf (platform : Platform) (o2k : OctetString2Key) (input : KdfInput) :
    Except PkinitError DerivedKey := do
  let digestName ← kdfOidToDigestName input.kdfOid
  let randLen ← o2k.randomLength input.enctype
  let oid ← (platform.synta.newOid input.kdfOid).mapError (asn1Err "KDF OID")
  let suppPubInfoDer ← (platform.synta.pkinitSuppPubInfo.toDer {
    enctype := input.enctype.toInt
    asReq := input.asReqDer
    pkAsRep := input.paPkAsRepDer }).mapError (asn1Err "encode SuppPubInfo")
  let otherInfoDer ← (platform.synta.otherInfo.toDer {
    algorithmId := { algorithm := oid }
    partyUInfo := input.partyUInfo
    partyVInfo := input.partyVInfo
    suppPubInfo := some suppPubInfoDer }).mapError (asn1Err "encode OtherInfo")
  let randomData ← (platform.crypto.sskdf digestName input.sharedSecret otherInfoDer
    randLen).mapError .kdfFailed
  let keyData ← o2k.randomToKey input.enctype randomData
  return ⟨input.enctype, keyData⟩

structure KemKdfInput where
  sharedSecret : Bytes
  enctype : Int32
  asReqDer : Bytes
  kemSignedData : Bytes
  deriving DecidableEq, Repr

def pkinitKemKdf (platform : Platform) (o2k : OctetString2Key) (input : KemKdfInput) :
    Except PkinitError DerivedKey := do
  let randLen ← o2k.randomLength input.enctype
  let suppPubInfoDer ← (platform.synta.pkinitKemSuppPubInfo.toDer {
    enctype := input.enctype.toInt
    asReq := input.asReqDer
    kemSignedData := input.kemSignedData }).mapError (asn1Err "encode PkinitKEMSuppPubInfo")
  let prk ← (platform.crypto.hkdfExtract "sha512" none input.sharedSecret).mapError
    fun e => .kdfFailed s!"HKDF-Extract: {e}"
  let okm ← (platform.crypto.hkdfExpand "sha512" prk suppPubInfoDer randLen).mapError
    fun e => .kdfFailed s!"HKDF-Expand: {e}"
  let keyData ← o2k.randomToKey input.enctype okm
  return ⟨input.enctype, keyData⟩

/-- The legacy derivation: the secret's first bytes, padded with zeros. -/
def octetstring2key (o2k : OctetString2Key) (sharedSecret : Bytes) (enctype : Int32) :
    Except PkinitError DerivedKey := do
  let randLen ← o2k.randomLength enctype
  let copyLen := min randLen sharedSecret.length
  let randomData := sharedSecret.take copyLen ++ List.replicate (randLen - copyLen) 0
  let keyData ← o2k.randomToKey enctype randomData
  return ⟨enctype, keyData⟩

/-! ## Over the Kerberos library -/

/-- `Krb5OctetString2Key`: the operations both plugins pass in. -/
def krb5OctetString2Key (platform : Platform) : OctetString2Key where
  randomToKey := fun enctype randomData => do
    let (_, keylength) ← (platform.krb5.keylengths enctype).mapError
      fun ret => .kdfFailed s!"krb5_c_keylengths failed: {ret}"
    (platform.krb5.randomToKey enctype keylength randomData).mapError
      fun ret => .kdfFailed s!"krb5_c_random_to_key failed: {ret}"
  randomLength := fun enctype => do
    let (keybytes, _) ← (platform.krb5.keylengths enctype).mapError
      fun ret => .kdfFailed s!"krb5_c_keylengths failed: {ret}"
    return keybytes

/-! ## Party names -/

/-- The bytes of an ASCII text. -/
def asciiBytes (text : String) : Bytes :=
  text.toList.map fun c => UInt8.ofNat c.toNat

def isAnonymousPrincipal (platform : Platform) (name : String) : Bool :=
  match platform.krb5.parsePrincipal name with
  | none => false
  | some (pname, _) => pname.nameString = [asciiBytes "WELLKNOWN", asciiBytes "ANONYMOUS"]

/-- A principal as a party of the derivation. An anonymous one is the same in
every realm. -/
def encodePrincipalForKdf (platform : Platform) (name : String) : Except PkinitError Bytes :=
  if isAnonymousPrincipal platform name then
    (platform.krb5.encodePrincipalName NT_WELLKNOWN ["WELLKNOWN", "ANONYMOUS"]
      "WELLKNOWN:ANONYMOUS").mapError (asn1Err "encode anonymous principal for KDF")
  else do
    let (pname, realmOpt) ← okOr (platform.krb5.parsePrincipal name)
      (.asn1 s!"invalid principal name: {name}")
    let realmStr := match realmOpt with
      | some realm => platform.krb5.realmToString realm
      | none => ""
    (platform.krb5.encodePrincipalName pname.nameType
      (pname.nameString.map platform.krb5.asLatin1String) realmStr).mapError
      (asn1Err "encode principal for KDF")

end Kurbu5Pkinit

import Kurbu5Pkinit.Asn1

/-!
# Groups, KEM algorithms and object identifiers

The two families of key exchange the client and the KDC negotiate, with the
numbers each member carries, and the registered names both sides compare.
-/

set_option autoImplicit false

namespace Kurbu5Pkinit

/-! ## Diffie-Hellman groups -/

inductive DhGroup where
  | oakley2048
  | oakley4096
  | ecP256
  | ecP384
  | ecP521
  deriving DecidableEq, Repr

namespace DhGroup

def minBits : DhGroup → Nat
  | oakley2048 => 2048
  | oakley4096 => 4096
  | ecP256 => 256
  | ecP384 => 384
  | ecP521 => 521

def isCurve : DhGroup → Bool
  | ecP256 | ecP384 | ecP521 => true
  | oakley2048 | oakley4096 => false

end DhGroup

/-! ## KEM algorithms -/

inductive KemAlgorithm where
  | mlKem512
  | mlKem768
  | mlKem1024
  | mlKem768X25519
  | mlKem768EcdhP256
  | mlKem1024EcdhP384
  deriving DecidableEq, Repr

/-- `id-ml-kem-512` and its siblings. -/
def ID_ML_KEM_512 : Oid := [2, 16, 840, 1, 101, 3, 4, 4, 1]
def ID_ML_KEM_768 : Oid := [2, 16, 840, 1, 101, 3, 4, 4, 2]
def ID_ML_KEM_1024 : Oid := [2, 16, 840, 1, 101, 3, 4, 4, 3]

/-- The composite KEMs, sub-arcs 58, 59 and 63 of one arc. -/
def ID_MLKEM768_X25519_SHA3_256 : Oid := [1, 3, 6, 1, 5, 5, 7, 6, 58]
def ID_MLKEM768_ECDH_P256_SHA3_256 : Oid := [1, 3, 6, 1, 5, 5, 7, 6, 59]
def ID_MLKEM1024_ECDH_P384_SHA3_256 : Oid := [1, 3, 6, 1, 5, 5, 7, 6, 63]

namespace KemAlgorithm

def parameterSetName : KemAlgorithm → String
  | mlKem512 => "ML-KEM-512"
  | mlKem768 => "ML-KEM-768"
  | mlKem1024 => "ML-KEM-1024"
  | mlKem768X25519 => "ML-KEM-768-X25519"
  | mlKem768EcdhP256 => "ML-KEM-768-ECDH-P256"
  | mlKem1024EcdhP384 => "ML-KEM-1024-ECDH-P384"

def isComposite : KemAlgorithm → Bool
  | mlKem768X25519 | mlKem768EcdhP256 | mlKem1024EcdhP384 => true
  | _ => false

/-- The sub-arc of a composite KEM, `none` for a pure one. -/
def compositeSubArc : KemAlgorithm → Option Nat
  | mlKem768X25519 => some 58
  | mlKem768EcdhP256 => some 59
  | mlKem1024EcdhP384 => some 63
  | _ => none

/-- A composite ciphertext is the ML-KEM one followed by the traditional one. -/
def ciphertextLen : KemAlgorithm → Nat
  | mlKem512 => 768
  | mlKem768 => 1088
  | mlKem1024 => 1568
  | mlKem768X25519 => 1088 + 32
  | mlKem768EcdhP256 => 1088 + 65
  | mlKem1024EcdhP384 => 1568 + 97

def oid : KemAlgorithm → Oid
  | mlKem512 => ID_ML_KEM_512
  | mlKem768 => ID_ML_KEM_768
  | mlKem1024 => ID_ML_KEM_1024
  | mlKem768X25519 => ID_MLKEM768_X25519_SHA3_256
  | mlKem768EcdhP256 => ID_MLKEM768_ECDH_P256_SHA3_256
  | mlKem1024EcdhP384 => ID_MLKEM1024_ECDH_P384_SHA3_256

def fromOid (oid : Oid) : Option KemAlgorithm :=
  if oid = ID_ML_KEM_512 then
    some mlKem512
  else if oid = ID_ML_KEM_768 then
    some mlKem768
  else if oid = ID_ML_KEM_1024 then
    some mlKem1024
  else if oid = ID_MLKEM768_X25519_SHA3_256 then
    some mlKem768X25519
  else if oid = ID_MLKEM768_ECDH_P256_SHA3_256 then
    some mlKem768EcdhP256
  else if oid = ID_MLKEM1024_ECDH_P384_SHA3_256 then
    some mlKem1024EcdhP384
  else
    none

def fromName (name : String) : Option KemAlgorithm :=
  match name.map Char.toLower with
  | "ml-kem-512" | "mlkem512" => some mlKem512
  | "ml-kem-768" | "mlkem768" => some mlKem768
  | "ml-kem-1024" | "mlkem1024" => some mlKem1024
  | "ml-kem-768-x25519" | "mlkem768-x25519" => some mlKem768X25519
  | "ml-kem-768-ecdh-p256" | "mlkem768-ecdh-p256" => some mlKem768EcdhP256
  | "ml-kem-1024-ecdh-p384" | "mlkem1024-ecdh-p384" => some mlKem1024EcdhP384
  | _ => none

/-- The NIST category the client's floor is compared by. -/
def strengthOrder : KemAlgorithm → Nat
  | mlKem512 => 1
  | mlKem768 => 3
  | mlKem1024 => 5
  | mlKem768X25519 => 3
  | mlKem768EcdhP256 => 3
  | mlKem1024EcdhP384 => 5

/-- The pure algorithms at or above this one's category. -/
def algorithmsAtOrAbove (floor : KemAlgorithm) : List KemAlgorithm :=
  [mlKem512, mlKem768, mlKem1024].filter
    fun candidate => floor.strengthOrder ≤ candidate.strengthOrder

/-- An algorithm is read back from the identifier it is sent under. -/
@[simp] theorem fromOid_oid (alg : KemAlgorithm) : fromOid alg.oid = some alg := by
  cases alg <;> rfl

end KemAlgorithm

/-- The path negotiated for one exchange, with its group or algorithm. -/
inductive KeyExchangeType where
  | dh (group : DhGroup)
  | kem (algorithm : KemAlgorithm)
  deriving DecidableEq, Repr

/-! ## Registered names -/

def ID_SIGNED_DATA : Oid := [1, 2, 840, 113549, 1, 7, 2]
def PKCS9_CONTENT_TYPE : Oid := [1, 2, 840, 113549, 1, 9, 3]
def PKCS9_MESSAGE_DIGEST : Oid := [1, 2, 840, 113549, 1, 9, 4]

def ID_PKINIT_AUTH_DATA : Oid := [1, 3, 6, 1, 5, 2, 3, 1]
def ID_PKINIT_DHKEY_DATA : Oid := [1, 3, 6, 1, 5, 2, 3, 2]
def ID_PKINIT_KPCLIENT_AUTH : Oid := [1, 3, 6, 1, 5, 2, 3, 4]
def ID_PKINIT_KPKDC : Oid := [1, 3, 6, 1, 5, 2, 3, 5]
def ID_PKINIT_KDF_AH_SHA1 : Oid := [1, 3, 6, 1, 5, 2, 3, 6, 1]
def ID_PKINIT_KDF_AH_SHA256 : Oid := [1, 3, 6, 1, 5, 2, 3, 6, 2]
def ID_PKINIT_KDF_AH_SHA512 : Oid := [1, 3, 6, 1, 5, 2, 3, 6, 3]

/-- `id-pkinit-KEMKeyData`, provisionally value 7 of the arc. -/
def ID_PKINIT_KEM_KEY_DATA : Oid := [1, 3, 6, 1, 5, 2, 3, 7]

def ID_ALG_HKDF_WITH_SHA512 : Oid := [1, 2, 840, 113549, 1, 9, 16, 3, 30]
def ID_SHA256 : Oid := [2, 16, 840, 1, 101, 3, 4, 2, 1]

def ID_ML_DSA_44 : Oid := [2, 16, 840, 1, 101, 3, 4, 3, 17]
def ID_ML_DSA_65 : Oid := [2, 16, 840, 1, 101, 3, 4, 3, 18]
def ID_ML_DSA_87 : Oid := [2, 16, 840, 1, 101, 3, 4, 3, 19]

def ID_MS_KP_SMARTCARD_LOGON : Oid := [1, 3, 6, 1, 4, 1, 311, 20, 2, 2]
def ID_MS_SAN_UPN : Oid := [1, 3, 6, 1, 4, 1, 311, 20, 2, 3]
def ID_KP_SERVER_AUTH : Oid := [1, 3, 6, 1, 5, 5, 7, 3, 1]

def SUBJECT_ALT_NAME : Oid := [2, 5, 29, 17]
def EXTENDED_KEY_USAGE : Oid := [2, 5, 29, 37]
def KEY_USAGE : Oid := [2, 5, 29, 15]

/-- The bit of `KeyUsage` that permits signing. -/
def KEY_USAGE_DIGITAL_SIGNATURE : Nat := 0

def ID_EC_PUBLIC_KEY : Oid := [1, 2, 840, 10045, 2, 1]
def DHPUBLICNUMBER : Oid := [1, 2, 840, 10046, 2, 1]
def SECP256R1 : Oid := [1, 2, 840, 10045, 3, 1, 7]
def SECP384R1 : Oid := [1, 3, 132, 0, 34]
def SECP521R1 : Oid := [1, 3, 132, 0, 35]

/-- The KDC's preference among the key derivation functions of the DH path. -/
def KDF_PREFERENCE_ORDER : List Oid :=
  [ID_PKINIT_KDF_AH_SHA256, ID_PKINIT_KDF_AH_SHA1, ID_PKINIT_KDF_AH_SHA512]

/-! ## Kerberos numbers -/

def PA_PK_AS_REQ : Int := 16
def PA_PK_AS_REP : Int := 17
def PA_PKINIT_KX : Int := 147
def PA_AS_FRESHNESS : Int := 150

/-- Error typed data: acceptable key exchanges, certifiers, certificates. -/
def TD_DH_PARAMETERS : Int := 109
def TD_TRUSTED_CERTIFIERS : Int := 104
def TD_PKINIT_CMS_CERTIFICATES : Int := 101

def NT_WELLKNOWN : Int := 11

def KRB5_PREAUTH_FAILED : Int := -1765328174
def KRB5KDC_ERR_PREAUTH_FAILED : Int := -1765328360
def KRB5KDC_ERR_CLIENT_NOT_TRUSTED : Int := -1765328322
def KRB5KDC_ERR_INVALID_SIG : Int := -1765328320
def KRB5KDC_ERR_EPHEMERAL_KEY_PARAMS_NOT_ACCEPTED : Int := -1765328319
def KRB5KDC_ERR_CLIENT_NAME_MISMATCH : Int := -1765328309
def KRB5KDC_ERR_INCONSISTENT_KEY_PURPOSE : Int := -1765328307
def KRB5KDC_ERR_NO_ACCEPTABLE_KDF : Int := -1765328284
def EINVAL : Int := 22

end Kurbu5Pkinit

import Kurbu5Pkinit.KemTypes

/-!
# Diffie-Hellman key pairs and groups

Two MODP groups and three curves. A group is named on the wire by an
`AlgorithmIdentifier`: the curve's identifier as the parameters of
`id-ecPublicKey`, or the encoded domain parameters under `dhpublicnumber`. A
peer's key is identified from what the provider exports of it.
-/

set_option autoImplicit false

namespace Kurbu5Pkinit

open Library

/-! ## The well-known groups -/

/-- Sixteen bytes, most significant first. -/
def row (value : Nat) : Bytes :=
  (List.range 16).map fun index => UInt8.ofNat (value >>> (8 * (15 - index)))

/-- RFC 3526's 2048-bit group as encoded domain parameters. -/
def OAKLEY_2048_DER : Bytes :=
  [0x3082020C0282010100FFFFFFFFFFFFFF, 0xFFC90FDAA22168C234C4C6628B80DC1C,
   0xD129024E088A67CC74020BBEA63B139B, 0x22514A08798E3404DDEF9519B3CD3A43,
   0x1B302B0A6DF25F14374FE1356D6D51C2, 0x45E485B576625E7EC6F44C42E9A637ED,
   0x6B0BFF5CB6F406B7EDEE386BFB5A899F, 0xA5AE9F24117C4B1FE649286651ECE45B,
   0x3DC2007CB8A163BF0598DA48361C55D3, 0x9A69163FA8FD24CF5F83655D23DCA3AD,
   0x961C62F356208552BB9ED52907709696, 0x6D670C354E4ABC9804F1746C08CA1821,
   0x7C32905E462E36CE3BE39E772C180E86, 0x039B2783A2EC07A28FB5C55DF06F4C52,
   0xC9DE2BCBF6955817183995497CEA956A, 0xE515D2261898FA051015728E5A8AACAA,
   0x68FFFFFFFFFFFFFFFF02010202820100, 0x7FFFFFFFFFFFFFFFE487ED5110B4611A,
   0x62633145C06E0E68948127044533E63A, 0x0105DF531D89CD9128A5043CC71A026E,
   0xF7CA8CD9E69D218D98158536F92F8A1B, 0xA7F09AB6B6A8E122F242DABB312F3F63,
   0x7A262174D31BF6B585FFAE5B7A035BF6, 0xF71C35FDAD44CFD2D74F9208BE258FF3,
   0x24943328F6722D9EE1003E5C50B1DF82, 0xCC6D241B0E2AE9CD348B1FD47E9267AF,
   0xC1B2AE91EE51D6CB0E3179AB1042A95D, 0xCF6A9483B84B4B36B3861AA7255E4C02,
   0x78BA3604650C10BE19482F23171B671D, 0xF1CF3B960C074301CD93C1D17603D147,
   0xDAE2AEF837A62964EF15E5FB4AAC0B8C, 0x1CCAA4BE754AB5728AE9130C4C7D0288,
   0x0AB9472D455655347FFFFFFFFFFFFFFF].flatMap row

/-- RFC 3526's 4096-bit group as encoded domain parameters. -/
def OAKLEY_4096_DER : Bytes :=
  [0x3082040C0282020100FFFFFFFFFFFFFF, 0xFFC90FDAA22168C234C4C6628B80DC1C,
   0xD129024E088A67CC74020BBEA63B139B, 0x22514A08798E3404DDEF9519B3CD3A43,
   0x1B302B0A6DF25F14374FE1356D6D51C2, 0x45E485B576625E7EC6F44C42E9A637ED,
   0x6B0BFF5CB6F406B7EDEE386BFB5A899F, 0xA5AE9F24117C4B1FE649286651ECE45B,
   0x3DC2007CB8A163BF0598DA48361C55D3, 0x9A69163FA8FD24CF5F83655D23DCA3AD,
   0x961C62F356208552BB9ED52907709696, 0x6D670C354E4ABC9804F1746C08CA1821,
   0x7C32905E462E36CE3BE39E772C180E86, 0x039B2783A2EC07A28FB5C55DF06F4C52,
   0xC9DE2BCBF6955817183995497CEA956A, 0xE515D2261898FA051015728E5A8AAAC4,
   0x2DAD33170D04507A33A85521ABDF1CBA, 0x64ECFB850458DBEF0A8AEA71575D060C,
   0x7DB3970F85A6E1E4C7ABF5AE8CDB0933, 0xD71E8C94E04A25619DCEE3D2261AD2EE,
   0x6BF12FFA06D98A0864D87602733EC86A, 0x64521F2B18177B200CBBE117577A615D,
   0x6C770988C0BAD946E208E24FA074E5AB, 0x3143DB5BFCE0FD108E4B82D120A92108,
   0x011A723C12A787E6D788719A10BDBA5B, 0x2699C327186AF4E23C1A946834B6150B,
   0xDA2583E9CA2AD44CE8DBBBC2DB04DE8E, 0xF92E8EFC141FBECAA6287C59474E6BC0,
   0x5D99B2964FA090C3A2233BA186515BE7, 0xED1F612970CEE2D7AFB81BDD76217048,
   0x1CD0069127D5B05AA993B4EA988D8FDD, 0xC186FFB7DC90A6C08F4DF435C9340631,
   0x99FFFFFFFFFFFFFFFF02010202820200, 0x7FFFFFFFFFFFFFFFE487ED5110B4611A,
   0x62633145C06E0E68948127044533E63A, 0x0105DF531D89CD9128A5043CC71A026E,
   0xF7CA8CD9E69D218D98158536F92F8A1B, 0xA7F09AB6B6A8E122F242DABB312F3F63,
   0x7A262174D31BF6B585FFAE5B7A035BF6, 0xF71C35FDAD44CFD2D74F9208BE258FF3,
   0x24943328F6722D9EE1003E5C50B1DF82, 0xCC6D241B0E2AE9CD348B1FD47E9267AF,
   0xC1B2AE91EE51D6CB0E3179AB1042A95D, 0xCF6A9483B84B4B36B3861AA7255E4C02,
   0x78BA3604650C10BE19482F23171B671D, 0xF1CF3B960C074301CD93C1D17603D147,
   0xDAE2AEF837A62964EF15E5FB4AAC0B8C, 0x1CCAA4BE754AB5728AE9130C4C7D0288,
   0x0AB9472D45556216D6998B8682283D19, 0xD42A90D5EF8E5D32767DC2822C6DF785,
   0x457538ABAE83063ED9CB87C2D370F263, 0xD5FAD7466D8499EB8F464A702512B0CE,
   0xE771E9130D697735F897FD036CC50432, 0x6C3B01399F643532290F958C0BBD9006,
   0x5DF08BABBD30AEB63B84C4605D6CA371, 0x047127D03A72D598A1EDADFE707E8847,
   0x25C16890549084008D391E0953C3F36B, 0xC438CD085EDD2D934CE1938C357A711E,
   0x0D4A341A5B0A85ED12C1F4E5156A2674, 0x6DDDE16D826F477C97477E0A0FDF6553,
   0x143E2CA3A735E02ECCD94B27D04861D1, 0x119DD0C328ADF3F68FB094B867716BD7,
   0xDC0DEEBB10B8240E68034893EAD82D54, 0xC9DA754C46C7EEE0C37FDBEE48536047,
   0xA6FA1AE49A0318CCFFFFFFFFFFFFFFFF].flatMap row

/-- The prime of the 2048-bit group. -/
def OAKLEY_2048_PRIME : Bytes :=
  [0xFFFFFFFFFFFFFFFFC90FDAA22168C234, 0xC4C6628B80DC1CD129024E088A67CC74,
   0x020BBEA63B139B22514A08798E3404DD, 0xEF9519B3CD3A431B302B0A6DF25F1437,
   0x4FE1356D6D51C245E485B576625E7EC6, 0xF44C42E9A637ED6B0BFF5CB6F406B7ED,
   0xEE386BFB5A899FA5AE9F24117C4B1FE6, 0x49286651ECE45B3DC2007CB8A163BF05,
   0x98DA48361C55D39A69163FA8FD24CF5F, 0x83655D23DCA3AD961C62F356208552BB,
   0x9ED529077096966D670C354E4ABC9804, 0xF1746C08CA18217C32905E462E36CE3B,
   0xE39E772C180E86039B2783A2EC07A28F, 0xB5C55DF06F4C52C9DE2BCBF695581718,
   0x3995497CEA956AE515D2261898FA0510, 0x15728E5A8AACAA68FFFFFFFFFFFFFFFF].flatMap row

/-- The prime of the 4096-bit group. -/
def OAKLEY_4096_PRIME : Bytes :=
  [0xFFFFFFFFFFFFFFFFC90FDAA22168C234, 0xC4C6628B80DC1CD129024E088A67CC74,
   0x020BBEA63B139B22514A08798E3404DD, 0xEF9519B3CD3A431B302B0A6DF25F1437,
   0x4FE1356D6D51C245E485B576625E7EC6, 0xF44C42E9A637ED6B0BFF5CB6F406B7ED,
   0xEE386BFB5A899FA5AE9F24117C4B1FE6, 0x49286651ECE45B3DC2007CB8A163BF05,
   0x98DA48361C55D39A69163FA8FD24CF5F, 0x83655D23DCA3AD961C62F356208552BB,
   0x9ED529077096966D670C354E4ABC9804, 0xF1746C08CA18217C32905E462E36CE3B,
   0xE39E772C180E86039B2783A2EC07A28F, 0xB5C55DF06F4C52C9DE2BCBF695581718,
   0x3995497CEA956AE515D2261898FA0510, 0x15728E5A8AAAC42DAD33170D04507A33,
   0xA85521ABDF1CBA64ECFB850458DBEF0A, 0x8AEA71575D060C7DB3970F85A6E1E4C7,
   0xABF5AE8CDB0933D71E8C94E04A25619D, 0xCEE3D2261AD2EE6BF12FFA06D98A0864,
   0xD87602733EC86A64521F2B18177B200C, 0xBBE117577A615D6C770988C0BAD946E2,
   0x08E24FA074E5AB3143DB5BFCE0FD108E, 0x4B82D120A92108011A723C12A787E6D7,
   0x88719A10BDBA5B2699C327186AF4E23C, 0x1A946834B6150BDA2583E9CA2AD44CE8,
   0xDBBBC2DB04DE8EF92E8EFC141FBECAA6, 0x287C59474E6BC05D99B2964FA090C3A2,
   0x233BA186515BE7ED1F612970CEE2D7AF, 0xB81BDD762170481CD0069127D5B05AA9,
   0x93B4EA988D8FDDC186FFB7DC90A6C08F, 0x4DF435C934063199FFFFFFFFFFFFFFFF].flatMap row

def groupParamsDer : DhGroup → Option Bytes
  | .oakley2048 => some OAKLEY_2048_DER
  | .oakley4096 => some OAKLEY_4096_DER
  | _ => none

/-! ## Key pairs -/

structure DhKeyPair where
  group : DhGroup
  pkey : PrivateKey
  deriving DecidableEq, Repr

namespace DhKeyPair

def generate (platform : Platform) (instant : Instant) (group : DhGroup) :
    Except PkinitError DhKeyPair := do
  let pkey ← (match group with
    | .oakley2048 => platform.crypto.generateDhx instant OAKLEY_2048_DER
    | .oakley4096 => platform.crypto.generateDhx instant OAKLEY_4096_DER
    | .ecP256 => platform.crypto.generateEc instant "P-256"
    | .ecP384 => platform.crypto.generateEc instant "P-384"
    | .ecP521 => platform.crypto.generateEc instant "P-521").mapError .ossl
  return ⟨group, pkey⟩

def publicKeySpkiDer (platform : Platform) (key : DhKeyPair) : Except PkinitError Bytes :=
  (platform.crypto.publicKeyToDer key.pkey).mapError fun e => .ossl s!"SPKI encode failed: {e}"

def deriveSharedSecret (platform : Platform) (key : DhKeyPair) (peerSpkiDer : Bytes) :
    Except PkinitError Bytes := do
  let peer ← (platform.crypto.peerKeyFromDer peerSpkiDer).mapError
    fun e => .dhAgreementFailed s!"peer key decode: {e}"
  (platform.crypto.derive key.pkey peer).mapError .dhAgreementFailed

theorem group_of_generate {platform : Platform} {instant : Instant} {group : DhGroup}
    {key : DhKeyPair} (generated : generate platform instant group = .ok key) :
    key.group = group := by
  simp only [generate, bind_eq_ok, pure_eq_ok, Except.ok.injEq] at generated
  obtain ⟨_, _, rfl⟩ := generated
  rfl

end DhKeyPair

/-! ## Identifying a group -/

def identifyOakleyGroup (pBytes : Bytes) (bits : Nat) : Except PkinitError DhGroup :=
  if (2048 ≤ bits ∧ bits < 4096) ∧ pBytes = OAKLEY_2048_PRIME then
    .ok .oakley2048
  else if 4096 ≤ bits ∧ pBytes = OAKLEY_4096_PRIME then
    .ok .oakley4096
  else
    .error (.dhParamsRejected
      s!"DH prime ({bits} bits) does not match any well-known Oakley group")

/-- The group of a peer's key. The minimum size is compared for MODP groups
only. -/
def validateDhParams (platform : Platform) (spkiDer : Bytes) (minBits : Nat) :
    Except PkinitError DhGroup := do
  let key ← (platform.crypto.peerKeyFromDer spkiDer).mapError
    fun e => .dhParamsRejected s!"decode SPKI: {e}"
  let bits := key.bits
  let tooShort : PkinitError :=
    .dhParamsRejected s!"key size {bits} bits < minimum {minBits} bits"
  match platform.crypto.exportFailure key with
  | some e => throw (.dhParamsRejected s!"export params: {e}")
  | none => pure ()
  match key.groupName with
  | some name =>
      if name = "prime256v1" ∨ name = "P-256" then
        return .ecP256
      else if name = "secp384r1" ∨ name = "P-384" then
        return .ecP384
      else if name = "secp521r1" ∨ name = "P-521" then
        return .ecP521
      else
        rejectIf (bits < minBits) tooShort
        if name = "modp_2048" then
          return .oakley2048
        else if name = "modp_4096" then
          return .oakley4096
        else
          throw (.dhParamsRejected s!"unsupported group: {name}")
  | none =>
      rejectIf (bits < minBits) tooShort
      match key.prime with
      | some pBytes => identifyOakleyGroup pBytes bits
      | none => throw (.dhParamsRejected "could not identify DH group from key parameters")

/-! ## Naming a group -/

/-- The identifier of a group and its domain parameters. -/
def groupAlgorithmOidAndParams (platform : Platform) (group : DhGroup) :
    Except PkinitError (Oid × Option Element) := do
  let curve := match group with
    | .ecP256 => some SECP256R1
    | .ecP384 => some SECP384R1
    | .ecP521 => some SECP521R1
    | .oakley2048 | .oakley4096 => none
  match curve with
  | some curve =>
      let curveOid ← (platform.synta.newOid curve).mapError (asn1Err "curve OID")
      return (ID_EC_PUBLIC_KEY, some (.objectIdentifier curveOid))
  | none =>
      let paramsDer ← okOr (groupParamsDer group) (.dhParamsRejected "unknown DH group")
      let paramsElement ← (platform.synta.element.fromDer paramsDer).mapError
        (asn1Err "decode DH params")
      return (DHPUBLICNUMBER, some paramsElement)

/-- The group an offered identifier names, none when it is below the minimum
or not one of these. -/
def groupFromAlgorithmIdentifier (platform : Platform) (oid : Oid) (paramsDer : Option Bytes)
    (minBits : Nat) : Option DhGroup :=
  if oid = ID_EC_PUBLIC_KEY then do
    let params ← paramsDer
    let curveOid ← (platform.synta.objectIdentifier.fromDer params).toOption
    if curveOid = SECP256R1 then
      some .ecP256
    else if curveOid = SECP384R1 then
      some .ecP384
    else if curveOid = SECP521R1 then
      some .ecP521
    else
      none
  else if oid = DHPUBLICNUMBER then do
    let group ←
      if paramsDer = some OAKLEY_2048_DER then
        some DhGroup.oakley2048
      else if paramsDer = some OAKLEY_4096_DER then
        some DhGroup.oakley4096
      else
        none
    if minBits ≤ group.minBits then some group else none
  else
    none

end Kurbu5Pkinit

import Kurbu5Pkinit.Library.Fallible
import Kurbu5Pkinit.Platform

/-!
# Certificate authorization

What a certificate says about its holder (the principals and names of its
`SubjectAltName`, the purposes of its `ExtendedKeyUsage`, the bits of its
`KeyUsage`) and the four checks made on it: the client's and the KDC's name,
the client's and the KDC's purpose.
-/

set_option autoImplicit false

namespace Kurbu5Pkinit

open Library

/-! ## Reading extensions -/

def parseCert (platform : Platform) (certDer : Bytes) : Except PkinitError Certificate :=
  (platform.synta.certificate.fromDer certDer).mapError (asn1Err "parse certificate")

def decodeSan (platform : Platform) (extRaw : Bytes) : Except PkinitError (List GeneralName) :=
  match platform.synta.findExtensionValue extRaw SUBJECT_ALT_NAME with
  | some sanBytes =>
      (platform.synta.generalNames.fromDer sanBytes).mapError (asn1Err "decode SubjectAltName")
  | none => .ok []

/-- The names of a certificate, none when it has no extensions. -/
def subjectAltNames (platform : Platform) (certDer : Bytes) :
    Except PkinitError (List GeneralName) := do
  let cert ← parseCert platform certDer
  match cert.tbsCertificate.extensions with
  | some extRaw => decodeSan platform extRaw
  | none => return []

/-- The principals of the names, in order. -/
def pkinitPrincipals (platform : Platform) : List GeneralName → Except PkinitError (List String)
  | [] => .ok []
  | .otherName name :: rest => do
      let onDer ← (platform.synta.otherName.toDer name).mapError (asn1Err "encode OtherName")
      let principals ← pkinitPrincipals platform rest
      match platform.krb5.decodeKrb5San onDer with
      | some principal => return principal :: principals
      | none => return principals
  | _ :: rest => pkinitPrincipals platform rest

def extractPkinitSans (platform : Platform) (certDer : Bytes) :
    Except PkinitError (List String) := do
  let sans ← subjectAltNames platform certDer
  pkinitPrincipals platform sans

/-- The text of a Microsoft UPN among the names. -/
def upnOf (msUpnOid : Oid) : GeneralName → Option String
  | .otherName ⟨typeId, .utf8String text⟩ => if typeId = msUpnOid then some text else none
  | _ => none

def extractUpnSans (platform : Platform) (certDer : Bytes) :
    Except PkinitError (List String) := do
  let cert ← parseCert platform certDer
  match cert.tbsCertificate.extensions with
  | none => return []
  | some extRaw =>
      let sans ← decodeSan platform extRaw
      let msUpnOid ← (platform.synta.newOid ID_MS_SAN_UPN).mapError (asn1Err "UPN OID")
      return sans.filterMap (upnOf msUpnOid)

def extractDnsNames (platform : Platform) (certDer : Bytes) :
    Except PkinitError (List String) := do
  let sans ← subjectAltNames platform certDer
  return sans.filterMap fun name =>
    match name with
    | .dnsName text => some text
    | _ => none

def extractEkuOids (platform : Platform) (certDer : Bytes) : Except PkinitError (List Oid) := do
  let cert ← parseCert platform certDer
  match cert.tbsCertificate.extensions with
  | none => return []
  | some extRaw =>
      match platform.synta.findExtensionValue extRaw EXTENDED_KEY_USAGE with
      | none => return []
      | some ekuBytes =>
          (platform.synta.extendedKeyUsage.fromDer ekuBytes).mapError
            (asn1Err "decode ExtendedKeyUsage")

/-- The nine bits of `KeyUsage` as a mask, zero when the extension is absent. -/
def extractKeyUsage (platform : Platform) (certDer : Bytes) : Except PkinitError Nat := do
  let cert ← parseCert platform certDer
  match cert.tbsCertificate.extensions with
  | none => return 0
  | some extRaw =>
      match platform.synta.findExtensionValue extRaw KEY_USAGE with
      | none => return 0
      | some kuBytes =>
          let ku ← (platform.synta.keyUsage.fromDer kuBytes).mapError (asn1Err "decode KeyUsage")
          return (List.range 9).foldl
            (fun bits i => if platform.synta.keyUsageBit ku i then bits ||| (1 <<< i) else bits) 0

/-! ## The checks -/

inductive CertauthResult where
  | authorized
  | rejected (reason : String)
  deriving DecidableEq, Repr

/-- `str::eq_ignore_ascii_case`. -/
def eqIgnoreAsciiCase (left right : String) : Bool :=
  left.map Char.toLower = right.map Char.toLower

/-- Whether the certificate names the principal: by a PKINIT name, or, where
allowed, by a UPN up to ASCII case. -/
def verifyClientSan (platform : Platform) (certDer : Bytes) (expectedPrincipal : String)
    (allowUpn : Bool) : Except PkinitError CertauthResult := do
  let pkinitSans ← extractPkinitSans platform certDer
  if pkinitSans.any fun s => s = expectedPrincipal then
    return .authorized
  if allowUpn then
    let upnSans ← extractUpnSans platform certDer
    if upnSans.any fun u => eqIgnoreAsciiCase u expectedPrincipal then
      return .authorized
  return .rejected s!"no SAN matching {expectedPrincipal}"

/-- Whether a present `KeyUsage` permits signing. -/
def mayNotSign (ku : Nat) : Bool :=
  ku ≠ 0 && ku &&& (1 <<< KEY_USAGE_DIGITAL_SIGNATURE) = 0

def verifyClientEku (platform : Platform) (certDer : Bytes) (acceptSecondary : Bool) :
    Except PkinitError CertauthResult := do
  let ekus ← extractEkuOids platform certDer
  let hasPkinitClient := ekus.any fun oid => oid = ID_PKINIT_KPCLIENT_AUTH
  let hasMsScLogon := acceptSecondary && ekus.any fun oid => oid = ID_MS_KP_SMARTCARD_LOGON
  if !hasPkinitClient && !hasMsScLogon then
    return .rejected "missing id-pkinit-KPClientAuth EKU"
  let ku ← extractKeyUsage platform certDer
  if mayNotSign ku then
    return .rejected "missing digitalSignature KeyUsage"
  return .authorized

def verifyKdcSan (platform : Platform) (certDer : Bytes) (kdcPrincipal : String)
    (kdcHostname : Option String) : Except PkinitError Unit := do
  let pkinitSans ← extractPkinitSans platform certDer
  if pkinitSans.any fun s => s = kdcPrincipal then
    return ()
  if let some hostname := kdcHostname then
    let dnsNames ← extractDnsNames platform certDer
    if dnsNames.any fun d => eqIgnoreAsciiCase d hostname then
      return ()
  throw (.sanMismatch s!"KDC certificate has no SAN matching {kdcPrincipal}")

def verifyKdcEku (platform : Platform) (certDer : Bytes) : Except PkinitError Unit := do
  let ekus ← extractEkuOids platform certDer
  let acceptable := ekus.any fun oid => oid = ID_PKINIT_KPKDC || oid = ID_KP_SERVER_AUTH
  rejectIf (acceptable = false)
    (.ekuMismatch "KDC certificate missing id-pkinit-KPKdc or id-kp-serverAuth")
  let ku ← extractKeyUsage platform certDer
  rejectIf (mayNotSign ku = true)
    (.ekuMismatch "KDC certificate missing digitalSignature KeyUsage")

end Kurbu5Pkinit

import Kurbu5Pkinit.Laws
import Kurbu5Pkinit.Reference.Client

/-!
# Revocation lists of the recorded realm

The realm's authority revoked the certificates of its client and of its KDC.
A validator that reads the lists it is given refuses both.
-/

set_option autoImplicit false

namespace Kurbu5Pkinit.Reference

open Library

/-- The authority's list: serial numbers 2 and 3. -/
def crlDer : Bytes :=
  [0x3081CE3076020101300A06082A8648CE3D040302300D310B300906035504030C,
   0x024341170D3237303130313030303030305A170D323830313031303030303030,
   0x5A30283012020102170D3237303130313030303030305A3012020103170D3237,
   0x303130313030303030305AA00E300C300A0603551D140403020101300A06082A,
   0x8648CE3D04030203480030450220116CB3DDBD82033F8E9072E81663A9EDA1E4,
   0xC72A1E1D98474E2882638F627A7B022100D332A9582EA8829ED408E42DC9DC5A].flatMap (bytesOfNat 32) ++
  bytesOfNat 17 0xF85DF53C205056B53D2379144A0128C6E2

/-- `YYMMDDHHMMSSZ`, in the century from 1950. -/
def readUtcTime : Reader Int := do
  let text ← Reader.content 0x17
  let field := fun start => numberOfDigits ((text.drop start).take 2)
  if text.length = 13 ∧ text.getLast? = some 90 then
    let days := daysOfCivil (if field 0 < 50 then field 0 + 2000 else field 0 + 1900) (field 2)
      (field 4)
    return (days * 86400 + field 6 * 3600 + field 8 * 60 + field 10 : Nat)
  else
    Reader.fail

/-- What a validator reads of a list. -/
structure CrlContents where
  issuer : Bytes
  thisUpdate : Int
  nextUpdate : Int
  serials : List Int

def readCrl : Reader CrlContents :=
  Reader.within 0x30 do
    let list ← Reader.within 0x30 do
      let _version ← readInteger
      let _signature ← readAlgorithmIdentifier
      let issuer ← Reader.raw
      let thisUpdate ← readUtcTime
      let nextUpdate ← readUtcTime
      let serials ← Reader.within 0x30 (Reader.many (Reader.within 0x30 do
        let serial ← readInteger
        let _date ← readUtcTime
        return serial))
      let _extensions ← Reader.content 0xA0
      return ⟨issuer, thisUpdate, nextUpdate, serials⟩
    let _signatureAlgorithm ← readAlgorithmIdentifier
    let _signature ← readBitString
    return list

/-- Whether the list is in force, of the certificate's issuer, and names it. -/
def crlLists (time : Int) (crl certDer : Bytes) : Bool :=
  match readCrl.whole crl, synta.certificate.fromDer certDer with
  | .ok list, .ok cert =>
      (list.thisUpdate ≤ time ∧ time ≤ list.nextUpdate) ∧
        list.issuer = cert.tbsCertificate.issuer ∧
        cert.tbsCertificate.serialNumber ∈ list.serials
  | _, _ => false

/-- A recorded path, of which no list that was given names a certificate. -/
def crlPath (leaf : VerificationCertificate) (policy : PolicyDefinition) (anchors : List Bytes)
    (checks : RevocationChecks) : Option (List Bytes) :=
  if recording.paths.contains (leaf.der, anchors) ∧ ∀ crl ∈ checks.crls.getD [],
      ∀ certDer ∈ leaf.der :: anchors, crlLists policy.validationTime crl certDer = false then
    some (leaf.der :: anchors)
  else
    none

/-- The recording, with a validator that reads the lists it is given. -/
def crlRecorded : Platform :=
  { recorded with
    x509 := {
      openStore := recorded.x509.openStore
      verify := fun leaf _ policy anchors checks =>
        match crlPath leaf policy anchors checks with
        | some _ => .ok ()
        | none => .error "no path to an anchor" } }

def crlSearch : PathValidation crlRecorded.x509 where
  path leaf _ policy anchors checks := crlPath leaf policy anchors checks
  revokes time crl certDer := crlLists time crl certDer = true
  found := by
    intro leaf intermediates policy anchors checks
    change (match crlPath leaf policy anchors checks with
      | some _ => Except.ok ()
      | none => .error "no path to an anchor") = .ok () ↔ _
    cases crlPath leaf policy anchors checks <;> simp
  leaf := by
    intro leaf intermediates policy anchors checks certs located
    unfold crlPath at located
    split at located <;> cases located
    exact List.mem_cons_self
  evaluated := by
    intro leaf intermediates policy anchors checks crls certs given located crl listed certDer
      member
    unfold crlPath at located
    split at located
    · next unrevoked =>
        cases located
        rw [given] at unrevoked
        simp [unrevoked.2 crl listed certDer member]
    · cases located

/-- The realm's anchor with the list that revokes two of its certificates. -/
def revokingStore : TrustStore := { trustStore with crls := [crlDer] }

/-- A KDC that loaded it and does not require CRLs. -/
def revokingKdc : PkinitKdcState where
  identity := kdcIdentity
  trustStore := revokingStore
  config := {}
  supportedAlgorithmsHint := none
  tdEphemeralKeyParams := []

end Kurbu5Pkinit.Reference

import Kurbu5Pkinit.Crypto.CmsRoundTrip
import Kurbu5Pkinit.Crypto.Establishment

/-!
# What the exchange relies on

The laws of the ASN.1 library, the provider and an identity under which the
two halves of the exchange fit together. Each is what its documentation
promises; the code checks none of them.
-/

set_option autoImplicit false

namespace Kurbu5Pkinit

open Library

/-- What the ASN.1 library does with the messages of the exchange. -/
structure MessageCodecs (synta : Synta) : Prop where
  paPkAsReq : synta.paPkAsReq.RoundTrips
  authPack : synta.authPack.RoundTrips
  paPkAsRep : synta.paPkAsRep.RoundTrips
  kdcDhKeyInfo : synta.kdcDhKeyInfo.RoundTrips
  kemRepInfo : synta.kemRepInfo.RoundTrips
  kdcKemInfo : synta.kdcKemInfo.RoundTrips
  /-- `dhInfo` is tagged `[0]`. -/
  dhInfoTag : ∀ info der, synta.paPkAsRep.toDer (.dhInfo info) = .ok der → der.head? = some 0xA0
  /-- Here and below: an encoding is no shorter than what it holds. -/
  dhInfoHolds : ∀ info der, synta.paPkAsRep.toDer (.dhInfo info) = .ok der →
    info.dhSignedData.length ≤ der.length
  kemInfoHolds : ∀ info der, synta.kemRepInfo.toDer info = .ok der →
    info.kemSignedData.length ≤ der.length
  contentInfoHolds : ∀ info der, synta.contentInfo.toDer info = .ok der →
    info.content.length ≤ der.length
  explicitTagHolds : ∀ n raw der, synta.explicitTag n raw = .ok der → raw.length ≤ der.length
  signedDataHolds : ∀ signedData der, synta.signedData.toDer signedData = .ok der →
    ∀ signerInfo ∈ signedData.signerInfos, ∀ attrs, signerInfo.signedAttrs = some attrs →
      attrs.length ≤ der.length

/-- A public key as the protocol has it: a KEM key without parameters, or a
group key that the provider reads. -/
inductive WellFormedKey (platform : Platform) : Offered → Bytes → Prop
  | kem {alg : KemAlgorithm} {der : Bytes} {subjectPublicKey : BitString}
      (decoded : platform.synta.subjectPublicKeyInfo.fromDer der =
        .ok ⟨⟨alg.oid, none⟩, subjectPublicKey⟩) :
      WellFormedKey platform (.kem alg) der
  | dh {group : DhGroup} {der : Bytes} {spki : SubjectPublicKeyInfo} {peer : PeerKey}
      (decoded : platform.synta.subjectPublicKeyInfo.fromDer der = .ok spki)
      (names : NamesGroup platform.synta group spki.algorithm)
      (read : platform.crypto.peerKeyFromDer der = .ok peer)
      (exported : platform.crypto.exportFailure peer = none)
      (inGroup : PeerInGroup peer group) (bits : peer.bits = group.minBits) :
      WellFormedKey platform (.dh group) der

/-- The provider exports keys as the protocol has them. -/
structure ExportedKeys (platform : Platform) : Prop where
  kem : ∀ {alg instant key der}, KemKeyPair.generate platform instant alg = .ok key →
    key.publicKeySpkiDer platform = .ok der → WellFormedKey platform (.kem alg) der
  dh : ∀ {group instant key der}, DhKeyPair.generate platform instant group = .ok key →
    key.publicKeySpkiDer platform = .ok der → WellFormedKey platform (.dh group) der

/-- What the ASN.1 library does with the identifiers of key exchanges. -/
structure OfferCodecs (synta : Synta) : Prop where
  algorithmIdentifier : synta.algorithmIdentifier.RoundTrips
  algorithmIdentifiers : synta.algorithmIdentifiers.RoundTrips
  /-- A list of identifiers is also a list of values: the encodings of its
  members. -/
  elements : ∀ algIds der, synta.algorithmIdentifiers.toDer algIds = .ok der →
    ∃ elems, synta.tdDhParameters.fromDer der = .ok elems ∧
      List.Forall₂ (fun algId elem => ∃ idDer, synta.algorithmIdentifier.toDer algId = .ok idDer ∧
        synta.element.toDer elem = .ok idDer) algIds elems
  curves : ∀ curve ∈ [SECP256R1, SECP384R1, SECP521R1],
    ∃ der, synta.element.toDer (.objectIdentifier curve) = .ok der ∧
      synta.objectIdentifier.fromDer der = .ok curve
  parameters : ∀ der ∈ [OAKLEY_2048_DER, OAKLEY_4096_DER], synta.element.Canonical der

/-- What the exchange relies on: the codecs read back what they wrote,
Diffie-Hellman commutes, decapsulation inverts encapsulation. -/
structure LawfulPlatform (platform : Platform) : Prop where
  usize : 32 ≤ platform.usizeBits
  envelopes : EnvelopeCodecs platform.synta
  messages : MessageCodecs platform.synta
  groups : GroupKeys platform
  kems : KemKeys platform

/-- An identity whose key its certificate is for, and whose certificates are
each one DER value. -/
structure SoundSigner (platform : Platform) (identity : PkinitIdentity) : Prop where
  pair : ∀ key, identity.signingKey = some key →
    SigningPair platform identity.certDer key (digestForSigner platform identity.certDer)
  chain : ∀ extra ∈ identity.chain, platform.synta.rawDer.Frames extra extra

/-- The library's search for a path: the certificates it went through, the
leaf among them. Given lists, it does not go through a certificate that its
issuer's list revokes. -/
structure PathValidation (x509 : X509Verification) where
  path : VerificationCertificate → List VerificationCertificate → PolicyDefinition →
    List Bytes → RevocationChecks → Option (List Bytes)
  /-- The list is of the certificate's issuer and names the certificate. A list
  outside its validity at that time revokes nothing. -/
  revokes : (time : Int) → (crl certDer : Bytes) → Prop
  found : ∀ leaf intermediates policy anchors checks,
    x509.verify leaf intermediates policy anchors checks = .ok () ↔
      ∃ certs, path leaf intermediates policy anchors checks = some certs
  leaf : ∀ leaf intermediates policy anchors checks certs,
    path leaf intermediates policy anchors checks = some certs → leaf.der ∈ certs
  evaluated : ∀ leaf intermediates policy anchors checks crls certs, checks.crls = some crls →
    path leaf intermediates policy anchors checks = some certs →
    ∀ crl ∈ crls, ∀ certDer ∈ certs, ¬ revokes policy.validationTime crl certDer

end Kurbu5Pkinit

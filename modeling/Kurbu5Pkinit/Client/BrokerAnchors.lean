import Kurbu5Pkinit.Client.State
import Kurbu5Pkinit.Reference.Exchange

/-!
# Anchors a broker approved

The anchors of a broker are checked before they are trusted: each is to be a CA
to which the chain of the signer validates. The validator is given the list as
a whole and answers whether there is a path to one of them. So a list is
checked where its anchors are alike; where one validates, the others are
accepted unseen (`checksEveryAnchor_iff`).
-/

set_option autoImplicit false

namespace Kurbu5Pkinit

open Library

/-- The library's search for a path to each single anchor. A list has a path
when one of its anchors has, and under the default rules a path ends in a CA. -/
structure AnchorSearch (x509 : X509Verification) where
  /-- cA, and `keyCertSign` where there is a `KeyUsage`. -/
  isCa : Bytes → Prop
  reaches : VerificationCertificate → List VerificationCertificate → PolicyDefinition → Bytes →
    RevocationChecks → Prop
  found : ∀ leaf intermediates policy anchors checks,
    x509.verify leaf intermediates policy anchors checks = .ok () ↔
      ∃ anchor ∈ anchors, reaches leaf intermediates policy anchor checks
  ca : ∀ leaf intermediates policy anchor checks,
    policy.caExtensionPolicy = .defaultWebPkiCa →
    reaches leaf intermediates policy anchor checks → isCa anchor

variable {platform : Platform}

/-- The chain of the signer validates to this anchor. -/
def ValidatesTo (search : AnchorSearch platform.x509) (instant : Instant) (signerCertDer : Bytes)
    (allCertsDer : List Bytes) (anchor : Bytes) : Prop :=
  ∃ leaf intermediates, anchorVc platform "KDC signer certificate" signerCertDer = .ok leaf ∧
    allCertsDer.mapM (anchorVc platform "presented certificate") = .ok intermediates ∧
    search.reaches leaf intermediates (.newClient instant.now .defaultWebPkiCa) anchor
      { crls := none }

/-- Accepted anchors are some, and each is a CA to which the chain validates. -/
def ChecksEveryAnchor (search : AnchorSearch platform.x509) (instant : Instant)
    (anchors : List Bytes) (signerCertDer : Bytes) (allCertsDer : List Bytes) : Prop :=
  validateBrokerAnchors platform instant anchors signerCertDer allCertsDer = .ok () →
    anchors ≠ [] ∧ ∀ anchor ∈ anchors,
      search.isCa anchor ∧ ValidatesTo search instant signerCertDer allCertsDer anchor

/-- Certificates, of which the chain validates to one and not to another. -/
structure MixedAnchors (search : AnchorSearch platform.x509) (instant : Instant)
    (anchors : List Bytes) (signerCertDer : Bytes) (allCertsDer : List Bytes) : Prop where
  decode : ∀ anchor ∈ anchors, ∃ cert, platform.synta.certificate.fromDer anchor = .ok cert
  good : ∃ anchor ∈ anchors, ValidatesTo search instant signerCertDer allCertsDer anchor
  bad : ∃ anchor ∈ anchors, ¬ ValidatesTo search instant signerCertDer allCertsDer anchor

variable {search : AnchorSearch platform.x509} {instant : Instant} {anchors : List Bytes}
  {signerCertDer : Bytes} {allCertsDer : List Bytes}

theorem ValidatesTo.isCa {anchor : Bytes}
    (validates : ValidatesTo search instant signerCertDer allCertsDer anchor) :
    search.isCa anchor := by
  obtain ⟨leaf, intermediates, _, _, reached⟩ := validates
  exact search.ca leaf intermediates _ anchor _ rfl reached

theorem exists_anchorVc_iff {what : String} {der : Bytes} :
    (∃ vc, anchorVc platform what der = .ok vc) ↔
      ∃ cert, platform.synta.certificate.fromDer der = .ok cert := by
  unfold anchorVc
  cases platform.synta.certificate.fromDer der <;> simp

theorem exists_mapM_anchorVc_iff {what : String} {ders : List Bytes} :
    (∃ vcs, ders.mapM (anchorVc platform what) = .ok vcs) ↔
      ∀ der ∈ ders, ∃ cert, platform.synta.certificate.fromDer der = .ok cert := by
  constructor
  · rintro ⟨vcs, read⟩ der member
    obtain ⟨vc, _, decoded⟩ := exists_mem_of_mapM read member
    exact exists_anchorVc_iff.mp ⟨vc, decoded⟩
  · intro decode
    cases read : ders.mapM (anchorVc platform what) with
    | ok vcs => exact ⟨vcs, rfl⟩
    | error e =>
        obtain ⟨der, member, failed⟩ := exists_of_mapM_eq_error read
        obtain ⟨vc, decoded⟩ := exists_anchorVc_iff.mpr (decode der member)
        rw [failed] at decoded
        cases decoded

/-- **A list is accepted when all of it decodes and one of it validates.** -/
theorem validateBrokerAnchors_eq_ok (search : AnchorSearch platform.x509) :
    validateBrokerAnchors platform instant anchors signerCertDer allCertsDer = .ok () ↔
      (∀ anchor ∈ anchors, ∃ cert, platform.synta.certificate.fromDer anchor = .ok cert) ∧
        ∃ anchor ∈ anchors, ValidatesTo search instant signerCertDer allCertsDer anchor := by
  simp only [validateBrokerAnchors, bind_eq_ok, mapError_eq_ok, search.found,
    ← @exists_mapM_anchorVc_iff _ "anchor"]
  constructor
  · rintro ⟨vcs, read, intermediates, presented, leaf, signer, anchor, member, reached⟩
    exact ⟨⟨vcs, read⟩, anchor, member, leaf, intermediates, signer, presented, reached⟩
  · rintro ⟨⟨vcs, read⟩, anchor, member, leaf, intermediates, signer, presented, reached⟩
    exact ⟨vcs, read, intermediates, presented, leaf, signer, anchor, member, reached⟩

/-- **Every anchor is checked exactly where the list is not a mixed one.** -/
theorem checksEveryAnchor_iff (platform : Platform) (search : AnchorSearch platform.x509)
    (instant : Instant) (anchors : List Bytes) (signerCertDer : Bytes)
    (allCertsDer : List Bytes) :
    ChecksEveryAnchor search instant anchors signerCertDer allCertsDer ↔
      ¬ MixedAnchors search instant anchors signerCertDer allCertsDer := by
  rw [ChecksEveryAnchor, validateBrokerAnchors_eq_ok search]
  constructor
  · rintro checks ⟨decode, good, bad, member, invalid⟩
    exact invalid ((checks ⟨decode, good⟩).2 bad member).2
  · rintro alike ⟨decode, good⟩
    refine ⟨List.ne_nil_of_mem good.choose_spec.1, fun anchor member => ?_⟩
    have validates : ValidatesTo search instant signerCertDer allCertsDer anchor := by
      by_contra invalid
      exact alike ⟨decode, good, anchor, member, invalid⟩
    exact ⟨validates.isCa, validates⟩

namespace Reference

/-- cA is set, and `keyCertSign` where there is a `KeyUsage`. -/
def mayIssue (certDer : Bytes) : Bool :=
  match synta.certificate.fromDer certDer with
  | .error _ => false
  | .ok cert =>
      match cert.tbsCertificate.extensions with
      | none => false
      | some extensions =>
          findExtensionValue extensions [2, 5, 29, 19] = some [0x30, 0x03, 0x01, 0x01, 0xFF] &&
            match findExtensionValue extensions KEY_USAGE with
            | none => true
            | some usage =>
                match synta.keyUsage.fromDer usage with
                | .ok bits => synta.keyUsageBit bits 5
                | .error _ => false

/-- A recorded path to this anchor, which is a CA where the rules demand it. -/
def reachesAnchor (leaf : VerificationCertificate) (policy : PolicyDefinition) (anchor : Bytes) :
    Bool :=
  recording.paths.contains (leaf.der, [anchor]) &&
    (policy.caExtensionPolicy = .permitAll || mayIssue anchor)

/-- The recording, with a validator that looks for any of its anchors. -/
def anchorRecorded : Platform :=
  { recorded with
    x509 := {
      openStore := recorded.x509.openStore
      verify := fun leaf _ policy anchors _ =>
        if anchors.any (reachesAnchor leaf policy) then
          .ok ()
        else
          .error "no path to an anchor" } }

def anchorSearch : AnchorSearch anchorRecorded.x509 where
  isCa anchor := mayIssue anchor = true
  reaches leaf _ policy anchor _ := reachesAnchor leaf policy anchor = true
  found := by
    intro leaf intermediates policy anchors checks
    change (if anchors.any (reachesAnchor leaf policy) = true then Except.ok () else
      .error "no path to an anchor") = .ok () ↔ _
    rw [← List.any_eq_true]
    split <;> simp [*]
  ca := by
    intro leaf intermediates policy anchor checks strict reached
    simpa [reachesAnchor, strict] using (Bool.and_eq_true_iff.mp reached).2

end Reference

/-- The realm's own anchor is checked. -/
theorem checksEveryAnchor_iff_realmAnchor :
    ChecksEveryAnchor Reference.anchorSearch Reference.clientInstant [Reference.caCertDer]
      Reference.kdcCertDer [Reference.kdcCertDer] := by
  refine (checksEveryAnchor_iff _ _ _ _ _ _).mpr ?_
  rintro ⟨_, ⟨good, member, validates⟩, bad, member', invalid⟩
  rw [List.mem_singleton] at member member'
  exact invalid (member'.trans member.symm ▸ validates)

set_option maxRecDepth 16384 in
/-- The KDC's own certificate is no CA and is refused, but accepted beside the
realm's anchor. -/
theorem leaf_accepted_beside_anchor :
    ¬ ChecksEveryAnchor Reference.anchorSearch Reference.clientInstant
        [Reference.caCertDer, Reference.kdcCertDer] Reference.kdcCertDer [Reference.kdcCertDer] ∧
      ¬ Reference.anchorSearch.isCa Reference.kdcCertDer ∧
      validateBrokerAnchors Reference.anchorRecorded Reference.clientInstant
        [Reference.kdcCertDer] Reference.kdcCertDer [Reference.kdcCertDer] ≠ .ok () := by
  have accepted : validateBrokerAnchors Reference.anchorRecorded Reference.clientInstant
      [Reference.caCertDer, Reference.kdcCertDer] Reference.kdcCertDer [Reference.kdcCertDer] =
        .ok () := by
    decide
  have leaf : ¬ Reference.mayIssue Reference.kdcCertDer = true := by
    decide
  refine ⟨fun checks => ?_, leaf, by decide⟩
  have checked := (checks accepted).2 Reference.kdcCertDer
    (List.mem_cons_of_mem _ List.mem_cons_self)
  exact leaf checked.1

end Kurbu5Pkinit

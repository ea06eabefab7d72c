import Kurbu5Pkinit.Client.Outcomes
import Kurbu5Pkinit.Reference.Crl

/-!
# The client and revocation lists

The client has the same option as the KDC for CRL checking, and does not read
it: it validates its KDC's chain without lists, to its own anchors and to a
broker's. What it does with a reply is then the same whatever lists its store
holds and whatever a validator would say of them.
-/

set_option autoImplicit false

namespace Kurbu5Pkinit

open Library PkinitClientState

variable {platform : Platform} {o2k : OctetString2Key} {instant : Instant}

/-- What a validator says of a path when lists are given to it. -/
abbrev CrlVerdict : Type :=
  VerificationCertificate → List VerificationCertificate → PolicyDefinition → List Bytes →
    List Bytes → Except String Unit

/-- The same libraries, with another verdict wherever lists are given. -/
def Platform.withCrlVerdict (platform : Platform) (verdict : CrlVerdict) : Platform :=
  { platform with
    x509 := { platform.x509 with
      verify := fun leaf intermediates policy anchors checks =>
        match checks.crls with
        | none => platform.x509.verify leaf intermediates policy anchors checks
        | some crls => verdict leaf intermediates policy anchors crls } }

/-- The same client, with other lists in its store. -/
def PkinitClientState.withCrls (s : PkinitClientState) (crls : List Bytes) : PkinitClientState :=
  { s with trustStore := { s.trustStore with crls := crls } }

variable (verdict : CrlVerdict) (s : PkinitClientState) (crls : List Bytes)

/-! ## Reading certificates and envelopes -/

theorem pkinitPrincipals_withCrlVerdict (names : List GeneralName) :
    pkinitPrincipals (platform.withCrlVerdict verdict) names = pkinitPrincipals platform names := by
  induction names with
  | nil => rfl
  | cons name rest ih =>
      cases name with
      | otherName name =>
          simp only [pkinitPrincipals, ih]
          rfl
      | dnsName _ | other _ => simpa only [pkinitPrincipals] using ih

theorem verifyKdcSan_withCrlVerdict (certDer : Bytes) (kdcPrincipal : String)
    (kdcHostname : Option String) :
    verifyKdcSan (platform.withCrlVerdict verdict) certDer kdcPrincipal kdcHostname =
      verifyKdcSan platform certDer kdcPrincipal kdcHostname := by
  have principals : extractPkinitSans (platform.withCrlVerdict verdict) certDer =
      extractPkinitSans platform certDer := by
    simp only [extractPkinitSans, pkinitPrincipals_withCrlVerdict]
    rfl
  simp only [verifyKdcSan, principals]
  rfl

theorem searchSignerCert_withCrlVerdict (iasIssuerDer : Bytes) (serialNumber : Int)
    (certs : List Bytes) :
    searchSignerCert (platform.withCrlVerdict verdict) iasIssuerDer serialNumber certs =
      searchSignerCert platform iasIssuerDer serialNumber certs := by
  induction certs with
  | nil => rfl
  | cons certDer rest ih =>
      simp only [searchSignerCert, ih]
      rfl

theorem verifySignedData_withCrlVerdict (contentInfoDer : Bytes) :
    verifySignedData (platform.withCrlVerdict verdict) contentInfoDer =
      verifySignedData platform contentInfoDer := by
  have finds : ∀ certs ias, findSignerCert (platform.withCrlVerdict verdict) certs ias =
      findSignerCert platform certs ias := by
    intro certs ias
    simp only [findSignerCert, searchSignerCert_withCrlVerdict]
    rfl
  simp only [verifySignedData, finds]
  rfl

/-! ## The KDC's chain -/

theorem validateChain_withCrlVerdict (store : TrustStore) (certDer : Bytes) (chain : List Bytes) :
    { store with crls := crls }.validateChain (platform.withCrlVerdict verdict) instant certDer
        chain false =
      store.validateChain platform instant certDer chain false := rfl

/-- Neither the configured anchors nor a broker's are checked against lists. -/
theorem validateKdcChain_withCrlVerdict (signerCertDer : Bytes) (allCertsDer : List Bytes) :
    (s.withCrls crls).validateKdcChain (platform.withCrlVerdict verdict) instant signerCertDer
        allCertsDer =
      s.validateKdcChain platform instant signerCertDer allCertsDer := by
  have anchors : (s.withCrls crls).validateKdcAnchors (platform.withCrlVerdict verdict) instant
      signerCertDer allCertsDer =
        s.validateKdcAnchors platform instant signerCertDer allCertsDer := by
    unfold validateKdcAnchors
    rw [show (s.withCrls crls).trustStore.validateChain (platform.withCrlVerdict verdict) instant
      signerCertDer allCertsDer false = _ from
        validateChain_withCrlVerdict verdict crls s.trustStore signerCertDer allCertsDer]
    rfl
  have names : (s.withCrls crls).validateKdcNames (platform.withCrlVerdict verdict)
      signerCertDer = s.validateKdcNames platform signerCertDer := by
    simp only [validateKdcNames, verifyKdcSan_withCrlVerdict]
    rfl
  rw [validateKdcChain, validateKdcChain, anchors, names]

/-! ## The reply -/

theorem processDhRep_withCrlVerdict (dhRepInfo : DhRepInfo) (params : AsRepParams) :
    (s.withCrls crls).processDhRep (platform.withCrlVerdict verdict) o2k instant dhRepInfo params =
      s.processDhRep platform o2k instant dhRepInfo params := by
  unfold processDhRep
  simp only [verifySignedData_withCrlVerdict, validateKdcChain_withCrlVerdict]
  rfl

theorem openKemRep_withCrlVerdict (kemKey : KemKeyPair) (paRepDer : Bytes) (params : AsRepParams) :
    openKemRep (platform.withCrlVerdict verdict) o2k instant (s.withCrls crls) kemKey paRepDer
        params =
      openKemRep platform o2k instant s kemKey paRepDer params := by
  unfold openKemRep
  simp only [verifySignedData_withCrlVerdict, validateKdcChain_withCrlVerdict]
  rfl

/-- **A reply is processed the same way whatever lists are loaded and whatever
a validator says of them.** -/
theorem processAsRep_withCrlVerdict (paRepDer : Bytes) (params : AsRepParams) :
    (call (processAsRep (platform.withCrlVerdict verdict) o2k instant paRepDer params)
        (s.withCrls crls)).2 =
      (call (processAsRep platform o2k instant paRepDer params) s).2 := by
  cases tag : isKemRep paRepDer with
  | true =>
      cases held : s.kemKey with
      | none =>
          have unheld : (s.withCrls crls).kemKey = none := held
          rw [processAsRep, processAsRep, if_pos tag, if_pos tag, processKemRep, processKemRep,
            call_get_bind, call_get_bind, call_set_bind, call_set_bind, held, unheld]
          rfl
      | some kemKey =>
          have held' : (s.withCrls crls).kemKey = some kemKey := held
          rw [call_processAsRep_kemInfo tag held, call_processAsRep_kemInfo tag held']
          exact openKemRep_withCrlVerdict verdict { s with kemKey := none } crls kemKey paRepDer
            params
  | false =>
      cases parsed : platform.synta.paPkAsRep.fromDer paRepDer with
      | error e =>
          have parsed' : (platform.withCrlVerdict verdict).synta.paPkAsRep.fromDer paRepDer =
              .error e := parsed
          rw [processAsRep, processAsRep, if_neg (by simp [tag]), if_neg (by simp [tag]),
            call_get_bind, call_get_bind, parsed, parsed', mapError_error,
            call_lift_bind_error _ rfl, call_lift_bind_error _ rfl]
      | ok paRep =>
          have parsed' : (platform.withCrlVerdict verdict).synta.paPkAsRep.fromDer paRepDer =
              .ok paRep := parsed
          cases paRep with
          | dhInfo dhRepInfo =>
              rw [call_processAsRep_dhInfo tag parsed, call_processAsRep_dhInfo tag parsed']
              exact processDhRep_withCrlVerdict verdict s crls dhRepInfo params
          | encKeyPack contents =>
              rw [processAsRep, processAsRep, if_neg (by simp [tag]), if_neg (by simp [tag]),
                call_get_bind, call_get_bind, parsed, parsed', mapError_ok,
                call_lift_bind_ok _ rfl, call_lift_bind_ok _ rfl]
              rfl

/-! ## The option -/

/-- With the option on, no key without a list in the store. -/
def PkinitClientState.RefusedWithoutCrls (platform : Platform) (o2k : OctetString2Key)
    (instant : Instant) (s : PkinitClientState) (paRepDer : Bytes) (params : AsRepParams) : Prop :=
  s.config.requireCrlChecking = true → ∀ key,
    (call (processAsRep platform o2k instant paRepDer params) (s.withCrls [])).2 ≠ .ok key

/-- With the option on, no key under lists on which every path is refused. -/
def PkinitClientState.RefusedWhenRevoked (platform : Platform) (o2k : OctetString2Key)
    (instant : Instant) (s : PkinitClientState) (paRepDer : Bytes) (params : AsRepParams) : Prop :=
  s.config.requireCrlChecking = true → ∀ (verdict : CrlVerdict) crls,
    (∀ leaf intermediates policy anchors,
      verdict leaf intermediates policy anchors crls ≠ .ok ()) → ∀ key,
    (call (processAsRep (platform.withCrlVerdict verdict) o2k instant paRepDer params)
      (s.withCrls crls)).2 ≠ .ok key

/-- **The client never honours its CRL option.** With the option on, a reply it
accepts is accepted without any list, and under lists that revoke everything:
the two demands are met by the replies it refuses anyway. -/
theorem crl_option_never_honoured (paRepDer : Bytes) (params : AsRepParams) :
    (s.RefusedWithoutCrls platform o2k instant paRepDer params ↔
      s.config.requireCrlChecking = false ∨
        ∀ key, (call (processAsRep platform o2k instant paRepDer params) s).2 ≠ .ok key) ∧
    (s.RefusedWhenRevoked platform o2k instant paRepDer params ↔
      s.config.requireCrlChecking = false ∨
        ∀ key, (call (processAsRep platform o2k instant paRepDer params) s).2 ≠ .ok key) := by
  let revoked : CrlVerdict := fun _ _ _ _ _ => .error "certificate revoked"
  have sameVerdict : ∀ (verdict : CrlVerdict) crls,
      (call (processAsRep (platform.withCrlVerdict verdict) o2k instant paRepDer params)
        (s.withCrls crls)).2 = (call (processAsRep platform o2k instant paRepDer params) s).2 :=
    fun verdict crls => processAsRep_withCrlVerdict verdict s crls paRepDer params
  -- Replacing the lists twice leaves the second ones, under either platform.
  have sameStore : (call (processAsRep platform o2k instant paRepDer params) (s.withCrls [])).2 =
      (call (processAsRep platform o2k instant paRepDer params) s).2 :=
    (processAsRep_withCrlVerdict revoked (s.withCrls []) [] paRepDer params).symm.trans
      (sameVerdict revoked [])
  unfold RefusedWithoutCrls RefusedWhenRevoked
  rw [sameStore]
  cases s.config.requireCrlChecking with
  | false => simp
  | true =>
      simp only [true_implies, Bool.true_eq_false, false_or, sameVerdict]
      exact ⟨trivial, fun refuses => refuses revoked [] (by simp [revoked]),
        fun refuses _ _ _ => refuses⟩

namespace Reference

/-- The anonymous client with the option on, after its request. -/
def crlClient : PkinitClientState :=
  (call buildRequest { readyClient with
    config := { readyClient.config with requireCrlChecking := true } }).1

theorem crlClient_accepts :
    crlClient.config.requireCrlChecking = true ∧ crlClient.trustStore.crls = [] ∧
      (call readReply crlClient).2 = .ok ⟨18, dhReplyKey⟩ ∧
      crlLists clientInstant.now crlDer kdcCertDer = true := by
  decide +kernel

/-- What the reference validator says of a path under lists. -/
def crlVerdict : CrlVerdict := fun leaf intermediates policy anchors crls =>
  crlRecorded.x509.verify leaf intermediates policy anchors { crls := some crls }

theorem crlRecorded_eq_withCrlVerdict : crlRecorded = recorded.withCrlVerdict crlVerdict := by
  have verify : crlRecorded.x509.verify = (recorded.withCrlVerdict crlVerdict).x509.verify := by
    funext leaf intermediates policy anchors ⟨crls, ocsp⟩
    cases crls with
    | some crls => rfl
    | none =>
        by_cases found : (leaf.der, anchors) ∈ recording.paths <;>
          simp [crlRecorded, crlPath, Platform.withCrlVerdict, recorded, Recording.platform,
            Recording.x509, found]
  exact congrArg (fun verify => { recorded with x509 := { recorded.x509 with verify := verify } })
    verify

end Reference

/-- A reply is accepted without a list, and under one that revokes the KDC's
certificate. -/
theorem revoked_kdc_accepted :
    Reference.crlClient.config.requireCrlChecking = true ∧
      Reference.crlClient.trustStore.crls = [] ∧
      (call Reference.readReply Reference.crlClient).2 = .ok ⟨18, Reference.dhReplyKey⟩ ∧
      Reference.crlSearch.revokes Reference.clientInstant.now Reference.crlDer
        Reference.kdcCertDer ∧
      (call (processAsRep Reference.crlRecorded (krb5OctetString2Key Reference.recorded)
          Reference.clientInstant Reference.agileDhReply
          (Reference.replyParams Reference.agileDhReply))
        (Reference.crlClient.withCrls [Reference.crlDer])).2 = .ok ⟨18, Reference.dhReplyKey⟩ := by
  obtain ⟨required, empty, accepts, lists⟩ := Reference.crlClient_accepts
  refine ⟨required, empty, accepts, lists, ?_⟩
  rw [Reference.crlRecorded_eq_withCrlVerdict]
  exact (processAsRep_withCrlVerdict Reference.crlVerdict Reference.crlClient [Reference.crlDer]
    Reference.agileDhReply (Reference.replyParams Reference.agileDhReply)).trans accepts

end Kurbu5Pkinit

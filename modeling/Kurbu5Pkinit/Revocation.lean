import Kurbu5Pkinit.Reference.Crl
import Kurbu5Pkinit.Verification

/-!
# Revocation lists

The trust store hands its revocation lists to the path validator only where
CRL checking is required. Without the requirement the lists make no
difference: a certificate that a loaded list revokes is accepted.
-/

set_option autoImplicit false

namespace Kurbu5Pkinit

open Library

variable {platform : Platform} {instant : Instant}

namespace TrustStore

/-- What the store hands to the validator. -/
def revocationChecks (store : TrustStore) (requireCrl : Bool) : RevocationChecks where
  crls := if requireCrl then some store.crls else none

/-- The path from a presented certificate to an anchor of the store. -/
def validatedPath (search : PathValidation platform.x509) (instant : Instant) (store : TrustStore)
    (certDer : Bytes) (chain : List Bytes) (checks : RevocationChecks) : Option (List Bytes) := do
  (platform.x509.openStore store.anchors).toOption
  let leafCert ← (platform.synta.certificate.fromDer certDer).toOption
  let intermediates ← ((chain ++ store.intermediates).mapM (decodeIntermediate platform)).toOption
  search.path ⟨leafCert, certDer⟩ intermediates (.newClient instant.now .permitAll) store.anchors
    checks

/-- **A chain is valid when there is a path, and a list where one is
required.** -/
theorem validateChain_eq_ok {search : PathValidation platform.x509} {store : TrustStore}
    {certDer : Bytes} {chain : List Bytes} {requireCrl : Bool} :
    store.validateChain platform instant certDer chain requireCrl = .ok () ↔
      (requireCrl = true → store.crls ≠ []) ∧
        ∃ certs, store.validatedPath search instant certDer chain
          (store.revocationChecks requireCrl) = some certs := by
  unfold validateChain validatedPath revocationChecks
  cases platform.x509.openStore store.anchors with
  | error e => simp [Except.toOption]
  | ok _ =>
      cases platform.synta.certificate.fromDer certDer with
      | error e => simp [Except.toOption]
      | ok leafCert =>
          cases (chain ++ store.intermediates).mapM (decodeIntermediate platform) with
          | error e => simp [Except.toOption]
          | ok intermediates => simp [Except.toOption, search.found]

/-- **Without the requirement, the lists make no difference.** -/
theorem validateChain_ignores_crls (store : TrustStore) (certDer : Bytes) (chain : List Bytes)
    (crls : List Bytes) :
    { store with crls := crls }.validateChain platform instant certDer chain false =
      store.validateChain platform instant certDer chain false := by
  simp [validateChain]

/-- No list of the store revokes a certificate of the path. -/
def Unrevoked (search : PathValidation platform.x509) (instant : Instant) (store : TrustStore)
    (certs : List Bytes) : Prop :=
  ∀ crl ∈ store.crls, ∀ certDer ∈ certs, ¬ search.revokes instant.now crl certDer

/-- A valid chain is not one that a loaded list revokes. -/
def HonoursCrls (search : PathValidation platform.x509) (instant : Instant) (store : TrustStore)
    (certDer : Bytes) (chain : List Bytes) (requireCrl : Bool) : Prop :=
  store.validateChain platform instant certDer chain requireCrl = .ok () →
    ∀ certs, store.validatedPath search instant certDer chain
      (store.revocationChecks requireCrl) = some certs → store.Unrevoked search instant certs

/-- The requirement decides whether a store without lists is an error, and
nothing else. -/
def DecidesAbsence (platform : Platform) (instant : Instant) (store : TrustStore)
    (certDer : Bytes) (chain : List Bytes) : Prop :=
  store.validateChain platform instant certDer chain true = .ok () ↔
    store.crls ≠ [] ∧ store.validateChain platform instant certDer chain false = .ok ()

/-- What the lists are needed for: the certificate has a path that goes
through a revoked certificate. -/
def RevokedOnPath (search : PathValidation platform.x509) (instant : Instant) (store : TrustStore)
    (certDer : Bytes) (chain : List Bytes) : Prop :=
  ∃ certs, store.validatedPath search instant certDer chain { crls := none } = some certs ∧
    ∃ crl ∈ store.crls, ∃ revoked ∈ certs, search.revokes instant.now crl revoked

/-- The validator finds a path with the lists of the store exactly where it
finds one without. -/
def SamePathFound (search : PathValidation platform.x509) (instant : Instant) (store : TrustStore)
    (certDer : Bytes) (chain : List Bytes) : Prop :=
  (store.validatedPath search instant certDer chain { crls := some store.crls }).isSome ↔
    (store.validatedPath search instant certDer chain { crls := none }).isSome

/-- A path found with the lists goes through no certificate they revoke. -/
theorem unrevoked_of_validatedPath {search : PathValidation platform.x509} {store : TrustStore}
    {certDer : Bytes} {chain certs : List Bytes}
    (located : store.validatedPath search instant certDer chain { crls := some store.crls } =
      some certs) :
    store.Unrevoked search instant certs := by
  simp only [validatedPath, Option.bind_eq_bind, Option.bind_eq_some_iff] at located
  obtain ⟨_, _, leafCert, _, intermediates, _, located⟩ := located
  exact search.evaluated _ _ _ _ _ _ _ rfl located

/-- **A path of the call is honoured exactly where CRL checking is required, or
there is nothing to revoke.** -/
theorem unrevoked_iff {search : PathValidation platform.x509} {store : TrustStore}
    {certDer : Bytes} {chain certs : List Bytes} {requireCrl : Bool}
    (located : store.validatedPath search instant certDer chain
      (store.revocationChecks requireCrl) = some certs) :
    store.Unrevoked search instant certs ↔
      requireCrl = true ∨ ¬ store.RevokedOnPath search instant certDer chain := by
  cases requireCrl with
  | true =>
      constructor
      · intro
        exact .inl rfl
      · intro
        exact unrevoked_of_validatedPath located
  | false =>
      constructor
      · intro unrevoked
        refine .inr ?_
        rintro ⟨certs', located', crl, loaded, revoked, member, revokes⟩
        obtain rfl : certs' = certs := Option.some.inj (located'.symm.trans located)
        exact unrevoked crl loaded revoked member revokes
      · rintro (required | none) crl loaded revoked member revokes
        · cases required
        · exact none ⟨certs, located, crl, loaded, revoked, member, revokes⟩

theorem honoursCrls_iff {search : PathValidation platform.x509} {store : TrustStore}
    {certDer : Bytes} {chain : List Bytes} {requireCrl : Bool} :
    store.HonoursCrls search instant certDer chain requireCrl ↔
      requireCrl = true ∨ ¬ store.RevokedOnPath search instant certDer chain := by
  constructor
  · intro honours
    cases requireCrl with
    | true => exact .inl rfl
    | false =>
        refine .inr ?_
        rintro ⟨certs, located, crl, loaded, revoked, member, revokes⟩
        have valid : store.validateChain platform instant certDer chain false = .ok () :=
          validateChain_eq_ok.mpr ⟨by simp, certs, located⟩
        exact honours valid certs located crl loaded revoked member revokes
  · intro careful _ certs located
    exact (unrevoked_iff located).mpr careful

/-- Whatever the lists are, a store without them is refused under the
requirement; with lists, both verdicts are those of the search. -/
theorem decidesAbsence_iff {search : PathValidation platform.x509} {store : TrustStore}
    {certDer : Bytes} {chain : List Bytes} :
    store.DecidesAbsence platform instant certDer chain ↔
      store.crls = [] ∨ store.SamePathFound search instant certDer chain := by
  have required := @validateChain_eq_ok platform instant search store certDer chain true
  have lax := @validateChain_eq_ok platform instant search store certDer chain false
  simp only [revocationChecks, if_true, Bool.false_eq_true, if_false, forall_const,
    false_implies, true_and, ← Option.isSome_iff_exists] at required lax
  rw [DecidesAbsence, SamePathFound, required, lax]
  by_cases empty : store.crls = []
  · simp [empty]
  · simp [empty]

/-- What is said of a loaded list: no path of a valid chain is revoked on it,
and the requirement only decides whether its absence is an error. -/
structure CrlsTakeEffect (search : PathValidation platform.x509) (instant : Instant)
    (store : TrustStore) (certDer : Bytes) (chain : List Bytes) (requireCrl : Bool) : Prop where
  honoured : store.HonoursCrls search instant certDer chain requireCrl
  absence : store.DecidesAbsence platform instant certDer chain

end TrustStore

/-! ## Requests -/

/-- The certificates a request presents, out of the envelope of its
`AuthPack`. -/
def presentedChain (platform : Platform) (paReqDer : Bytes) : Option (List Bytes) := do
  let paReq ← (platform.synta.paPkAsReq.fromDer paReqDer).toOption
  let signedData ← (unwrapSignedData platform paReq.signedAuthPack).toOption
  (presentedCertificates platform signedData).toOption

/-- The same KDC, with other lists in its store. -/
def PkinitKdcState.withCrls (kdc : PkinitKdcState) (crls : List Bytes) : PkinitKdcState :=
  { kdc with trustStore := { kdc.trustStore with crls := crls } }

/-- **A KDC that does not require CRLs verifies the same requests whatever
lists it loaded.** -/
theorem verifyAsReq_withCrls {kdc : PkinitKdcState}
    (lax : kdc.config.requireCrlChecking = false) (crls : List Bytes) (paReqDer : Bytes)
    (reqBodyDer : Option Bytes) (maxSkew currentTime : Int) :
    (kdc.withCrls crls).verifyAsReq platform instant paReqDer reqBodyDer maxSkew currentTime =
      kdc.verifyAsReq platform instant paReqDer reqBodyDer maxSkew currentTime := by
  have opens : ∀ der, (kdc.withCrls crls).openAuthPack platform instant der =
      kdc.openAuthPack platform instant der := by
    intro der
    simp only [PkinitKdcState.openAuthPack, PkinitKdcState.withCrls, lax,
      TrustStore.validateChain_ignores_crls]
    rfl
  simp only [PkinitKdcState.verifyAsReq, opens]
  rfl

/-- The path on which the KDC accepted a signed request: the one found for the
chain that the request presented. -/
structure AcceptedOn (search : PathValidation platform.x509) (instant : Instant)
    (kdc : PkinitKdcState) (paReqDer certDer : Bytes) (chain certs : List Bytes) : Prop where
  presented : presentedChain platform paReqDer = some chain
  located : kdc.trustStore.validatedPath search instant certDer chain
    (kdc.trustStore.revocationChecks kdc.config.requireCrlChecking) = some certs
  leaf : certDer ∈ certs
  loaded : kdc.config.requireCrlChecking = true → kdc.trustStore.crls ≠ []

/-- A signed request the KDC verified has a path for its certificate. -/
theorem acceptedOn_of_verifyAsReq (search : PathValidation platform.x509)
    {kdc : PkinitKdcState} {paReqDer : Bytes} {reqBodyDer : Option Bytes}
    {maxSkew currentTime : Int} {verified : VerifiedRequest}
    (verifies : kdc.verifyAsReq platform instant paReqDer reqBodyDer maxSkew currentTime =
      .ok verified) (signed : verified.isAnonymous = false) :
    ∃ chain certs, AcceptedOn search instant kdc paReqDer verified.clientCertDer chain certs := by
  obtain ⟨authPack, cert, anonymous, ⟨paReq, authPackDer, parsed, opened, _⟩, passes⟩ :=
    verifyAsReq_eq_ok.mp verifies
  rw [passes.anonymous] at signed
  rw [passes.cert]
  rcases openAuthPack_sound opened with ⟨unsigned, _⟩ | ⟨_, v, rfl, request⟩
  · rw [unsigned] at signed
    cases signed
  · obtain ⟨signedData, _, unwrapped, binding⟩ := request.signature
    have presented : presentedChain platform paReqDer = some v.allCertsDer := by
      simp [presentedChain, parsed, unwrapped, binding.certificates, Except.toOption]
    have valid := request.chain
    rw [@TrustStore.validateChain_eq_ok _ _ search] at valid
    obtain ⟨loaded, certs, located⟩ := valid
    have leaf := located
    simp only [TrustStore.validatedPath, Option.bind_eq_bind, Option.bind_eq_some_iff] at leaf
    obtain ⟨_, _, leafCert, _, intermediates, _, leaf⟩ := leaf
    exact ⟨v.allCertsDer, certs, presented, located, search.leaf _ _ _ _ _ _ leaf, loaded⟩

/-- **Loaded lists take effect exactly where CRL checking is required or there
is nothing to revoke, and where the validator finds the same with them as
without.** Without the requirement no list has any effect, on a chain or on a
request; with it an empty store is refused. Each accepted request is honoured
under the same condition on the chain it presented. -/
theorem loaded_crls_honoured_iff (search : PathValidation platform.x509) (instant : Instant) :
    (∀ store certDer chain requireCrl,
      TrustStore.CrlsTakeEffect search instant store certDer chain requireCrl ↔
        (requireCrl = true ∨ ¬ store.RevokedOnPath search instant certDer chain) ∧
          (store.crls = [] ∨ store.SamePathFound search instant certDer chain)) ∧
    (∀ store certDer chain,
      TrustStore.validateChain platform instant store certDer chain true = .ok () →
        store.crls ≠ []) ∧
    (∀ store certDer chain crls,
      TrustStore.validateChain platform instant { store with crls := crls } certDer chain false =
        TrustStore.validateChain platform instant store certDer chain false) ∧
    (∀ (kdc : PkinitKdcState) paReqDer reqBodyDer maxSkew currentTime crls,
      kdc.config.requireCrlChecking = false →
      (kdc.withCrls crls).verifyAsReq platform instant paReqDer reqBodyDer maxSkew currentTime =
        kdc.verifyAsReq platform instant paReqDer reqBodyDer maxSkew currentTime) ∧
    ∀ (kdc : PkinitKdcState) paReqDer reqBodyDer maxSkew currentTime verified,
      kdc.verifyAsReq platform instant paReqDer reqBodyDer maxSkew currentTime = .ok verified →
      verified.isAnonymous = false →
      ∃ chain certs, AcceptedOn search instant kdc paReqDer verified.clientCertDer chain certs ∧
        (kdc.trustStore.Unrevoked search instant certs ↔
          kdc.config.requireCrlChecking = true ∨
            ¬ kdc.trustStore.RevokedOnPath search instant verified.clientCertDer chain) ∧
        ((kdc.config.requireCrlChecking = true ∨
            ¬ kdc.trustStore.RevokedOnPath search instant verified.clientCertDer chain) →
          ∀ crl ∈ kdc.trustStore.crls,
            ¬ search.revokes instant.now crl verified.clientCertDer) := by
  refine ⟨?_, ?_, TrustStore.validateChain_ignores_crls, ?_, ?_⟩
  · intro store certDer chain requireCrl
    rw [← TrustStore.honoursCrls_iff, ← TrustStore.decidesAbsence_iff]
    exact ⟨fun effect => ⟨effect.honoured, effect.absence⟩, fun ⟨honoured, absence⟩ =>
      ⟨honoured, absence⟩⟩
  · intro store certDer chain valid
    exact ((@TrustStore.validateChain_eq_ok _ _ search _ _ _ _).mp valid).1 rfl
  · intro kdc paReqDer reqBodyDer maxSkew currentTime crls lax
    exact verifyAsReq_withCrls lax crls paReqDer reqBodyDer maxSkew currentTime
  · intro kdc paReqDer reqBodyDer maxSkew currentTime verified verifies signed
    obtain ⟨chain, certs, accepted⟩ := acceptedOn_of_verifyAsReq search verifies signed
    have honoured := TrustStore.unrevoked_iff accepted.located
    refine ⟨chain, certs, accepted, honoured, ?_⟩
    intro careful crl loaded
    exact honoured.mpr careful crl loaded _ accepted.leaf

namespace Reference

theorem revokingKdc_verifies :
    (revokingKdc.verifyAsReq crlRecorded kdcInstant firstRequest (some requestBody) 300
        clientInstant.now).map (fun verified => (verified.isAnonymous, verified.clientCertDer)) =
        .ok (false, aliceCertDer) ∧
      revokingStore.validatedPath crlSearch kdcInstant aliceCertDer [aliceCertDer]
          { crls := none } =
        some [aliceCertDer, caCertDer] ∧
      crlLists kdcInstant.now crlDer aliceCertDer = true := by
  decide +kernel

/-- The client's path, found without lists, begins with a revoked
certificate. -/
theorem revokingStore_revokesPath :
    revokingStore.RevokedOnPath crlSearch kdcInstant aliceCertDer [aliceCertDer] := by
  obtain ⟨_, located, lists⟩ := revokingKdc_verifies
  exact ⟨_, located, crlDer, List.mem_singleton_self _, aliceCertDer, List.mem_cons_self, lists⟩

end Reference

/-- A store without lists takes effect for the client's certificate: there is
nothing to revoke, and it is refused under the requirement. -/
theorem loaded_crls_honoured_iff_empty :
    TrustStore.CrlsTakeEffect Reference.crlSearch Reference.kdcInstant Reference.trustStore
        Reference.aliceCertDer [Reference.aliceCertDer] false ∧
      Reference.trustStore.validateChain Reference.crlRecorded Reference.kdcInstant
        Reference.aliceCertDer [Reference.aliceCertDer] true ≠ .ok () := by
  have results := loaded_crls_honoured_iff Reference.crlSearch Reference.kdcInstant
  have unloaded : Reference.trustStore.crls = [] := rfl
  constructor
  · refine (results.1 _ _ _ _).mpr ⟨.inr ?_, .inl unloaded⟩
    rintro ⟨_, _, crl, loaded, _⟩
    rw [unloaded] at loaded
    cases loaded
  · intro valid
    exact results.2.1 _ _ _ valid unloaded

/-- A request under a certificate that the loaded list revokes is accepted. -/
theorem revoked_certificate_accepted :
    Reference.revokingKdc.trustStore.crls = [Reference.crlDer] ∧
      Reference.crlSearch.revokes Reference.kdcInstant.now Reference.crlDer
        Reference.aliceCertDer ∧
      ¬ Reference.revokingStore.CrlsTakeEffect Reference.crlSearch Reference.kdcInstant
        Reference.aliceCertDer [Reference.aliceCertDer] false ∧
      ∃ verified, Reference.revokingKdc.verifyAsReq Reference.crlRecorded Reference.kdcInstant
          Reference.firstRequest (some Reference.requestBody) 300 Reference.clientInstant.now =
            .ok verified ∧
        verified.isAnonymous = false ∧ verified.clientCertDer = Reference.aliceCertDer := by
  obtain ⟨verifies, _, lists⟩ := Reference.revokingKdc_verifies
  refine ⟨rfl, lists, ?_, ?_⟩
  · intro effect
    rcases TrustStore.honoursCrls_iff.mp effect.honoured with required | unrevoked
    · cases required
    · exact unrevoked Reference.revokingStore_revokesPath
  · cases answer : Reference.revokingKdc.verifyAsReq Reference.crlRecorded Reference.kdcInstant
        Reference.firstRequest (some Reference.requestBody) 300 Reference.clientInstant.now with
    | error e =>
        rw [answer] at verifies
        cases verifies
    | ok verified =>
        rw [answer] at verifies
        obtain ⟨signed, cert⟩ := Prod.mk.inj (Except.ok.inj verifies)
        exact ⟨verified, rfl, signed, cert⟩

end Kurbu5Pkinit

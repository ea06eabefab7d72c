import Kurbu5Pkinit.Agreement
import Kurbu5Pkinit.Plugin.KdcReply
import Kurbu5Pkinit.Reference.Kdc
import Kurbu5Pkinit.Reference.Plugin

/-!
# The function a reply key is derived by

A client lists the key derivation functions it supports. The KDC takes the
first of its own preferences on the list, and must refuse a list that has none
of them. The KEM path refuses it, with an error the plugin does not pass on;
the DH path falls back to the derivation of clients that sent no list.
-/

set_option autoImplicit false

namespace Kurbu5Pkinit

open Library PkinitKdc

variable {platform : Platform} {o2k : OctetString2Key} {instant : Instant}

/-! ## Preferences -/

/-- The functions of a path, best first. -/
def kdfPreferences : KeyExchangeType → List Oid
  | .dh _ => KDF_PREFERENCE_ORDER
  | .kem _ => [ID_ALG_HKDF_WITH_SHA512]

/-- The first of the preferences on a list. -/
def FirstListed (preferences listed : List Oid) (kdf : Oid) : Prop :=
  kdf ∈ listed ∧ ∃ better worse, preferences = better ++ kdf :: worse ∧
    ∀ preferred ∈ better, preferred ∉ listed

theorem FirstListed.mem {preferences listed : List Oid} {kdf : Oid}
    (first : FirstListed preferences listed kdf) : kdf ∈ preferences := by
  obtain ⟨_, better, worse, rfl, _⟩ := first
  exact List.mem_append_right better List.mem_cons_self

theorem pickKdfAlg_eq (listed : List Oid) :
    pickKdfAlg listed = KDF_PREFERENCE_ORDER.find? fun preferred => preferred ∈ listed := by
  have mentions : ∀ preferred : Oid,
      (listed.any fun kdf => kdf = preferred) = decide (preferred ∈ listed) := by
    intro preferred
    rw [Bool.eq_iff_iff]
    simp
  simp only [pickKdfAlg, mentions]

theorem pickKdfAlg_eq_some {listed : List Oid} {kdf : Oid} :
    pickKdfAlg listed = some kdf ↔ FirstListed KDF_PREFERENCE_ORDER listed kdf := by
  simp [pickKdfAlg_eq, FirstListed, List.find?_eq_some_iff_append]

theorem pickKdfAlg_eq_none {listed : List Oid} :
    pickKdfAlg listed = none ↔ ∀ kdf ∈ KDF_PREFERENCE_ORDER, kdf ∉ listed := by
  simp [pickKdfAlg_eq]

/-- The client listed a function of the path. -/
def ListsKdf (verified : VerifiedRequest) : Prop :=
  ∃ kdf ∈ kdfPreferences verified.keyExchange, kdf ∈ verified.supportedKdfs

/-! ## Derivations -/

/-- How the key of a reply was derived: by a function, or by the derivation
without one. -/
inductive DerivedBy (platform : Platform) (o2k : OctetString2Key) (instant : Instant)
    (verified : VerifiedRequest) (params : BuildAsRepParams) (reply : Bytes) :
    Option Oid → DerivedKey → Prop where
  | agile {group : DhGroup} {kdcKey : DhKeyPair} {secret partyU partyV : Bytes} {kdf : Oid}
      {key : DerivedKey}
      (path : verified.keyExchange = .dh group)
      (generated : DhKeyPair.generate platform instant group = .ok kdcKey)
      (agreed : kdcKey.deriveSharedSecret platform verified.clientDhPublic = .ok secret)
      (client : encodePrincipalForKdf platform params.clientName = .ok partyU)
      (server : encodePrincipalForKdf platform params.serverName = .ok partyV)
      (derived : pkinitKdf platform o2k
        ⟨secret, kdf, params.enctype, partyU, partyV, params.asReqDer, reply⟩ = .ok key) :
      DerivedBy platform o2k instant verified params reply (some kdf) key
  | hkdf {algorithm : KemAlgorithm} {ciphertext secret kemSignedData : Bytes} {key : DerivedKey}
      (path : verified.keyExchange = .kem algorithm)
      (encapsulated : encapsulateForClient platform instant verified.clientDhPublic algorithm =
        .ok (ciphertext, secret))
      (wrapped : encodeKemRepWrapper platform.synta ⟨kemSignedData⟩ = .ok reply)
      (derived : pkinitKemKdf platform o2k
        ⟨secret, params.enctype, params.asReqDer, kemSignedData⟩ = .ok key) :
      DerivedBy platform o2k instant verified params reply (some ID_ALG_HKDF_WITH_SHA512) key
  | legacy {group : DhGroup} {kdcKey : DhKeyPair} {secret serverDhNonce : Bytes} {key : DerivedKey}
      (path : verified.keyExchange = .dh group)
      (generated : DhKeyPair.generate platform instant group = .ok kdcKey)
      (agreed : kdcKey.deriveSharedSecret platform verified.clientDhPublic = .ok secret)
      (derived : octetstring2key o2k
        (secret ++ (verified.clientDhNonce.getD [] ++ serverDhNonce)) params.enctype = .ok key) :
      DerivedBy platform o2k instant verified params reply none key

variable {state : PkinitKdcState} {verified : VerifiedRequest} {params : BuildAsRepParams}
  {reply : Bytes} {key : DerivedKey}

/-- The DH path derives by the KDC's choice, or without a function. -/
theorem derivedBy_of_buildDhRep {group : DhGroup} (path : verified.keyExchange = .dh group)
    (answered : state.buildDhRep platform o2k instant verified params group = .ok (reply, key)) :
    DerivedBy platform o2k instant verified params reply (pickKdfAlg verified.supportedKdfs)
      key := by
  obtain ⟨_, _, _, _, _, _, _, generated, _, agreed, _, _, _, _, derived⟩ :=
    buildDhRep_eq_ok answered
  cases picked : pickKdfAlg verified.supportedKdfs with
  | none =>
      rw [picked] at derived
      exact .legacy path generated agreed derived
  | some kdf =>
      rw [picked] at derived
      simp only [PkinitKdcState.deriveDhRepKey, bind_eq_ok] at derived
      obtain ⟨partyU, client, partyV, server, derived⟩ := derived
      exact .agile path generated agreed client server derived

theorem derivedBy_of_buildKemRep {algorithm : KemAlgorithm}
    (path : verified.keyExchange = .kem algorithm)
    (answered : state.buildKemRep platform o2k instant verified params algorithm =
      .ok (reply, key)) :
    DerivedBy platform o2k instant verified params reply (some ID_ALG_HKDF_WITH_SHA512) key := by
  obtain ⟨_, _, _, _, encapsulated, _, _, wrapped, derived⟩ := buildKemRep_eq_ok answered
  exact .hkdf path encapsulated wrapped derived

/-- **A key is derived by the first preference on the list, where the list has
one.** -/
theorem derivedBy_of_listsKdf (lists : ListsKdf verified) :
    ∃ kdf, FirstListed (kdfPreferences verified.keyExchange) verified.supportedKdfs kdf ∧
      ∀ reply key, state.buildAsRep platform o2k instant verified params = .ok (reply, key) →
        DerivedBy platform o2k instant verified params reply (some kdf) key := by
  obtain ⟨kdf, preferred, listed⟩ := lists
  cases path : verified.keyExchange with
  | dh group =>
      rw [path] at preferred
      cases picked : pickKdfAlg verified.supportedKdfs with
      | none => exact absurd listed (pickKdfAlg_eq_none.mp picked kdf preferred)
      | some first =>
          refine ⟨first, pickKdfAlg_eq_some.mp picked, ?_⟩
          intro reply key answered
          rw [PkinitKdcState.buildAsRep, path] at answered
          rw [← picked]
          exact derivedBy_of_buildDhRep path answered
  | kem algorithm =>
      rw [path] at preferred
      cases List.mem_singleton.mp preferred
      refine ⟨ID_ALG_HKDF_WITH_SHA512, ⟨listed, [], [], rfl, by simp⟩, ?_⟩
      intro reply key answered
      rw [PkinitKdcState.buildAsRep, path] at answered
      exact derivedBy_of_buildKemRep path answered

/-! ## Lists without a function of the path -/

/-- The DH path answers such a list as it answers a client that sent none. -/
theorem legacy_of_unlisted {group : DhGroup} (path : verified.keyExchange = .dh group)
    (unlisted : ¬ ListsKdf verified)
    (answered : state.buildAsRep platform o2k instant verified params = .ok (reply, key)) :
    DerivedBy platform o2k instant verified params reply none key := by
  have picked : pickKdfAlg verified.supportedKdfs = none := by
    rw [pickKdfAlg_eq_none]
    intro kdf preferred listed
    exact unlisted ⟨kdf, by rwa [path], listed⟩
  rw [PkinitKdcState.buildAsRep, path] at answered
  rw [← picked]
  exact derivedBy_of_buildDhRep path answered

/-- The KEM path refuses it. -/
theorem refused_of_unlisted {algorithm : KemAlgorithm}
    (path : verified.keyExchange = .kem algorithm) (sent : verified.supportedKdfs ≠ [])
    (unlisted : ¬ ListsKdf verified) :
    state.buildAsRep platform o2k instant verified params = .error .noAcceptableKdf := by
  have absent : ID_ALG_HKDF_WITH_SHA512 ∉ verified.supportedKdfs := by
    intro listed
    exact unlisted ⟨_, by rw [path]; exact List.mem_singleton_self _, listed⟩
  rw [PkinitKdcState.buildAsRep, path]
  unfold PkinitKdcState.buildKemRep
  simp only [rejectIf, if_pos (And.intro sent absent), error_bind]

/-! ## The plugin -/

variable {kdc : PkinitKdc} {req : ReturnPadataRequest} {callbacks : ReplyCallbacks}

/-- A list the client sent is honoured: the key is derived by the first of the
KDC's preferences on it, or the request is refused with the code for a list
without one. -/
def HonoursKdfs (platform : Platform) (instant : Instant) (kdc : PkinitKdc)
    (req : ReturnPadataRequest) (callbacks : ReplyCallbacks) (verified : VerifiedRequest)
    (params : BuildAsRepParams) : Prop :=
  verified.supportedKdfs ≠ [] →
    (∃ kdf, FirstListed (kdfPreferences verified.keyExchange) verified.supportedKdfs kdf ∧
      ∀ reply key, kdc.state.buildAsRep platform (krb5OctetString2Key platform) instant verified
          params = .ok (reply, key) →
        DerivedBy platform (krb5OctetString2Key platform) instant verified params reply (some kdf)
          key) ∨
    (kdc.state.buildAsRep platform (krb5OctetString2Key platform) instant verified params =
        .error .noAcceptableKdf ∧
      kdc.returnPkinitDh platform instant req callbacks =
        .error (.custom KRB5KDC_ERR_NO_ACCEPTABLE_KDF))

/-- **A list of functions is honoured exactly where one of them is a function
of the path.** Otherwise the DH path derives as for a client without a list,
and the KEM path refuses with an error that reaches the KDC as `EINVAL`. -/
theorem kdf_list_honoured_iff (gathers : Gathers platform req callbacks verified params) :
    (HonoursKdfs platform instant kdc req callbacks verified params ↔
      verified.supportedKdfs = [] ∨ ListsKdf verified) ∧
    (verified.supportedKdfs ≠ [] → ¬ ListsKdf verified →
      match verified.keyExchange with
      | .dh _ => ∀ reply key, kdc.state.buildAsRep platform (krb5OctetString2Key platform) instant
            verified params = .ok (reply, key) →
          DerivedBy platform (krb5OctetString2Key platform) instant verified params reply none key
      | .kem _ =>
          kdc.state.buildAsRep platform (krb5OctetString2Key platform) instant verified params =
            .error .noAcceptableKdf ∧
          kdc.returnPkinitDh platform instant req callbacks = .error (.custom EINVAL)) := by
  refine ⟨⟨?_, ?_⟩, ?_⟩
  · intro honours
    by_cases sent : verified.supportedKdfs = []
    · exact .inl sent
    · refine .inr ?_
      rcases honours sent with ⟨kdf, first, _⟩ | ⟨refused, answered⟩
      · exact ⟨kdf, first.mem, first.1⟩
      · rw [returnPkinitDh_of_error gathers refused] at answered
        simp [EINVAL, KRB5KDC_ERR_NO_ACCEPTABLE_KDF] at answered
  · rintro (unsent | lists) sent
    · exact absurd unsent sent
    · exact .inl (derivedBy_of_listsKdf lists)
  · intro sent unlisted
    cases path : verified.keyExchange with
    | dh group => exact fun reply key answered => legacy_of_unlisted path unlisted answered
    | kem algorithm =>
        have refused := @refused_of_unlisted platform (krb5OctetString2Key platform) instant
          kdc.state verified params algorithm path sent unlisted
        exact ⟨refused, returnPkinitDh_of_error gathers refused⟩

namespace Reference

/-- An anonymous request on P-256 with this list of functions. -/
def requestWith (kdfs : List Oid) : Bytes :=
  writePaPkAsReq { signedAuthPack := writeContentInfo ⟨ID_SIGNED_DATA,
    explicitly 0 (writeSignedData {
      version := 3
      digestAlgorithms := []
      encapContentInfo := ⟨ID_PKINIT_AUTH_DATA, some (writeAuthPack
        { dhAuthPack firstToken with supportedKdfs := some (kdfs.map KdfAlgorithmId.mk) })⟩
      certificates := none
      signerInfos := [] })⟩ }

def verifiedWith (kdfs : List Oid) : VerifiedRequest where
  clientCertDer := []
  clientDhPublic := clientDhSpki
  nonce := requestNonce
  supportedKdfs := kdfs
  clientDhNonce := some clientDhNonce
  isAnonymous := true
  keyExchange := .dh .ecP256

/-- The module of the KDC that admits the smallest curve. -/
def smallGroupModule : PkinitKdc := ⟨smallGroupKdc, { dhMinBits := 256 }⟩

def anonymousCallbacks : KdcpreauthCallbacks where
  maxTimeSkew := 300
  clientNamePrincipal := some anonymousPrincipal
  requestBody := requestBody
  checkFreshnessToken _ := true

def replyRequest (kdfs : List Oid) : ReturnPadataRequest where
  modreq := some (verifiedWith kdfs)
  request := some (some kdcPrincipal)
  requestPacket := asReqDer

def replyCallbacks : ReplyCallbacks where
  fastArmor := none
  clientNameString := some anonymousName
  replaceReplyKey _ := .ok ()

theorem gathers_answerParams (kdfs : List Oid) :
    Gathers recorded (replyRequest kdfs) replyCallbacks (verifiedWith kdfs) answerParams where
  kept := rfl
  nonce := rfl
  enctype := rfl
  packet := rfl
  client := rfl
  server := ⟨kdcPrincipal, rfl, by decide⟩

/-- A list with the function of the KEM path alone. -/
theorem unknownKdf_accepted :
    smallGroupModule.verify recorded kdcInstant
        ⟨PA_PK_AS_REQ, requestWith [ID_ALG_HKDF_WITH_SHA512]⟩ anonymousCallbacks =
      .accepted (verifiedWith [ID_ALG_HKDF_WITH_SHA512]) [] := by
  decide +kernel

theorem unknownKdf_answered :
    smallGroupModule.returnPkinitDh recorded kdcInstant (replyRequest [ID_ALG_HKDF_WITH_SHA512])
        replyCallbacks =
      .ok (⟨PA_PK_AS_REP, dhReply none⟩, ⟨18, dhSecret⟩) := by
  decide +kernel

end Reference

/-- The client's own list is honoured. -/
theorem kdf_list_honoured_iff_requestWith :
    HonoursKdfs Reference.recorded Reference.kdcInstant Reference.smallGroupModule
      (Reference.replyRequest [ID_PKINIT_KDF_AH_SHA256, ID_PKINIT_KDF_AH_SHA512,
        ID_PKINIT_KDF_AH_SHA1])
      Reference.replyCallbacks
      (Reference.verifiedWith [ID_PKINIT_KDF_AH_SHA256, ID_PKINIT_KDF_AH_SHA512,
        ID_PKINIT_KDF_AH_SHA1])
      Reference.answerParams :=
  (kdf_list_honoured_iff (Reference.gathers_answerParams _)).1.mpr
    (.inr ⟨ID_PKINIT_KDF_AH_SHA256, List.mem_cons_self, List.mem_cons_self⟩)

/-- A request whose list has no function of the DH path is accepted, and its
key is the shared secret itself. -/
theorem unknown_kdf_replaced :
    Reference.smallGroupModule.verify Reference.recorded Reference.kdcInstant
        ⟨PA_PK_AS_REQ, Reference.requestWith [ID_ALG_HKDF_WITH_SHA512]⟩
        Reference.anonymousCallbacks =
      .accepted (Reference.verifiedWith [ID_ALG_HKDF_WITH_SHA512]) [] ∧
    Reference.smallGroupModule.returnPkinitDh Reference.recorded Reference.kdcInstant
        (Reference.replyRequest [ID_ALG_HKDF_WITH_SHA512]) Reference.replyCallbacks =
      .ok (⟨PA_PK_AS_REP, Reference.dhReply none⟩, ⟨18, Reference.dhSecret⟩) ∧
    ¬ HonoursKdfs Reference.recorded Reference.kdcInstant Reference.smallGroupModule
      (Reference.replyRequest [ID_ALG_HKDF_WITH_SHA512]) Reference.replyCallbacks
      (Reference.verifiedWith [ID_ALG_HKDF_WITH_SHA512]) Reference.answerParams := by
  refine ⟨Reference.unknownKdf_accepted, Reference.unknownKdf_answered, ?_⟩
  intro honours
  rcases honours (List.cons_ne_nil _ _) with ⟨kdf, ⟨listed, first⟩, _⟩ | ⟨_, answered⟩
  · cases List.mem_singleton.mp listed
    have preferred := FirstListed.mem ⟨listed, first⟩
    revert preferred
    decide
  · rw [Reference.unknownKdf_answered] at answered
    cases answered

end Kurbu5Pkinit

import Kurbu5Pkinit.Acceptance
import Kurbu5Pkinit.Agreement
import Kurbu5Pkinit.Client.Selection

/-!
# One retry is enough

A client whose key exchange was refused picks another from the KDC's typed
data and asks again. What it picks is in the KDC's list, since each entry is
read back as the exchange it was written for; the KDC accepts what it lists;
and the next request carries a fresh key of the exchange that was picked.
-/

set_option autoImplicit false

namespace Kurbu5Pkinit

open Library PkinitClientState

variable {platform : Platform} {instant : Instant}

/-! ## The next request -/

/-- A request carries a key of the selected exchange, as the protocol has it. -/
theorem buildAsReq_carries (laws : LawfulPlatform platform) (keys : ExportedKeys platform)
    {s s' : PkinitClientState} {input : RequestInput} {request : Bytes}
    (holds : HoldsGroupKey platform s)
    (built : call (buildAsReq platform instant input.nonce input.ctime input.cusec
      input.reqBodyDer) s = (s', .ok request)) :
    s'.keyExchange = some s.selected ∧ ∃ spkiDer dhNonce useKem,
      RequestCarries platform instant s input spkiDer dhNonce useKem request ∧
      WellFormedKey platform (.ofKeyExchange s.selected) spkiDer ∧
      platform.synta.element.Canonical spkiDer ∧
      ∀ alg, s.selected = .kem alg → dhNonce = none := by
  have outcome := buildAsReq_outcome platform instant s input
  rw [Ends, built] at outcome
  cases outcome with
  | @kem alg key spkiDer _ selected generated exported carries =>
      have same : s.selected = .kem alg := by rw [PkinitClientState.selected, selected]
      rw [same]
      exact ⟨rfl, spkiDer, none, true, carries, keys.kem generated exported,
        (laws.kems.exported generated exported).1, fun _ _ => rfl⟩
  | @dh key dhNonce spkiDer _ selected _ source exported carries =>
      have same : s.selected = .dh s.config.dhGroup := by rw [PkinitClientState.selected, selected]
      obtain ⟨_, generated⟩ : ∃ instant,
          DhKeyPair.generate platform instant s.config.dhGroup = .ok key := by
        rcases source with held | ⟨_, generated⟩
        · exact holds key held
        · exact ⟨instant, generated⟩
      rw [same]
      refine ⟨rfl, spkiDer, some dhNonce, false, carries, keys.dh generated exported,
        (laws.groups.exported generated exported).element, ?_⟩
      rintro _ ⟨⟩

/-- The key pair a request is made with: fresh for a KEM, possibly held for a
group. -/
inductive EphemeralKey (platform : Platform) (instant : Instant) (s : PkinitClientState) :
    Option Bytes → Bytes → Prop
  | kem {alg : KemAlgorithm} {key : KemKeyPair} {spkiDer : Bytes}
      (selected : s.config.kemAlgorithm = some alg)
      (generated : KemKeyPair.generate platform instant alg = .ok key)
      (exported : key.publicKeySpkiDer platform = .ok spkiDer) :
      EphemeralKey platform instant s none spkiDer
  | dh {key : DhKeyPair} {spkiDer dhNonce : Bytes}
      (selected : s.config.kemAlgorithm = none)
      (held : s.dhKey = some key ∨
        s.dhKey = none ∧ DhKeyPair.generate platform instant s.config.dhGroup = .ok key)
      (exported : key.publicKeySpkiDer platform = .ok spkiDer)
      (drawn : platform.crypto.randomBytes instant 32 = .ok dhNonce) :
      EphemeralKey platform instant s (some dhNonce) spkiDer

/-- What the libraries answer while one request is built. The client itself
may still refuse to build it. -/
structure RequestParts (platform : Platform) (instant : Instant) (s : PkinitClientState)
    (input : RequestInput) where
  pkAuth : PkAuthenticator
  authenticated : buildPkAuthenticator platform s.freshnessToken input.nonce input.ctime
    input.cusec input.reqBodyDer = .ok pkAuth
  dhNonce : Option Bytes
  spkiDer : Bytes
  key : EphemeralKey platform instant s dhNonce spkiDer
  publicValue : Element
  decoded : platform.synta.element.fromDer spkiDer = .ok publicValue
  kdfs : List KdfAlgorithmId
  named : offeredKdfs platform s.config.kemAlgorithm.isSome = .ok kdfs
  authPackDer : Bytes
  packed : platform.synta.authPack.toDer {
    pkAuthenticator := pkAuth
    clientPublicValue := some publicValue
    supportedCmsTypes := none
    clientDhNonce := dhNonce
    supportedKdfs := some kdfs } = .ok authPackDer
  signedAuthPack : Bytes
  unsigned : s.identity.certDer.isEmpty = true →
    createUnsignedData platform authPackDer ID_PKINIT_AUTH_DATA = .ok signedAuthPack
  signed : s.identity.certDer.isEmpty = false → ∀ key, s.identity.signingKey = some key →
    createSignedData platform instant authPackDer ID_PKINIT_AUTH_DATA key s.identity.certDer
      s.identity.chain (digestForSigner platform s.identity.certDer) = .ok signedAuthPack
  request : Bytes
  written : platform.synta.paPkAsReq.toDer { signedAuthPack := signedAuthPack } = .ok request

/-- An identity that signed one request has what it takes to sign another. -/
theorem RequestParts.signs {s : PkinitClientState} {input : RequestInput}
    (parts : RequestParts platform instant s input)
    (signer : s.identity.certDer.isEmpty = false → ∃ key, s.identity.signingKey = some key) :
    signAuthPack platform instant s.identity parts.authPackDer = .ok parts.signedAuthPack := by
  unfold signAuthPack
  cases empty : s.identity.certDer.isEmpty with
  | true => exact parts.unsigned empty
  | false =>
      obtain ⟨key, present⟩ := signer empty
      rw [if_neg (by simp), present, okOr_some, ok_bind, parts.signed empty key present]

theorem chooseEphemeralKey_ends {s : PkinitClientState} {dhNonce : Option Bytes} {spkiDer : Bytes}
    (key : EphemeralKey platform instant s dhNonce spkiDer) :
    Ends (chooseEphemeralKey platform instant) s fun _ r => r = .ok spkiDer := by
  unfold chooseEphemeralKey
  apply Ends.bind_get
  cases key with
  | kem selected generated exported =>
      simp only [selected]
      apply Ends.bind_modify
      apply Ends.bind_lift_ok generated
      exact Ends.bind_modify (Ends.of_lift exported)
  | dh selected held exported =>
      simp only [selected]
      apply Ends.bind_modify
      rcases held with held | ⟨empty, generated⟩
      · simp only [held]
        exact Ends.of_lift exported
      · simp only [empty]
        apply Ends.bind_lift_ok generated
        exact Ends.bind_modify (Ends.of_lift exported)

theorem drawDhNonce_ends {s s' : PkinitClientState} {dhNonce : Option Bytes} {spkiDer : Bytes}
    (key : EphemeralKey platform instant s dhNonce spkiDer) :
    Ends (drawDhNonce platform instant s.config.kemAlgorithm.isSome) s'
      fun _ r => r = .ok dhNonce := by
  cases key with
  | kem selected =>
      simp only [selected, drawDhNonce]
      exact Ends.of_pure rfl
  | dh selected _ _ drawn =>
      simp only [selected, drawDhNonce]
      apply Ends.bind_lift_ok (mapError_eq_ok.mpr drawn)
      exact Ends.bind_modify (Ends.of_pure rfl)

/-- **Where the libraries serve, the client builds the request**, unless it
requires a KEM and has selected none. -/
theorem buildAsReq_of_parts {s : PkinitClientState} {input : RequestInput}
    (parts : RequestParts platform instant s input)
    (signer : s.identity.certDer.isEmpty = false → ∃ key, s.identity.signingKey = some key)
    (allowed : s.config.kemAlgorithm = none → s.config.requireKem = false) :
    (call (buildAsReq platform instant input.nonce input.ctime input.cusec input.reqBodyDer) s).2 =
      .ok parts.request := by
  have permitted : ¬ (s.config.requireKem = true ∧ s.config.kemAlgorithm = none) := by
    rintro ⟨required, unselected⟩
    rw [allowed unselected] at required
    cases required
  have encoded : encodeRequest platform instant s parts.pkAuth parts.publicValue parts.dhNonce
      s.config.kemAlgorithm.isSome = .ok parts.request := by
    simp only [encodeRequest, parts.named, parts.packed, parts.signs signer, parts.written,
      ok_bind, mapError_ok]
  have ends : Ends (buildAsReq platform instant input.nonce input.ctime input.cusec
      input.reqBodyDer) s fun _ r => r = .ok parts.request := by
    unfold buildAsReq
    apply Ends.bind_get
    apply Ends.bind_lift_ok parts.authenticated
    apply Ends.bind_lift_ok (rejectIf_of_not permitted)
    unfold requestWithKey
    refine Ends.bind ((chooseEphemeralKey_ends parts.key).mono ?_)
    rintro s' _ rfl
    apply Ends.bind_lift_ok (mapError_eq_ok.mpr parts.decoded)
    refine Ends.bind ((drawDhNonce_ends parts.key).mono ?_)
    rintro s'' _ rfl
    exact Ends.of_lift encoded
  exact ends

/-! ## What the client picks -/

/-- The key exchange a retry moves to. -/
def RetryAction.keyExchange : RetryAction → Option KeyExchangeType
  | .retryWithDhParams group => some (.dh group)
  | .retryWithKemAlgorithm alg => some (.kem alg)
  | .retryWithCerts | .noRetry => none

/-- The exchange a retry moved to: offered, acceptable to the client, and not
the one it had sent. -/
structure PicksOffer (platform : Platform) (s s' : PkinitClientState) (value : Bytes)
    (keyExchange : KeyExchangeType) : Prop where
  offered : ∃ advertised, parseTdOffered platform value = .ok advertised ∧
    Offered.ofKeyExchange keyExchange ∈ advertised.filterMap (s.recognize platform)
  accepted : s.accepts platform (.ofKeyExchange keyExchange) = true
  other : s.keyExchange ≠ some keyExchange
  applied : s' = s.apply (.ofKeyExchange keyExchange)

theorem retryWithOffers_picks {s s' : PkinitClientState} {value : Bytes} {action : RetryAction}
    {keyExchange : KeyExchangeType}
    (retried : call (retryWithOffers platform value) s = (s', .ok action))
    (moves : action.keyExchange = some keyExchange) :
    PicksOffer platform s s' value keyExchange := by
  unfold retryWithOffers at retried
  rw [call_get_bind] at retried
  cases parsed : parseTdOffered platform value with
  | error e =>
      rw [parsed, call_lift_bind_error _ rfl] at retried
      cases retried
  | ok advertised =>
      rw [parsed, call_lift_bind_ok _ rfl] at retried
      dsimp only at retried
      split at retried
      · next offered located =>
          have accepted : s.accepts platform offered = true := by
            simpa using List.find?_some located
          obtain ⟨recognized, other⟩ := List.mem_filter.mp (List.mem_of_find?_eq_some located)
          have same : offered = .ofKeyExchange keyExchange ∧ s' = s.apply offered := by
            cases offered with
            | kem alg | dh group =>
                cases retried
                cases moves
                exact ⟨rfl, rfl⟩
          obtain ⟨rfl, rfl⟩ := same
          refine ⟨⟨advertised, parsed, recognized⟩, accepted, ?_, rfl⟩
          intro sent
          simp [sent] at other
      · split at retried <;> cases retried

/-- The action of a list of typed data is that of one of its entries. -/
theorem handleTryagainTypedData_picks {s s' : PkinitClientState} {typedData : List (Int × Bytes)}
    {action : RetryAction} {keyExchange : KeyExchangeType}
    (retried : call (handleTryagainTypedData platform typedData) s = (s', .ok action))
    (moves : action.keyExchange = some keyExchange) :
    ∃ value, (TD_DH_PARAMETERS, value) ∈ typedData ∧
      PicksOffer platform s s' value keyExchange := by
  induction typedData with
  | nil =>
      cases retried
      cases moves
  | cons entry rest ih =>
      obtain ⟨paType, value⟩ := entry
      unfold handleTryagainTypedData at retried
      split at retried
      · next isParameters =>
          exact ⟨value, isParameters ▸ List.mem_cons_self, retryWithOffers_picks retried moves⟩
      · split at retried
        · cases retried
          cases moves
        · obtain ⟨value', member, picks⟩ := ih retried
          exact ⟨value', List.mem_cons_of_mem _ member, picks⟩

/-- After the retry, that exchange is selected, and the client may ask for it. -/
theorem PicksOffer.selects {s s' : PkinitClientState} {value : Bytes}
    {keyExchange : KeyExchangeType} (picks : PicksOffer platform s s' value keyExchange) :
    s'.selected = keyExchange ∧ s'.identity = s.identity ∧
      (s'.config.kemAlgorithm = none → s'.config.requireKem = false) := by
  obtain ⟨_, accepted, _, rfl⟩ := picks
  cases keyExchange with
  | kem alg => exact ⟨rfl, rfl, nofun⟩
  | dh group =>
      refine ⟨rfl, rfl, fun _ => ?_⟩
      change s.dhAllowed platform = true at accepted
      simp only [dhAllowed, Bool.and_eq_true, Bool.not_eq_true'] at accepted
      exact accepted.1

/-! ## What the KDC meant -/

/-- What a client recognises in the KDC's typed data is in the KDC's list. -/
theorem mem_acceptable_of_recognized (codecs : OfferCodecs platform.synta) {kdc : PkinitKdcState}
    {identity : PkinitIdentity} {trustStore : TrustStore} {config : PkinitKdcConfig}
    (made : PkinitKdcState.new platform identity trustStore config = .ok kdc)
    {client : PkinitClientState} {advertised : List OfferedAlgorithm} {exchange : Offered}
    (parsed : parseTdOffered platform kdc.tdEphemeralKeyParams = .ok advertised)
    (recognized : exchange ∈ advertised.filterMap (client.recognize platform)) :
    exchange ∈ kdc.config.acceptableKeyExchanges := by
  obtain ⟨_, algIds, sends, named⟩ := sends_of_new made
  obtain ⟨offers, read, recognizes⟩ := offers_of_named codecs named
  obtain rfl : offers = advertised := by
    rw [parseTdOffered_of_written codecs sends.typed, read] at parsed
    exact Except.ok.inj parsed
  obtain ⟨offer, member, same⟩ := List.mem_filterMap.mp recognized
  have mapped := List.mem_map_of_mem (f := client.recognize platform) member
  rw [recognizes client, same] at mapped
  obtain ⟨listed, present, kept⟩ := List.mem_map.mp mapped
  split at kept
  · obtain rfl := Option.some.inj kept
    exact present
  · cases kept

/-- **The KDC accepts what it lists.** -/
theorem acceptsExchange_of_acceptable {profile : Profile} {realm : String}
    {config : PkinitKdcConfig} {kdc : PkinitKdcState} {exchange : Offered}
    (readable : readKdcConfig profile realm = .ok config)
    (started : kdc.config = config.withImplicitKems)
    (listed : exchange ∈ kdc.config.acceptableKeyExchanges) :
    kdc.acceptsExchange exchange = true := by
  obtain ⟨pures, composites⟩ := readKdcConfig_kems readable
  have kinds : (∀ alg ∈ kdc.config.supportedKemAlgorithms, alg.isComposite = false) ∧
      ∀ alg ∈ kdc.config.supportedCompositeKemAlgorithms, alg.isComposite = true := by
    rw [started, PkinitKdcConfig.withImplicitKems]
    split
    · exact ⟨fun alg member => @isComposite_of_algorithmsAtOrAbove .mlKem512 alg member, composites⟩
    · exact ⟨pures, composites⟩
  cases exchange with
  | dh group =>
      obtain ⟨optional, large⟩ := dh_mem_acceptableKeyExchanges.mp listed
      simp [PkinitKdcState.acceptsExchange, optional, large]
  | kem alg =>
      change kdc.acceptsKem alg = true
      unfold PkinitKdcState.acceptsKem
      rcases kem_mem_acceptableKeyExchanges.mp listed with pure | composite
      · simp [kinds.1 alg pure, pure]
      · simp [kinds.2 alg composite, composite]

/-- With or without a DH nonce, which a KEM key must not come with. -/
theorem selectKeyExchange_of_accepted {kdc : PkinitKdcState} {keyExchange : KeyExchangeType}
    {der : Bytes} {clientDhNonce : Option Bytes}
    (key : WellFormedKey platform (.ofKeyExchange keyExchange) der)
    (accepts : kdc.acceptsExchange (.ofKeyExchange keyExchange) = true)
    (noNonce : ∀ alg, keyExchange = .kem alg → clientDhNonce = none) :
    kdc.selectKeyExchange platform der clientDhNonce = .ok keyExchange := by
  have selected : kdc.selectKeyExchange platform der none = .ok keyExchange :=
    (selectKeyExchange_wellFormed key).mpr ⟨rfl, accepts⟩
  cases keyExchange with
  | kem alg =>
      rw [noNonce alg rfl]
      exact selected
  | dh group =>
      cases key with
      | dh decoded names =>
          -- The nonce is looked at for KEM keys only.
          have detected : detectSpkiAlgorithm platform der = .ok none := by
            simp [detectSpkiAlgorithm, decoded, names.fromOid]
          simpa [PkinitKdcState.selectKeyExchange, detected] using selected

/-! ## The retry -/

/-- The next request of the client: it is built wherever the libraries serve,
and the KDC accepts its key exchange, as this one. -/
structure SettlesFor (platform : Platform) (kdc : PkinitKdcState) (s : PkinitClientState)
    (keyExchange : KeyExchangeType) : Prop where
  built : ∀ instant input (parts : RequestParts platform instant s input),
    (call (buildAsReq platform instant input.nonce input.ctime input.cusec input.reqBodyDer) s).2 =
      .ok parts.request
  accepted : ∀ instant input request s',
    call (buildAsReq platform instant input.nonce input.ctime input.cusec input.reqBodyDer) s =
      (s', .ok request) →
    ∃ spkiDer dhNonce useKem,
      RequestCarries platform instant s input spkiDer dhNonce useKem request ∧
      WellFormedKey platform (.ofKeyExchange keyExchange) spkiDer ∧
      kdc.selectKeyExchange platform spkiDer dhNonce = .ok keyExchange ∧
      ∀ verifyInstant reqBodyDer maxSkew currentTime verified,
        kdc.verifyAsReq platform verifyInstant request reqBodyDer maxSkew currentTime =
          .ok verified →
        verified.keyExchange = keyExchange

theorem settlesFor_of_selected (laws : LawfulPlatform platform) (keys : ExportedKeys platform)
    {kdc : PkinitKdcState} {s : PkinitClientState} (holds : HoldsGroupKey platform s)
    (accepts : kdc.acceptsExchange (.ofKeyExchange s.selected) = true)
    (signer : s.identity.certDer.isEmpty = false → ∃ key, s.identity.signingKey = some key)
    (allowed : s.config.kemAlgorithm = none → s.config.requireKem = false) :
    SettlesFor platform kdc s s.selected where
  built instant input parts := buildAsReq_of_parts parts signer allowed
  accepted := by
    intro instant input request s' built
    obtain ⟨_, spkiDer, dhNonce, useKem, carries, key, element, noNonce⟩ :=
      buildAsReq_carries laws keys holds built
    have selected := selectKeyExchange_of_accepted key accepts noNonce
    refine ⟨spkiDer, dhNonce, useKem, carries, key, selected, ?_⟩
    intro verifyInstant reqBodyDer maxSkew currentTime verified verifies
    obtain ⟨_, _, _, again⟩ := verifyAsReq_of_requestCarries laws element carries verifies
    exact Except.ok.inj (again.symm.trans selected)

/-- A signed request needs a signing key. -/
theorem signer_of_requestCarries {s : PkinitClientState} {input : RequestInput}
    {spkiDer request : Bytes} {dhNonce : Option Bytes} {useKem : Bool}
    (carries : RequestCarries platform instant s input spkiDer dhNonce useKem request)
    (certified : s.identity.certDer.isEmpty = false) : ∃ key, s.identity.signingKey = some key := by
  obtain ⟨pkAuth, element, _, _, encoded⟩ := carries.encoded
  simp only [encodeRequest, signAuthPack, bind_eq_ok, mapError_eq_ok, certified,
    Bool.false_eq_true, if_false, okOr_eq_ok] at encoded
  obtain ⟨_, _, _, _, _, ⟨key, present, _⟩, _⟩ := encoded
  exact ⟨key, present⟩

theorem identity_of_build {s s' : PkinitClientState} {input : RequestInput}
    {r : Except PkinitError Bytes} (outcome : BuildOutcome platform instant s input s' r) :
    s'.identity = s.identity := by
  cases outcome <;> rfl

/-- **One retry is enough.** A client in any state it reaches has asked, and
moves to another key exchange on the typed data of this KDC. It was not what
it had asked with, and the KDC accepts the key exchange of its next request. -/
theorem one_retry_suffices (laws : LawfulPlatform platform) (codecs : OfferCodecs platform.synta)
    (keys : ExportedKeys platform) {profile : Profile} {realm : String}
    {kdcConfig : PkinitKdcConfig} {kdcIdentity : PkinitIdentity} {kdcTrustStore : TrustStore}
    {kdc : PkinitKdcState} (readable : readKdcConfig profile realm = .ok kdcConfig)
    (made : PkinitKdcState.new platform kdcIdentity kdcTrustStore kdcConfig = .ok kdc)
    {identity : PkinitIdentity} {trustStore : TrustStore} {config : PkinitClientConfig}
    {history : List ClientEvent} {s s₁ s₂ : PkinitClientState}
    (run : Run (clientMachine platform) (PkinitClientState.new identity trustStore config)
      history s)
    {input : RequestInput} {request : Bytes}
    (asked : call (buildAsReq platform instant input.nonce input.ctime input.cusec
      input.reqBodyDer) s = (s₁, .ok request))
    {typedData : List (Int × Bytes)} {action : RetryAction} {keyExchange : KeyExchangeType}
    (own : ∀ value, (TD_DH_PARAMETERS, value) ∈ typedData → value = kdc.tdEphemeralKeyParams)
    (retried : call (handleTryagainTypedData platform typedData) s₁ = (s₂, .ok action))
    (moves : action.keyExchange = some keyExchange) :
    (∃ refused spkiDer dhNonce useKem, s₁.keyExchange = some refused ∧
      RequestCarries platform instant s input spkiDer dhNonce useKem request ∧
      WellFormedKey platform (.ofKeyExchange refused) spkiDer ∧ keyExchange ≠ refused) ∧
      SettlesFor platform kdc s₂ keyExchange := by
  have outcome := buildAsReq_outcome platform instant s input
  rw [Ends, asked] at outcome
  have holds := holdsGroupKey_run run
  obtain ⟨value, member, picks⟩ := handleTryagainTypedData_picks retried moves
  obtain rfl := own value member
  obtain ⟨sent, spkiDer, dhNonce, useKem, carries, key, _⟩ :=
    buildAsReq_carries laws keys holds asked
  refine ⟨⟨s.selected, spkiDer, dhNonce, useKem, sent, carries, key, ?_⟩, ?_⟩
  · rintro rfl
    exact picks.other sent
  · obtain ⟨rfl, sameIdentity, allowed⟩ := picks.selects
    obtain ⟨advertised, parsed, recognized⟩ := picks.offered
    have listed := mem_acceptable_of_recognized codecs made parsed recognized
    have accepts := acceptsExchange_of_acceptable readable (sends_of_new made).1 listed
    have holds₂ : HoldsGroupKey platform s₂ := by
      rw [picks.applied]
      exact (holds.of_build outcome).apply _
    apply settlesFor_of_selected laws keys holds₂ accepts
    · rw [sameIdentity, identity_of_build outcome]
      exact signer_of_requestCarries carries
    · exact allowed

/-! A KDC that requires a KEM, and the client that asked it with P-256. -/

namespace Reference

/-- What the client does with the list of that KDC, and its next request. -/
def retryWithList : EStateM PkinitError PkinitClientState RetryAction :=
  handleTryagainTypedData recorded [(TD_DH_PARAMETERS, strictKdc.tdEphemeralKeyParams)]

def refusedClient : PkinitClientState := (call buildRequest readyClient).1
def retriedClient : PkinitClientState := (call retryWithList refusedClient).1

/-- The key exchange that KDC finds in a request. -/
def strictAnswer (built : Except PkinitError Bytes) : Except PkinitError KeyExchangeType := do
  let request ← built
  let verified ← strictKdc.verifyAsReq recorded kdcInstant request (some requestBody) 300
    clientInstant.now
  return verified.keyExchange

theorem strictKdc_answers :
    (call buildRequest readyClient).2.isOk = true ∧
      strictAnswer (call buildRequest readyClient).2 = .error (.dhParamsRejected
        "classic DH/ECDH key exchange refused: pkinit_require_kem is set") ∧
      (call retryWithList refusedClient).2 = .ok (.retryWithKemAlgorithm .mlKem1024) ∧
      strictAnswer (call buildRequest retriedClient).2 = .ok (.kem .mlKem1024) := by
  decide +kernel

end Reference

/-- The refused client moves to ML-KEM-1024, and that KDC accepts it. -/
theorem one_retry_suffices_strictKdc :
    Reference.strictAnswer (call Reference.buildRequest Reference.readyClient).2 =
        .error (.dhParamsRejected
          "classic DH/ECDH key exchange refused: pkinit_require_kem is set") ∧
      Reference.strictAnswer (call Reference.buildRequest Reference.retriedClient).2 =
        .ok (.kem .mlKem1024) ∧
      SettlesFor Reference.recorded Reference.strictKdc Reference.retriedClient
        (.kem .mlKem1024) := by
  obtain ⟨sent, refused, retried, accepted⟩ := Reference.strictKdc_answers
  cases asked : (call Reference.buildRequest Reference.readyClient).2 with
  | error e =>
      rw [asked] at sent
      cases sent
  | ok request =>
      have own : ∀ value, (TD_DH_PARAMETERS, value) ∈
          [(TD_DH_PARAMETERS, Reference.strictKdc.tdEphemeralKeyParams)] →
          value = Reference.strictKdc.tdEphemeralKeyParams := by
        intro value member
        exact (Prod.mk.inj (List.mem_singleton.mp member)).2
      have moved : call Reference.retryWithList Reference.refusedClient =
          (Reference.retriedClient, .ok (.retryWithKemAlgorithm .mlKem1024)) :=
        call_of_result retried
      have sentTo : call Reference.buildRequest Reference.readyClient =
          (Reference.refusedClient, .ok request) := call_of_result asked
      obtain ⟨_, settles⟩ := one_retry_suffices Reference.recorded_lawful
        Reference.synta_offerCodecs Reference.recorded_exportedKeys
        Reference.strictKdc_started.read Reference.strictKdc_started.made
        (Reference.run_clientRun Reference.anonymousClient [Reference.nameKdc]) sentTo own moved rfl
      exact ⟨asked ▸ refused, accepted, settles⟩

end Kurbu5Pkinit

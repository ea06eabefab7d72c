import Kurbu5Pkinit.Negotiation
import Kurbu5Pkinit.Reference.Kdc

/-!
# What the KDC accepts against what it advertises

Acceptance is decided when a request comes in, by `acceptsKem` and by
`validateDhParams`; the advertisement is built once, from the configuration.
`acceptsExchange` is the first as a predicate on exchanges, `Advertises` the
second as membership in the list both messages carry.

Every advertised exchange is accepted. The converse fails for two kinds: the
pure KEMs of a KDC without a floor, and the curves below the minimum size.
-/

set_option autoImplicit false

namespace Kurbu5Pkinit

open Library Reference

variable {platform : Platform} {state : PkinitKdcState} {exchange : Offered}

/-! ## Acceptance -/

/-- The exchanges whose keys the KDC accepts. -/
def PkinitKdcState.acceptsExchange (state : PkinitKdcState) : Offered → Bool
  | .kem alg => state.acceptsKem alg
  | .dh group =>
      !state.config.requireKem && (group.isCurve || state.config.dhMinBits ≤ group.minBits)

/-- A curve is accepted whatever its size, a MODP group from the minimum on. -/
theorem validateDhParams_wellFormed {group found : DhGroup} {der : Bytes} {peer : PeerKey}
    {minBits : Nat} (read : platform.crypto.peerKeyFromDer der = .ok peer)
    (exported : platform.crypto.exportFailure peer = none) (inGroup : PeerInGroup peer group)
    (bits : peer.bits = group.minBits) :
    validateDhParams platform der minBits = .ok found ↔
      found = group ∧ (group.isCurve = true ∨ minBits ≤ group.minBits) := by
  unfold validateDhParams
  rw [read, mapError_ok, ok_bind]
  simp only [exported, pure_eq_ok]
  cases inGroup with
  | p256 named | p384 named | p521 named =>
      rcases named with name | name <;> simp [name, DhGroup.isCurve, eq_comm]
  | modp2048 named =>
      change peer.bits = 2048 at bits
      rcases named with name | ⟨unnamed, _, prime⟩
      · simp [name, bits, DhGroup.isCurve, DhGroup.minBits, and_comm, @eq_comm _ found]
      · simp [unnamed, prime, bits, identifyOakleyGroup, DhGroup.isCurve, DhGroup.minBits, and_comm,
          @eq_comm _ found]
  | modp4096 named =>
      change peer.bits = 4096 at bits
      rcases named with name | ⟨unnamed, _, prime⟩
      · simp [name, bits, DhGroup.isCurve, DhGroup.minBits, and_comm, @eq_comm _ found]
      · simp [unnamed, prime, bits, identifyOakleyGroup, DhGroup.isCurve, DhGroup.minBits, and_comm,
          @eq_comm _ found]

/-- **The key-exchange step accepts a well-formed key when its exchange is
accepted, and answers with that exchange.** -/
theorem selectKeyExchange_wellFormed {der : Bytes} {keyExchange : KeyExchangeType}
    (key : WellFormedKey platform exchange der) :
    state.selectKeyExchange platform der none = .ok keyExchange ↔
      Offered.ofKeyExchange keyExchange = exchange ∧ state.acceptsExchange exchange = true := by
  cases key with
  | @kem alg _ _ decoded =>
      have detected : detectSpkiAlgorithm platform der = .ok (some alg) := by
        simp [detectSpkiAlgorithm, decoded, rejectIf]
      simp only [PkinitKdcState.selectKeyExchange, detected, ok_bind]
      cases keyExchange with
      | kem found =>
          simp [PkinitKdcState.acceptsExchange, Offered.ofKeyExchange, and_comm, @eq_comm _ found]
      | dh _ => simp [Offered.ofKeyExchange]
  | @dh group _ spki peer decoded names read exported inGroup bits =>
      have detected : detectSpkiAlgorithm platform der = .ok none := by
        simp [detectSpkiAlgorithm, decoded, names.fromOid]
      simp only [PkinitKdcState.selectKeyExchange, detected, ok_bind]
      have validated := fun found =>
        @validateDhParams_wellFormed platform group found der peer state.config.dhMinBits read
          exported inGroup bits
      cases keyExchange with
      | kem _ =>
          cases validateDhParams platform der state.config.dhMinBits <;>
            simp [Offered.ofKeyExchange, Functor.map, Except.map]
      | dh found =>
          have mapped : (KeyExchangeType.dh <$> validateDhParams platform der
              state.config.dhMinBits = .ok (.dh found)) ↔
                validateDhParams platform der state.config.dhMinBits = .ok found := by
            cases validateDhParams platform der state.config.dhMinBits <;>
              simp [Functor.map, Except.map]
          simp [mapped, validated found, PkinitKdcState.acceptsExchange, Offered.ofKeyExchange]
          tauto

/-! ## Advertisement -/

/-- The list both messages of the KDC carry. -/
structure PkinitKdcState.Sends (platform : Platform) (state : PkinitKdcState)
    (algIds : List AlgorithmIdentifier) : Prop where
  typed : platform.synta.algorithmIdentifiers.toDer algIds = .ok state.tdEphemeralKeyParams
  hint : ∀ hint ∈ state.supportedAlgorithmsHint,
    encodePkinitHintAlgIds platform.synta algIds = .ok hint
  noHint : state.supportedAlgorithmsHint = none ↔ algIds = []

/-- The exchange's identifier is in that list. -/
def PkinitKdcState.Advertises (platform : Platform) (state : PkinitKdcState)
    (exchange : Offered) : Prop :=
  ∃ algIds algId, state.Sends platform algIds ∧
    algorithmIdentifierOf platform exchange = .ok algId ∧ algId ∈ algIds

/-- What a new KDC sends is its acceptable list. -/
theorem sends_of_new {identity : PkinitIdentity} {trustStore : TrustStore}
    {config : PkinitKdcConfig}
    (made : PkinitKdcState.new platform identity trustStore config = .ok state) :
    state.config = config.withImplicitKems ∧ ∃ algIds, state.Sends platform algIds ∧
      state.config.acceptableKeyExchanges.mapM (algorithmIdentifierOf platform) = .ok algIds := by
  simp only [PkinitKdcState.new, bind_eq_ok, pure_eq_ok, Except.ok.injEq] at made
  obtain ⟨sent, hinted, td, typed, rfl⟩ := made
  have listing := acceptableKeyEstablishmentAlgIds_eq platform config.withImplicitKems
  simp only [buildSupportedAlgorithmsHint, buildTdEphemeralKeyParams, bind_eq_ok,
    mapError_eq_ok] at hinted typed
  obtain ⟨algIds, listed, typed⟩ := typed
  obtain ⟨_, listed', hinted⟩ := hinted
  cases listed.symm.trans listed'
  have carried : (sent = none ∧ algIds = []) ∨ ∃ hint, sent = some hint ∧ algIds ≠ [] ∧
      encodePkinitHintAlgIds platform.synta algIds = .ok hint := by
    cases algIds with
    | nil => exact .inl ⟨(Except.ok.inj hinted).symm, rfl⟩
    | cons algId algIds =>
        cases encoded : encodePkinitHintAlgIds platform.synta (algId :: algIds) with
        | error e => simp [encoded, Functor.map, Except.map] at hinted
        | ok hint =>
            rw [encoded] at hinted
            exact .inr ⟨hint, (Except.ok.inj hinted).symm, List.cons_ne_nil _ _, rfl⟩
  refine ⟨rfl, algIds, ⟨typed, ?_, ?_⟩, listing.symm.trans listed⟩
  · rcases carried with ⟨rfl, _⟩ | ⟨hint, rfl, _, encoded⟩
    · simp
    · simpa using encoded
  · rcases carried with ⟨rfl, rfl⟩ | ⟨hint, rfl, nonempty, _⟩
    · simp
    · simpa using nonempty

theorem Offered.recognizedAt_zero (exchange : Offered) : exchange.recognizedAt 0 = true := by
  cases exchange <;> simp [Offered.recognizedAt]

/-- No two exchanges have one identifier: a client that admits every size
tells them apart. -/
theorem algorithmIdentifierOf_injective (codecs : OfferCodecs platform.synta)
    {left right : Offered} {algId : AlgorithmIdentifier}
    (first : algorithmIdentifierOf platform left = .ok algId)
    (second : algorithmIdentifierOf platform right = .ok algId) : left = right := by
  let client : PkinitClientState := .new ⟨[], none, []⟩ {} { dhMinBits := 0 }
  obtain ⟨offer, read, recognized⟩ := recognize_offered codecs first
  obtain ⟨offer', read', recognized'⟩ := recognize_offered codecs second
  obtain rfl := Except.ok.inj (read.symm.trans read')
  have same := (recognized client).symm.trans (recognized' client)
  have everySize : client.config.dhMinBits = 0 := rfl
  rw [everySize, if_pos left.recognizedAt_zero, if_pos right.recognizedAt_zero] at same
  exact Option.some.inj same

/-- **What is advertised is the configuration's list of exchanges.** -/
theorem advertises_iff_acceptable (codecs : OfferCodecs platform.synta)
    {identity : PkinitIdentity} {trustStore : TrustStore} {config : PkinitKdcConfig}
    (made : PkinitKdcState.new platform identity trustStore config = .ok state) :
    state.Advertises platform exchange ↔ exchange ∈ state.config.acceptableKeyExchanges := by
  obtain ⟨_, algIds, sends, mapped⟩ := sends_of_new made
  constructor
  · rintro ⟨algIds', algId, sends', named, member⟩
    obtain rfl := codecs.algorithmIdentifiers.injective sends'.typed sends.typed
    obtain ⟨other, listed, named'⟩ := exists_of_mem_mapM mapped member
    exact algorithmIdentifierOf_injective codecs named named' ▸ listed
  · intro listed
    obtain ⟨algId, member, named⟩ := exists_mem_of_mapM mapped listed
    exact ⟨algIds, algId, sends, named, member⟩

/-! ## Where the two part -/

/-- What the KDC accepts of this kind, it also lists: a pure KEM under a floor
or where KEMs are required without an explicit list; a curve of the minimum
size; any other exchange. -/
def PkinitKdcConfig.ListsAccepted (config : PkinitKdcConfig) : Offered → Prop
  | .kem alg =>
      alg.isComposite = true ∨ config.supportedKemAlgorithms ≠ [] ∨
        (config.requireKem = true ∧ config.supportedCompositeKemAlgorithms = [])
  | .dh group =>
      group.isCurve = false ∨ config.requireKem = true ∨ config.dhMinBits ≤ group.minBits

@[simp] theorem withImplicitKems_requireKem (config : PkinitKdcConfig) :
    config.withImplicitKems.requireKem = config.requireKem := by
  unfold PkinitKdcConfig.withImplicitKems
  split <;> rfl

@[simp] theorem withImplicitKems_dhMinBits (config : PkinitKdcConfig) :
    config.withImplicitKems.dhMinBits = config.dhMinBits := by
  unfold PkinitKdcConfig.withImplicitKems
  split <;> rfl

/-- Where every KEM is implied, the pure ones are accepted and listed. -/
theorem acceptsKem_iff_of_implied {alg : KemAlgorithm}
    (pures : state.config.supportedKemAlgorithms = KemAlgorithm.mlKem512.algorithmsAtOrAbove)
    (composites : state.config.supportedCompositeKemAlgorithms = []) :
    state.acceptsKem alg = true ↔ .kem alg ∈ state.config.acceptableKeyExchanges := by
  rw [kem_mem_acceptableKeyExchanges]
  unfold PkinitKdcState.acceptsKem
  rw [pures, composites]
  cases alg <;> decide

/-- Elsewhere a KEM is accepted exactly when it is listed, but for the pure
ones when there is no floor. -/
theorem acceptsKem_iff_of_explicit {alg : KemAlgorithm}
    (pures : ∀ alg ∈ state.config.supportedKemAlgorithms, alg.isComposite = false)
    (composites : ∀ alg ∈ state.config.supportedCompositeKemAlgorithms, alg.isComposite = true) :
    (state.acceptsKem alg = true ↔ .kem alg ∈ state.config.acceptableKeyExchanges) ↔
      alg.isComposite = true ∨ state.config.supportedKemAlgorithms ≠ [] := by
  rw [kem_mem_acceptableKeyExchanges]
  unfold PkinitKdcState.acceptsKem
  cases kind : alg.isComposite with
  | true =>
      have unlisted : alg ∉ state.config.supportedKemAlgorithms := by
        intro member
        rw [pures alg member] at kind
        cases kind
      simp [unlisted]
  | false =>
      have unlisted : alg ∉ state.config.supportedCompositeKemAlgorithms := by
        intro member
        rw [composites alg member] at kind
        cases kind
      by_cases empty : state.config.supportedKemAlgorithms = []
      · simp [unlisted, empty]
      · simp [unlisted, empty]

/-- **Acceptance and the list agree on an exchange exactly when the
configuration lists what it accepts of this kind.** -/
theorem acceptsExchange_iff_acceptable {config : PkinitKdcConfig}
    (started : state.config = config.withImplicitKems)
    (pures : ∀ alg ∈ config.supportedKemAlgorithms, alg.isComposite = false)
    (composites : ∀ alg ∈ config.supportedCompositeKemAlgorithms, alg.isComposite = true) :
    (state.acceptsExchange exchange = true ↔ exchange ∈ state.config.acceptableKeyExchanges) ↔
      config.ListsAccepted exchange := by
  cases exchange with
  | dh group =>
      rw [dh_mem_acceptableKeyExchanges]
      simp only [PkinitKdcState.acceptsExchange, PkinitKdcConfig.ListsAccepted, started,
        withImplicitKems_requireKem, withImplicitKems_dhMinBits, Bool.and_eq_true,
        Bool.not_eq_true', Bool.or_eq_true, decide_eq_true_eq]
      cases config.requireKem <;> cases group.isCurve <;> simp
  | kem alg =>
      by_cases implied : config.requireKem ∧ config.supportedKemAlgorithms.isEmpty ∧
          config.supportedCompositeKemAlgorithms.isEmpty
      · rw [PkinitKdcConfig.withImplicitKems, if_pos implied] at started
        have noList : config.supportedCompositeKemAlgorithms = [] :=
          List.isEmpty_iff.mp implied.2.2
        have agree : state.acceptsKem alg = true ↔
            .kem alg ∈ state.config.acceptableKeyExchanges :=
          acceptsKem_iff_of_implied (by rw [started]) (by rw [started, noList])
        simp only [PkinitKdcState.acceptsExchange, PkinitKdcConfig.ListsAccepted, agree, true_iff]
        exact .inr (.inr ⟨implied.1, noList⟩)
      · rw [PkinitKdcConfig.withImplicitKems, if_neg implied] at started
        subst started
        have agree := @acceptsKem_iff_of_explicit state alg pures composites
        simp only [PkinitKdcState.acceptsExchange, PkinitKdcConfig.ListsAccepted, agree]
        simp only [List.isEmpty_iff] at implied
        tauto

/-- **The KDC advertises what it accepts, exactly for the exchanges its
configuration lists.** -/
theorem advertises_what_it_accepts_iff (codecs : OfferCodecs platform.synta) {profile : Profile}
    {realm : String} {config : PkinitKdcConfig} {identity : PkinitIdentity}
    {trustStore : TrustStore} {der : Bytes} (readable : readKdcConfig profile realm = .ok config)
    (made : PkinitKdcState.new platform identity trustStore config = .ok state)
    (key : WellFormedKey platform exchange der) :
    ((∃ keyExchange, state.selectKeyExchange platform der none = .ok keyExchange) ↔
        state.Advertises platform exchange) ↔
      config.ListsAccepted exchange := by
  obtain ⟨pures, composites⟩ := readKdcConfig_kems readable
  have accepted : (∃ keyExchange, state.selectKeyExchange platform der none = .ok keyExchange) ↔
      state.acceptsExchange exchange = true := by
    constructor
    · rintro ⟨keyExchange, selected⟩
      exact ((selectKeyExchange_wellFormed key).mp selected).2
    · intro accepts
      cases exchange with
      | kem alg => exact ⟨.kem alg, (selectKeyExchange_wellFormed key).mpr ⟨rfl, accepts⟩⟩
      | dh group => exact ⟨.dh group, (selectKeyExchange_wellFormed key).mpr ⟨rfl, accepts⟩⟩
  rw [accepted, advertises_iff_acceptable codecs made]
  exact acceptsExchange_iff_acceptable (sends_of_new made).1 pures composites

/-! The realm's KDC and the two keys of the recording. -/

theorem clientDhSpki_wellFormed : WellFormedKey recorded (.dh .ecP256) clientDhSpki := by
  have recordedKey : (⟨1, clientDhPrivateKey, clientDhSpki⟩ : KeyRecord) ∈ recording.ecKeys :=
    List.mem_cons_self
  exact .dh (ecKeys_read _ recordedKey).spki .p256
    (peerKeyFromDer_eq_ok.mpr ⟨List.mem_map_of_mem recordedKey, rfl⟩) rfl (.p256 (.inl rfl)) rfl

theorem clientKemSpki_wellFormed : WellFormedKey recorded (.kem .mlKem512) clientKemSpki := by
  have decoded : synta.subjectPublicKeyInfo.fromDer clientKemSpki =
      .ok ⟨⟨ID_ML_KEM_512, none⟩, ⟨clientKemSpki.drop 22, 0⟩⟩ := by
    decide +kernel
  exact .kem decoded

/-- At 256 bits, P-256 is accepted and advertised. -/
theorem advertises_what_it_accepts_iff_smallGroup :
    ((∃ keyExchange, smallGroupKdc.selectKeyExchange recorded clientDhSpki none =
        .ok keyExchange) ↔ smallGroupKdc.Advertises recorded (.dh .ecP256)) ↔
      ({ dhMinBits := 256 } : PkinitKdcConfig).ListsAccepted (.dh .ecP256) :=
  @advertises_what_it_accepts_iff recorded _ _ synta_offerCodecs _ _ _ _ _ _
    smallGroupKdc_started.read smallGroupKdc_started.made clientDhSpki_wellFormed

/-- By default, P-256 and ML-KEM-512 are accepted and neither is advertised. -/
theorem default_kdc_accepts_unadvertised :
    readKdcConfig (minBitsProfile 2048) "EXAMPLE.COM" = .ok {} ∧
      PkinitKdcState.new recorded kdcIdentity trustStore {} = .ok defaultKdc ∧
      WellFormedKey recorded (.dh .ecP256) clientDhSpki ∧
      defaultKdc.selectKeyExchange recorded clientDhSpki none = .ok (.dh .ecP256) ∧
      ¬ defaultKdc.Advertises recorded (.dh .ecP256) ∧
      WellFormedKey recorded (.kem .mlKem512) clientKemSpki ∧
      defaultKdc.selectKeyExchange recorded clientKemSpki none = .ok (.kem .mlKem512) ∧
      ¬ defaultKdc.Advertises recorded (.kem .mlKem512) := by
  have unlisted : Offered.dh .ecP256 ∉ defaultKdc.config.acceptableKeyExchanges ∧
      Offered.kem .mlKem512 ∉ defaultKdc.config.acceptableKeyExchanges := by decide
  have advertised := fun exchange => @advertises_iff_acceptable recorded defaultKdc exchange
    synta_offerCodecs kdcIdentity trustStore {} defaultKdc_started.made
  refine ⟨defaultKdc_started.read, defaultKdc_started.made, clientDhSpki_wellFormed, ?_, ?_,
    clientKemSpki_wellFormed, ?_, ?_⟩
  · exact (selectKeyExchange_wellFormed clientDhSpki_wellFormed).mpr ⟨rfl, rfl⟩
  · exact fun sent => unlisted.1 ((advertised _).mp sent)
  · exact (selectKeyExchange_wellFormed clientKemSpki_wellFormed).mpr ⟨rfl, rfl⟩
  · exact fun sent => unlisted.2 ((advertised _).mp sent)

end Kurbu5Pkinit

import Kurbu5Pkinit.Reference.Laws

/-!
# What the KDC offers and what the client reads

The KDC sends one list of key exchanges in two messages: the hint before a
request and the typed data after a refused one. The hint is framed by hand and
decoded as a list of identifiers; the typed data is decoded as a list of any
values, each of which is encoded again and decoded as an identifier.

`PkinitKdcConfig.acceptableKeyExchanges` is what the list says, without its
encoding. The identifier of an exchange is `algorithmIdentifierOf`, and
`recognize_offered` inverts it entry by entry.
-/

set_option autoImplicit false

namespace Kurbu5Pkinit

open Library Reference

variable {platform : Platform}

/-! ## The list -/

/-- The exchanges of the KDC's list, best first. -/
def PkinitKdcConfig.acceptableKeyExchanges (config : PkinitKdcConfig) : List Offered :=
  ((config.supportedKemAlgorithms.insertionSort
      fun stronger weaker => weaker.strengthOrder ≤ stronger.strengthOrder) ++
    config.supportedCompositeKemAlgorithms).map .kem ++
  ([DhGroup.ecP521, .ecP384, .ecP256, .oakley4096, .oakley2048].filter
    fun group => !config.requireKem && config.dhMinBits ≤ group.minBits).map .dh

theorem kem_mem_acceptableKeyExchanges {config : PkinitKdcConfig} {alg : KemAlgorithm} :
    .kem alg ∈ config.acceptableKeyExchanges ↔
      alg ∈ config.supportedKemAlgorithms ∨ alg ∈ config.supportedCompositeKemAlgorithms := by
  simp [PkinitKdcConfig.acceptableKeyExchanges]

theorem dh_mem_acceptableKeyExchanges {config : PkinitKdcConfig} {group : DhGroup} :
    .dh group ∈ config.acceptableKeyExchanges ↔
      config.requireKem = false ∧ config.dhMinBits ≤ group.minBits := by
  cases group <;> simp [PkinitKdcConfig.acceptableKeyExchanges]

def algorithmIdentifierOf (platform : Platform) : Offered → Except PkinitError AlgorithmIdentifier
  | .kem alg => kemAlgorithmIdentifier platform alg
  | .dh group => groupAlgorithmIdentifier platform group

/-- **The KDC's list is the list of exchanges, each under its identifier.** -/
theorem acceptableKeyEstablishmentAlgIds_eq (platform : Platform) (config : PkinitKdcConfig) :
    acceptableKeyEstablishmentAlgIds platform config =
      config.acceptableKeyExchanges.mapM (algorithmIdentifierOf platform) := by
  simp only [acceptableKeyEstablishmentAlgIds, PkinitKdcConfig.acceptableKeyExchanges,
    List.mapM_append, List.mapM_map]
  rfl

/-! ## One entry -/

/-- What the KDC writes for a group is that group's identifier. -/
theorem namesGroup_of_groupAlgorithmIdentifier {group : DhGroup} {algId : AlgorithmIdentifier}
    (named : groupAlgorithmIdentifier platform group = .ok algId) :
    NamesGroup platform.synta group algId := by
  simp only [groupAlgorithmIdentifier, bind_eq_ok, mapError_eq_ok, pure_eq_ok, Except.ok.injEq,
    Prod.exists, Synta.newOid] at named
  obtain ⟨oid, parameters, found, _, ⟨_, _, rfl⟩, rfl⟩ := named
  cases group with
  | ecP256 | ecP384 | ecP521 =>
      simp only [groupAlgorithmOidAndParams, bind_eq_ok, mapError_eq_ok, pure_eq_ok,
        Except.ok.injEq, Prod.mk.injEq, Synta.newOid] at found
      obtain ⟨_, ⟨_, _, rfl⟩, rfl, rfl⟩ := found
      constructor
  | oakley2048 | oakley4096 =>
      simp only [groupAlgorithmOidAndParams, groupParamsDer, okOr_some, ok_bind, bind_eq_ok,
        mapError_eq_ok, pure_eq_ok, Except.ok.injEq, Prod.mk.injEq] at found
      obtain ⟨params, read, rfl, rfl⟩ := found
      exact .modp rfl read

theorem groupFromAlgorithmIdentifier_modp {group : DhGroup} {minBits : Nat} {paramsDer : Bytes}
    (known : groupParamsDer group = some paramsDer) :
    groupFromAlgorithmIdentifier platform DHPUBLICNUMBER (some paramsDer) minBits =
      if minBits ≤ group.minBits then some group else none := by
  have distinct : OAKLEY_4096_DER ≠ OAKLEY_2048_DER := by decide
  have modp : DHPUBLICNUMBER ≠ ID_EC_PUBLIC_KEY := by decide
  cases group with
  | oakley2048 =>
      obtain rfl := Option.some.inj known
      simp [groupFromAlgorithmIdentifier, modp]
  | oakley4096 =>
      obtain rfl := Option.some.inj known
      simp [groupFromAlgorithmIdentifier, modp, distinct]
  | ecP256 | ecP384 | ecP521 => cases known

/-- Whether a client with this minimum implements the exchange. The minimum is
compared for MODP groups only. -/
def Offered.recognizedAt (minBits : Nat) : Offered → Bool
  | .kem _ => true
  | .dh group => group.isCurve || minBits ≤ group.minBits

/-- A group's identifier is read back, with its parameters encoded again. -/
theorem groupFromAlgorithmIdentifier_of_namesGroup (codecs : OfferCodecs platform.synta)
    {group : DhGroup} {algId : AlgorithmIdentifier}
    (names : NamesGroup platform.synta group algId) :
    ∃ params paramsDer, algId.parameters = some params ∧
      platform.synta.element.toDer params = .ok paramsDer ∧
      ∀ minBits,
        groupFromAlgorithmIdentifier platform algId.algorithm (some paramsDer) minBits =
          if (Offered.dh group).recognizedAt minBits then some group else none := by
  cases names with
  | p256 =>
      obtain ⟨der, written, read⟩ := codecs.curves SECP256R1 (by simp)
      refine ⟨_, der, rfl, written, fun _ => ?_⟩
      simp [groupFromAlgorithmIdentifier, read, Except.toOption, Offered.recognizedAt,
        DhGroup.isCurve]
  | p384 =>
      obtain ⟨der, written, read⟩ := codecs.curves SECP384R1 (by simp)
      have other : SECP384R1 ≠ SECP256R1 := by decide
      refine ⟨_, der, rfl, written, fun _ => ?_⟩
      simp [groupFromAlgorithmIdentifier, read, other, Except.toOption, Offered.recognizedAt,
        DhGroup.isCurve]
  | p521 =>
      obtain ⟨der, written, read⟩ := codecs.curves SECP521R1 (by simp)
      have others : SECP521R1 ≠ SECP256R1 ∧ SECP521R1 ≠ SECP384R1 := by decide
      refine ⟨_, der, rfl, written, fun _ => ?_⟩
      simp [groupFromAlgorithmIdentifier, read, others, Except.toOption, Offered.recognizedAt,
        DhGroup.isCurve]
  | @modp _ paramsDer params known read =>
      have listed : paramsDer ∈ [OAKLEY_2048_DER, OAKLEY_4096_DER] ∧ group.isCurve = false := by
        cases group <;> cases known <;> simp [DhGroup.isCurve]
      refine ⟨params, paramsDer, rfl, codecs.parameters paramsDer listed.1 params read, fun _ => ?_⟩
      simp [groupFromAlgorithmIdentifier_modp known, Offered.recognizedAt, listed.2]

/-- **The client reads back the exchange the KDC wrote**, when it implements
it. -/
theorem recognize_offered (codecs : OfferCodecs platform.synta) {exchange : Offered}
    {algId : AlgorithmIdentifier}
    (named : algorithmIdentifierOf platform exchange = .ok algId) :
    ∃ offer, offeredAlgorithm platform.synta algId = .ok offer ∧
      ∀ client : PkinitClientState, client.recognize platform offer =
        if exchange.recognizedAt client.config.dhMinBits then some exchange else none := by
  cases exchange with
  | kem alg =>
      simp only [algorithmIdentifierOf, kemAlgorithmIdentifier, bind_eq_ok, mapError_eq_ok,
        pure_eq_ok, Except.ok.injEq, Synta.newOid] at named
      obtain ⟨_, ⟨_, _, rfl⟩, rfl⟩ := named
      refine ⟨(alg.oid, none), rfl, fun client => ?_⟩
      simp [PkinitClientState.recognize, Offered.recognizedAt]
  | dh group =>
      have names := namesGroup_of_groupAlgorithmIdentifier named
      obtain ⟨params, paramsDer, present, written, found⟩ :=
        groupFromAlgorithmIdentifier_of_namesGroup codecs names
      refine ⟨(algId.algorithm, some paramsDer), ?_, fun client => ?_⟩
      · simp only [offeredAlgorithm, present, written]
        rfl
      · simp only [PkinitClientState.recognize, names.fromOid, found]
        split <;> rfl

/-! ## The whole list -/

/-- The KDC's own minimum admits what it lists. -/
theorem recognizedAt_of_acceptable {config : PkinitKdcConfig} {exchange : Offered}
    (member : exchange ∈ config.acceptableKeyExchanges) :
    exchange.recognizedAt config.dhMinBits = true := by
  cases exchange with
  | kem _ => rfl
  | dh group => simp [Offered.recognizedAt, (dh_mem_acceptableKeyExchanges.mp member).2]

/-- Read entry by entry, the identifiers are the exchanges they were written
for. -/
theorem offers_of_named (codecs : OfferCodecs platform.synta) {exchanges : List Offered}
    {algIds : List AlgorithmIdentifier}
    (named : exchanges.mapM (algorithmIdentifierOf platform) = .ok algIds) :
    ∃ offers, algIds.mapM (offeredAlgorithm platform.synta) = .ok offers ∧
      ∀ client : PkinitClientState, offers.map (client.recognize platform) =
        exchanges.map fun exchange =>
          if exchange.recognizedAt client.config.dhMinBits then some exchange else none := by
  induction mapM_eq_ok.mp named with
  | nil => exact ⟨[], rfl, fun _ => rfl⟩
  | @cons exchange algId exchanges algIds head tail ih =>
      obtain ⟨offers, read, recognized⟩ := ih (mapM_eq_ok.mpr tail)
      obtain ⟨offer, first, recognizes⟩ := recognize_offered codecs head
      refine ⟨offer :: offers, ?_, fun client => ?_⟩
      · rw [List.mapM_cons, first, read]
        rfl
      · rw [List.map_cons, List.map_cons, recognized client, recognizes client]

/-- A client with the KDC's minimum reads back all of its list. -/
theorem map_recognizedAt_acceptable (config : PkinitKdcConfig) :
    (config.acceptableKeyExchanges.map fun exchange =>
      if exchange.recognizedAt config.dhMinBits then some exchange else none) =
      config.acceptableKeyExchanges.map some := by
  apply List.map_congr_left
  intro exchange member
  rw [if_pos (recognizedAt_of_acceptable member)]

/-- **A list framed as a hint is read back.** -/
theorem parsePkinitHint_encodePkinitHintAlgIds {synta : Synta} {usizeBits : Nat}
    {algIds : List AlgorithmIdentifier} {seqOfDer hint : Bytes}
    (trips : synta.algorithmIdentifiers.RoundTrips) (wide : 8 < usizeBits)
    (written : synta.algorithmIdentifiers.toDer algIds = .ok seqOfDer)
    (encoded : encodePkinitHintAlgIds synta algIds = .ok hint)
    (small : seqOfDer.length + 6 < 2 ^ 32) (fits : hint.length < 2 ^ usizeBits) :
    parsePkinitHint synta usizeBits hint = algIds.mapM (offeredAlgorithm synta) := by
  simp only [encodePkinitHintAlgIds, written, mapError_ok, ok_bind, pure_eq_ok,
    Except.ok.injEq] at encoded
  subst encoded
  have headers : (derEncodeLength seqOfDer.length).length ≤ 5 :=
    derEncodeLength_length_le seqOfDer.length
  have inner : ((0xA0 : UInt8) :: derEncodeLength seqOfDer.length ++ seqOfDer).length < 2 ^ 32 := by
    simp only [List.cons_append, List.length_cons, List.length_append]
    omega
  generalize tagged : (0xA0 : UInt8) :: derEncodeLength seqOfDer.length ++ seqOfDer = content
    at inner fits ⊢
  obtain ⟨header, parsed, whole, taken⟩ := read_frame 0x30 wide inner fits
  have outer : content.length ≤
      ((0x30 : UInt8) :: derEncodeLength content.length ++ content).length := by
    simp only [List.cons_append, List.length_cons, List.length_append]
    omega
  subst tagged
  obtain ⟨header', parsed', whole', taken'⟩ := read_frame 0xA0 wide (by omega)
    (Nat.lt_of_le_of_lt outer fits)
  unfold parsePkinitHint
  rw [rejectIf_of_not (by simp), ok_bind, parsed]
  simp only [ok_bind]
  rw [rejectIf_of_not whole, ok_bind, taken]
  simp only [ok_bind]
  rw [if_neg (by simp), parsed']
  simp only [ok_bind]
  rw [rejectIf_of_not whole', ok_bind, taken']
  simp only [ok_bind]
  rw [trips algIds seqOfDer written, mapError_ok, ok_bind]

/-- **A list sent as typed data is read back.** -/
theorem parseTdOffered_of_written (codecs : OfferCodecs platform.synta)
    {algIds : List AlgorithmIdentifier} {td : Bytes}
    (written : platform.synta.algorithmIdentifiers.toDer algIds = .ok td) :
    parseTdOffered platform td = algIds.mapM (offeredAlgorithm platform.synta) := by
  obtain ⟨elems, decoded, sameEncodings⟩ := codecs.elements algIds td written
  rw [parseTdOffered, decoded, mapError_ok, ok_bind]
  clear decoded written
  induction sameEncodings with
  | nil => rfl
  | @cons algId elem algIds elems head _ ih =>
      obtain ⟨idDer, idWritten, elemWritten⟩ := head
      have back := codecs.algorithmIdentifier algId idDer idWritten
      rw [List.mapM_cons, List.mapM_cons, elemWritten, ih]
      simp only [mapError_ok, ok_bind, back]

/-- **Both messages carry the KDC's list, entry for entry, and the client reads
back the exchanges the KDC meant.** -/
theorem offers_read_back (codecs : OfferCodecs platform.synta) (wide : 32 ≤ platform.usizeBits)
    {config : PkinitKdcConfig} {algIds : List AlgorithmIdentifier} {sent : Option Bytes}
    {td : Bytes} (listed : acceptableKeyEstablishmentAlgIds platform config = .ok algIds)
    (nonempty : algIds ≠ [])
    (hinted : buildSupportedAlgorithmsHint platform config = .ok sent)
    (typed : buildTdEphemeralKeyParams platform config = .ok td)
    (small : td.length + 6 < 2 ^ 32)
    (fits : ∀ hint ∈ sent, hint.length < 2 ^ platform.usizeBits) :
    ∃ hint offers, sent = some hint ∧
      parsePkinitHint platform.synta platform.usizeBits hint = .ok offers ∧
      parseTdOffered platform td = .ok offers ∧
      List.Forall₂ (fun algId offer => offeredAlgorithm platform.synta algId = .ok offer)
        algIds offers ∧
      ∀ client : PkinitClientState, client.config.dhMinBits = config.dhMinBits →
        offers.map (client.recognize platform) = config.acceptableKeyExchanges.map some := by
  have isEmpty : algIds.isEmpty = false := by
    cases algIds with
    | nil => exact absurd rfl nonempty
    | cons _ _ => rfl
  simp only [buildSupportedAlgorithmsHint, buildTdEphemeralKeyParams, listed, ok_bind,
    mapError_eq_ok, isEmpty, Bool.false_eq_true, if_false] at hinted typed
  cases encoded : encodePkinitHintAlgIds platform.synta algIds with
  | error e => simp [encoded, Functor.map, Except.map] at hinted
  | ok hint =>
      rw [encoded] at hinted
      obtain rfl := Except.ok.inj hinted
      have named := acceptableKeyEstablishmentAlgIds_eq platform config
      rw [listed] at named
      obtain ⟨offers, read, recognized⟩ :=
        offers_of_named codecs named.symm
      refine ⟨hint, offers, rfl, ?_, ?_, mapM_eq_ok.mp read, ?_⟩
      · rw [← read]
        exact parsePkinitHint_encodePkinitHintAlgIds codecs.algorithmIdentifiers (by omega) typed
          encoded small (fits hint rfl)
      · rw [← read]
        exact parseTdOffered_of_written codecs typed
      · intro client sameMinimum
        rw [recognized client, sameMinimum, map_recognizedAt_acceptable]

/-- Every KEM and every group. -/
def hybridConfig : PkinitKdcConfig where
  dhMinBits := 256
  supportedKemAlgorithms := KemAlgorithm.mlKem512.algorithmsAtOrAbove
  supportedCompositeKemAlgorithms := [.mlKem768X25519, .mlKem768EcdhP256, .mlKem1024EcdhP384]

/-- What the recording's KDC sends of a configuration. -/
def sentHint (config : PkinitKdcConfig) : Bytes :=
  ((buildSupportedAlgorithmsHint recorded config).toOption.join).getD []

def sentTypedData (config : PkinitKdcConfig) : Bytes :=
  (buildTdEphemeralKeyParams recorded config).toOption.getD []

def listedAlgIds (config : PkinitKdcConfig) : List AlgorithmIdentifier :=
  (acceptableKeyEstablishmentAlgIds recorded config).toOption.getD []

theorem sent_hybridConfig :
    acceptableKeyEstablishmentAlgIds recorded hybridConfig = .ok (listedAlgIds hybridConfig) ∧
      listedAlgIds hybridConfig ≠ [] ∧
      buildSupportedAlgorithmsHint recorded hybridConfig = .ok (some (sentHint hybridConfig)) ∧
      buildTdEphemeralKeyParams recorded hybridConfig = .ok (sentTypedData hybridConfig) ∧
      (sentTypedData hybridConfig).length + 6 < 2 ^ 32 ∧
      (sentHint hybridConfig).length < 2 ^ recorded.usizeBits := by
  decide +kernel

/-- Eleven exchanges, with the parameters of two groups over a kilobyte. -/
theorem offers_read_back_hybrid :
    ∃ hint offers, some (sentHint hybridConfig) = some hint ∧
      parsePkinitHint recorded.synta recorded.usizeBits hint = .ok offers ∧
      parseTdOffered recorded (sentTypedData hybridConfig) = .ok offers ∧
      List.Forall₂ (fun algId offer => offeredAlgorithm recorded.synta algId = .ok offer)
        (listedAlgIds hybridConfig) offers ∧
      ∀ client : PkinitClientState, client.config.dhMinBits = hybridConfig.dhMinBits →
        offers.map (client.recognize recorded) = hybridConfig.acceptableKeyExchanges.map some := by
  obtain ⟨listed, nonempty, hinted, typed, small, fits⟩ := sent_hybridConfig
  refine @offers_read_back recorded synta_offerCodecs (by decide) _ _ _ _ listed nonempty hinted
    typed small fun hint sent => ?_
  obtain rfl := Option.some.inj (Option.mem_def.mp sent)
  exact fits

/-! ## A list too long for the hint's frame -/

/-- A hint whose length was cut to its last four bytes is read as empty. -/
theorem parsePkinitHint_of_cut (synta : Synta) (content : Bytes) :
    parsePkinitHint synta 64 (0x30 :: [0x84, 0, 0, 0, 0] ++ content) = .ok [] := by
  have long : ¬ ((0x84 : UInt8) :: 0 :: 0 :: 0 :: 0 :: content).length < 1 + 4 := by
    simp only [List.length_cons]
    omega
  have parsed : derParseLength 64 (0x84 :: 0 :: 0 :: 0 :: 0 :: content) = .ok (0, 5) := by
    have digits : ((0x84 : UInt8) &&& 0x7F).toNat = 4 := by decide
    have short : ¬ (0x84 : UInt8) < 0x80 := by decide
    have loop : ([0, 0, 0, 0] : Bytes).foldlM (shiftInByte 64) 0 = .ok 0 := by decide
    unfold derParseLength
    simp only [digits, if_neg short]
    rw [rejectIf_of_not (by omega), ok_bind]
    simp [loop]
  have empty : slice (0x30 :: 0x84 :: 0 :: 0 :: 0 :: 0 :: content) 6 6 = .ok [] := by
    simp [slice]
  have start : usizeAdd 64 1 5 = 6 := by decide
  have stop : usizeAdd 64 6 0 = 6 := by decide
  unfold parsePkinitHint
  simp only [List.cons_append, List.nil_append]
  rw [rejectIf_of_not (by simp), ok_bind, List.tail_cons, parsed, ok_bind]
  simp only [start, stop]
  rw [rejectIf_of_not (by simp), ok_bind, empty, ok_bind]
  rfl

theorem acceptableKeyExchanges_of_requireKem {config : PkinitKdcConfig}
    (required : config.requireKem = true) :
    config.acceptableKeyExchanges =
      ((config.supportedKemAlgorithms.insertionSort
        fun stronger weaker => weaker.strengthOrder ≤ stronger.strengthOrder) ++
        config.supportedCompositeKemAlgorithms).map .kem := by
  simp [PkinitKdcConfig.acceptableKeyExchanges, required]

/-- Four KEMs of one kind and many of another. -/
def repeatedConfig (composites : Nat) : PkinitKdcConfig where
  requireKem := true
  supportedKemAlgorithms := List.replicate 4 .mlKem512
  supportedCompositeKemAlgorithms := List.replicate composites .mlKem768X25519

def repeatedAlgIds (composites : Nat) : List AlgorithmIdentifier :=
  List.replicate 4 ⟨ID_ML_KEM_512, none⟩ ++
    List.replicate composites ⟨ID_MLKEM768_X25519_SHA3_256, none⟩

theorem listed_repeatedConfig (composites : Nat) :
    acceptableKeyEstablishmentAlgIds recorded (repeatedConfig composites) =
      .ok (repeatedAlgIds composites) := by
  have sortedKems : (List.replicate 4 KemAlgorithm.mlKem512).insertionSort
      (fun stronger weaker => weaker.strengthOrder ≤ stronger.strengthOrder) =
        List.replicate 4 KemAlgorithm.mlKem512 := by decide
  have many : (List.replicate composites KemAlgorithm.mlKem768X25519).mapM
      (kemAlgorithmIdentifier recorded) =
        .ok (List.replicate composites ⟨ID_MLKEM768_X25519_SHA3_256, none⟩) := by
    rw [mapM_eq_ok]
    induction composites with
    | zero => exact .nil
    | succ n ih => exact .cons rfl ih
  rw [acceptableKeyEstablishmentAlgIds_eq, acceptableKeyExchanges_of_requireKem rfl, List.mapM_map]
  change (((List.replicate 4 KemAlgorithm.mlKem512).insertionSort _ ++
    List.replicate composites KemAlgorithm.mlKem768X25519).mapM
      (kemAlgorithmIdentifier recorded)) = _
  rw [sortedKems, List.mapM_append, many]
  rfl

theorem length_repeatedAlgIds (composites : Nat) :
    ((repeatedAlgIds composites).flatMap writeAlgorithmIdentifier).length =
      52 + 12 * composites := by
  have pure : (writeAlgorithmIdentifier ⟨ID_ML_KEM_512, none⟩).length = 13 := by decide
  have composite : (writeAlgorithmIdentifier ⟨ID_MLKEM768_X25519_SHA3_256, none⟩).length = 12 := by
    decide
  simp [repeatedAlgIds, List.length_flatMap, List.map_replicate, List.sum_replicate, pure,
    composite]
  omega

/-- A list whose content is twelve bytes short of `2 ^ 32` is written in six
bytes less than that. -/
theorem written_repeatedAlgIds {composites : Nat} (length : 64 + 12 * composites = 2 ^ 32) :
    ∃ td, synta.algorithmIdentifiers.toDer (repeatedAlgIds composites) = .ok td ∧
      td.length = 2 ^ 32 - 6 := by
  have content : ((repeatedAlgIds composites).flatMap writeAlgorithmIdentifier).length =
      2 ^ 32 - 12 := by
    have flat := length_repeatedAlgIds composites
    omega
  have each : ∀ alg ∈ repeatedAlgIds composites,
      synta.algorithmIdentifier.toDer alg = .ok (writeAlgorithmIdentifier alg) := by
    intro alg member
    rcases List.mem_append.mp member with kept | repeated
    · rw [List.eq_of_mem_replicate kept]
      decide
    · rw [List.eq_of_mem_replicate repeated]
      decide
  have size : (Reference.sequence
      ((repeatedAlgIds composites).flatMap writeAlgorithmIdentifier)).length = 2 ^ 32 - 6 := by
    have header : (derEncodeLength (2 ^ 32 - 12)).length = 5 := by decide
    rw [Reference.sequence, tlv, content, List.length_append, List.length_cons, header, content]
    norm_num
  exact ⟨_, algorithmIdentifiers_toDer_eq_ok.mpr ⟨rfl, by rw [size]; decide, each⟩, size⟩

/-- Its frame is `2 ^ 32` bytes long, and the length is cut. -/
theorem encodePkinitHintAlgIds_cut {algIds : List AlgorithmIdentifier} {td : Bytes}
    (written : synta.algorithmIdentifiers.toDer algIds = .ok td) (size : td.length = 2 ^ 32 - 6) :
    encodePkinitHintAlgIds synta algIds =
      .ok (0x30 :: [0x84, 0, 0, 0, 0] ++ (0xA0 :: derEncodeLength td.length ++ td)) := by
  have header : (derEncodeLength (2 ^ 32 - 6)).length = 5 := by decide
  have tagged : ((0xA0 : UInt8) :: derEncodeLength td.length ++ td).length = 2 ^ 32 := by
    rw [List.length_append, List.length_cons, size, header]
    norm_num
  have cut : derEncodeLength (2 ^ 32) = [0x84, 0, 0, 0, 0] := by decide
  unfold encodePkinitHintAlgIds
  rw [written, mapError_ok, ok_bind]
  simp only [tagged, cut]
  rfl

/-- The typed data carries the list; the hint is read as empty. -/
theorem cut_hint_reads_empty {composites : Nat} (length : 64 + 12 * composites = 2 ^ 32) :
    ∃ hint td offers,
      buildSupportedAlgorithmsHint recorded (repeatedConfig composites) = .ok (some hint) ∧
      buildTdEphemeralKeyParams recorded (repeatedConfig composites) = .ok td ∧
      parsePkinitHint recorded.synta recorded.usizeBits hint = .ok [] ∧
      parseTdOffered recorded td = .ok offers ∧ offers ≠ [] := by
  obtain ⟨td, written, size⟩ := written_repeatedAlgIds length
  have listed := listed_repeatedConfig composites
  have named := acceptableKeyEstablishmentAlgIds_eq recorded (repeatedConfig composites)
  rw [listed] at named
  obtain ⟨offers, read, _⟩ := @offers_of_named recorded synta_offerCodecs _ _ named.symm
  refine ⟨0x30 :: [0x84, 0, 0, 0, 0] ++ (0xA0 :: derEncodeLength td.length ++ td), td, offers,
    ?_, ?_, parsePkinitHint_of_cut _ _, ?_, ?_⟩
  · have encoded := encodePkinitHintAlgIds_cut written size
    rw [buildSupportedAlgorithmsHint, listed, ok_bind, if_neg (by simp [repeatedAlgIds])]
    rw [show encodePkinitHintAlgIds recorded.synta (repeatedAlgIds composites) = _ from encoded]
    rfl
  · rw [buildTdEphemeralKeyParams, listed, ok_bind,
      show recorded.synta.algorithmIdentifiers.toDer (repeatedAlgIds composites) = _ from written,
      mapError_ok]
  · rw [← read]
    exact @parseTdOffered_of_written recorded synta_offerCodecs _ _ written
  · rintro rfl
    cases (mapM_eq_ok.mp read).length_eq

/-- At 357,913,936 composite entries the hint no longer carries the list. -/
theorem long_hint_reads_empty :
    ∃ hint td offers,
      buildSupportedAlgorithmsHint recorded (repeatedConfig 357913936) = .ok (some hint) ∧
      buildTdEphemeralKeyParams recorded (repeatedConfig 357913936) = .ok td ∧
      parsePkinitHint recorded.synta recorded.usizeBits hint = .ok [] ∧
      parseTdOffered recorded td = .ok offers ∧ offers ≠ [] :=
  cut_hint_reads_empty (by norm_num)

end Kurbu5Pkinit

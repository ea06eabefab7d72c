import Kurbu5Pkinit.Laws
import Kurbu5Pkinit.Reference.Exchange

/-!
# The recording keeps the laws

The reference encoding is a lawful ASN.1 library, for every value it can
write. The recorded provider is lawful on the keys it has.
-/

set_option autoImplicit false

namespace Kurbu5Pkinit.Reference

open Library

/-! ## Values inside values -/

theorem length_le_sequence {content : Bytes} {bytes : Bytes}
    (inside : bytes.length ≤ content.length) : bytes.length ≤ (sequence content).length :=
  inside.trans (length_le_tlv 0x30 content)

theorem length_le_flatMap {α : Type} {write : α → Bytes} {x : α} {xs : List α}
    (member : x ∈ xs) : (write x).length ≤ (xs.flatMap write).length :=
  (List.sublist_flatten_of_mem (List.mem_map_of_mem member)).length_le

theorem signedAttrs_length_le_writeSignerInfo {info : SignerInfo} {attrs : Bytes}
    (present : info.signedAttrs = some attrs) :
    attrs.length ≤ (writeSignerInfo info).length := by
  have wrapped := length_le_tlv (0xA0 + UInt8.ofNat 0) attrs
  refine length_le_sequence ?_
  simp only [present, writeOptional, explicitly, List.length_append] at wrapped ⊢
  omega

theorem signerInfo_length_le_writeSignedData {data : SignedData} {info : SignerInfo}
    (member : info ∈ data.signerInfos) :
    (writeSignerInfo info).length ≤ (writeSignedData data).length := by
  have inSet := (@length_le_flatMap _ writeSignerInfo _ _ member).trans
    (length_le_tlv 0x31 (data.signerInfos.flatMap writeSignerInfo))
  refine length_le_sequence ?_
  simp only [setOf, List.length_append] at inSet ⊢
  omega

/-! ## The encoding -/

theorem enterSet_encodeSet {elements : List Bytes} {der : Bytes}
    (encoded : encodeSet elements = .ok der) :
    der = setOf (sorted elements).flatten ∧
      (sorted elements).flatten.length < 2 ^ 32 ∧
      synta.enterSet der = .ok (sorted elements).flatten := by
  unfold encodeSet at encoded
  split at encoded
  · next small =>
      cases encoded
      exact ⟨rfl, small, whole_content 0x31 small⟩
  · cases encoded

/-- A set of one value holds that value. -/
theorem enterSet_of_single {α : Type} {codec : Codec α} (trips : codec.RoundTrips) {x : α}
    {der : Bytes} (encoded : (do encodeSet (← [x].mapM codec.toDer)) = .ok der) :
    ∃ inner, synta.enterSet der = .ok inner ∧ codec.fromDer inner = .ok x := by
  simp only [List.mapM_cons, List.mapM_nil, bind_eq_ok, pure_eq_ok, Except.ok.injEq] at encoded
  obtain ⟨_, ⟨inner, written, _, rfl, rfl⟩, encoded⟩ := encoded
  obtain ⟨_, _, entered⟩ := enterSet_encodeSet encoded
  exact ⟨_, entered, by simpa [sorted] using trips _ _ written⟩

theorem attributeStream_frames {attr : Attribute} {der : Bytes}
    (encoded : attributeCodec.toDer attr = .ok der) : attributeStream.Frames der attr := by
  obtain ⟨rfl, small, reads⟩ := checked_toDer_eq_ok encoded
  intro rest
  have short : (writeOid attr.attrType ++ attr.attrValues).length < 2 ^ 32 :=
    Nat.lt_of_le_of_lt (length_le_tlv 0x30 _) small
  have framed := rawStream_frames 0x30 short rest
  change rawStream.decode (writeAttribute attr ++ rest) = .ok (writeAttribute attr, rest) at framed
  have decoded : attributeCodec.fromDer (writeAttribute attr) = .ok attr := reads
  simp only [attributeStream, framed, ok_bind, decoded, pure_eq_ok]

/-- **The reference encoding is lawful for envelopes.** -/
theorem synta_envelopeCodecs : EnvelopeCodecs synta where
  contentInfo := checked_roundTrips
  signedData := checked_roundTrips
  signerIdentifier := checked_roundTrips
  explicitTag n raw der tagged := by
    simp only [synta] at tagged ⊢
    split at tagged
    · next small =>
        cases tagged
        exact whole_content _ small
    · cases tagged
  setOfOid _ _ encoded := enterSet_of_single (@checked_roundTrips _ _ writeOid readOid) encoded
  setOfOctetString _ _ encoded :=
    enterSet_of_single (@checked_roundTrips _ _ writeOctets readOctets) encoded
  setOfRaw elements der encoded := by
    obtain ⟨written, small, entered⟩ := enterSet_encodeSet encoded
    refine ⟨sorted elements, sorted_perm elements, ?_, entered⟩
    rw [written, setOf, tlv, derEncodeLength_eq_derLength small]
  attributeFrames _ _ encoded := attributeStream_frames encoded

theorem dhInfo_tag {info : DhRepInfo} {der : Bytes}
    (encoded : synta.paPkAsRep.toDer (.dhInfo info) = .ok der) : der.head? = some 0xA0 := by
  obtain ⟨rfl, _, _⟩ := @checked_toDer_eq_ok _ _ writePaPkAsRep readPaPkAsRep _ _ encoded
  rfl

theorem dhInfo_holds {info : DhRepInfo} {der : Bytes}
    (encoded : synta.paPkAsRep.toDer (.dhInfo info) = .ok der) :
    info.dhSignedData.length ≤ der.length := by
  obtain ⟨rfl, _, _⟩ := @checked_toDer_eq_ok _ _ writePaPkAsRep readPaPkAsRep _ _ encoded
  refine le_trans ?_ (length_le_tlv (0xA0 + UInt8.ofNat 0) (writeDhRepInfo info))
  have inner := length_le_tlv (0x80 + UInt8.ofNat 0) info.dhSignedData
  refine length_le_sequence ?_
  simp only [primitively, List.length_append] at inner ⊢
  omega

theorem kemInfo_holds {info : KemRepInfo} {der : Bytes}
    (encoded : synta.kemRepInfo.toDer info = .ok der) :
    info.kemSignedData.length ≤ der.length := by
  obtain ⟨rfl, _, _⟩ := @checked_toDer_eq_ok _ _ writeKemRepInfo readKemRepInfo _ _ encoded
  exact length_le_sequence (length_le_tlv _ info.kemSignedData)

theorem contentInfo_holds {info : ContentInfo} {der : Bytes}
    (encoded : synta.contentInfo.toDer info = .ok der) : info.content.length ≤ der.length := by
  obtain ⟨rfl, _, _⟩ := @checked_toDer_eq_ok _ _ writeContentInfo readContentInfo _ _ encoded
  refine length_le_sequence ?_
  simp only [List.length_append]
  omega

theorem explicitTag_holds {n : Nat} {raw der : Bytes}
    (tagged : synta.explicitTag n raw = .ok der) : raw.length ≤ der.length := by
  simp only [synta] at tagged
  split at tagged
  · cases tagged
    exact length_le_tlv _ raw
  · cases tagged

theorem signedData_holds {data : SignedData} {der : Bytes}
    (encoded : synta.signedData.toDer data = .ok der) {info : SignerInfo}
    (member : info ∈ data.signerInfos) {attrs : Bytes} (present : info.signedAttrs = some attrs) :
    attrs.length ≤ der.length := by
  obtain ⟨rfl, _, _⟩ := @checked_toDer_eq_ok _ _ writeSignedData readSignedData _ _ encoded
  exact (signedAttrs_length_le_writeSignerInfo present).trans
    (signerInfo_length_le_writeSignedData member)

/-- **The reference encoding is lawful for the messages of the exchange.** -/
theorem synta_messageCodecs : MessageCodecs synta where
  paPkAsReq := @checked_roundTrips _ _ writePaPkAsReq readPaPkAsReq
  authPack := @checked_roundTrips _ _ writeAuthPack readAuthPack
  paPkAsRep := @checked_roundTrips _ _ writePaPkAsRep readPaPkAsRep
  kdcDhKeyInfo := @checked_roundTrips _ _ writeKdcDhKeyInfo readKdcDhKeyInfo
  kemRepInfo := @checked_roundTrips _ _ writeKemRepInfo readKemRepInfo
  kdcKemInfo := @checked_roundTrips _ _ writeKdcKemInfo readKdcKemInfo
  dhInfoTag _ _ := dhInfo_tag
  dhInfoHolds _ _ := dhInfo_holds
  kemInfoHolds _ _ := kemInfo_holds
  contentInfoHolds _ _ := contentInfo_holds
  explicitTagHolds _ _ _ := explicitTag_holds
  signedDataHolds _ _ encoded _ member _ present := signedData_holds encoded member present

/-! ## Lists of identifiers -/

theorem writeAlgorithmIdentifier_ne_nil (alg : AlgorithmIdentifier) :
    writeAlgorithmIdentifier alg ≠ [] :=
  List.cons_ne_nil _ _

/-- In a list, an identifier is read as it is read alone. -/
theorem readAlgorithmIdentifier_append {alg : AlgorithmIdentifier}
    (small : (writeAlgorithmIdentifier alg).length < 2 ^ 32) (rest : Bytes) :
    readAlgorithmIdentifier (writeAlgorithmIdentifier alg ++ rest) =
      (readAlgorithmIdentifier.whole (writeAlgorithmIdentifier alg)).toOption.map (·, rest) := by
  have short := Nat.lt_of_le_of_lt (length_le_tlv 0x30 _) small
  rw [readAlgorithmIdentifier, writeAlgorithmIdentifier, sequence, Reader.within_tlv _ short,
    Reader.whole_within short]

/-- As a value of any type, it is neither an object identifier nor text. -/
theorem readElement_algorithmIdentifier {alg : AlgorithmIdentifier}
    (small : (writeAlgorithmIdentifier alg).length < 2 ^ 32) (rest : Bytes) :
    readElement (writeAlgorithmIdentifier alg ++ rest) =
      (some (Element.other (writeAlgorithmIdentifier alg))).map (·, rest) := by
  have short := Nat.lt_of_le_of_lt (length_le_tlv 0x30 _) small
  have split := splitTlv_tlv 0x30 short []
  rw [List.append_nil] at split
  have oid : readOid (writeAlgorithmIdentifier alg) = none := by
    simp [readOid, Bind.bind, Reader.content, writeAlgorithmIdentifier, sequence, split]
  have text : Reader.content 0x0C (writeAlgorithmIdentifier alg) = none := by
    simp [Reader.content, writeAlgorithmIdentifier, sequence, split]
  have taken : Reader.raw (writeAlgorithmIdentifier alg ++ rest) =
      some (writeAlgorithmIdentifier alg, rest) := Reader.raw_tlv 0x30 short rest
  unfold readElement
  simp only [Bind.bind, taken, Reader.whole, oid, text]
  rfl

theorem canonical_of_rewritten {α : Type} {codec : Codec α} {der : Bytes} {x : α}
    (read : codec.fromDer der = .ok x) (written : codec.toDer x = .ok der) :
    codec.Canonical der := by
  intro y again
  cases read.symm.trans again
  exact written

/-- A list is read back exactly when each of its identifiers is. -/
theorem whole_many_algorithmIdentifiers {algs : List AlgorithmIdentifier}
    (small : (algs.flatMap writeAlgorithmIdentifier).length < 2 ^ 32) :
    (Reader.many readAlgorithmIdentifier).whole (algs.flatMap writeAlgorithmIdentifier) =
        .ok algs ↔
      ∀ alg ∈ algs, readAlgorithmIdentifier.whole (writeAlgorithmIdentifier alg) = .ok alg := by
  have pieces := fun alg (member : alg ∈ algs) =>
    And.intro (writeAlgorithmIdentifier_ne_nil alg) (readAlgorithmIdentifier_append
      (Nat.lt_of_le_of_lt (length_le_flatMap member) small))
  have alone : ∀ alg, (readAlgorithmIdentifier.whole (writeAlgorithmIdentifier alg)).toOption =
      some alg ↔ readAlgorithmIdentifier.whole (writeAlgorithmIdentifier alg) = .ok alg := by
    intro alg
    cases readAlgorithmIdentifier.whole (writeAlgorithmIdentifier alg) <;> simp [Except.toOption]
  rw [Reader.whole_eq_ok, Reader.many_flatMap pieces, Option.map_eq_some_iff]
  simp only [Prod.mk.injEq, and_true, exists_eq_right, Reader.mapM_eq_some_self, alone]

theorem algorithmIdentifiers_toDer_eq_ok {algs : List AlgorithmIdentifier} {der : Bytes} :
    synta.algorithmIdentifiers.toDer algs = .ok der ↔
      der = sequence (algs.flatMap writeAlgorithmIdentifier) ∧ der.length < 2 ^ 32 ∧
        ∀ alg ∈ algs, synta.algorithmIdentifier.toDer alg = .ok (writeAlgorithmIdentifier alg) := by
  constructor
  · intro written
    obtain ⟨rfl, small, reads⟩ := checked_toDer_eq_ok written
    have short := Nat.lt_of_le_of_lt (length_le_tlv 0x30 _) small
    rw [sequence, Reader.whole_within short, whole_many_algorithmIdentifiers short] at reads
    exact ⟨rfl, small, fun alg member => checked_toDer_of_reads
      (Nat.lt_of_le_of_lt (length_le_flatMap member) short) (reads alg member)⟩
  · rintro ⟨rfl, small, each⟩
    have short := Nat.lt_of_le_of_lt (length_le_tlv 0x30 _) small
    refine checked_toDer_of_reads small ?_
    rw [sequence, Reader.whole_within short, whole_many_algorithmIdentifiers short]
    exact fun alg member => (checked_toDer_eq_ok (each alg member)).2.2

/-- **The reference encoding is lawful for lists of key exchanges.** -/
theorem synta_offerCodecs : OfferCodecs synta where
  algorithmIdentifier := @checked_roundTrips _ _ writeAlgorithmIdentifier readAlgorithmIdentifier
  algorithmIdentifiers := checked_roundTrips
  elements algIds der written := by
    obtain ⟨rfl, small, each⟩ := algorithmIdentifiers_toDer_eq_ok.mp written
    have short := Nat.lt_of_le_of_lt (length_le_tlv 0x30 _) small
    have piece := fun alg (member : alg ∈ algIds) =>
      Nat.lt_of_le_of_lt (length_le_flatMap member) short
    refine ⟨algIds.map fun alg => .other (writeAlgorithmIdentifier alg), ?_, ?_⟩
    · have pieces := fun alg (member : alg ∈ algIds) =>
        And.intro (writeAlgorithmIdentifier_ne_nil alg) (readElement_algorithmIdentifier
          (piece alg member))
      change (Reader.within 0x30 (Reader.many readElement)).whole (sequence _) = _
      rw [sequence, Reader.whole_within short, Reader.whole_eq_ok, Reader.many_flatMap pieces,
        Option.map_eq_some_iff]
      exact ⟨_, List.mapM_pure, rfl⟩
    · rw [List.forall₂_map_right_iff, List.forall₂_same]
      intro alg member
      have alone := readElement_algorithmIdentifier (piece alg member) []
      rw [List.append_nil] at alone
      exact ⟨_, each alg member, @checked_toDer_of_reads _ _ writeElement readElement
        (.other (writeAlgorithmIdentifier alg)) (piece alg member) (Reader.whole_eq_ok.mpr alone)⟩
  curves curve known := by
    have written : ∀ curve ∈ [SECP256R1, SECP384R1, SECP521R1],
        synta.element.toDer (.objectIdentifier curve) = .ok (writeOid curve) ∧
          synta.objectIdentifier.fromDer (writeOid curve) = .ok curve := by decide
    exact ⟨writeOid curve, written curve known⟩
  parameters der known := by
    have rewritten : ∀ der ∈ [OAKLEY_2048_DER, OAKLEY_4096_DER],
        synta.element.fromDer der = .ok (.other der) ∧
          synta.element.toDer (.other der) = .ok der := by decide +kernel
    exact canonical_of_rewritten (rewritten der known).1 (rewritten der known).2

/-! ## Keys -/

theorem mem_of_ecPublicKey {r : Recording} {key : PrivateKey} {der : Bytes}
    (exported : r.ecPublicKey key = .ok der) : ∃ record ∈ r.ecKeys, record.spki = der := by
  unfold Recording.ecPublicKey at exported
  cases found : r.ecKeys.find? fun entry => entry.key = key with
  | none => simp [found] at exported
  | some record =>
      rw [found] at exported
      exact ⟨record, List.mem_of_find?_eq_some found, Except.ok.inj exported⟩

theorem mem_of_kemPublicKey {r : Recording} {key : PrivateKey} {der : Bytes}
    (exported : r.kemPublicKey key = .ok der) :
    ∃ entry ∈ r.kemKeys, entry.2.key = key ∧ entry.2.spki = der := by
  unfold Recording.kemPublicKey at exported
  cases found : r.kemKeys.find? fun entry => entry.2.key = key with
  | none => simp [found] at exported
  | some entry =>
      rw [found] at exported
      exact ⟨entry, List.mem_of_find?_eq_some found, by simpa using List.find?_some found,
        Except.ok.inj exported⟩

/-- The group keys a recording generates are on P-256. -/
theorem group_of_generate_recorded {r : Recording} {instant : Instant} {group : DhGroup}
    {key : DhKeyPair} (generated : DhKeyPair.generate r.platform instant group = .ok key) :
    group = .ecP256 := by
  cases group with
  | ecP256 => rfl
  | oakley2048 | oakley4096 | ecP384 | ecP521 => cases generated

/-- Its KEM keys are recorded under the parameter set. -/
theorem mem_of_generate_recorded {r : Recording} {instant : Instant} {algorithm : KemAlgorithm}
    {key : KemKeyPair} (generated : KemKeyPair.generate r.platform instant algorithm = .ok key) :
    algorithm.isComposite = false ∧
      ∃ entry ∈ r.kemKeys, entry.1 = algorithm.parameterSetName ∧ entry.2.key = key.privateKey := by
  have recalled : ∀ privateKey,
      r.platform.crypto.generateMlKem instant algorithm.parameterSetName = .ok privateKey →
      ∃ entry ∈ r.kemKeys, entry.1 = algorithm.parameterSetName ∧ entry.2.key = privateKey := by
    intro privateKey drawn
    simp only [Recording.platform, Recording.crypto, Recording.generated] at drawn
    split at drawn
    · next record found =>
        obtain ⟨entry, kept, rfl⟩ := List.mem_map.mp (List.mem_of_find?_eq_some found)
        obtain ⟨member, named⟩ := List.mem_filter.mp kept
        exact ⟨entry, member, by simpa using named, Except.ok.inj drawn⟩
    · cases drawn
  simp only [KemKeyPair.generate, bind_eq_ok, mapError_eq_ok, pure_eq_ok, Except.ok.injEq]
    at generated
  obtain ⟨privateKey, drawn, rfl⟩ := generated
  cases algorithm with
  | mlKem512 | mlKem768 | mlKem1024 => exact ⟨rfl, recalled privateKey drawn⟩
  | mlKem768X25519 | mlKem768EcdhP256 | mlKem1024EcdhP384 => cases drawn

theorem publicKeyToDer_of_publicKeySpkiDer {platform : Platform} {key : DhKeyPair} {der : Bytes}
    (exported : key.publicKeySpkiDer platform = .ok der) :
    platform.crypto.publicKeyToDer key.pkey = .ok der :=
  mapError_eq_ok.mp exported

/-- How the recorded P-256 keys are read. -/
structure EcKeyRead (der : Bytes) : Prop where
  element : synta.element.fromDer der = .ok (.other der)
  elementWritten : synta.element.toDer (.other der) = .ok der
  spki : synta.subjectPublicKeyInfo.fromDer der =
    .ok ⟨⟨ID_EC_PUBLIC_KEY, some (.objectIdentifier SECP256R1)⟩, ⟨der.drop 26, 0⟩⟩
  spkiWritten : synta.subjectPublicKeyInfo.toDer
    ⟨⟨ID_EC_PUBLIC_KEY, some (.objectIdentifier SECP256R1)⟩, ⟨der.drop 26, 0⟩⟩ = .ok der

theorem ecKeys_read : ∀ record ∈ recording.ecKeys, EcKeyRead record.spki := by
  have read : ∀ record ∈ recording.ecKeys,
      synta.element.fromDer record.spki = .ok (.other record.spki) ∧
        synta.element.toDer (.other record.spki) = .ok record.spki ∧
        synta.subjectPublicKeyInfo.fromDer record.spki =
          .ok ⟨⟨ID_EC_PUBLIC_KEY, some (.objectIdentifier SECP256R1)⟩,
            ⟨record.spki.drop 26, 0⟩⟩ ∧
        synta.subjectPublicKeyInfo.toDer
          ⟨⟨ID_EC_PUBLIC_KEY, some (.objectIdentifier SECP256R1)⟩,
            ⟨record.spki.drop 26, 0⟩⟩ = .ok record.spki := by
    decide
  intro record member
  obtain ⟨element, elementWritten, spki, spkiWritten⟩ := read record member
  exact ⟨element, elementWritten, spki, spkiWritten⟩

theorem peerKeyFromDer_eq_ok {r : Recording} {der : Bytes} {peer : PeerKey} :
    r.platform.crypto.peerKeyFromDer der = .ok peer ↔
      der ∈ r.ecKeys.map KeyRecord.spki ∧ peer = ⟨der, 256, some "prime256v1", none⟩ := by
  simp only [Recording.platform, Recording.crypto]
  split <;> simp_all [eq_comm]

theorem derive_of_ecPublicKey {r : Recording} {key : PrivateKey} {own : Bytes} (peer : PeerKey)
    (exported : r.ecPublicKey key = .ok own) :
    r.platform.crypto.derive key peer = r.sharedSecret own peer.spki := by
  simp only [Recording.platform, Recording.crypto, exported, ok_bind]

theorem synta_checkOid : ∀ oid ∈ [ID_EC_PUBLIC_KEY, DHPUBLICNUMBER, SECP256R1, SECP384R1,
    SECP521R1], synta.checkOid oid = .ok () := by
  decide

/-- **The recorded P-256 keys agree on their secret.** -/
theorem groupKeys_of_sameKeys {r : Recording} (sameKeys : r.ecKeys = recording.ecKeys) :
    GroupKeys r.platform where
  oids := synta_checkOid
  wholeBytes bytes := if_pos ⟨Nat.zero_lt_succ 7, fun _ => rfl⟩
  exported := by
    intro group instant key der generated exported
    obtain rfl := group_of_generate_recorded generated
    obtain ⟨record, member, rfl⟩ :=
      mem_of_ecPublicKey (publicKeyToDer_of_publicKeySpkiDer exported)
    have keyRead := ecKeys_read record (sameKeys ▸ member)
    refine {
      element := canonical_of_rewritten keyRead.element keyRead.elementWritten
      spki := canonical_of_rewritten keyRead.spki keyRead.spkiWritten
      names := ?_
      peer := ?_ }
    · intro found read
      cases keyRead.spki.symm.trans read
      exact ⟨.p256, rfl⟩
    · intro peer read
      obtain ⟨_, rfl⟩ := peerKeyFromDer_eq_ok.mp read
      exact .p256 (.inl rfl)
  commutes := by
    intro group ours theirs instant instant' ourDer theirDer ourPeer secret _ _ ourExported
      theirExported readOurs derived
    have ourPublic := publicKeyToDer_of_publicKeySpkiDer ourExported
    have theirPublic := publicKeyToDer_of_publicKeySpkiDer theirExported
    obtain ⟨_, rfl⟩ := peerKeyFromDer_eq_ok.mp readOurs
    obtain ⟨record, member, rfl⟩ := mem_of_ecPublicKey theirPublic
    refine ⟨_, peerKeyFromDer_eq_ok.mpr ⟨List.mem_map_of_mem member, rfl⟩, ?_⟩
    have derived' := derived
    rw [derive_of_ecPublicKey _ theirPublic] at derived'
    rw [derive_of_ecPublicKey _ ourPublic, Recording.sharedSecret_comm, derived']

theorem mlKemDecapsulate_of_kemPublicKey {r : Recording} {key : PrivateKey} {own : Bytes}
    (ciphertext : Bytes) (exported : r.kemPublicKey key = .ok own) :
    r.platform.crypto.mlKemDecapsulate key ciphertext = r.decapsulated own ciphertext := by
  simp only [Recording.platform, Recording.crypto, exported, ok_bind]

theorem decapsulated_of_mlKemEncapsulate {r : Recording} {instant : Instant}
    {spki ciphertext secret : Bytes}
    (encapsulated : r.platform.crypto.mlKemEncapsulate instant spki = .ok (ciphertext, secret)) :
    r.decapsulated spki ciphertext = .ok secret := by
  simp only [Recording.platform, Recording.crypto, bind_eq_ok, Prod.exists] at encapsulated
  obtain ⟨_, _, _, opened⟩ := encapsulated
  split at opened
  · next decapsulated =>
      cases opened
      exact decapsulated
  · cases opened

/-- How the recorded ML-KEM keys are read. -/
theorem kemKeys_read : ∀ entry ∈ recording.kemKeys,
    synta.element.fromDer entry.2.spki = .ok (.other entry.2.spki) ∧
      synta.element.toDer (.other entry.2.spki) = .ok entry.2.spki ∧
      ∀ algorithm ∈ [KemAlgorithm.mlKem512, .mlKem768, .mlKem1024],
        entry.1 = algorithm.parameterSetName →
          synta.subjectPublicKeyInfo.fromDer entry.2.spki =
            .ok ⟨⟨algorithm.oid, none⟩, ⟨entry.2.spki.drop 22, 0⟩⟩ := by
  decide +kernel

/-- A KEM key the recording generates and exports is one of those. -/
theorem kemKey_of_generate_recorded {r : Recording} (sameKeys : r.kemKeys = recording.kemKeys)
    {instant : Instant} {algorithm : KemAlgorithm} {key : KemKeyPair} {der : Bytes}
    (generated : KemKeyPair.generate r.platform instant algorithm = .ok key)
    (exported : key.publicKeySpkiDer r.platform = .ok der) :
    synta.element.fromDer der = .ok (.other der) ∧ synta.element.toDer (.other der) = .ok der ∧
      synta.subjectPublicKeyInfo.fromDer der = .ok ⟨⟨algorithm.oid, none⟩, ⟨der.drop 22, 0⟩⟩ := by
  have distinct : (recording.kemKeys.map fun entry => entry.2.key).Nodup := by decide
  obtain ⟨pure, entry, member, named, drawn⟩ := mem_of_generate_recorded generated
  obtain ⟨entry', member', same, rfl⟩ := mem_of_kemPublicKey (mapError_eq_ok.mp exported)
  rw [sameKeys] at member member'
  obtain rfl := List.inj_on_of_nodup_map distinct member' member (same.trans drawn.symm)
  obtain ⟨element, elementWritten, read⟩ := kemKeys_read entry' member
  refine ⟨element, elementWritten, read algorithm ?_ named⟩
  cases algorithm with
  | mlKem512 | mlKem768 | mlKem1024 => simp
  | mlKem768X25519 | mlKem768EcdhP256 | mlKem1024EcdhP384 => cases pure

/-- **What was encapsulated to a recorded key is decapsulated by it.** -/
theorem kemKeys_of_sameKeys {r : Recording} (sameKeys : r.kemKeys = recording.kemKeys) :
    KemKeys r.platform where
  exported := by
    intro algorithm instant key der generated exported
    obtain ⟨element, elementWritten, read⟩ :=
      kemKey_of_generate_recorded sameKeys generated exported
    refine ⟨canonical_of_rewritten element elementWritten, fun spki found => ?_⟩
    cases read.symm.trans found
    rfl
  decapsulates := by
    intro algorithm instant instant' key der ciphertext secret _ exported _ encapsulated
    rw [mlKemDecapsulate_of_kemPublicKey _ (mapError_eq_ok.mp exported)]
    exact decapsulated_of_mlKemEncapsulate encapsulated
  compositeDecapsulates := by
    intro algorithm instant instant' key der ciphertext secret generated _ composite
    rw [(mem_of_generate_recorded generated).1] at composite
    cases composite

/-- **The recorded keys are as the protocol has them.** -/
theorem recorded_exportedKeys : ExportedKeys recorded where
  kem := by
    intro alg instant key der generated exported
    exact .kem (kemKey_of_generate_recorded rfl generated exported).2.2
  dh := by
    intro group instant key der generated exported
    obtain rfl := group_of_generate_recorded generated
    obtain ⟨record, member, rfl⟩ :=
      mem_of_ecPublicKey (publicKeyToDer_of_publicKeySpkiDer exported)
    exact .dh (ecKeys_read record member).spki .p256
      (peerKeyFromDer_eq_ok.mpr ⟨List.mem_map_of_mem member, rfl⟩) rfl (.p256 (.inl rfl)) rfl

/-- **A recording of these keys is lawful**, whatever else it recalls. -/
theorem lawful_of_keys {r : Recording} (groups : r.ecKeys = recording.ecKeys)
    (kems : r.kemKeys = recording.kemKeys) : LawfulPlatform r.platform where
  usize := Nat.le_of_ble_eq_true rfl
  envelopes := synta_envelopeCodecs
  messages := synta_messageCodecs
  groups := groupKeys_of_sameKeys groups
  kems := kemKeys_of_sameKeys kems

theorem recorded_lawful : LawfulPlatform recorded :=
  lawful_of_keys rfl rfl

/-! ## The KDC's identity -/

/-- How the KDC's certificate is read, its issuer and its key, and what its
key signs with. -/
structure KdcKeyRead : Prop where
  certificate : ∃ cert issuer, synta.certificate.fromDer kdcCertDer = .ok cert ∧
    synta.name.fromDer cert.tbsCertificate.issuer = .ok issuer ∧
    synta.name.toDer issuer = .ok cert.tbsCertificate.issuer ∧
    synta.subjectPublicKeyInfo.toDer cert.tbsCertificate.subjectPublicKeyInfo =
      .ok (certificateSpki 91 kdcCertDer)
  digest : digestForSigner recorded kdcCertDer = "sha256"
  algorithm : recorded.crypto.signatureAlgorithmDer kdcPrivateKey "sha256" =
    .ok Recording.ecdsaWithSha256Der

theorem kdcKey_read : KdcKeyRead := by
  refine ⟨?_, by decide +kernel, by decide +kernel⟩
  have checks : (do
      let cert ← synta.certificate.fromDer kdcCertDer
      let issuer ← synta.name.fromDer cert.tbsCertificate.issuer
      let issuerDer ← synta.name.toDer issuer
      let spkiDer ← synta.subjectPublicKeyInfo.toDer cert.tbsCertificate.subjectPublicKeyInfo
      return (decide (issuerDer = cert.tbsCertificate.issuer), spkiDer)) =
        Except.ok (true, certificateSpki 91 kdcCertDer) := by
    decide +kernel
  simp only [bind_eq_ok, pure_eq_ok, Except.ok.injEq, Prod.mk.injEq, decide_eq_true_eq] at checks
  obtain ⟨cert, read, issuer, named, _, written, spkiDer, encoded, rfl, spki⟩ := checks
  exact ⟨cert, issuer, read, named, written, spki ▸ encoded⟩

/-- What the KDC's key signs, its certificate's key verifies. -/
theorem verifySignature_of_signTbs {instant : Instant} {message signature : Bytes}
    (signed : recorded.crypto.signTbs instant kdcPrivateKey "sha256" message = .ok signature) :
    recorded.crypto.verifySignature ⟨certificateSpki 91 kdcCertDer⟩ message
      Recording.ecdsaWithSha256Der signature = .ok () := by
  have known : recalled recording.signers kdcPrivateKey = .ok (certificateSpki 91 kdcCertDer) := by
    decide
  simp only [recorded, Recording.platform, Recording.crypto, if_pos, known, ok_bind] at signed ⊢
  exact if_pos ⟨trivial, mem_of_recalled signed⟩

/-- **The KDC's key and certificate belong together.** -/
theorem kdcIdentity_sound : SoundSigner recorded kdcIdentity where
  pair := by
    rintro key ⟨⟩
    obtain ⟨cert, issuer, read, named, written, spki⟩ := kdcKey_read.certificate
    change SigningPair recorded kdcCertDer kdcPrivateKey (digestForSigner recorded kdcCertDer)
    rw [kdcKey_read.digest]
    refine {
      framed := ?_
      digest := ?_
      algorithm := ?_
      issuer := ?_
      verifies := ?_ }
    · have whole : kdcCertDer = tlv 0x30 (kdcCertDer.drop 4) := by decide +kernel
      change rawStream.Frames kdcCertDer kdcCertDer
      rw [whole]
      exact rawStream_frames 0x30 (by decide +kernel)
    · rintro alg ⟨⟩
      decide
    · intro sigAlgDer algorithm
      cases kdcKey_read.algorithm.symm.trans algorithm
      have read : synta.algorithmIdentifier.fromDer Recording.ecdsaWithSha256Der =
          .ok ⟨Recording.ECDSA_WITH_SHA256, none⟩ := by decide
      exact canonical_of_rewritten read (by decide)
    · intro found again
      cases read.symm.trans again
      exact canonical_of_rewritten named written
    · intro found again
      cases read.symm.trans again
      refine ⟨certificateSpki 91 kdcCertDer, ⟨certificateSpki 91 kdcCertDer⟩, spki,
        by decide, ?_⟩
      intro instant message signature sigAlgDer signed algorithm
      cases kdcKey_read.algorithm.symm.trans algorithm
      exact verifySignature_of_signTbs signed
  chain := by simp [kdcIdentity]

/-! ## The client's files -/

theorem recorded_certificatesNonempty : CertificatesNonempty recorded.files where
  blocks data blocks read := by
    have nonempty : ∀ entry ∈ recording.blocks, ("CERTIFICATE", []) ∉ entry.2 := by
      decide
    exact nonempty _ (mem_of_recalled read)
  pkcs12 := nofun
  pkcs11 := nofun

end Kurbu5Pkinit.Reference

import Kurbu5Pkinit.Client.Exchange
import Kurbu5Pkinit.Server

/-!
# Establishing a secret

What the provider is relied on for when both sides end up with one secret.
The public keys it exports name their group or algorithm and are plain DER; a
Diffie-Hellman secret is the same from either side; a decapsulation inverts
the encapsulation.

From these follow the two facts the exchange needs: the KDC recognises the
group or algorithm the client chose, and the client recovers the secret the
KDC used, from what the reply carries of it.
-/

set_option autoImplicit false

namespace Kurbu5Pkinit

open Library

variable {platform : Platform}

/-! ## Groups -/

/-- The identifier of a group on the wire. -/
inductive NamesGroup (synta : Synta) : DhGroup → AlgorithmIdentifier → Prop
  | p256 : NamesGroup synta .ecP256 ⟨ID_EC_PUBLIC_KEY, some (.objectIdentifier SECP256R1)⟩
  | p384 : NamesGroup synta .ecP384 ⟨ID_EC_PUBLIC_KEY, some (.objectIdentifier SECP384R1)⟩
  | p521 : NamesGroup synta .ecP521 ⟨ID_EC_PUBLIC_KEY, some (.objectIdentifier SECP521R1)⟩
  | modp {group : DhGroup} {paramsDer : Bytes} {parameters : Element}
      (known : groupParamsDer group = some paramsDer)
      (decoded : synta.element.fromDer paramsDer = .ok parameters) :
      NamesGroup synta group ⟨DHPUBLICNUMBER, some parameters⟩

/-- What the provider tells of a peer's key in a group: the curve's name in
either spelling; for a MODP group its name, or its size and prime. -/
inductive PeerInGroup (peer : PeerKey) : DhGroup → Prop
  | p256 (named : peer.groupName = some "prime256v1" ∨ peer.groupName = some "P-256") :
      PeerInGroup peer .ecP256
  | p384 (named : peer.groupName = some "secp384r1" ∨ peer.groupName = some "P-384") :
      PeerInGroup peer .ecP384
  | p521 (named : peer.groupName = some "secp521r1" ∨ peer.groupName = some "P-521") :
      PeerInGroup peer .ecP521
  | modp2048 (named : peer.groupName = some "modp_2048" ∨
      peer.groupName = none ∧ peer.bits = 2048 ∧ peer.prime = some OAKLEY_2048_PRIME) :
      PeerInGroup peer .oakley2048
  | modp4096 (named : peer.groupName = some "modp_4096" ∨
      peer.groupName = none ∧ peer.bits = 4096 ∧ peer.prime = some OAKLEY_4096_PRIME) :
      PeerInGroup peer .oakley4096

/-- The encoding of a public key in a group. -/
structure ExportsGroupKey (platform : Platform) (group : DhGroup) (der : Bytes) : Prop where
  element : platform.synta.element.Canonical der
  spki : platform.synta.subjectPublicKeyInfo.Canonical der
  names : ∀ spki, platform.synta.subjectPublicKeyInfo.fromDer der = .ok spki →
    NamesGroup platform.synta group spki.algorithm ∧ spki.subjectPublicKey.unusedBits = 0
  peer : ∀ peer, platform.crypto.peerKeyFromDer der = .ok peer → PeerInGroup peer group

/-- Key agreement in the five groups. -/
structure GroupKeys (platform : Platform) : Prop where
  oids : ∀ oid ∈ [ID_EC_PUBLIC_KEY, DHPUBLICNUMBER, SECP256R1, SECP384R1, SECP521R1],
    platform.synta.checkOid oid = .ok ()
  wholeBytes : ∀ bytes, platform.synta.checkBitString ⟨bytes, 0⟩ = .ok ()
  exported : ∀ {group instant key der}, DhKeyPair.generate platform instant group = .ok key →
    key.publicKeySpkiDer platform = .ok der → ExportsGroupKey platform group der
  /-- Two key pairs of one group agree on a secret. -/
  commutes : ∀ {group ours theirs instant instant' ourDer theirDer ourPeer secret},
    DhKeyPair.generate platform instant group = .ok ours →
    DhKeyPair.generate platform instant' group = .ok theirs →
    ours.publicKeySpkiDer platform = .ok ourDer →
    theirs.publicKeySpkiDer platform = .ok theirDer →
    platform.crypto.peerKeyFromDer ourDer = .ok ourPeer →
    platform.crypto.derive theirs.pkey ourPeer = .ok secret →
    ∃ theirPeer, platform.crypto.peerKeyFromDer theirDer = .ok theirPeer ∧
      platform.crypto.derive ours.pkey theirPeer = .ok secret

/-- The client names a group as the provider does. -/
theorem groupAlgorithmOidAndParams_of_namesGroup (keys : GroupKeys platform) {group : DhGroup}
    {algorithm : AlgorithmIdentifier} (names : NamesGroup platform.synta group algorithm) :
    groupAlgorithmOidAndParams platform group =
      .ok (algorithm.algorithm, algorithm.parameters) := by
  have newOid : ∀ oid ∈ [ID_EC_PUBLIC_KEY, DHPUBLICNUMBER, SECP256R1, SECP384R1, SECP521R1],
      platform.synta.newOid oid = .ok oid := by
    intro oid known
    rw [Synta.newOid, keys.oids oid known, ok_bind, pure_eq_ok]
  unfold groupAlgorithmOidAndParams
  cases names with
  | p256 | p384 | p521 => simp [newOid]
  | @modp _ paramsDer parameters known decoded =>
      cases group with
      | oakley2048 | oakley4096 => simp [known, decoded]
      | ecP256 | ecP384 | ecP521 => cases known

/-- The KDC's bare public bits are put back into the key they came from. -/
theorem rebuildSpki_of_exports (keys : GroupKeys platform) {group : DhGroup} {der : Bytes}
    {spki : SubjectPublicKeyInfo} (exports : ExportsGroupKey platform group der)
    (decoded : platform.synta.subjectPublicKeyInfo.fromDer der = .ok spki) :
    rebuildSpki platform group spki.subjectPublicKey.bytes = .ok der := by
  obtain ⟨names, whole⟩ := exports.names spki decoded
  obtain ⟨⟨algorithm, parameters⟩, ⟨bytes, unusedBits⟩⟩ := spki
  obtain rfl : unusedBits = 0 := whole
  have known : platform.synta.checkOid algorithm = .ok () := by
    cases names <;> exact keys.oids _ (by simp)
  simp only [rebuildSpki, groupAlgorithmOidAndParams_of_namesGroup keys names, ok_bind,
    Synta.newOid, known, Synta.newBitString, keys.wholeBytes, pure_eq_ok, mapError_ok,
    exports.spki _ decoded]

/-- **The KDC recognises the group of a key it accepts.** -/
theorem validateDhParams_of_peerInGroup {spkiDer : Bytes} {minBits : Nat} {group found : DhGroup}
    {peer : PeerKey} (read : platform.crypto.peerKeyFromDer spkiDer = .ok peer)
    (inGroup : PeerInGroup peer group)
    (validated : validateDhParams platform spkiDer minBits = .ok found) : found = group := by
  unfold validateDhParams at validated
  rw [read, mapError_ok, ok_bind] at validated
  cases failed : platform.crypto.exportFailure peer with
  | some e => simp [failed] at validated
  | none =>
      simp only [failed, pure_eq_ok] at validated
      cases inGroup with
      | p256 named | p384 named | p521 named =>
          rcases named with name | name <;>
            simpa [name, eq_comm] using validated
      | modp2048 named =>
          rcases named with name | ⟨unnamed, bits, prime⟩
          · simp [name] at validated
            exact validated.2.symm
          · simp [unnamed, bits, prime, identifyOakleyGroup] at validated
            exact validated.2.symm
      | modp4096 named =>
          rcases named with name | ⟨unnamed, bits, prime⟩
          · simp [name] at validated
            exact validated.2.symm
          · simp [unnamed, bits, prime, identifyOakleyGroup] at validated
            exact validated.2.symm

/-! ## KEMs -/

/-- Encapsulation and decapsulation in the six algorithms. -/
structure KemKeys (platform : Platform) : Prop where
  exported : ∀ {algorithm instant key der},
    KemKeyPair.generate platform instant algorithm = .ok key →
    key.publicKeySpkiDer platform = .ok der →
    platform.synta.element.Canonical der ∧
      ∀ spki, platform.synta.subjectPublicKeyInfo.fromDer der = .ok spki →
        spki.algorithm.algorithm = algorithm.oid
  decapsulates : ∀ {algorithm instant instant' key der ciphertext secret},
    KemKeyPair.generate platform instant algorithm = .ok key →
    key.publicKeySpkiDer platform = .ok der → algorithm.isComposite = false →
    platform.crypto.mlKemEncapsulate instant' der = .ok (ciphertext, secret) →
    platform.crypto.mlKemDecapsulate key.privateKey ciphertext = .ok secret
  compositeDecapsulates : ∀ {algorithm instant instant' key der ciphertext secret},
    KemKeyPair.generate platform instant algorithm = .ok key →
    key.publicKeySpkiDer platform = .ok der → algorithm.isComposite = true →
    platform.crypto.compositeKemEncapsulate instant' der = .ok (ciphertext, secret) →
    platform.crypto.compositeKemDecapsulate key.privateKey ciphertext = .ok secret

/-- **The client recovers the secret encapsulated to its key.** -/
theorem decapsulate_of_encapsulateForClient (keys : KemKeys platform) {algorithm : KemAlgorithm}
    {instant instant' : Instant} {key : KemKeyPair} {der ciphertext secret : Bytes}
    (generated : KemKeyPair.generate platform instant algorithm = .ok key)
    (exported : key.publicKeySpkiDer platform = .ok der)
    (encapsulated : encapsulateForClient platform instant' der algorithm =
      .ok (ciphertext, secret)) :
    ciphertext.length = algorithm.ciphertextLen ∧
      key.decapsulate platform ciphertext = .ok secret := by
  simp only [encapsulateForClient, bind_eq_ok, mapError_eq_ok, rejectIf_eq_ok, not_not,
    pure_eq_ok, Except.ok.injEq, Prod.exists, Prod.mk.injEq] at encapsulated
  obtain ⟨_, _, answered, _, length, rfl, rfl⟩ := encapsulated
  have same := KemKeyPair.algorithm_of_generate generated
  refine ⟨length, ?_⟩
  unfold KemKeyPair.decapsulate
  rw [same, rejectIf_of_not (not_not_intro length), ok_bind]
  cases composite : algorithm.isComposite with
  | true =>
      rw [composite, if_pos rfl] at answered
      rw [if_pos rfl, keys.compositeDecapsulates generated exported composite answered, mapError_ok]
  | false =>
      rw [composite, if_neg (by decide)] at answered
      rw [if_neg (by decide), keys.decapsulates generated exported composite answered, mapError_ok]

/-! ## The key exchange of a request -/

theorem NamesGroup.fromOid {group : DhGroup} {algorithm : AlgorithmIdentifier}
    (names : NamesGroup platform.synta group algorithm) :
    KemAlgorithm.fromOid algorithm.algorithm = none := by
  cases names <;> rfl

/-- **The KDC answers a KEM key with that KEM.** -/
theorem selectKeyExchange_of_kem {state : PkinitKdcState} {algorithm : KemAlgorithm}
    {spkiDer : Bytes} {clientDhNonce : Option Bytes} {keyExchange : KeyExchangeType}
    (names : ∀ spki, platform.synta.subjectPublicKeyInfo.fromDer spkiDer = .ok spki →
      spki.algorithm.algorithm = algorithm.oid)
    (selected : state.selectKeyExchange platform spkiDer clientDhNonce = .ok keyExchange) :
    keyExchange = .kem algorithm := by
  simp only [PkinitKdcState.selectKeyExchange, detectSpkiAlgorithm, bind_eq_ok, mapError_eq_ok]
    at selected
  obtain ⟨kem, ⟨spki, decoded, detected⟩, selected⟩ := selected
  rw [names spki decoded, KemAlgorithm.fromOid_oid] at detected
  simp only [bind_eq_ok, pure_eq_ok, Except.ok.injEq] at detected
  obtain ⟨_, _, rfl⟩ := detected
  simp only [bind_eq_ok, pure_eq_ok, Except.ok.injEq] at selected
  obtain ⟨_, _, _, _, rfl⟩ := selected
  rfl

/-- **The KDC answers a group key in that group.** -/
theorem selectKeyExchange_of_group {state : PkinitKdcState} {group : DhGroup} {spkiDer : Bytes}
    {clientDhNonce : Option Bytes} {keyExchange : KeyExchangeType}
    (exports : ExportsGroupKey platform group spkiDer)
    (selected : state.selectKeyExchange platform spkiDer clientDhNonce = .ok keyExchange) :
    keyExchange = .dh group := by
  simp only [PkinitKdcState.selectKeyExchange, detectSpkiAlgorithm, bind_eq_ok, mapError_eq_ok]
    at selected
  obtain ⟨kem, ⟨spki, decoded, detected⟩, selected⟩ := selected
  rw [(exports.names spki decoded).1.fromOid] at detected
  obtain rfl := Except.ok.inj detected
  simp only [bind_eq_ok] at selected
  obtain ⟨_, _, validated⟩ := selected
  cases checked : validateDhParams platform spkiDer state.config.dhMinBits with
  | error e => simp [checked, Functor.map, Except.map] at validated
  | ok found =>
      rw [checked] at validated
      obtain rfl := Except.ok.inj validated
      cases read : platform.crypto.peerKeyFromDer spkiDer with
      | error e => simp [validateDhParams, read] at checked
      | ok peer => rw [validateDhParams_of_peerInGroup read (exports.peer peer read) checked]

end Kurbu5Pkinit

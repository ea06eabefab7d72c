import Kurbu5Pkinit.Client.Calls
import Kurbu5Pkinit.Laws
import Kurbu5Pkinit.Reference.Client
import Kurbu5Pkinit.Reference.Laws
import Kurbu5Pkinit.Verification

/-!
# Both sides derive the same key

The two halves of the exchange put together. What the client writes into a
request is what the KDC reads out of it; the KDC then answers the key exchange
the client chose; and what the KDC writes into its reply is what the client
reads out of that. Every input of the key derivation is one both sides have.
-/

set_option autoImplicit false

namespace Kurbu5Pkinit

open Library PkinitClientState

variable {platform : Platform} {o2k : OctetString2Key} {instant : Instant}

/-! ## The client's key pair -/

/-- A DH key pair the client holds was generated in the selected group. -/
def HoldsGroupKey (platform : Platform) (s : PkinitClientState) : Prop :=
  ∀ key, s.dhKey = some key →
    ∃ instant, DhKeyPair.generate platform instant s.config.dhGroup = .ok key

theorem HoldsGroupKey.apply {s : PkinitClientState} (holds : HoldsGroupKey platform s)
    (offered : Offered) : HoldsGroupKey platform (s.apply offered) := by
  cases offered with
  | kem alg => exact holds
  | dh group => exact fun key held => absurd held.symm (Option.some_ne_none key)

theorem HoldsGroupKey.of_selection {s s' : PkinitClientState} (holds : HoldsGroupKey platform s)
    (outcome : SelectionOutcome platform s s') : HoldsGroupKey platform s' := by
  cases outcome with
  | unchanged => exact holds
  | @applied offered _ => exact holds.apply offered

theorem HoldsGroupKey.of_build {s s' : PkinitClientState} {input : RequestInput}
    {r : Except PkinitError Bytes} (holds : HoldsGroupKey platform s)
    (outcome : BuildOutcome platform instant s input s' r) : HoldsGroupKey platform s' := by
  cases outcome with
  | refused | kemUnfinished | kem => exact holds
  | dhUnfinished _ _ key =>
      rintro held rfl
      rcases key with same | ⟨_, fresh, ⟨⟩, generated⟩
      · exact holds held same.symm
      · exact ⟨instant, generated⟩
  | @dh key _ _ _ _ _ source =>
      rintro _ ⟨⟩
      rcases source with held | ⟨_, generated⟩
      · exact holds key held
      · exact ⟨instant, generated⟩

theorem HoldsGroupKey.of_reply {s s' : PkinitClientState} {paRepDer : Bytes}
    {params : AsRepParams} {r : Except PkinitError DerivedKey} (holds : HoldsGroupKey platform s)
    (outcome : ReplyOutcome platform o2k instant s paRepDer params s' r) :
    HoldsGroupKey platform s' := by
  cases outcome <;> exact holds

theorem holdsGroupKey_step (s : PkinitClientState) (i : ClientCall)
    (holds : HoldsGroupKey platform s) : HoldsGroupKey platform (clientMachine platform s i).1 := by
  cases i with
  | setFreshnessToken | setKdcIdentity | setTrustBroker | setIsAnonymous => exact holds
  | setDhGroup group => exact holds.apply (.dh group)
  | processPkinitHint hintDer => exact holds.of_selection (processPkinitHint_outcome s hintDer)
  | handleTryagain errorPadataDer =>
      exact holds.of_selection (handleTryagain_outcome s errorPadataDer)
  | handleTryagainTypedData typedData =>
      exact holds.of_selection (handleTryagainTypedData_outcome s typedData)
  | buildAsReq instant input => exact holds.of_build (buildAsReq_outcome platform instant s input)
  | processAsRep instant o2k paRepDer params =>
      exact holds.of_reply (processAsRep_outcome platform o2k instant s paRepDer params)

/-- In every state a client reaches, a DH key pair belongs to its group. -/
theorem holdsGroupKey_run {identity : PkinitIdentity} {trustStore : TrustStore}
    {config : PkinitClientConfig} {history : List ClientEvent} {s : PkinitClientState}
    (run : Run (clientMachine platform) (PkinitClientState.new identity trustStore config)
      history s) : HoldsGroupKey platform s :=
  (Run.invariant (I := HoldsGroupKey platform) (A := fun _ => True) (P := fun _ => True)
    (fun key held => absurd held.symm (Option.some_ne_none key))
    (fun s i holds _ => ⟨trivial, holdsGroupKey_step s i holds⟩) run fun _ _ => trivial).2

/-! ## The request at the KDC -/

/-- The envelope of a request, signed or not, holds the `AuthPack`. -/
theorem signAuthPack_holds (codecs : EnvelopeCodecs platform.synta) {identity : PkinitIdentity}
    {authPackDer signedAuthPack : Bytes}
    (signed : signAuthPack platform instant identity authPackDer = .ok signedAuthPack) :
    ∃ signedData, unwrapSignedData platform signedAuthPack = .ok signedData ∧
      signedData.encapContentInfo.eContent = some authPackDer := by
  unfold signAuthPack at signed
  split at signed
  · simp only [createUnsignedData, bind_eq_ok, mapError_eq_ok] at signed
    obtain ⟨_, _, wrapped⟩ := signed
    exact ⟨_, unwrapSignedData_wrapSignedData codecs wrapped, rfl⟩
  · simp only [bind_eq_ok, okOr_eq_ok] at signed
    obtain ⟨signerKey, _, created⟩ := signed
    obtain ⟨signedData, _, _, wrapped, envelope⟩ := createSignedData_eq_ok created
    exact ⟨signedData, unwrapSignedData_wrapSignedData codecs wrapped, by
      rw [envelope.encapsulated]⟩

/-- Whichever way the KDC opens a `SignedData`, it takes the content of it. -/
theorem openAuthPack_content {state : PkinitKdcState} {der content cert : Bytes}
    {isAnonymous : Bool} {signedData : SignedData}
    (unwrapped : unwrapSignedData platform der = .ok signedData)
    (opened : state.openAuthPack platform instant der = .ok (content, cert, isAnonymous)) :
    signedData.encapContentInfo.eContent = some content := by
  unfold PkinitKdcState.openAuthPack at opened
  split at opened
  · next content' ct unsigned =>
      simp only [bind_eq_ok, rejectIf_eq_ok, not_not, pure_eq_ok, Except.ok.injEq,
        Prod.mk.injEq] at opened
      obtain ⟨_, rfl, rfl, _, _⟩ := opened
      unfold unsignedContent at unsigned
      split at unsigned
      · next extracted =>
          cases unsigned
          simp only [extractUnsignedContent, unwrapped, ok_bind, bind_eq_ok, okOr_eq_ok,
            pure_eq_ok, Except.ok.injEq, Prod.mk.injEq] at extracted
          obtain ⟨_, _, _, present, rfl, _⟩ := extracted
          exact present
      · -- A bare `OCTET STRING` of this type is not inside a `SignedData`.
        cases bare : extractBareContent platform der with
        | error e => simp [bare, Except.toOption] at unsigned
        | ok pair =>
            simp only [bare, Except.toOption, Option.some.injEq] at unsigned
            subst unsigned
            simp only [extractBareContent, bind_eq_ok, mapError_eq_ok, pure_eq_ok,
              Except.ok.injEq, Prod.mk.injEq] at bare
            obtain ⟨ci, parsed, _, _, _, _, _, type⟩ := bare
            simp only [unwrapSignedData, parsed, mapError_ok, ok_bind, bind_eq_ok, mapError_eq_ok,
              newOid_eq_ok, rejectIf_eq_ok, not_not] at unwrapped
            obtain ⟨_, ⟨_, rfl⟩, _, outer, _⟩ := unwrapped
            exact absurd (outer.symm.trans type) (by decide)
  · simp only [bind_eq_ok] at opened
    obtain ⟨v, verified, _, _, _, _, opened⟩ := opened
    obtain ⟨signedData', _, unwrapped', binding⟩ := SignatureBinding.of_verified verified
    obtain rfl := Except.ok.inj (unwrapped.symm.trans unwrapped')
    rw [binding.content]
    split at opened <;>
      simp only [bind_eq_ok, pure_eq_ok, Except.ok.injEq, Prod.mk.injEq] at opened
    · obtain ⟨_, _, _, _, rfl, _⟩ := opened
      rfl
    · obtain ⟨rfl, _⟩ := opened
      rfl

/-- **The KDC reads what the client wrote**: its nonce, its public key, its DH
nonce. -/
theorem verifyAsReq_of_requestCarries (laws : LawfulPlatform platform) {s : PkinitClientState}
    {input : RequestInput} {spkiDer request : Bytes} {dhNonce : Option Bytes} {useKem : Bool}
    {kdc : PkinitKdcState} {instant' : Instant} {reqBodyDer : Option Bytes}
    {maxSkew currentTime : Int} {verified : VerifiedRequest}
    (element : platform.synta.element.Canonical spkiDer)
    (carries : RequestCarries platform instant s input spkiDer dhNonce useKem request)
    (verifies : kdc.verifyAsReq platform instant' request reqBodyDer maxSkew currentTime =
      .ok verified) :
    verified.nonce = input.nonce ∧ verified.clientDhPublic = spkiDer ∧
      verified.clientDhNonce = dhNonce ∧
      kdc.selectKeyExchange platform spkiDer dhNonce = .ok verified.keyExchange := by
  obtain ⟨pkAuth, publicValue, authenticated, decoded, encoded⟩ := carries.encoded
  simp only [encodeRequest, bind_eq_ok, mapError_eq_ok] at encoded
  obtain ⟨kdfs, _, authPackDer, packed, signedAuthPack, signed, written⟩ := encoded
  obtain ⟨signedData, unwrapped, holds⟩ := signAuthPack_holds laws.envelopes signed
  obtain ⟨authPack, cert, anonymous, ⟨paReq, authPackDer', parsed, opened, read⟩, passes⟩ :=
    verifyAsReq_eq_ok.mp verifies
  obtain rfl := Except.ok.inj ((laws.messages.paPkAsReq _ _ written).symm.trans parsed)
  have content := openAuthPack_content unwrapped opened
  obtain rfl := Option.some.inj (holds.symm.trans content)
  obtain rfl := Except.ok.inj ((laws.messages.authPack _ _ packed).symm.trans read)
  have nonce : pkAuth.nonce = encodeNonce input.nonce := by
    simp only [buildPkAuthenticator, bind_eq_ok, pure_eq_ok, Except.ok.injEq] at authenticated
    obtain ⟨_, _, _, _, _, _, rfl⟩ := authenticated
    rfl
  have readNonce := passes.nonce
  rw [show pkAuth.nonce = _ from nonce, decodeNonce_encodeNonce] at readNonce
  obtain ⟨value, present, reencoded⟩ := passes.publicValue
  obtain rfl := Option.some.inj present
  have same := Except.ok.inj ((element _ decoded).symm.trans reencoded)
  have keyExchange := passes.keyExchange
  rw [← same] at keyExchange
  exact ⟨(Except.ok.inj readNonce).symm, same.symm, passes.dhNonce, keyExchange⟩

/-! ## The reply at the client -/

/-- Every signature of the identity is under a post-quantum algorithm. -/
def SignsPostQuantum (platform : Platform) (identity : PkinitIdentity) : Prop :=
  ∀ key sigAlgDer sigAlg, identity.signingKey = some key →
    platform.crypto.signatureAlgorithmDer key (digestForSigner platform identity.certDer) =
      .ok sigAlgDer →
    platform.synta.algorithmIdentifier.fromDer sigAlgDer = .ok sigAlg →
    isPqSignatureAlgorithm platform sigAlg.algorithm = true

/-- A reply's signature verifies, under the KDC's certificate. -/
theorem verifySignedData_of_signReply (laws : LawfulPlatform platform) {kdc : PkinitKdcState}
    {content : Bytes} {contentOid : Oid} {der : Bytes}
    (signer : SoundSigner platform kdc.identity)
    (signed : kdc.signReply platform instant content contentOid = .ok der)
    (small : der.length < 2 ^ 32) :
    ∃ v, verifySignedData platform der = .ok v ∧ v.content = content ∧
      v.contentType = contentOid ∧ v.signerCertDer = kdc.identity.certDer ∧
      v.allCertsDer = kdc.identity.certDer :: kdc.identity.chain ∧
      (SignsPostQuantum platform kdc.identity →
        isPqSignatureAlgorithm platform v.signerAlgorithmOid = true) := by
  simp only [PkinitKdcState.signReply, bind_eq_ok, okOr_eq_ok] at signed
  obtain ⟨key, present, created⟩ := signed
  obtain ⟨signedData, signerInfo, signedAttrs, wrapped, envelope⟩ := createSignedData_eq_ok created
  have attrsSmall : signedAttrs.length < 2 ^ 32 := by
    have unwrapping := wrapped
    simp only [wrapSignedData, bind_eq_ok, mapError_eq_ok] at unwrapping
    obtain ⟨sdDer, encoded, explicit0, tagged, _, _, written⟩ := unwrapping
    have inSignedData := laws.messages.signedDataHolds _ _ encoded signerInfo
      (by simp [envelope.signers]) signedAttrs envelope.attributes
    have inExplicit := laws.messages.explicitTagHolds _ _ _ tagged
    have inEnvelope := laws.messages.contentInfoHolds _ _ written
    dsimp only at inEnvelope
    omega
  refine ⟨_, verifySignedData_of_signsEnvelope laws.envelopes (signer.pair key present)
    signer.chain attrsSmall envelope (unwrapSignedData_wrapSignedData laws.envelopes wrapped),
    rfl, rfl, rfl, rfl, ?_⟩
  intro postQuantum
  obtain ⟨sigAlgDer, algorithm, decoded⟩ := envelope.algorithm
  exact postQuantum key sigAlgDer _ present algorithm decoded

/-- The client's side of an exchange the KDC answered with these parameters. -/
def BuildAsRepParams.received (params : BuildAsRepParams) (paRepRaw : Bytes) : AsRepParams where
  nonce := params.nonce
  enctype := params.enctype
  asReqDer := params.asReqDer
  paRepRaw := paRepRaw
  clientName := params.clientName
  serverName := params.serverName

/-- Both sides derive one key from one secret, by the KDC's choice of function
or without one. -/
theorem deriveDhKey_of_deriveDhRepKey {s : PkinitClientState} {params : BuildAsRepParams}
    {selectedKdf : Option Oid} {clientDhNonce : Option Bytes}
    {sharedSecret serverDhNonce paRepDer dhSignedData : Bytes} {key : DerivedKey}
    (nonce : s.dhNonce = clientDhNonce)
    (derived : PkinitKdcState.deriveDhRepKey platform o2k params selectedKdf clientDhNonce
      sharedSecret serverDhNonce paRepDer = .ok key) :
    s.deriveDhKey platform o2k (params.received paRepDer)
      ⟨dhSignedData, some serverDhNonce, selectedKdf.map KdfAlgorithmId.mk⟩ sharedSecret =
        .ok key := by
  subst nonce
  cases selectedKdf <;> exact derived

/-- What the KDC put into its `dhInfo` reply. -/
theorem buildDhRep_eq_ok {kdc : PkinitKdcState} {verified : VerifiedRequest}
    {params : BuildAsRepParams} {group : DhGroup} {reply : Bytes} {key : DerivedKey}
    (answered : kdc.buildDhRep platform o2k instant verified params group = .ok (reply, key)) :
    ∃ kdcKey kdcSpkiDer sharedSecret spki infoDer signedKdcDh serverDhNonce,
      DhKeyPair.generate platform instant group = .ok kdcKey ∧
      kdcKey.publicKeySpkiDer platform = .ok kdcSpkiDer ∧
      kdcKey.deriveSharedSecret platform verified.clientDhPublic = .ok sharedSecret ∧
      platform.synta.subjectPublicKeyInfo.fromDer kdcSpkiDer = .ok spki ∧
      platform.synta.kdcDhKeyInfo.toDer
        ⟨⟨spki.subjectPublicKey.bytes, 0⟩, encodeNonce params.nonce, none⟩ = .ok infoDer ∧
      kdc.signReply platform instant infoDer ID_PKINIT_DHKEY_DATA = .ok signedKdcDh ∧
      platform.synta.paPkAsRep.toDer (.dhInfo ⟨signedKdcDh, some serverDhNonce,
        (pickKdfAlg verified.supportedKdfs).map KdfAlgorithmId.mk⟩) = .ok reply ∧
      PkinitKdcState.deriveDhRepKey platform o2k params (pickKdfAlg verified.supportedKdfs)
        verified.clientDhNonce sharedSecret serverDhNonce reply = .ok key := by
  simp only [PkinitKdcState.buildDhRep, extractPubKeyBits, Synta.newBitString, bind_eq_ok,
    mapError_eq_ok, pure_eq_ok, Except.ok.injEq, Prod.mk.injEq] at answered
  obtain ⟨kdcKey, generated, kdcSpkiDer, exported, sharedSecret, shared, _, ⟨spki, decoded, rfl⟩,
    _, ⟨_, _, rfl⟩, infoDer, encoded, signedKdcDh, signed, serverDhNonce, _, kdf, named, _, written,
    _, derived, rfl, rfl⟩ := answered
  have sent : kdf = (pickKdfAlg verified.supportedKdfs).map KdfAlgorithmId.mk := by
    cases picked : pickKdfAlg verified.supportedKdfs with
    | none =>
        rw [picked] at named
        exact (Except.ok.inj named).symm
    | some oid =>
        rw [picked] at named
        simp only [Option.mapM_some, Functor.map, Except.map, Synta.newOid] at named
        cases known : platform.synta.checkOid oid with
        | error e => simp [known, Bind.bind, Except.bind] at named
        | ok _ =>
            simp only [known, ok_bind, pure_eq_ok, mapError_ok, Except.ok.injEq] at named
            exact named.symm
  subst sent
  exact ⟨kdcKey, kdcSpkiDer, sharedSecret, spki, infoDer, signedKdcDh, serverDhNonce, generated,
    exported, shared, decoded, encoded, signed, written, derived⟩

/-- **The client derives the key of a `dhInfo` reply.** -/
theorem processDhRep_of_buildDhRep (laws : LawfulPlatform platform) {kdc : PkinitKdcState}
    {verified : VerifiedRequest} {params : BuildAsRepParams} {group : DhGroup} {reply : Bytes}
    {key : DerivedKey} {s : PkinitClientState} {dhKey : DhKeyPair} {clientInstant : Instant}
    (answered : kdc.buildDhRep platform o2k instant verified params group = .ok (reply, key))
    (small : reply.length < 2 ^ 32) (signer : SoundSigner platform kdc.identity)
    (held : s.dhKey = some dhKey)
    (generated : ∃ instant, DhKeyPair.generate platform instant group = .ok dhKey)
    (exported : dhKey.publicKeySpkiDer platform = .ok verified.clientDhPublic)
    (nonce : s.dhNonce = verified.clientDhNonce)
    (trusted : s.validateKdcChain platform clientInstant kdc.identity.certDer
      (kdc.identity.certDer :: kdc.identity.chain) = .ok ()) :
    isKemRep reply = false ∧ ∃ dhRepInfo,
      platform.synta.paPkAsRep.fromDer reply = .ok (.dhInfo dhRepInfo) ∧
      s.processDhRep platform o2k clientInstant dhRepInfo (params.received reply) = .ok key := by
  obtain ⟨kdcKey, kdcSpkiDer, secret, spki, infoDer, signedKdcDh, serverDhNonce, kdcGenerated,
    kdcExported, shared, decoded, encoded, signed, written, derived⟩ := buildDhRep_eq_ok answered
  obtain ⟨clientInstant', generated⟩ := generated
  have tag : isKemRep reply = false := by
    simp [isKemRep, laws.messages.dhInfoTag _ _ written, PA_PK_AS_REP_KEM_TAG]
  have signedSmall := laws.messages.dhInfoHolds _ _ written
  obtain ⟨v, verifies, content, contentType, certDer, certs, _⟩ :=
    verifySignedData_of_signReply laws signer signed (Nat.lt_of_le_of_lt signedSmall small)
  refine ⟨tag, _, laws.messages.paPkAsRep _ _ written, processDhRep_eq_ok.mpr ⟨v, dhKey, ?_⟩⟩
  have group_eq := DhKeyPair.group_of_generate generated
  have exports := laws.groups.exported kdcGenerated kdcExported
  simp only [DhKeyPair.deriveSharedSecret, bind_eq_ok, mapError_eq_ok] at shared
  obtain ⟨clientPeer, readClient, shared⟩ := shared
  obtain ⟨kdcPeer, readKdc, agreed⟩ := laws.groups.commutes generated kdcGenerated exported
    kdcExported readClient shared
  have clientShares : dhKey.deriveSharedSecret platform kdcSpkiDer = .ok secret := by
    rw [DhKeyPair.deriveSharedSecret, readKdc, mapError_ok, ok_bind, agreed, mapError_ok]
  exact {
    signature := verifies
    contentType := contentType
    chain := by rw [certDer, certs, trusted]
    held := held
    agreed := ⟨⟨⟨spki.subjectPublicKey.bytes, 0⟩, encodeNonce params.nonce, none⟩, kdcSpkiDer,
      secret, by rw [content, laws.messages.kdcDhKeyInfo _ _ encoded],
      decodeNonce_encodeNonce _ params.nonce,
      by rw [group_eq, rebuildSpki_of_exports laws.groups exports decoded],
      clientShares, deriveDhKey_of_deriveDhRepKey nonce derived⟩ }

/-- What the KDC put into its `kemInfo` reply. -/
theorem buildKemRep_eq_ok {kdc : PkinitKdcState} {verified : VerifiedRequest}
    {params : BuildAsRepParams} {algorithm : KemAlgorithm} {reply : Bytes} {key : DerivedKey}
    (answered : kdc.buildKemRep platform o2k instant verified params algorithm =
      .ok (reply, key)) :
    ∃ ciphertext sharedSecret infoDer kemSignedData,
      encapsulateForClient platform instant verified.clientDhPublic algorithm =
        .ok (ciphertext, sharedSecret) ∧
      platform.synta.kdcKemInfo.toDer {
        kemAlgorithm := { algorithm := algorithm.oid }
        kemct := ciphertext
        kdfAlgorithm := { algorithm := ID_ALG_HKDF_WITH_SHA512 }
        nonce := some (encodeNonce params.nonce)
        serverNonce := none } = .ok infoDer ∧
      kdc.signReply platform instant infoDer ID_PKINIT_KEM_KEY_DATA = .ok kemSignedData ∧
      encodeKemRepWrapper platform.synta ⟨kemSignedData⟩ = .ok reply ∧
      pkinitKemKdf platform o2k ⟨sharedSecret, params.enctype, params.asReqDer, kemSignedData⟩ =
        .ok key := by
  simp only [PkinitKdcState.buildKemRep, bind_eq_ok, mapError_eq_ok, newOid_eq_ok, pure_eq_ok,
    Except.ok.injEq, Prod.mk.injEq, Prod.exists] at answered
  obtain ⟨_, _, ciphertext, sharedSecret, encapsulated, _, ⟨_, rfl⟩, _, ⟨_, rfl⟩, infoDer, encoded,
    kemSignedData, signed, _, wrapped, _, derived, rfl, rfl⟩ := answered
  exact ⟨ciphertext, sharedSecret, infoDer, kemSignedData, encapsulated, encoded, signed, wrapped,
    derived⟩

/-- **The client derives the key of a `kemInfo` reply.** -/
theorem openKemRep_of_buildKemRep (laws : LawfulPlatform platform) {kdc : PkinitKdcState}
    {verified : VerifiedRequest} {params : BuildAsRepParams} {algorithm : KemAlgorithm}
    {reply : Bytes} {key : DerivedKey} {s : PkinitClientState} {kemKey : KemKeyPair}
    {clientInstant : Instant}
    (answered : kdc.buildKemRep platform o2k instant verified params algorithm = .ok (reply, key))
    (small : reply.length < 2 ^ 32) (signer : SoundSigner platform kdc.identity)
    (generated : ∃ instant, KemKeyPair.generate platform instant algorithm = .ok kemKey)
    (exported : kemKey.publicKeySpkiDer platform = .ok verified.clientDhPublic)
    (postQuantum : s.hasPqCertificate platform = true → SignsPostQuantum platform kdc.identity)
    (trusted : s.validateKdcChain platform clientInstant kdc.identity.certDer
      (kdc.identity.certDer :: kdc.identity.chain) = .ok ()) :
    isKemRep reply = true ∧
      openKemRep platform o2k clientInstant s kemKey reply (params.received reply) = .ok key := by
  obtain ⟨ciphertext, secret, infoDer, kemSignedData, encapsulated, encoded, signed, wrapped,
    derived⟩ := buildKemRep_eq_ok answered
  obtain ⟨_, generated⟩ := generated
  obtain ⟨inner, innerEncoded, innerShort⟩ : ∃ inner,
      platform.synta.kemRepInfo.toDer ⟨kemSignedData⟩ = .ok inner ∧
        inner.length ≤ reply.length := by
    simp only [encodeKemRepWrapper, bind_eq_ok, mapError_eq_ok, pure_eq_ok, Except.ok.injEq]
      at wrapped
    obtain ⟨inner, encoded, rfl⟩ := wrapped
    refine ⟨inner, encoded, ?_⟩
    simp only [List.length_cons, List.length_append]
    omega
  have holds := laws.messages.kemInfoHolds _ _ innerEncoded
  obtain ⟨v, verifies, content, contentType, certDer, certs, signsPostQuantum⟩ :=
    verifySignedData_of_signReply laws signer signed (by dsimp only at holds; omega)
  have usize := laws.usize
  have fits : reply.length < 2 ^ platform.usizeBits :=
    Nat.lt_of_lt_of_le small (Nat.pow_le_pow_right (by decide) usize)
  have unwrapped := decodeKemRepContent_encodeKemRepWrapper (by omega : 8 < platform.usizeBits)
    wrapped innerEncoded small fits
  obtain ⟨length, recovered⟩ := decapsulate_of_encapsulateForClient laws.kems generated exported
    encapsulated
  refine ⟨isKemRep_of_encodeKemRepWrapper wrapped, openKemRep_eq_ok.mpr ⟨v, _, {
    contentType := contentType
    postQuantum := fun required => signsPostQuantum (postQuantum required)
    chain := by rw [certDer, certs, trusted]
    decoded := by rw [content, laws.messages.kdcKemInfo _ _ encoded]
    fits := ?_
    opened := ⟨inner, _, secret, unwrapped, laws.messages.kemRepInfo _ _ innerEncoded, verifies,
      recovered, derived⟩ }⟩⟩
  rw [KemKeyPair.algorithm_of_generate generated]
  exact ⟨rfl, ⟨_, rfl, decodeNonce_encodeNonce _ _⟩, rfl, rfl, rfl, rfl, length⟩

/-! ## The exchange -/

/-- **Key agreement.** From any state a client reaches: the KDC that answered
its request, with any list of functions for the DH path, and the client that
processes the reply derive the same key, on the path of the request. -/
theorem client_and_kdc_derive_same_key (platform : Platform) (o2k : OctetString2Key)
    (laws : LawfulPlatform platform)
    (identity : PkinitIdentity) (trustStore : TrustStore) (config : PkinitClientConfig)
    (history : List ClientEvent) (s s' : PkinitClientState)
    (run : Run (clientMachine platform) (PkinitClientState.new identity trustStore config)
      history s)
    (buildInstant : Instant) (input : RequestInput) (request : Bytes)
    (built : call (buildAsReq platform buildInstant input.nonce input.ctime input.cusec
      input.reqBodyDer) s = (s', .ok request))
    (kdc : PkinitKdcState) (verifyInstant : Instant) (reqBodyDer : Option Bytes)
    (maxSkew currentTime : Int) (verified : VerifiedRequest)
    (verifies : kdc.verifyAsReq platform verifyInstant request reqBodyDer maxSkew currentTime =
      .ok verified)
    (supportedKdfs : List Oid) (replyInstant : Instant) (params : BuildAsRepParams)
    (nonce : params.nonce = verified.nonce) (reply : Bytes) (kdcKey : DerivedKey)
    (answered : kdc.buildAsRep platform o2k replyInstant
      { verified with supportedKdfs := supportedKdfs } params = .ok (reply, kdcKey))
    (small : reply.length < 2 ^ 32) (signer : SoundSigner platform kdc.identity)
    (clientInstant : Instant)
    (trusted : s'.validateKdcChain platform clientInstant kdc.identity.certDer
      (kdc.identity.certDer :: kdc.identity.chain) = .ok ())
    (postQuantum : s'.hasPqCertificate platform = true →
      SignsPostQuantum platform kdc.identity) :
    verified.nonce = input.nonce ∧ s'.keyExchange = some verified.keyExchange ∧
      (isKemRep reply = true ↔ ∃ alg, verified.keyExchange = .kem alg) ∧
      (call (processAsRep platform o2k clientInstant reply {
        nonce := input.nonce
        enctype := params.enctype
        asReqDer := params.asReqDer
        paRepRaw := reply
        clientName := params.clientName
        serverName := params.serverName }) s').2 = .ok kdcKey := by
  have holds := holdsGroupKey_run run
  have outcome := buildAsReq_outcome platform buildInstant s input
  rw [Ends, built] at outcome
  have received : ∀ same : verified.nonce = input.nonce, params.received reply = {
      nonce := input.nonce
      enctype := params.enctype
      asReqDer := params.asReqDer
      paRepRaw := reply
      clientName := params.clientName
      serverName := params.serverName } := by
    intro same
    rw [← same, ← nonce]
    rfl
  cases outcome with
  | @kem algorithm key spkiDer _ _ generated exported carries =>
      obtain ⟨element, names⟩ := laws.kems.exported generated exported
      obtain ⟨same, publicKey, _, selected⟩ := verifyAsReq_of_requestCarries laws element carries
        verifies
      have path := selectKeyExchange_of_kem names selected
      rw [PkinitKdcState.buildAsRep, path] at answered
      obtain ⟨tag, opened⟩ := openKemRep_of_buildKemRep laws answered small signer
        ⟨_, generated⟩ (publicKey ▸ exported) (s := { s with
          keyExchange := some (.kem algorithm), kemKey := none }) postQuantum trusted
      refine ⟨same, by rw [path], by simp [tag, path], ?_⟩
      rw [← received same, call_processAsRep_kemInfo tag rfl]
      exact opened
  | @dh key dhNonce spkiDer _ _ _ source exported carries =>
      have generated : ∃ instant,
          DhKeyPair.generate platform instant s.config.dhGroup = .ok key := by
        rcases source with held | ⟨_, generated⟩
        · exact holds key held
        · exact ⟨_, generated⟩
      obtain ⟨_, generatedAt⟩ := generated
      have exports := laws.groups.exported generatedAt exported
      obtain ⟨same, publicKey, sentNonce, selected⟩ := verifyAsReq_of_requestCarries laws
        exports.element carries verifies
      have path := selectKeyExchange_of_group exports selected
      rw [PkinitKdcState.buildAsRep, path] at answered
      obtain ⟨tag, dhRepInfo, parsed, processed⟩ := processDhRep_of_buildDhRep laws answered small
        signer (s := { s with
          keyExchange := some (.dh s.config.dhGroup), dhKey := some key, dhNonce := some dhNonce })
        rfl ⟨_, generatedAt⟩ (publicKey ▸ exported) sentNonce.symm trusted
      refine ⟨same, by rw [path], by simp [tag, path], ?_⟩
      rw [← received same, call_processAsRep_dhInfo tag parsed]
      exact processed

namespace Reference

/-- The realm's KDC, without a demand for freshness. -/
def anonymityKdc : PkinitKdcState where
  identity := kdcIdentity
  trustStore := trustStore
  config := {}
  supportedAlgorithmsHint := none
  tdEphemeralKeyParams := []

def answerParams : BuildAsRepParams where
  nonce := requestNonce
  enctype := 18
  asReqDer := asReqDer
  clientName := anonymousName
  serverName := kdcName

/-- The KDC's half: from the client's request to the nonce, the reply and the
key. -/
def answerRequest : Except PkinitError (Int32 × Bytes × DerivedKey) := do
  let request ← (call buildRequest readyClient).2
  let verified ← anonymityKdc.verifyAsReq recorded kdcInstant request (some requestBody) 300
    clientInstant.now
  let (reply, key) ← anonymityKdc.buildAsRep recorded (krb5OctetString2Key recorded) kdcInstant
    { verified with supportedKdfs := [ID_PKINIT_KDF_AH_SHA1, ID_PKINIT_KDF_AH_SHA256] } answerParams
  return (verified.nonce, reply, key)

end Reference

/-- An anonymous exchange on P-256. -/
theorem client_and_kdc_derive_same_key_agileDhReply :
    Reference.answerRequest =
        .ok (Reference.requestNonce, Reference.agileDhReply, ⟨18, Reference.dhReplyKey⟩) ∧
      (call Reference.readReply (call Reference.buildRequest Reference.readyClient).1).2 =
        .ok ⟨18, Reference.dhReplyKey⟩ := by
  have exchange : Reference.answerRequest =
      .ok (Reference.requestNonce, Reference.agileDhReply, ⟨18, Reference.dhReplyKey⟩) := by
    decide +kernel
  have trusted : (call Reference.buildRequest Reference.readyClient).1.validateKdcChain
      Reference.recorded Reference.clientInstant Reference.kdcCertDer [Reference.kdcCertDer] =
        .ok () := by
    decide +kernel
  have classical : (call Reference.buildRequest Reference.readyClient).1.hasPqCertificate
      Reference.recorded = false := by
    decide +kernel
  have steps := exchange
  simp only [Reference.answerRequest, bind_eq_ok, pure_eq_ok, Except.ok.injEq, Prod.mk.injEq,
    Prod.exists] at steps
  obtain ⟨request, built, verified, verifies, reply, key, answered, nonce, rfl, rfl⟩ := steps
  have agree := client_and_kdc_derive_same_key Reference.recorded
    (krb5OctetString2Key Reference.recorded) Reference.recorded_lawful Reference.noIdentity
    Reference.trustStore Reference.clientConfig _ Reference.readyClient _
    (run_exec _ _ [Reference.nameKdc]) Reference.clientInstant Reference.requestInput request
    (call_of_result built) Reference.anonymityKdc Reference.kdcInstant _ _ _ verified verifies _
    Reference.kdcInstant Reference.answerParams nonce.symm Reference.agileDhReply _ answered
    (by decide +kernel) Reference.kdcIdentity_sound Reference.clientInstant trusted
    (fun required => absurd (classical.symm.trans required) Bool.false_ne_true)
  exact ⟨exchange, agree.2.2.2⟩

end Kurbu5Pkinit

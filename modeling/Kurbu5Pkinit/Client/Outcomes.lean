import Kurbu5Pkinit.Client.Exchange

/-!
# What each client operation can do

One statement for each operation of the client, listing the states it can
leave and what it can return there. Every property of a run is derived from
these; nothing after this module looks into an operation again.
-/

set_option autoImplicit false

namespace Kurbu5Pkinit

open Library

variable {platform : Platform} {instant : Instant}

namespace PkinitClientState

/-! ## Hints and retries -/

/-- A list of the KDC leaves the selection alone or moves it to an offer the
policy accepts. -/
inductive SelectionOutcome (platform : Platform) (s : PkinitClientState) :
    PkinitClientState → Prop
  | unchanged : SelectionOutcome platform s s
  | applied {offered : Offered} (accepted : s.accepts platform offered = true) :
      SelectionOutcome platform s (s.apply offered)

theorem processPkinitHint_outcome (s : PkinitClientState) (hintDer : Bytes) :
    SelectionOutcome platform s (call (processPkinitHint platform hintDer) s).1 := by
  unfold processPkinitHint
  rw [call_get_bind]
  cases parsed : parsePkinitHint platform.synta platform.usizeBits hintDer with
  | error e =>
      rw [call_lift_bind_error _ rfl]
      exact .unchanged
  | ok advertised =>
      rw [call_lift_bind_ok _ rfl]
      dsimp only
      split
      · exact .unchanged
      · cases located : (advertised.filterMap (s.recognize platform)).find?
            (s.accepts platform) with
        | none => exact .unchanged
        | some offered => exact .applied (by simpa using List.find?_some located)

theorem retryWithOffers_outcome (s : PkinitClientState) (value : Bytes) :
    SelectionOutcome platform s (call (retryWithOffers platform value) s).1 := by
  unfold retryWithOffers
  rw [call_get_bind]
  cases parsed : parseTdOffered platform value with
  | error e =>
      rw [call_lift_bind_error _ rfl]
      exact .unchanged
  | ok advertised =>
      rw [call_lift_bind_ok _ rfl]
      dsimp only
      split
      · next offered located =>
          have accepted : s.accepts platform offered = true := by
            simpa using List.find?_some located
          cases offered <;> exact .applied accepted
      · split <;> exact .unchanged

theorem handleTryagainTypedData_outcome (s : PkinitClientState) (typedData : List (Int × Bytes)) :
    SelectionOutcome platform s (call (handleTryagainTypedData platform typedData) s).1 := by
  induction typedData with
  | nil => exact .unchanged
  | cons entry rest ih =>
      unfold handleTryagainTypedData
      split
      · exact retryWithOffers_outcome s entry.2
      · split
        · exact .unchanged
        · exact ih

theorem handleTryagain_outcome (s : PkinitClientState) (errorPadataDer : Bytes) :
    SelectionOutcome platform s (call (handleTryagain platform errorPadataDer) s).1 := by
  unfold handleTryagain
  cases decoded : (platform.synta.methodData.fromDer errorPadataDer).mapError
      (asn1Err "decode error padata") with
  | error e =>
      rw [call_lift_bind_error _ rfl]
      exact .unchanged
  | ok padataList =>
      rw [call_lift_bind_ok _ rfl]
      exact handleTryagainTypedData_outcome s _

/-! ## Requests -/

/-- The input of one request. -/
structure RequestInput where
  nonce : Int32
  ctime : Int
  cusec : Int32
  reqBodyDer : Bytes
  deriving DecidableEq, Repr

/-- A request that was built, around the public key it carries. -/
structure RequestCarries (platform : Platform) (instant : Instant) (s : PkinitClientState)
    (input : RequestInput) (spkiDer : Bytes) (dhNonce : Option Bytes) (useKem : Bool)
    (request : Bytes) : Prop where
  encoded : ∃ pkAuth element,
    buildPkAuthenticator platform s.freshnessToken input.nonce input.ctime input.cusec
      input.reqBodyDer = .ok pkAuth ∧
    platform.synta.element.fromDer spkiDer = .ok element ∧
    encodeRequest platform instant s pkAuth element dhNonce useKem = .ok request

/-- What `buildAsReq` leaves and returns. A failure after the key exchange was
chosen leaves that choice, and possibly new keys, in the state. -/
inductive BuildOutcome (platform : Platform) (instant : Instant) (s : PkinitClientState)
    (input : RequestInput) : PkinitClientState → Except PkinitError Bytes → Prop
  | refused {e : PkinitError} : BuildOutcome platform instant s input s (.error e)
  | kemUnfinished {alg : KemAlgorithm} {kemKey : Option KemKeyPair} {e : PkinitError}
      (selected : s.config.kemAlgorithm = some alg)
      (key : kemKey = s.kemKey ∨ ∃ fresh, kemKey = some fresh ∧
        KemKeyPair.generate platform instant alg = .ok fresh) :
      BuildOutcome platform instant s input
        { s with keyExchange := some (.kem alg), kemKey := kemKey } (.error e)
  | kem {alg : KemAlgorithm} {key : KemKeyPair} {spkiDer request : Bytes}
      (selected : s.config.kemAlgorithm = some alg)
      (generated : KemKeyPair.generate platform instant alg = .ok key)
      (exported : key.publicKeySpkiDer platform = .ok spkiDer)
      (carries : RequestCarries platform instant s input spkiDer none true request) :
      BuildOutcome platform instant s input
        { s with keyExchange := some (.kem alg), kemKey := some key } (.ok request)
  | dhUnfinished {dhKey : Option DhKeyPair} {dhNonce : Option Bytes} {e : PkinitError}
      (selected : s.config.kemAlgorithm = none) (allowed : s.config.requireKem = false)
      (key : dhKey = s.dhKey ∨ s.dhKey = none ∧ ∃ fresh, dhKey = some fresh ∧
        DhKeyPair.generate platform instant s.config.dhGroup = .ok fresh) :
      BuildOutcome platform instant s input
        { s with
          keyExchange := some (.dh s.config.dhGroup)
          dhKey := dhKey
          dhNonce := dhNonce } (.error e)
  | dh {key : DhKeyPair} {dhNonce spkiDer request : Bytes}
      (selected : s.config.kemAlgorithm = none) (allowed : s.config.requireKem = false)
      (held : s.dhKey = some key ∨
        s.dhKey = none ∧ DhKeyPair.generate platform instant s.config.dhGroup = .ok key)
      (exported : key.publicKeySpkiDer platform = .ok spkiDer)
      (carries : RequestCarries platform instant s input spkiDer (some dhNonce) false request) :
      BuildOutcome platform instant s input
        { s with
          keyExchange := some (.dh s.config.dhGroup)
          dhKey := some key
          dhNonce := some dhNonce } (.ok request)

/-- The public key a request goes out with, and where it came from. -/
inductive KeyChoice (platform : Platform) (instant : Instant) (s : PkinitClientState) :
    PkinitClientState → Except PkinitError Bytes → Prop
  | kemFailed {alg : KemAlgorithm} {kemKey : Option KemKeyPair} {e : PkinitError}
      (selected : s.config.kemAlgorithm = some alg)
      (key : kemKey = s.kemKey ∨ ∃ fresh, kemKey = some fresh ∧
        KemKeyPair.generate platform instant alg = .ok fresh) :
      KeyChoice platform instant s
        { s with keyExchange := some (.kem alg), kemKey := kemKey } (.error e)
  | kem {alg : KemAlgorithm} {key : KemKeyPair} {spkiDer : Bytes}
      (selected : s.config.kemAlgorithm = some alg)
      (generated : KemKeyPair.generate platform instant alg = .ok key)
      (exported : key.publicKeySpkiDer platform = .ok spkiDer) :
      KeyChoice platform instant s
        { s with keyExchange := some (.kem alg), kemKey := some key } (.ok spkiDer)
  | dhFailed {dhKey : Option DhKeyPair} {e : PkinitError}
      (selected : s.config.kemAlgorithm = none)
      (key : dhKey = s.dhKey ∨ s.dhKey = none ∧ ∃ fresh, dhKey = some fresh ∧
        DhKeyPair.generate platform instant s.config.dhGroup = .ok fresh) :
      KeyChoice platform instant s
        { s with keyExchange := some (.dh s.config.dhGroup), dhKey := dhKey } (.error e)
  | dh {key : DhKeyPair} {spkiDer : Bytes}
      (selected : s.config.kemAlgorithm = none)
      (held : s.dhKey = some key ∨
        s.dhKey = none ∧ DhKeyPair.generate platform instant s.config.dhGroup = .ok key)
      (exported : key.publicKeySpkiDer platform = .ok spkiDer) :
      KeyChoice platform instant s
        { s with keyExchange := some (.dh s.config.dhGroup), dhKey := some key } (.ok spkiDer)

theorem chooseEphemeralKey_kem {s : PkinitClientState} {alg : KemAlgorithm}
    (selected : s.config.kemAlgorithm = some alg) :
    Ends (chooseEphemeralKey platform instant) s (KeyChoice platform instant s) := by
  unfold chooseEphemeralKey
  refine Ends.bind_get ?_
  simp only [selected]
  refine Ends.bind_modify (Ends.bind_lift ?_ ?_)
  · exact fun e _ => .kemFailed selected (.inl rfl)
  · intro key generated
    refine Ends.bind_modify (Ends.of_lift ?_)
    cases exported : key.publicKeySpkiDer platform with
    | error e => exact .kemFailed selected (.inr ⟨key, rfl, generated⟩)
    | ok spkiDer => exact .kem selected generated exported

theorem chooseEphemeralKey_dh {s : PkinitClientState} (selected : s.config.kemAlgorithm = none) :
    Ends (chooseEphemeralKey platform instant) s (KeyChoice platform instant s) := by
  -- Whether the key pair is held or fresh, exporting it is the same step.
  have exporting : ∀ key : DhKeyPair,
      (s.dhKey = some key ∨
        s.dhKey = none ∧ DhKeyPair.generate platform instant s.config.dhGroup = .ok key) →
      Ends (lift (key.publicKeySpkiDer platform))
        { s with keyExchange := some (.dh s.config.dhGroup), dhKey := some key }
        (KeyChoice platform instant s) := by
    intro key held
    refine Ends.of_lift ?_
    cases exported : key.publicKeySpkiDer platform with
    | ok spkiDer => exact .dh selected held exported
    | error e =>
        refine .dhFailed selected ?_
        rcases held with same | ⟨empty, fresh⟩
        · exact .inl same.symm
        · exact .inr ⟨empty, key, rfl, fresh⟩
  unfold chooseEphemeralKey
  refine Ends.bind_get ?_
  simp only [selected]
  refine Ends.bind_modify ?_
  cases present : s.dhKey with
  | some key => exact exporting key (.inl present)
  | none =>
      refine Ends.bind_lift (fun e _ => ?_) ?_
      · exact .dhFailed selected (.inl present.symm)
      · intro key generated
        exact Ends.bind_modify (exporting key (.inr ⟨present, generated⟩))

theorem chooseEphemeralKey_outcome (s : PkinitClientState) :
    Ends (chooseEphemeralKey platform instant) s (KeyChoice platform instant s) := by
  cases selected : s.config.kemAlgorithm with
  | some alg => exact chooseEphemeralKey_kem selected
  | none => exact chooseEphemeralKey_dh selected

theorem requestWithKey_outcome {s : PkinitClientState} {input : RequestInput}
    {pkAuth : PkAuthenticator}
    (authenticated : buildPkAuthenticator platform s.freshnessToken input.nonce input.ctime
      input.cusec input.reqBodyDer = .ok pkAuth)
    (permitted : s.config.kemAlgorithm = none → s.config.requireKem = false) :
    Ends (requestWithKey platform instant s pkAuth) s
      (BuildOutcome platform instant s input) := by
  unfold requestWithKey
  refine Ends.bind ((chooseEphemeralKey_outcome s).mono ?_)
  intro s' r choice
  cases choice with
  | kemFailed selected key => exact .kemUnfinished selected key
  | dhFailed selected key => exact .dhUnfinished selected (permitted selected) key
  | @kem alg key spkiDer selected generated exported =>
      have unfinished : ∀ e : PkinitError, BuildOutcome platform instant s input
          { s with keyExchange := some (.kem alg), kemKey := some key } (.error e) := fun e =>
        .kemUnfinished selected (.inr ⟨key, rfl, generated⟩)
      refine Ends.bind_lift (fun e _ => unfinished e) ?_
      intro element decoded
      simp only [mapError_eq_ok] at decoded
      simp only [selected, Option.isSome_some, drawDhNonce, if_true]
      refine Ends.bind (Ends.of_pure (Ends.of_lift ?_))
      cases encoded : encodeRequest platform instant s pkAuth element none true with
      | error e => exact unfinished e
      | ok request =>
          exact .kem selected generated exported ⟨pkAuth, element, authenticated, decoded, encoded⟩
  | @dh key spkiDer selected held exported =>
      have unfinished : ∀ (dhNonce : Option Bytes) (e : PkinitError),
          BuildOutcome platform instant s input
            { s with
              keyExchange := some (.dh s.config.dhGroup)
              dhKey := some key
              dhNonce := dhNonce } (.error e) := by
        intro dhNonce e
        refine .dhUnfinished selected (permitted selected) ?_
        rcases held with same | ⟨empty, fresh⟩
        · exact .inl same.symm
        · exact .inr ⟨empty, key, rfl, fresh⟩
      refine Ends.bind_lift (fun e _ => unfinished s.dhNonce e) ?_
      intro element decoded
      simp only [mapError_eq_ok] at decoded
      simp only [selected, Option.isSome_none, drawDhNonce, Bool.false_eq_true, if_false]
      refine Ends.bind (Ends.bind_lift (fun e _ => unfinished s.dhNonce e) ?_)
      intro dhNonce drawn
      refine Ends.bind_modify (Ends.of_pure (Ends.of_lift ?_))
      cases encoded : encodeRequest platform instant s pkAuth element (some dhNonce) false with
      | error e => exact unfinished (some dhNonce) e
      | ok request =>
          exact .dh selected (permitted selected) held exported
            ⟨pkAuth, element, authenticated, decoded, encoded⟩

/-- **Every outcome of building a request.** -/
theorem buildAsReq_outcome (platform : Platform) (instant : Instant) (s : PkinitClientState)
    (input : RequestInput) :
    Ends (buildAsReq platform instant input.nonce input.ctime input.cusec input.reqBodyDer) s
      (BuildOutcome platform instant s input) := by
  unfold buildAsReq
  refine Ends.bind_get (Ends.bind_lift (fun e _ => .refused) ?_)
  intro pkAuth authenticated
  refine Ends.bind_lift (fun e _ => .refused) ?_
  intro _ allowed
  simp only [rejectIf_eq_ok, not_and] at allowed
  refine requestWithKey_outcome authenticated ?_
  intro unselected
  by_contra required
  exact allowed (by simpa using required) unselected

/-! ## Replies -/

variable {o2k : OctetString2Key} {paRepDer : Bytes} {params : AsRepParams} {key : DerivedKey}

/-- An accepted DH reply: the envelope it was read from and the key pair it
answers. -/
structure AcceptsDhRep (platform : Platform) (o2k : OctetString2Key) (instant : Instant)
    (s : PkinitClientState) (dhRepInfo : DhRepInfo) (params : AsRepParams)
    (verified : VerifiedSignedData) (dhKey : DhKeyPair) (key : DerivedKey) : Prop where
  signature : verifySignedData platform dhRepInfo.dhSignedData = .ok verified
  contentType : verified.contentType = ID_PKINIT_DHKEY_DATA
  chain : s.validateKdcChain platform instant verified.signerCertDer verified.allCertsDer = .ok ()
  held : s.dhKey = some dhKey
  agreed : ∃ kdcDhKeyInfo kdcSpkiDer sharedSecret,
    platform.synta.kdcDhKeyInfo.fromDer verified.content = .ok kdcDhKeyInfo ∧
    decodeNonce platform.synta kdcDhKeyInfo.nonce = .ok params.nonce ∧
    rebuildSpki platform dhKey.group kdcDhKeyInfo.subjectPublicKey.bytes = .ok kdcSpkiDer ∧
    dhKey.deriveSharedSecret platform kdcSpkiDer = .ok sharedSecret ∧
    s.deriveDhKey platform o2k params dhRepInfo sharedSecret = .ok key

theorem processDhRep_eq_ok {s : PkinitClientState} {dhRepInfo : DhRepInfo} :
    s.processDhRep platform o2k instant dhRepInfo params = .ok key ↔
      ∃ verified dhKey,
        AcceptsDhRep platform o2k instant s dhRepInfo params verified dhKey key := by
  simp only [processDhRep, bind_eq_ok, mapError_eq_ok, rejectIf_eq_ok, okOr_eq_ok, not_not]
  constructor
  · rintro ⟨verified, signature, _, contentType, _, chain, info, decoded, _, nonce, _, rfl, dhKey,
      held, spki, rebuilt, secret, shared, derived⟩
    exact ⟨verified, dhKey, signature, contentType, chain, held,
      ⟨info, spki, secret, decoded, nonce, rebuilt, shared, derived⟩⟩
  · rintro ⟨verified, dhKey, signature, contentType, chain, held,
      ⟨info, spki, secret, decoded, nonce, rebuilt, shared, derived⟩⟩
    exact ⟨verified, signature, (), contentType, (), chain, info, decoded, _, nonce, (), rfl, dhKey,
      held, spki, rebuilt, secret, shared, derived⟩

/-- What `checkKdcKemInfo` demands. -/
structure FitsKemKey (platform : Platform) (kemAlg : KemAlgorithm) (nonce : Int32)
    (info : KdcKemInfo) : Prop where
  serverNonce : info.serverNonce = none
  nonce : ∃ replyNonce, info.nonce = some replyNonce ∧
    decodeNonce platform.synta replyNonce = .ok nonce
  algorithm : info.kemAlgorithm.algorithm = kemAlg.oid
  algorithmParameters : info.kemAlgorithm.parameters = none
  kdf : info.kdfAlgorithm.algorithm = ID_ALG_HKDF_WITH_SHA512
  kdfParameters : info.kdfAlgorithm.parameters = none
  ciphertext : info.kemct.length = kemAlg.ciphertextLen

theorem checkKdcKemInfo_eq_ok {kemAlg : KemAlgorithm} {nonce : Int32} {info : KdcKemInfo} :
    checkKdcKemInfo platform kemAlg nonce info = .ok () ↔
      FitsKemKey platform kemAlg nonce info := by
  simp only [checkKdcKemInfo, bind_eq_ok, rejectIf_eq_ok, okOr_eq_ok, not_not, not_or,
    Bool.not_eq_true, Option.isSome_eq_false_iff, Option.isNone_iff_eq_none]
  constructor
  · rintro ⟨_, serverNonce, replyNonce, present, _, decoded, _, rfl, _, algorithm, _, absent, _,
      ⟨kdf, kdfAbsent⟩, ciphertext⟩
    exact ⟨serverNonce, ⟨replyNonce, present, decoded⟩, algorithm, absent, kdf, kdfAbsent,
      ciphertext⟩
  · rintro ⟨serverNonce, ⟨replyNonce, present, decoded⟩, algorithm, absent, kdf, kdfAbsent,
      ciphertext⟩
    exact ⟨(), serverNonce, replyNonce, present, nonce, decoded, (), rfl, (), algorithm, (),
      absent, (), ⟨kdf, kdfAbsent⟩, ciphertext⟩

/-- An accepted KEM reply: the envelope it was read from, and what was signed
about the ciphertext. -/
structure AcceptsKemRep (platform : Platform) (o2k : OctetString2Key) (instant : Instant)
    (s : PkinitClientState) (kemKey : KemKeyPair) (paRepDer : Bytes) (params : AsRepParams)
    (verified : VerifiedSignedData) (info : KdcKemInfo) (key : DerivedKey) : Prop where
  contentType : verified.contentType = ID_PKINIT_KEM_KEY_DATA
  postQuantum : s.hasPqCertificate platform = true →
    isPqSignatureAlgorithm platform verified.signerAlgorithmOid = true
  chain : s.validateKdcChain platform instant verified.signerCertDer verified.allCertsDer = .ok ()
  decoded : platform.synta.kdcKemInfo.fromDer verified.content = .ok info
  fits : FitsKemKey platform kemKey.algorithm params.nonce info
  opened : ∃ kemRepContent kemRepInfo sharedSecret,
    decodeKemRepContent platform.usizeBits paRepDer = .ok kemRepContent ∧
    platform.synta.kemRepInfo.fromDer kemRepContent = .ok kemRepInfo ∧
    verifySignedData platform kemRepInfo.kemSignedData = .ok verified ∧
    kemKey.decapsulate platform info.kemct = .ok sharedSecret ∧
    pkinitKemKdf platform o2k {
      sharedSecret := sharedSecret
      enctype := params.enctype
      asReqDer := params.asReqDer
      kemSignedData := kemRepInfo.kemSignedData } = .ok key

theorem openKemRep_eq_ok {s : PkinitClientState} {kemKey : KemKeyPair} :
    openKemRep platform o2k instant s kemKey paRepDer params = .ok key ↔
      ∃ verified info,
        AcceptsKemRep platform o2k instant s kemKey paRepDer params verified info key := by
  simp only [openKemRep, bind_eq_ok, mapError_eq_ok, rejectIf_eq_ok, not_not, not_and,
    Bool.not_eq_false]
  constructor
  · rintro ⟨content, unwrapped, rep, parsed, verified, signature, _, contentType, _, postQuantum,
      _, chain, info, decoded, _, checked, secret, shared, derived⟩
    exact ⟨verified, info, contentType, postQuantum, chain, decoded,
      checkKdcKemInfo_eq_ok.mp checked,
      ⟨content, rep, secret, unwrapped, parsed, signature, shared, derived⟩⟩
  · rintro ⟨verified, info, contentType, postQuantum, chain, decoded, fits,
      ⟨content, rep, secret, unwrapped, parsed, signature, shared, derived⟩⟩
    exact ⟨content, unwrapped, rep, parsed, verified, signature, (), contentType, (), postQuantum,
      (), chain, info, decoded, (), checkKdcKemInfo_eq_ok.mpr fits, secret, shared, derived⟩

theorem call_processAsRep_kemInfo {s : PkinitClientState} {kemKey : KemKeyPair}
    (tag : isKemRep paRepDer = true) (held : s.kemKey = some kemKey) :
    call (processAsRep platform o2k instant paRepDer params) s =
      ({ s with kemKey := none },
        openKemRep platform o2k instant { s with kemKey := none } kemKey paRepDer params) := by
  rw [processAsRep, if_pos tag, processKemRep, call_get_bind, call_set_bind, held, okOr_some,
    call_lift_bind_ok _ rfl, call_lift]

theorem call_processAsRep_dhInfo {s : PkinitClientState} {dhRepInfo : DhRepInfo}
    (tag : isKemRep paRepDer = false)
    (parsed : platform.synta.paPkAsRep.fromDer paRepDer = .ok (.dhInfo dhRepInfo)) :
    call (processAsRep platform o2k instant paRepDer params) s =
      (s, s.processDhRep platform o2k instant dhRepInfo params) := by
  rw [processAsRep, if_neg (by simp [tag]), call_get_bind, parsed, mapError_ok,
    call_lift_bind_ok _ rfl, call_lift]

/-- What `processAsRep` leaves and returns. -/
inductive ReplyOutcome (platform : Platform) (o2k : OctetString2Key) (instant : Instant)
    (s : PkinitClientState) (paRepDer : Bytes) (params : AsRepParams) :
    PkinitClientState → Except PkinitError DerivedKey → Prop
  | kemRefused {e : PkinitError} (tag : isKemRep paRepDer = true) :
      ReplyOutcome platform o2k instant s paRepDer params { s with kemKey := none } (.error e)
  | kem {kemKey : KemKeyPair} {key : DerivedKey} (tag : isKemRep paRepDer = true)
      (held : s.kemKey = some kemKey)
      (opened : openKemRep platform o2k instant { s with kemKey := none } kemKey paRepDer params =
        .ok key) :
      ReplyOutcome platform o2k instant s paRepDer params { s with kemKey := none } (.ok key)
  | dhRefused {e : PkinitError} (tag : isKemRep paRepDer = false) :
      ReplyOutcome platform o2k instant s paRepDer params s (.error e)
  | dh {dhRepInfo : DhRepInfo} {key : DerivedKey} (tag : isKemRep paRepDer = false)
      (parsed : platform.synta.paPkAsRep.fromDer paRepDer = .ok (.dhInfo dhRepInfo))
      (processed : s.processDhRep platform o2k instant dhRepInfo params = .ok key) :
      ReplyOutcome platform o2k instant s paRepDer params s (.ok key)

/-- **Every outcome of processing a reply.** -/
theorem processAsRep_outcome (platform : Platform) (o2k : OctetString2Key) (instant : Instant)
    (s : PkinitClientState) (paRepDer : Bytes) (params : AsRepParams) :
    Ends (processAsRep platform o2k instant paRepDer params) s
      (ReplyOutcome platform o2k instant s paRepDer params) := by
  unfold Ends
  cases tag : isKemRep paRepDer with
  | true =>
      cases held : s.kemKey with
      | none =>
          rw [processAsRep, if_pos tag, processKemRep, call_get_bind, call_set_bind, held,
            okOr_none, call_lift_bind_error _ rfl]
          exact .kemRefused tag
      | some kemKey =>
          rw [call_processAsRep_kemInfo tag held]
          cases opened : openKemRep platform o2k instant { s with kemKey := none } kemKey paRepDer
              params with
          | error e => exact .kemRefused tag
          | ok key => exact .kem tag held opened
  | false =>
      cases parsed : platform.synta.paPkAsRep.fromDer paRepDer with
      | error e =>
          rw [processAsRep, if_neg (by simp [tag]), call_get_bind, parsed, mapError_error,
            call_lift_bind_error _ rfl]
          exact .dhRefused tag
      | ok paRep =>
          cases paRep with
          | encKeyPack contents =>
              rw [processAsRep, if_neg (by simp [tag]), call_get_bind, parsed, mapError_ok,
                call_lift_bind_ok _ rfl]
              exact .dhRefused tag
          | dhInfo dhRepInfo =>
              rw [call_processAsRep_dhInfo tag parsed]
              cases processed : s.processDhRep platform o2k instant dhRepInfo params with
              | error e => exact .dhRefused tag
              | ok key => exact .dh tag parsed processed

end PkinitClientState

end Kurbu5Pkinit

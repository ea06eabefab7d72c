import Kurbu5Pkinit.Client.KdcAuthentication
import Kurbu5Pkinit.Plugin.Freshness

/-!
# Whom a key of the client plugin comes from

A module object lives through many calls: it is set up for one party and then
for another, a password arrives late, replies come twice. What its state trusts
by was fixed when that state was built (`SetUp`), and no call changes it after
(`TrustsBy.of_steps`). So every key libkrb5 is given answers that call's own
nonce, and comes from a KDC that the anchors of the set-up in force validate or
that its broker approved (`keys_vouched_for`).
-/

set_option autoImplicit false

namespace Kurbu5Pkinit

open Library PkinitClient

variable {platform : Platform} {varlink : Varlink} {client client' : PkinitClient}

/-! ## Set-ups -/

/-- What a state trusts its KDC by. -/
structure SetUp where
  instant : Instant
  trustStore : TrustStore
  config : PkinitClientConfig
  serverPrincipal : Option String
  isAnonymous : Bool

/-- The broker, where the configuration asks for trust on first use. -/
def SetUp.broker (varlink : Varlink) (setUp : SetUp) : Option KdcCaTrustBroker :=
  if setUp.config.kdcTrustTofu then
    some (varlinkTrustBroker varlink
      (setUp.config.kdcTrustBroker.getD (varlink.defaultSocketPath setUp.instant))
      setUp.config.kdcTrustTimeout)
  else
    none

/-- The name of the KDC, where libkrb5 gives one that it can write out. -/
def EtypeInfoRequest.serverPrincipal (platform : Platform) (req : EtypeInfoRequest) :
    Option String :=
  match req.server with
  | some server => (platform.krb5.unparsePrincipal server).toOption
  | none => none

/-- The anchors of the configuration that the call reads are these. -/
def LoadsAnchors (platform : Platform) (client : PkinitClient) (req : EtypeInfoRequest)
    (trustStore : TrustStore) : Prop :=
  loadAnchors platform req.instant (configRead req client).anchors = .ok trustStore

/-- The call sets a state up: `init_etype_info` at once, `process` where an
earlier one left an identity that waited for its password. -/
inductive SetsUp (platform : Platform) (older : List PluginEvent) (e : PluginEvent) : SetUp → Prop
  | init {req : EtypeInfoRequest} {trustStore : TrustStore} (input : e.input = .initEtypeInfo req)
      (anchored : LoadsAnchors platform e.before req trustStore) :
      SetsUp platform older e ⟨req.instant, trustStore, configRead req e.before,
        req.serverPrincipal platform, req.isAnonymous⟩
  | password {req : ProcessRequest} {e' : PluginEvent} {req' : EtypeInfoRequest}
      {trustStore : TrustStore} (input : e.input = .process req) (earlier : e' ∈ older)
      (input' : e'.input = .initEtypeInfo req') (named : req'.isAnonymous = false)
      (anchored : LoadsAnchors platform e'.before req' trustStore) :
      SetsUp platform older e ⟨req.instant, trustStore, e.before.config,
        req'.serverPrincipal platform, false⟩

/-- The set-up of the latest call that built a state. -/
inductive InForce (platform : Platform) (varlink : Varlink) : List PluginEvent → SetUp → Prop
  | built {older : List PluginEvent} {e : PluginEvent} {setUp : SetUp}
      (builds : e.buildsState platform varlink = true) (setsUp : SetsUp platform older e setUp) :
      InForce platform varlink (e :: older) setUp
  | kept {older : List PluginEvent} {e : PluginEvent} {setUp : SetUp}
      (quiet : e.buildsState platform varlink = false)
      (before : InForce platform varlink older setUp) : InForce platform varlink (e :: older) setUp

/-- The state trusts by this set-up. -/
structure TrustsBy (varlink : Varlink) (setUp : SetUp) (s : PkinitClientState) : Prop where
  trustStore : s.trustStore = setUp.trustStore
  kdcPrincipal : s.kdcPrincipal = setUp.serverPrincipal
  kdcHostname : s.kdcHostname = none
  broker : s.broker = setUp.broker varlink
  isAnonymous : s.isAnonymous = setUp.isAnonymous

theorem trustsBy_buildClient (setUp : SetUp) (identity : PkinitIdentity) :
    TrustsBy varlink setUp (buildClient varlink setUp.instant identity setUp.trustStore
      setUp.config setUp.serverPrincipal setUp.isAnonymous) := by
  obtain ⟨instant, trustStore, config, serverPrincipal, isAnonymous⟩ := setUp
  unfold buildClient
  cases tofu : config.kdcTrustTofu with
  | false =>
      cases serverPrincipal <;> exact ⟨rfl, rfl, rfl, by simp [SetUp.broker, tofu]; rfl, rfl⟩
  | true =>
      cases serverPrincipal <;> exact ⟨rfl, rfl, rfl, by simp [SetUp.broker, tofu]; rfl, rfl⟩

namespace TrustsBy

variable {setUp : SetUp} {s s' : PkinitClientState}

/-- Nothing the core does changes what a state trusts by. -/
theorem of_steps (trusts : TrustsBy varlink setUp s) (steps : CoreSteps platform s s') :
    TrustsBy varlink setUp s' := by
  induction steps with
  | refl s => exact trusts
  | trans _ _ first second => exact second (first trusts)
  | selection outcome =>
      cases outcome with
      | unchanged => exact trusts
      | @applied offered _ =>
          cases offered <;> exact ⟨trusts.trustStore, trusts.kdcPrincipal, trusts.kdcHostname,
            trusts.broker, trusts.isAnonymous⟩
  | build outcome =>
      cases outcome <;> exact ⟨trusts.trustStore, trusts.kdcPrincipal, trusts.kdcHostname,
        trusts.broker, trusts.isAnonymous⟩
  | reply outcome =>
      cases outcome <;> exact ⟨trusts.trustStore, trusts.kdcPrincipal, trusts.kdcHostname,
        trusts.broker, trusts.isAnonymous⟩

end TrustsBy

/-- An identity waits under what an earlier call loaded for it. -/
def WaitsUnder (platform : Platform) (history : List PluginEvent) (pending : PendingPkcs12) :
    Prop :=
  ∃ e ∈ history, ∃ req, e.input = .initEtypeInfo req ∧ req.isAnonymous = false ∧
    LoadsAnchors platform e.before req pending.trustStore ∧
    pending.serverPrincipal = req.serverPrincipal platform

/-- The held state trusts by the set-up in force. -/
structure TrustHeld (platform : Platform) (varlink : Varlink) (history : List PluginEvent)
    (client : PkinitClient) : Prop where
  state : ∀ s, client.state = some s →
    ∃ setUp, InForce platform varlink history setUp ∧ TrustsBy varlink setUp s
  pending : ∀ pending, client.pendingPkcs12 = some pending →
    WaitsUnder platform history pending

/-! ## What a call leaves in force -/

section Calls

variable {history : List PluginEvent}

/-- What `init_etype_info` leaves to trust by, where no key is held. -/
inductive InitTrust (platform : Platform) (varlink : Varlink) (req : EtypeInfoRequest)
    (client client' : PkinitClient) : Except Krb5Error Unit → Prop
  | untouched {r : Except Krb5Error Unit} (state : client'.state = client.state)
      (pending : client'.pendingPkcs12 = client.pendingPkcs12)
      (quiet : r = .ok () → req.isAnonymous = false ∧ client'.config.identity = none) :
      InitTrust platform varlink req client client' r
  | built {identity : PkinitIdentity} {trustStore : TrustStore}
      (anchored : LoadsAnchors platform client req trustStore)
      (state : client'.state = some (buildClient varlink req.instant identity trustStore
        (configRead req client) (req.serverPrincipal platform) req.isAnonymous))
      (party : req.isAnonymous = true ∧ client'.pendingPkcs12 = client.pendingPkcs12 ∨
        client'.config.identity.isSome = true ∧ client'.pendingPkcs12 = none) :
      InitTrust platform varlink req client client' (.ok ())
  | waits {path : String} {trustStore : TrustStore} (named : req.isAnonymous = false)
      (anchored : LoadsAnchors platform client req trustStore)
      (state : client'.state = client.state)
      (pending : client'.pendingPkcs12 =
        some ⟨path, trustStore, req.serverPrincipal platform⟩) :
      InitTrust platform varlink req client client' (.ok ())

theorem InitTrust.of_error {req : EtypeInfoRequest} {config : PkinitClientConfig} {e : Krb5Error} :
    InitTrust platform varlink req client { client with config := config } (.error e) :=
  .untouched rfl rfl fun ended => by cases ended

theorem loadIdentity_trust {req : EtypeInfoRequest} {identityStr : String}
    {trustStore : TrustStore} (named : req.isAnonymous = false)
    (configured : (configRead req client).identity = some identityStr)
    (anchored : LoadsAnchors platform client req trustStore) :
    Ends (loadIdentity platform varlink req identityStr trustStore (req.serverPrincipal platform))
      { client with config := configRead req client }
      (InitTrust platform varlink req client) := by
  unfold loadIdentity
  refine Ends.bind_lift (fun _ _ => .of_error) fun source _ => ?_
  split
  · next identity _ =>
      exact .built anchored (by rw [named]; rfl)
        (.inr ⟨Option.isSome_of_eq_some configured, rfl⟩)
  · split
    · exact Ends.bind_lift (fun _ _ => .of_error) fun _ _ => .waits named anchored rfl rfl
    · exact Ends.of_throw .of_error
  · exact Ends.of_throw .of_error

theorem initParty_trust (req : EtypeInfoRequest)
    (configured : req.isAnonymous = false → (configRead req client).identity ≠ none) :
    Ends (initParty platform varlink req (configRead req client))
      { client with config := configRead req client }
      (InitTrust platform varlink req client) := by
  unfold initParty
  refine Ends.bind_lift (fun _ _ => .of_error) fun trustStore anchored => ?_
  rw [mapError_eq_ok] at anchored
  dsimp only
  split
  · next isAnonymous => exact .built anchored (by rw [isAnonymous]; rfl) (.inl ⟨isAnonymous, rfl⟩)
  · next named =>
      have named : req.isAnonymous = false := by simpa using named
      split
      · next identityStr present => exact loadIdentity_trust named present anchored
      · next absent => exact absurd absent (configured named)

/-- **What a call that sets a party up leaves is what it loaded.** -/
theorem initEtypeInfo_trust (req : EtypeInfoRequest) (free : client.holdsKeys = false) :
    Ends (initEtypeInfo platform varlink req) client (InitTrust platform varlink req client) := by
  unfold initEtypeInfo
  refine Ends.bind_get ?_
  rw [if_neg (by simp [free])]
  refine Ends.bind_lift (fun _ _ => .of_error) ?_
  intro profile available
  have read : configRead req client =
      (call (readClientConfig profile req.realm) client.config).1 := by
    simp [configRead, available]
  unfold readConfig
  refine Ends.bind (Ends.bind_get (Ends.bind_set (Ends.of_lift ?_)))
  rw [← read]
  cases ((call (readClientConfig profile req.realm) client.config).2.mapError
      fun _ => Krb5Error.custom EINVAL) with
  | error e => exact .of_error
  | ok _ =>
      refine Ends.bind_get ?_
      split
      · next unconfigured =>
          simp only [Bool.and_eq_true, Bool.not_eq_true', Option.isNone_iff_eq_none]
            at unconfigured
          exact Ends.of_pure (.untouched rfl rfl fun _ => unconfigured)
      · next configured =>
          refine initParty_trust req fun named absent => configured ?_
          simp [named, absent]

/-- A quiet call leaves the set-up in force. -/
theorem TrustHeld.of_quiet {e : PluginEvent} (held : TrustHeld platform varlink history client)
    (quiet : e.buildsState platform varlink = false)
    (state : ∀ s', client'.state = some s' →
      ∃ s, client.state = some s ∧ ∀ setUp, TrustsBy varlink setUp s → TrustsBy varlink setUp s')
    (pending : ∀ waits, client'.pendingPkcs12 = some waits → client.pendingPkcs12 = some waits) :
    TrustHeld platform varlink (e :: history) client' where
  state := by
    intro s' present'
    obtain ⟨s, present, alike⟩ := state s' present'
    obtain ⟨setUp, inForce, trusts⟩ := held.state s present
    exact ⟨setUp, .kept quiet inForce, alike setUp trusts⟩
  pending := by
    intro waits present
    obtain ⟨e', member, rest⟩ := held.pending waits (pending waits present)
    exact ⟨e', List.mem_cons_of_mem _ member, rest⟩

/-- A call that works on a state keeps what it trusts by. -/
theorem StepsTo.trusts {s' : PkinitClientState} (steps : StepsTo platform client client')
    (present' : client'.state = some s') :
    ∃ s, client.state = some s ∧
      ∀ setUp, TrustsBy varlink setUp s → TrustsBy varlink setUp s' := by
  obtain ⟨s, present, worked⟩ := steps.state s' present'
  exact ⟨s, present, fun _ trusts => trusts.of_steps worked⟩

theorem TrustHeld.of_init {req : EtypeInfoRequest} {r : Except Krb5Error Unit}
    (held : TrustHeld platform varlink history client) (free : client.holdsKeys = false)
    (outcome : InitTrust platform varlink req client client' r) :
    TrustHeld platform varlink (⟨client, .initEtypeInfo req, .done r, client'⟩ :: history)
      client' := by
  cases outcome with
  | untouched state pending quiet =>
      refine held.of_quiet ?_ (fun s' present => ⟨s', state ▸ present, fun _ trusts => trusts⟩)
        (fun waits present => pending ▸ present)
      cases r with
      | error e => simp [PluginEvent.buildsState]
      | ok done =>
          obtain ⟨named, absent⟩ := quiet rfl
          simp [PluginEvent.buildsState, named, absent]
  | waits named anchored state pending =>
      have quiet : PluginEvent.buildsState platform varlink
          ⟨client, .initEtypeInfo req, .done (.ok ()), client'⟩ = false := by
        simp [PluginEvent.buildsState, named, pending]
      constructor
      · intro s present
        obtain ⟨setUp, inForce, trusts⟩ := held.state s (state ▸ present)
        exact ⟨setUp, .kept quiet inForce, trusts⟩
      · intro waits present
        obtain rfl := Option.some.inj (pending.symm.trans present)
        exact ⟨_, List.mem_cons_self, req, rfl, named, anchored, rfl⟩
  | @built identity trustStore anchored state party =>
      have builds : PluginEvent.buildsState platform varlink
          ⟨client, .initEtypeInfo req, .done (.ok ()), client'⟩ = true := by
        rcases party with ⟨isAnonymous, _⟩ | ⟨configured, none⟩
        · simp [PluginEvent.buildsState, free, isAnonymous]
        · simp [PluginEvent.buildsState, free, configured, none]
      constructor
      · intro s present
        obtain rfl := Option.some.inj (state.symm.trans present)
        exact ⟨_, .built builds (.init rfl anchored), trustsBy_buildClient
          ⟨req.instant, trustStore, configRead req client, req.serverPrincipal platform,
            req.isAnonymous⟩ identity⟩
      · intro waits present
        rcases party with ⟨_, same⟩ | ⟨_, none⟩
        · obtain ⟨e, member, rest⟩ := held.pending waits (same ▸ present)
          exact ⟨e, List.mem_cons_of_mem _ member, rest⟩
        · cases none.symm.trans present

/-- What settling a pending identity leaves is trusted by a set-up of this call. -/
theorem TrustHeld.of_finish {req : ProcessRequest} {e : PluginEvent} {settled : PkinitClient}
    {r : Except Krb5Error Unit} (held : TrustHeld platform varlink history client)
    (before : e.before = client) (input : e.input = .process req)
    (settles : call (finishPendingPkcs12 platform varlink req) client = (settled, r)) :
    TrustHeld platform varlink (e :: history) settled := by
  have outcome := finishPendingPkcs12_outcome platform varlink req client
  have builds : e.buildsState platform varlink =
      (client.pendingPkcs12.isSome && decide (r = .ok ())) := by
    unfold PluginEvent.buildsState
    simp only [input, before, settles]
  rw [Ends, settles] at outcome
  cases outcome with
  | idle nothing =>
      exact held.of_quiet (by rw [builds, nothing]; rfl)
        (fun s present => ⟨s, present, fun _ trusts => trusts⟩) fun _ waits => waits
  | failed =>
      refine held.of_quiet (by simp [builds])
        (fun s present => ⟨s, present, fun _ trusts => trusts⟩) ?_
      rintro _ ⟨⟩
  | @finished pending password identity waited loaded =>
      obtain ⟨e', earlier, req', input', named, anchored, server⟩ := held.pending pending waited
      constructor
      · rintro _ ⟨⟩
        refine ⟨_, .built (by simp [builds, waited])
          (.password input earlier input' named anchored), ?_⟩
        rw [server, before]
        exact trustsBy_buildClient ⟨req.instant, pending.trustStore, client.config,
          req'.serverPrincipal platform, false⟩ identity
      · rintro _ ⟨⟩

/-- The key that an answer hands to libkrb5. -/
def PluginAnswer.asKey : PluginAnswer → Option DerivedKey
  | .reply (.ok answer) => answer.asKey
  | _ => none

/-- The held state read this key from the reply. -/
def ReadsKey (platform : Platform) (req : ProcessRequest) (client : PkinitClient)
    (key : DerivedKey) : Prop :=
  ∃ s params, client.state = some s ∧ params.nonce = req.nonce ∧
    (call (PkinitClientState.processAsRep platform (krb5OctetString2Key platform) req.instant
      req.paData.contents params) s).2 = .ok key

/-- Each key of the answer was read by the held state. -/
def KeysAreRead (platform : Platform) (req : ProcessRequest) (client : PkinitClient)
    (r : Except Krb5Error ProcessReply) : Prop :=
  ∀ key, (PluginAnswer.reply r).asKey = some key → ReadsKey platform req client key

theorem keysAreRead_error {req : ProcessRequest} {e : Krb5Error} :
    KeysAreRead platform req client (.error e) := by
  rintro key ⟨⟩

theorem buildPaPkAsReq_keyless (req : ProcessRequest) (client : PkinitClient) :
    Ends (buildPaPkAsReq platform req) client fun _ r => (PluginAnswer.reply r).asKey = none := by
  unfold buildPaPkAsReq
  refine Ends.bind_lift (fun _ _ => rfl) ?_
  rintro ⟨ctime, cusec⟩ _
  refine Ends.bind_lift (fun _ _ => rfl) fun reqBodyDer _ => ?_
  have built : Ends (withState (PkinitClientState.buildAsReq platform req.instant req.nonce ctime
    cusec reqBodyDer)) client fun _ _ => True := trivial
  refine Ends.bind (built.mono fun _ r _ => ?_)
  cases r with
  | error e => rfl
  | ok built => exact Ends.bind_lift (fun _ _ => rfl) fun _ _ => Ends.of_pure rfl

theorem processReply_key (req : ProcessRequest) (client : PkinitClient) :
    Ends (processReply platform req) client fun _ r => KeysAreRead platform req client r := by
  unfold processReply
  refine Ends.bind_lift (fun _ _ => keysAreRead_error) fun _ _ => ?_
  refine Ends.bind_lift (fun _ _ => keysAreRead_error) fun _ _ => ?_
  refine Ends.bind_lift (fun _ _ => keysAreRead_error) fun _ _ => ?_
  refine Ends.bind ((withState_outcome _ client fun s => .reply
    (PkinitClientState.processAsRep_outcome platform (krb5OctetString2Key platform) req.instant s
      req.paData.contents _)).mono ?_)
  rintro client' r ⟨_, results⟩
  cases r with
  | error e => exact keysAreRead_error
  | ok derived =>
      obtain ⟨s, held, rfl⟩ := results derived rfl
      refine Ends.bind_lift (fun _ _ => keysAreRead_error) fun key read => ?_
      refine Ends.bind_lift (fun _ _ => keysAreRead_error) fun _ _ => ?_
      refine Ends.of_pure ?_
      rintro _ ⟨⟩
      exact ⟨s, _, held, rfl, mapError_eq_ok.mp read⟩

theorem dispatch_key (req : ProcessRequest) (client : PkinitClient) :
    Ends (dispatch platform req) client fun _ r => KeysAreRead platform req client r := by
  unfold dispatch
  refine Ends.bind_get ?_
  split
  · refine Ends.of_pure ?_
    rintro key ⟨⟩
  split
  · refine Ends.bind_set (Ends.of_pure ?_)
    rintro key ⟨⟩
  split
  · refine Ends.bind_lift (fun _ _ => keysAreRead_error) fun _ _ => ?_
    refine Ends.bind ((heedHint_outcome platform req.paData.contents client).mono ?_)
    intro client' r _
    cases r with
    | error e => exact keysAreRead_error
    | ok _ =>
        refine (buildPaPkAsReq_keyless req client').mono ?_
        intro _ r keyless key present
        cases keyless.symm.trans present
  split
  · exact Ends.bind_lift (fun _ _ => keysAreRead_error) fun _ _ => processReply_key req client
  · exact Ends.of_throw keysAreRead_error

theorem tryagain_keyless (req : ProcessRequest) (typedData : List (Int × Bytes))
    (client : PkinitClient) :
    Ends (tryagain platform req typedData) client fun _ r =>
      (PluginAnswer.reply r).asKey = none := by
  unfold tryagain
  have selects : Ends (withState (PkinitClientState.handleTryagainTypedData platform typedData))
    client fun _ _ => True := trivial
  refine Ends.bind (selects.mono fun client' r _ => ?_)
  cases r with
  | error e => rfl
  | ok action =>
      dsimp only
      split
      · exact buildPaPkAsReq_keyless req client'
      · exact buildPaPkAsReq_keyless req client'
      · exact Ends.of_throw rfl
      · exact Ends.of_throw rfl

end Calls

/-! ## Vouched for -/

/-- Why the chain of a signer is trusted: the anchors of the set-up validate
it, or its broker was asked about the realm of its KDC and approved anchors
that do. -/
inductive ChainVouched (platform : Platform) (varlink : Varlink) (instant : Instant)
    (setUp : SetUp) (v : VerifiedSignedData) : Prop
  | anchors (validated : setUp.trustStore.validateChain platform instant v.signerCertDer
      v.allCertsDer false = .ok ())
  | broker {broker : KdcCaTrustBroker} {name realm : String} {anchors : List Bytes}
      {leaf : VerificationCertificate} {intermediates : List VerificationCertificate}
      (installed : setUp.broker varlink = some broker)
      (named : setUp.serverPrincipal = some name) (inRealm : (split '@' name)[1]? = some realm)
      (answered : broker instant ⟨realm, name, v.signerCertDer, v.allCertsDer,
        setUp.isAnonymous⟩ = .ok (.trusted anchors))
      (leafDecoded : anchorVc platform "KDC signer certificate" v.signerCertDer = .ok leaf)
      (presented : v.allCertsDer.mapM (anchorVc platform "presented certificate") =
        .ok intermediates)
      (validated : platform.x509.verify leaf intermediates
        (PolicyDefinition.newClient instant.now .defaultWebPkiCa) anchors { crls := none } =
        .ok ())

/-- The signer is the KDC of the set-up. -/
structure Vouched (platform : Platform) (varlink : Varlink) (instant : Instant) (setUp : SetUp)
    (v : VerifiedSignedData) : Prop where
  chain : ChainVouched platform varlink instant setUp v
  eku : verifyKdcEku platform v.signerCertDer = .ok ()
  san : ∀ name, setUp.serverPrincipal = some name →
    verifyKdcSan platform v.signerCertDer name none = .ok ()

/-- The signer signed this envelope. -/
def SignedEnvelope (platform : Platform) (envelope : Bytes) (v : VerifiedSignedData) : Prop :=
  ∃ signedData signerInfo, unwrapSignedData platform envelope = .ok signedData ∧
    SignatureBinding platform signedData signerInfo v

/-- What was signed is the reply to the request with this nonce, on either
path. -/
inductive AnswersNonce (platform : Platform) (paRepDer : Bytes) (nonce : Int32)
    (v : VerifiedSignedData) : Prop
  | dh {dhRepInfo : DhRepInfo} {info : KdcDhKeyInfo} (tag : isKemRep paRepDer = false)
      (parsed : platform.synta.paPkAsRep.fromDer paRepDer = .ok (.dhInfo dhRepInfo))
      (signed : SignedEnvelope platform dhRepInfo.dhSignedData v)
      (contentType : v.contentType = ID_PKINIT_DHKEY_DATA)
      (decoded : platform.synta.kdcDhKeyInfo.fromDer v.content = .ok info)
      (answers : info.nonce = encodeNonce nonce)
  | kem {content : Bytes} {kemRepInfo : KemRepInfo} {info : KdcKemInfo}
      (tag : isKemRep paRepDer = true)
      (unwrapped : decodeKemRepContent platform.usizeBits paRepDer = .ok content)
      (parsed : platform.synta.kemRepInfo.fromDer content = .ok kemRepInfo)
      (signed : SignedEnvelope platform kemRepInfo.kemSignedData v)
      (contentType : v.contentType = ID_PKINIT_KEM_KEY_DATA)
      (decoded : platform.synta.kdcKemInfo.fromDer v.content = .ok info)
      (answers : info.nonce = some (encodeNonce nonce))

section Vouching

variable {instant : Instant} {setUp : SetUp} {s : PkinitClientState} {v : VerifiedSignedData}

theorem TrustsBy.chain (trusts : TrustsBy varlink setUp s)
    (trusted : ChainTrusted platform instant s v.signerCertDer v.allCertsDer) :
    ChainVouched platform varlink instant setUp v := by
  cases trusted with
  | configured validated => exact .anchors (trusts.trustStore ▸ validated)
  | approved installed asked answered leafDecoded presented validated =>
      rw [trusts.broker] at installed
      simp only [PkinitClientState.kdcTrustRequest, Option.bind_eq_bind, Option.bind_eq_some_iff,
        Option.pure_def, Option.some.injEq, Prod.mk.injEq] at asked
      obtain ⟨_, _, name, named, realm, inRealm, rfl, rfl⟩ := asked
      rw [trusts.kdcPrincipal] at named
      rw [trusts.isAnonymous] at answered
      exact .broker installed named inRealm answered leafDecoded presented validated

theorem TrustsBy.vouched (trusts : TrustsBy varlink setUp s)
    (chain : s.validateKdcChain platform instant v.signerCertDer v.allCertsDer = .ok ()) :
    Vouched platform varlink instant setUp v := by
  simp only [PkinitClientState.validateKdcChain, PkinitClientState.validateKdcNames,
    bind_eq_ok] at chain
  obtain ⟨_, anchors, _, eku, named⟩ := chain
  refine ⟨trusts.chain (validateKdcAnchors_sound anchors), eku, ?_⟩
  intro name isNamed
  simpa only [trusts.kdcPrincipal, isNamed, trusts.kdcHostname] using named

theorem signedEnvelope_of_verified {envelope : Bytes}
    (verified : verifySignedData platform envelope = .ok v) :
    SignedEnvelope platform envelope v :=
  SignatureBinding.of_verified verified

/-- A key that is read answers the nonce and is vouched for. -/
theorem TrustsBy.of_processAsRep (trusts : TrustsBy varlink setUp s) {o2k : OctetString2Key}
    {paRepDer : Bytes} {params : AsRepParams} {key : DerivedKey}
    (read : (call (PkinitClientState.processAsRep platform o2k instant paRepDer params) s).2 =
      .ok key) :
    ∃ v, AnswersNonce platform paRepDer params.nonce v ∧
      Vouched platform varlink instant setUp v := by
  have outcome := PkinitClientState.processAsRep_outcome platform o2k instant s paRepDer params
  rw [Ends, read] at outcome
  generalize (call (PkinitClientState.processAsRep platform o2k instant paRepDer params) s).1 = s'
    at outcome
  cases outcome with
  | dh tag parsed processed =>
      obtain ⟨v, dhKey, accepts⟩ := PkinitClientState.processDhRep_eq_ok.mp processed
      obtain ⟨info, _, _, decoded, nonce, _⟩ := accepts.agreed
      exact ⟨v, .dh tag parsed (signedEnvelope_of_verified accepts.signature) accepts.contentType
        decoded (decodeNonce_eq_ok.mp nonce), trusts.vouched accepts.chain⟩
  | kem tag held opened =>
      obtain ⟨v, info, accepts⟩ := PkinitClientState.openKemRep_eq_ok.mp opened
      obtain ⟨content, rep, _, unwrapped, parsed, signature, _⟩ := accepts.opened
      obtain ⟨replyNonce, present, decodes⟩ := accepts.fits.nonce
      rw [decodeNonce_eq_ok.mp decodes] at present
      have emptied : TrustsBy varlink setUp { s with kemKey := none } :=
        ⟨trusts.trustStore, trusts.kdcPrincipal, trusts.kdcHostname, trusts.broker,
          trusts.isAnonymous⟩
      exact ⟨v, .kem tag unwrapped parsed (signedEnvelope_of_verified signature)
        accepts.contentType accepts.decoded present, emptied.vouched accepts.chain⟩

end Vouching

/-! ## Runs -/

/-- Each key of the call comes out of a reply to it, from a KDC that the set-up
in force vouches for. -/
def KeysVouchedFor (platform : Platform) (varlink : Varlink) (older : List PluginEvent)
    (e : PluginEvent) : Prop :=
  ∀ key, e.output.asKey = some key →
    ∃ req setUp v, e.input = .process req ∧ InForce platform varlink (e :: older) setUp ∧
      AnswersNonce platform req.paData.contents req.nonce v ∧
      Vouched platform varlink req.instant setUp v

variable {history : List PluginEvent}

theorem process_key (req : ProcessRequest) (client : PkinitClient) :
    Ends (process platform varlink req) client fun client' r =>
      (∃ e, call (finishPendingPkcs12 platform varlink req) client = (client', .error e) ∧
        r = .error e) ∨
      ∃ settled, call (finishPendingPkcs12 platform varlink req) client = (settled, .ok ()) ∧
        DispatchOutcome platform req settled client' r ∧ KeysAreRead platform req settled r := by
  unfold process
  have settles : Ends (finishPendingPkcs12 platform varlink req) client fun settled r =>
      call (finishPendingPkcs12 platform varlink req) client = (settled, r) := rfl
  refine Ends.bind (settles.mono ?_)
  intro settled r finished
  cases r with
  | error e => exact .inl ⟨e, finished, rfl⟩
  | ok _ =>
      exact .inr ⟨settled, finished, dispatch_outcome platform req settled,
        dispatch_key req settled⟩

/-- The token of the KDC is no matter of trust. -/
theorem PkinitClient.DispatchOutcome.trusts {req : ProcessRequest}
    {r : Except Krb5Error ProcessReply}
    (outcome : DispatchOutcome platform req client client' r) {s' : PkinitClientState}
    (present' : client'.state = some s') :
    ∃ s, client.state = some s ∧
      ∀ setUp, TrustsBy varlink setUp s → TrustsBy varlink setUp s' := by
  cases outcome with
  | noted =>
      obtain ⟨s, present, rfl⟩ := Option.map_eq_some_iff.mp present'
      exact ⟨s, present, fun _ trusts => ⟨trusts.trustStore, trusts.kdcPrincipal,
        trusts.kdcHostname, trusts.broker, trusts.isAnonymous⟩⟩
  | worked _ works => exact works.steps.trusts present'

theorem PkinitClient.DispatchOutcome.pending {req : ProcessRequest}
    {r : Except Krb5Error ProcessReply}
    (outcome : DispatchOutcome platform req client client' r) :
    client'.pendingPkcs12 = client.pendingPkcs12 := by
  cases outcome with
  | noted => rfl
  | worked _ works => exact works.steps.pending

/-- A state that a call went on with is trusted by the same set-up. -/
theorem TrustHeld.of_alike (held : TrustHeld platform varlink history client)
    (state : ∀ s', client'.state = some s' →
      ∃ s, client.state = some s ∧ ∀ setUp, TrustsBy varlink setUp s → TrustsBy varlink setUp s')
    (pending : client'.pendingPkcs12 = client.pendingPkcs12) :
    TrustHeld platform varlink history client' where
  state := by
    intro s' present'
    obtain ⟨s, present, alike⟩ := state s' present'
    obtain ⟨setUp, inForce, trusts⟩ := held.state s present
    exact ⟨setUp, inForce, alike setUp trusts⟩
  pending := fun waits present => held.pending waits (pending ▸ present)

theorem trustHeld_process {req : ProcessRequest} {r : Except Krb5Error ProcessReply}
    (held : TrustHeld platform varlink history client)
    (processed : call (process platform varlink req) client = (client', r)) :
    KeysVouchedFor platform varlink history ⟨client, .process req, .reply r, client'⟩ ∧
      TrustHeld platform varlink (⟨client, .process req, .reply r, client'⟩ :: history)
        client' := by
  have outcome : Ends (process platform varlink req) client _ := process_key req client
  rw [Ends, processed] at outcome
  rcases outcome with ⟨e, settles, rfl⟩ | ⟨settled, settles, dispatched, keys⟩
  · refine ⟨?_, held.of_finish rfl rfl settles⟩
    rintro key ⟨⟩
  · have settledHeld : TrustHeld platform varlink
        (⟨client, .process req, .reply r, client'⟩ :: history) settled :=
      held.of_finish rfl rfl settles
    refine ⟨?_, settledHeld.of_alike (fun _ present => dispatched.trusts present)
      dispatched.pending⟩
    intro key handed
    obtain ⟨s, params, present, nonce, read⟩ := keys key handed
    obtain ⟨setUp, inForce, trusts⟩ := settledHeld.state s present
    obtain ⟨v, answers, vouched⟩ := trusts.of_processAsRep read
    exact ⟨req, setUp, v, rfl, inForce, nonce ▸ answers, vouched⟩

theorem trustHeld_step (i : PluginCall) (held : TrustHeld platform varlink history client) :
    KeysVouchedFor platform varlink history ((pluginMachine platform varlink).event client i) ∧
      TrustHeld platform varlink ((pluginMachine platform varlink).event client i :: history)
        (pluginMachine platform varlink client i).1 := by
  cases i with
  | process req => exact trustHeld_process held rfl
  | tryagain req typedData =>
      have keyless : Ends (tryagain platform req typedData) client _ :=
        tryagain_keyless req typedData client
      refine ⟨fun key handed => ?_, ?_⟩
      · cases keyless.symm.trans handed
      · have works := tryagain_works platform req typedData client
        exact held.of_quiet rfl (fun _ present => works.steps.trusts present)
          fun _ present => works.steps.pending ▸ present
  | supplyGicOpts attr value =>
      refine ⟨by rintro key ⟨⟩, ?_⟩
      obtain ⟨config, left, _⟩ := supplyGicOpts_outcome attr value client
      have after : (pluginMachine platform varlink client (.supplyGicOpts attr value)).1 =
          { client with config := config } := left
      rw [after]
      exact held.of_quiet rfl (fun s present => ⟨s, present, fun _ trusts => trusts⟩)
        fun _ present => present
  | initEtypeInfo req =>
      refine ⟨by rintro key ⟨⟩, ?_⟩
      cases holds : client.holdsKeys with
      | false => exact held.of_init holds (initEtypeInfo_trust req holds)
      | true =>
          have kept : call (initEtypeInfo platform varlink req) client = (client, .ok ()) :=
            initEtypeInfo_of_holdsKeys holds
          have after : (pluginMachine platform varlink client (.initEtypeInfo req)).1 = client :=
            congrArg Prod.fst kept
          rw [after]
          refine held.of_quiet ?_ (fun s present => ⟨s, present, fun _ trusts => trusts⟩)
            fun _ present => present
          simp [PluginEvent.buildsState, holds]

theorem keysVouchedFor_run (run : Run (pluginMachine platform varlink) {} history client) :
    Each (KeysVouchedFor platform varlink) history :=
  (Run.rule (J := TrustHeld platform varlink) (A := fun _ _ => True)
    (P := KeysVouchedFor platform varlink) ⟨by rintro s ⟨⟩, by rintro s ⟨⟩⟩
    (fun _ _ i held _ => trustHeld_step i held) run fun _ _ _ _ => trivial).1

end Kurbu5Pkinit

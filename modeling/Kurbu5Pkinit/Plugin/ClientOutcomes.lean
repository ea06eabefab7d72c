import Kurbu5Pkinit.Client.Outcomes
import Kurbu5Pkinit.Plugin.Client

/-!
# What each call of the client plugin can do

The party of a request is the identity in the held state. The calls of an
exchange keep it, and what they send was made by it; `init_etype_info` and the
settling of a pending identity set it up. One outcome lemma for each call says
so.
-/

set_option autoImplicit false

namespace Kurbu5Pkinit

open Library

variable {platform : Platform} {varlink : Varlink} {client client' : PkinitClient}

/-! ## Work on the held state -/

/-- Operations of the core, one after another. -/
inductive CoreSteps (platform : Platform) : PkinitClientState → PkinitClientState → Prop
  | refl (s : PkinitClientState) : CoreSteps platform s s
  | trans {s₁ s₂ s₃ : PkinitClientState} (first : CoreSteps platform s₁ s₂)
      (second : CoreSteps platform s₂ s₃) : CoreSteps platform s₁ s₃
  | selection {s s' : PkinitClientState}
      (outcome : PkinitClientState.SelectionOutcome platform s s') : CoreSteps platform s s'
  | build {instant : Instant} {s s' : PkinitClientState} {input : PkinitClientState.RequestInput}
      {r : Except PkinitError Bytes}
      (outcome : PkinitClientState.BuildOutcome platform instant s input s' r) :
      CoreSteps platform s s'
  | reply {o2k : OctetString2Key} {instant : Instant} {s s' : PkinitClientState}
      {paRepDer : Bytes} {params : AsRepParams} {r : Except PkinitError DerivedKey}
      (outcome : PkinitClientState.ReplyOutcome platform o2k instant s paRepDer params s' r) :
      CoreSteps platform s s'

/-- Nothing but the inside of the held state changed, by operations of the core. -/
structure StepsTo (platform : Platform) (client client' : PkinitClient) : Prop where
  config : client'.config = client.config
  pending : client'.pendingPkcs12 = client.pendingPkcs12
  state : ∀ s', client'.state = some s' → ∃ s, client.state = some s ∧ CoreSteps platform s s'

theorem StepsTo.refl (client : PkinitClient) : StepsTo platform client client :=
  ⟨rfl, rfl, fun s held => ⟨s, held, .refl s⟩⟩

theorem StepsTo.trans {client₁ client₂ client₃ : PkinitClient}
    (first : StepsTo platform client₁ client₂) (second : StepsTo platform client₂ client₃) :
    StepsTo platform client₁ client₃ where
  config := second.config.trans first.config
  pending := second.pending.trans first.pending
  state := by
    intro s₃ held
    obtain ⟨s₂, held, steps⟩ := second.state s₃ held
    obtain ⟨s₁, held, steps'⟩ := first.state s₂ held
    exact ⟨s₁, held, steps'.trans steps⟩

/-- The padata is a request that a state built, which the held one led to. -/
def BuiltFrom (platform : Platform) (client : PkinitClient) (request : Bytes) : Prop :=
  ∃ s s₁ s₂ instant input, client.state = some s ∧ CoreSteps platform s s₁ ∧
    PkinitClientState.BuildOutcome platform instant s₁ input s₂ (.ok request)

/-- The call worked on the held state, and built there what it sent. -/
structure Works (platform : Platform) (client client' : PkinitClient)
    (r : Except Krb5Error ProcessReply) : Prop where
  steps : StepsTo platform client client'
  requests : ∀ reply pa, r = .ok reply → pa ∈ reply.paData → BuiltFrom platform client pa.contents

theorem Works.of_failure {e : Krb5Error} (steps : StepsTo platform client client') :
    Works platform client client' (.error e) :=
  ⟨steps, nofun⟩

theorem Works.of_silent {reply : ProcessReply} (silent : reply.paData = [])
    (steps : StepsTo platform client client') : Works platform client client' (.ok reply) where
  steps := steps
  requests := by
    rintro _ pa ⟨⟩ sent
    rw [silent] at sent
    cases sent

theorem Works.of_steps {middle : PkinitClient} {r : Except Krb5Error ProcessReply}
    (first : StepsTo platform client middle) (rest : Works platform middle client' r) :
    Works platform client client' r where
  steps := first.trans rest.steps
  requests := by
    intro reply pa ok sent
    obtain ⟨s', s₁, s₂, instant, input, held, steps, built⟩ := rest.requests reply pa ok sent
    obtain ⟨s, held, steps'⟩ := first.state s' held
    exact ⟨s, s₁, s₂, instant, input, held, steps'.trans steps, built⟩

namespace PkinitClient

theorem withState_outcome {α : Type} (method : EStateM PkinitError PkinitClientState α)
    (client : PkinitClient) (step : ∀ s, CoreSteps platform s (call method s).1) :
    Ends (withState method) client fun client' r => StepsTo platform client client' ∧
      ∀ result, r = .ok result → ∃ s, client.state = some s ∧ result = (call method s).2 := by
  unfold withState
  refine Ends.bind_get (Ends.bind_lift (fun e _ => ⟨.refl client, nofun⟩) ?_)
  intro s held
  simp only [okOr_eq_ok] at held
  refine Ends.bind_set (Ends.of_pure ⟨⟨rfl, rfl, ?_⟩, ?_⟩)
  · rintro _ ⟨⟩
    exact ⟨s, held, step s⟩
  · rintro _ ⟨⟩
    exact ⟨s, held, rfl⟩

theorem buildPaPkAsReq_outcome (platform : Platform) (req : ProcessRequest)
    (client : PkinitClient) :
    Ends (buildPaPkAsReq platform req) client (Works platform client) := by
  unfold buildPaPkAsReq
  refine Ends.bind_lift (fun _ _ => .of_failure (.refl client)) ?_
  rintro ⟨ctime, cusec⟩ _
  refine Ends.bind_lift (fun _ _ => .of_failure (.refl client)) ?_
  intro reqBodyDer _
  have outcome := fun s => PkinitClientState.buildAsReq_outcome platform req.instant s
    ⟨req.nonce, ctime, cusec, reqBodyDer⟩
  refine Ends.bind ((withState_outcome _ client fun s => .build (outcome s)).mono ?_)
  rintro client' r ⟨steps, results⟩
  cases r with
  | error e => exact .of_failure steps
  | ok built =>
      obtain ⟨s, held, rfl⟩ := results built rfl
      refine Ends.bind_lift (fun _ _ => .of_failure steps) ?_
      intro paReqDer made
      refine Ends.of_pure ⟨steps, ?_⟩
      rintro _ pa ⟨⟩ sent
      obtain rfl := List.mem_singleton.mp sent
      have request := outcome s
      unfold Ends at request
      rw [mapError_eq_ok.mp made] at request
      exact ⟨s, s, _, _, _, held, .refl s, request⟩

theorem heedHint_outcome (platform : Platform) (contents : Bytes) (client : PkinitClient) :
    Ends (heedHint platform contents) client fun client' _ => StepsTo platform client client' := by
  unfold heedHint
  split
  · exact Ends.of_pure (.refl client)
  · refine Ends.bind ((withState_outcome _ client fun s => .selection
      (PkinitClientState.processPkinitHint_outcome s contents)).mono ?_)
    rintro client' r ⟨steps, _⟩
    cases r with
    | error e => exact steps
    | ok heeded =>
        dsimp only
        split <;> exact steps

theorem processReply_outcome (platform : Platform) (req : ProcessRequest)
    (client : PkinitClient) :
    Ends (processReply platform req) client (Works platform client) := by
  unfold processReply
  refine Ends.bind_lift (fun _ _ => .of_failure (.refl client)) fun _ _ => ?_
  refine Ends.bind_lift (fun _ _ => .of_failure (.refl client)) fun _ _ => ?_
  refine Ends.bind_lift (fun _ _ => .of_failure (.refl client)) fun _ _ => ?_
  refine Ends.bind ((withState_outcome _ client fun s => .reply
    (PkinitClientState.processAsRep_outcome platform (krb5OctetString2Key platform) req.instant s
      req.paData.contents _)).mono ?_)
  rintro client' r ⟨steps, _⟩
  cases r with
  | error e => exact .of_failure steps
  | ok derived =>
      refine Ends.bind_lift (fun _ _ => .of_failure steps) fun _ _ => ?_
      refine Ends.bind_lift (fun _ _ => .of_failure steps) fun _ _ => ?_
      exact Ends.of_pure (.of_silent rfl steps)

/-- What `process` does once a pending identity is settled: it notes a token,
or works on the held state. -/
inductive DispatchOutcome (platform : Platform) (req : ProcessRequest) (client : PkinitClient) :
    PkinitClient → Except Krb5Error ProcessReply → Prop
  | noted (token : req.paData.paType = PA_AS_FRESHNESS) :
      DispatchOutcome platform req client { client with
        state := client.state.map fun (state : PkinitClientState) =>
          state.setFreshnessToken req.paData.contents } (.ok {})
  | worked {client' : PkinitClient} {r : Except Krb5Error ProcessReply}
      (other : req.paData.paType ≠ PA_AS_FRESHNESS) (works : Works platform client client' r) :
      DispatchOutcome platform req client client' r

theorem dispatch_outcome (platform : Platform) (req : ProcessRequest) (client : PkinitClient) :
    Ends (dispatch platform req) client (DispatchOutcome platform req client) := by
  unfold dispatch
  refine Ends.bind_get ?_
  split
  · next announced =>
      refine Ends.of_pure (.worked ?_ (.of_silent rfl (.refl client)))
      rw [announced]
      decide
  split
  · next token => exact Ends.bind_set (Ends.of_pure (.noted token))
  next other =>
  split
  · refine Ends.bind_lift (fun _ _ => .worked other (.of_failure (.refl client))) fun _ _ => ?_
    refine Ends.bind ((heedHint_outcome platform req.paData.contents client).mono ?_)
    intro client' r steps
    cases r with
    | error e => exact .worked other (.of_failure steps)
    | ok _ =>
        exact (buildPaPkAsReq_outcome platform req client').mono
          fun _ _ works => .worked other (works.of_steps steps)
  split
  · refine Ends.bind_lift (fun _ _ => .worked other (.of_failure (.refl client))) fun _ _ => ?_
    exact (processReply_outcome platform req client).mono fun _ _ works => .worked other works
  · exact Ends.of_throw (.worked other (.of_failure (.refl client)))

theorem tryagain_works (platform : Platform) (req : ProcessRequest)
    (typedData : List (Int × Bytes)) (client : PkinitClient) :
    Ends (tryagain platform req typedData) client (Works platform client) := by
  unfold tryagain
  refine Ends.bind ((withState_outcome _ client fun s => .selection
    (PkinitClientState.handleTryagainTypedData_outcome s typedData)).mono ?_)
  rintro client' r ⟨steps, _⟩
  have building := (buildPaPkAsReq_outcome platform req client').mono
    fun _ _ works => works.of_steps steps
  cases r with
  | error e => exact .of_failure steps
  | ok action =>
      dsimp only
      split
      · exact building
      · exact building
      · exact Ends.of_throw (.of_failure steps)
      · exact Ends.of_throw (.of_failure steps)

end PkinitClient

/-! ## The party of a request -/

/-- Same identity, same mode. -/
structure SameParty (s s' : PkinitClientState) : Prop where
  identity : s'.identity = s.identity
  mode : s'.isAnonymous = s.isAnonymous

theorem SameParty.refl (s : PkinitClientState) : SameParty s s := ⟨rfl, rfl⟩

theorem sameParty_of_selection {s s' : PkinitClientState}
    (outcome : PkinitClientState.SelectionOutcome platform s s') : SameParty s s' := by
  cases outcome with
  | unchanged => exact .refl s
  | @applied offered _ => cases offered <;> exact ⟨rfl, rfl⟩

theorem sameParty_of_build {instant : Instant} {s s' : PkinitClientState}
    {input : PkinitClientState.RequestInput} {r : Except PkinitError Bytes}
    (outcome : PkinitClientState.BuildOutcome platform instant s input s' r) : SameParty s s' := by
  cases outcome <;> exact ⟨rfl, rfl⟩

theorem sameParty_of_reply {o2k : OctetString2Key} {instant : Instant} {s s' : PkinitClientState}
    {paRepDer : Bytes} {params : AsRepParams} {r : Except PkinitError DerivedKey}
    (outcome : PkinitClientState.ReplyOutcome platform o2k instant s paRepDer params s' r) :
    SameParty s s' := by
  cases outcome <;> exact ⟨rfl, rfl⟩

theorem sameParty_of_steps {s s' : PkinitClientState} (steps : CoreSteps platform s s') :
    SameParty s s' := by
  induction steps with
  | refl s => exact .refl s
  | trans _ _ first second =>
      exact ⟨second.identity.trans first.identity, second.mode.trans first.mode⟩
  | selection outcome => exact sameParty_of_selection outcome
  | build outcome => exact sameParty_of_build outcome
  | reply outcome => exact sameParty_of_reply outcome

/-- The request was made by this identity. -/
def RequestOf (platform : Platform) (identity : PkinitIdentity) (request : Bytes) : Prop :=
  ∃ instant authPackDer envelope,
    signAuthPack platform instant identity authPackDer = .ok envelope ∧
    platform.synta.paPkAsReq.toDer { signedAuthPack := envelope } = .ok request

theorem requestOf_of_build {instant : Instant} {s s' : PkinitClientState}
    {input : PkinitClientState.RequestInput} {request : Bytes}
    (outcome : PkinitClientState.BuildOutcome platform instant s input s' (.ok request)) :
    RequestOf platform s.identity request := by
  have carried : ∃ pkAuth element dhNonce useKem, PkinitClientState.encodeRequest platform instant s
      pkAuth element dhNonce useKem = .ok request := by
    cases outcome with
    | kem _ _ _ carries | dh _ _ _ _ carries =>
        obtain ⟨pkAuth, element, _, _, encoded⟩ := carries.encoded
        exact ⟨pkAuth, element, _, _, encoded⟩
  obtain ⟨pkAuth, element, dhNonce, useKem, encoded⟩ := carried
  simp only [PkinitClientState.encodeRequest, bind_eq_ok, mapError_eq_ok] at encoded
  obtain ⟨_, _, authPackDer, _, envelope, signed, request⟩ := encoded
  exact ⟨instant, authPackDer, envelope, signed, request⟩

/-- The `AuthPack` is unsigned, and no certificate travels with it. -/
def RequestUnsigned (platform : Platform) (request : Bytes) : Prop :=
  ∃ signedData envelope, signedData.signerInfos = [] ∧ signedData.certificates = none ∧
    wrapSignedData platform signedData = .ok envelope ∧
    platform.synta.paPkAsReq.toDer { signedAuthPack := envelope } = .ok request

/-- The `AuthPack` is signed with this identity's key under its certificate. -/
def RequestSignedBy (platform : Platform) (identity : PkinitIdentity) (request : Bytes) : Prop :=
  ∃ instant signerKey authPackDer envelope, identity.signingKey = some signerKey ∧
    createSignedData platform instant authPackDer ID_PKINIT_AUTH_DATA signerKey identity.certDer
      identity.chain (digestForSigner platform identity.certDer) = .ok envelope ∧
    platform.synta.paPkAsReq.toDer { signedAuthPack := envelope } = .ok request

theorem RequestOf.unsigned {request : Bytes} (made : RequestOf platform .anonymous request) :
    RequestUnsigned platform request := by
  obtain ⟨instant, authPackDer, envelope, signed, request⟩ := made
  rw [signAuthPack, if_pos (by rfl)] at signed
  simp only [createUnsignedData, bind_eq_ok, mapError_eq_ok] at signed
  obtain ⟨_, _, wrapped⟩ := signed
  exact ⟨_, envelope, rfl, rfl, wrapped, request⟩

theorem RequestOf.signed {identity : PkinitIdentity} {request : Bytes}
    (certified : identity.certDer ≠ []) (made : RequestOf platform identity request) :
    RequestSignedBy platform identity request := by
  obtain ⟨instant, authPackDer, envelope, signed, request⟩ := made
  rw [signAuthPack, if_neg (by simpa using certified)] at signed
  simp only [bind_eq_ok, okOr_eq_ok] at signed
  obtain ⟨signerKey, key, created⟩ := signed
  exact ⟨instant, signerKey, authPackDer, envelope, key, created, request⟩

/-! ## Calls that keep the party -/

/-- Nothing but the inside of the held state changed, and not its party. -/
structure Continues (client client' : PkinitClient) : Prop where
  config : client'.config = client.config
  pending : client'.pendingPkcs12 = client.pendingPkcs12
  state : ∀ s', client'.state = some s' → ∃ s, client.state = some s ∧ SameParty s s'

/-- The call kept the party, and what it sent was made by it. -/
structure Serves (platform : Platform) (client client' : PkinitClient)
    (r : Except Krb5Error ProcessReply) : Prop where
  continues : Continues client client'
  requests : ∀ reply pa, r = .ok reply → pa ∈ reply.paData →
    ∃ s, client.state = some s ∧ RequestOf platform s.identity pa.contents

theorem Works.serves {r : Except Krb5Error ProcessReply} (works : Works platform client client' r) :
    Serves platform client client' r where
  continues := {
    config := works.steps.config
    pending := works.steps.pending
    state := by
      intro s' held
      obtain ⟨s, held, steps⟩ := works.steps.state s' held
      exact ⟨s, held, sameParty_of_steps steps⟩ }
  requests := by
    intro reply pa ok sent
    obtain ⟨s, s₁, _, _, _, held, steps, built⟩ := works.requests reply pa ok sent
    exact ⟨s, held, (sameParty_of_steps steps).identity ▸ requestOf_of_build built⟩

namespace PkinitClient

theorem DispatchOutcome.serves {req : ProcessRequest} {r : Except Krb5Error ProcessReply}
    (outcome : DispatchOutcome platform req client client' r) :
    Serves platform client client' r := by
  cases outcome with
  | noted =>
      refine ⟨⟨rfl, rfl, fun s' held => ?_⟩, ?_⟩
      · obtain ⟨s, present, rfl⟩ := Option.map_eq_some_iff.mp held
        exact ⟨s, present, rfl, rfl⟩
      · rintro _ pa ⟨⟩ sent
        cases sent
  | worked _ works => exact works.serves

theorem tryagain_outcome (platform : Platform) (req : ProcessRequest)
    (typedData : List (Int × Bytes)) (client : PkinitClient) :
    Ends (tryagain platform req typedData) client (Serves platform client) :=
  (tryagain_works platform req typedData client).mono fun _ _ works => works.serves

/-- An option never replaces a configured identity. -/
theorem supplyGicOpts_outcome (attr value : String) (client : PkinitClient) :
    Ends (supplyGicOpts attr value) client fun client' _ => ∃ config,
      client' = { client with config := config } ∧
      ∀ identity, client.config.identity = some identity → config.identity = some identity := by
  unfold supplyGicOpts
  refine Ends.bind_get ?_
  split
  · refine Ends.bind_lift (fun _ _ => ⟨_, rfl, fun _ configured => configured⟩) ?_
    intro _ vacant
    refine ⟨_, rfl, fun identity configured => ?_⟩
    simp [configured] at vacant
  split
  · exact ⟨_, rfl, fun _ configured => configured⟩
  split
  · exact ⟨_, rfl, fun _ configured => configured⟩
  · exact ⟨_, rfl, fun _ configured => configured⟩

/-! ## Calls that set the party up -/

/-- What settling a pending identity leaves. -/
inductive FinishOutcome (platform : Platform) (varlink : Varlink) (req : ProcessRequest)
    (client : PkinitClient) : PkinitClient → Except Krb5Error Unit → Prop
  | idle {r : Except Krb5Error Unit} (nothing : client.pendingPkcs12 = none) :
      FinishOutcome platform varlink req client client r
  | failed {e : Krb5Error} :
      FinishOutcome platform varlink req client { client with pendingPkcs12 := none } (.error e)
  | finished {pending : PendingPkcs12} {password : Bytes} {identity : PkinitIdentity}
      (waited : client.pendingPkcs12 = some pending)
      (loaded : PkinitIdentity.loadPkcs12 platform req.instant pending.path password =
        .ok identity) :
      FinishOutcome platform varlink req client { client with
        pendingPkcs12 := none
        state := some (buildClient varlink req.instant identity pending.trustStore client.config
          pending.serverPrincipal false) } (.ok ())

theorem finishPendingPkcs12_outcome (platform : Platform) (varlink : Varlink)
    (req : ProcessRequest) (client : PkinitClient) :
    Ends (finishPendingPkcs12 platform varlink req) client
      (FinishOutcome platform varlink req client) := by
  unfold finishPendingPkcs12
  refine Ends.bind_get ?_
  cases waited : client.pendingPkcs12 with
  | none => exact Ends.of_pure (.idle waited)
  | some pending =>
      refine Ends.bind_set (Ends.bind_lift (fun _ _ => .failed) fun password _ => ?_)
      refine Ends.bind_lift (fun _ _ => .failed) ?_
      intro identity loaded
      simp only [mapError_eq_ok] at loaded
      exact .finished waited loaded

/-- `process` settles a pending identity, and goes on where that succeeds. -/
theorem process_settles (platform : Platform) (varlink : Varlink) (req : ProcessRequest)
    (client : PkinitClient) :
    Ends (process platform varlink req) client fun client' r =>
      (∃ e, call (finishPendingPkcs12 platform varlink req) client = (client', .error e) ∧
        r = .error e) ∨
      ∃ settled, call (finishPendingPkcs12 platform varlink req) client = (settled, .ok ()) ∧
        DispatchOutcome platform req settled client' r := by
  unfold process
  have settles : Ends (finishPendingPkcs12 platform varlink req) client fun settled r =>
      call (finishPendingPkcs12 platform varlink req) client = (settled, r) := rfl
  refine Ends.bind (settles.mono ?_)
  intro settled r' finished
  cases r' with
  | error e => exact .inl ⟨e, finished, rfl⟩
  | ok _ =>
      exact (dispatch_outcome platform req settled).mono
        fun _ _ outcome => .inr ⟨settled, finished, outcome⟩

/-- **Every request of `process` is made by the party it holds once a pending
identity is settled.** -/
theorem process_outcome (platform : Platform) (varlink : Varlink) (req : ProcessRequest)
    (client : PkinitClient) :
    Ends (process platform varlink req) client fun client' r => ∃ settled r',
      FinishOutcome platform varlink req client settled r' ∧
        Serves platform settled client' r := by
  have finished := finishPendingPkcs12_outcome platform varlink req client
  unfold Ends at finished
  refine (process_settles platform varlink req client).mono ?_
  rintro client' r (⟨e, settles, rfl⟩ | ⟨settled, settles, outcome⟩)
  · rw [settles] at finished
    exact ⟨client', _, finished, Works.serves (.of_failure (.refl client'))⟩
  · rw [settles] at finished
    exact ⟨settled, _, finished, outcome.serves⟩

/-- The configuration a call of `init_etype_info` works with. -/
def configRead (req : EtypeInfoRequest) (client : PkinitClient) : PkinitClientConfig :=
  match req.profile with
  | .ok profile => (call (readClientConfig profile req.realm) client.config).1
  | .error _ => client.config

theorem configRead_identity {req : EtypeInfoRequest} {identity : String}
    (configured : client.config.identity = some identity) :
    (configRead req client).identity = some identity := by
  unfold configRead
  split
  · exact readClientConfig_identity _ _ _ configured
  · exact configured

/-- What `init_etype_info` leaves. Only the last three set a party up. -/
inductive InitOutcome (platform : Platform) (varlink : Varlink) (req : EtypeInfoRequest)
    (client : PkinitClient) : PkinitClient → Except Krb5Error Unit → Prop
  | kept (holds : client.holdsKeys = true) :
      InitOutcome platform varlink req client client (.ok ())
  | failed {e : Krb5Error} :
      InitOutcome platform varlink req client { client with config := configRead req client }
        (.error e)
  | unconfigured (named : req.isAnonymous = false)
      (absent : (configRead req client).identity = none) :
      InitOutcome platform varlink req client { client with config := configRead req client }
        (.ok ())
  | anonymous {trustStore : TrustStore} {serverPrincipal : Option String}
      (isAnonymous : req.isAnonymous = true)
      (anchored : loadAnchors platform req.instant (configRead req client).anchors =
        .ok trustStore) :
      InitOutcome platform varlink req client { client with
        config := configRead req client
        state := some (buildClient varlink req.instant .anonymous trustStore
          (configRead req client) serverPrincipal true) } (.ok ())
  | loaded {identityStr : String} {source : IdentitySource} {identity : PkinitIdentity}
      {trustStore : TrustStore} {serverPrincipal : Option String}
      (named : req.isAnonymous = false)
      (configured : (configRead req client).identity = some identityStr)
      (parsed : IdentitySource.parse identityStr = .ok source)
      (loads : PkinitIdentity.load platform req.instant source = .ok identity)
      (anchored : loadAnchors platform req.instant (configRead req client).anchors =
        .ok trustStore) :
      InitOutcome platform varlink req client { client with
        config := configRead req client
        state := some (buildClient varlink req.instant identity trustStore
          (configRead req client) serverPrincipal false)
        pendingPkcs12 := none } (.ok ())
  | waiting {identityStr path : String} {trustStore : TrustStore}
      {serverPrincipal : Option String}
      (named : req.isAnonymous = false)
      (configured : (configRead req client).identity = some identityStr)
      (parsed : IdentitySource.parse identityStr = .ok (.pkcs12 path))
      (asks : PkinitIdentity.load platform req.instant (.pkcs12 path) =
        .error .pkcs12PasswordRequired)
      (anchored : loadAnchors platform req.instant (configRead req client).anchors =
        .ok trustStore) :
      InitOutcome platform varlink req client { client with
        config := configRead req client
        pendingPkcs12 := some ⟨path, trustStore, serverPrincipal⟩ } (.ok ())

theorem loadIdentity_outcome {req : EtypeInfoRequest} {identityStr : String}
    {trustStore : TrustStore} (serverPrincipal : Option String)
    (named : req.isAnonymous = false)
    (configured : (configRead req client).identity = some identityStr)
    (anchored : loadAnchors platform req.instant (configRead req client).anchors =
      .ok trustStore) :
    Ends (loadIdentity platform varlink req identityStr trustStore serverPrincipal)
      { client with config := configRead req client }
      (InitOutcome platform varlink req client) := by
  unfold loadIdentity
  refine Ends.bind_lift (fun _ _ => .failed) ?_
  intro source parsed
  simp only [mapError_eq_ok] at parsed
  split
  · next identity loads => exact .loaded named configured parsed loads anchored
  · next asks =>
      split
      · next path =>
          exact Ends.bind_lift (fun _ _ => .failed)
            fun _ _ => .waiting named configured parsed asks anchored
      · exact Ends.of_throw .failed
  · exact Ends.of_throw .failed

theorem initParty_outcome (req : EtypeInfoRequest)
    (configured : req.isAnonymous = false → (configRead req client).identity ≠ none) :
    Ends (initParty platform varlink req (configRead req client))
      { client with config := configRead req client }
      (InitOutcome platform varlink req client) := by
  unfold initParty
  refine Ends.bind_lift (fun _ _ => .failed) fun trustStore anchored => ?_
  rw [mapError_eq_ok] at anchored
  dsimp only
  split
  · next isAnonymous => exact .anonymous isAnonymous anchored
  · next named =>
      have named : req.isAnonymous = false := by simpa using named
      split
      · next identityStr present => exact loadIdentity_outcome _ named present anchored
      · next absent => exact absurd absent (configured named)

theorem initEtypeInfo_outcome (platform : Platform) (varlink : Varlink) (req : EtypeInfoRequest)
    (client : PkinitClient) :
    Ends (initEtypeInfo platform varlink req) client
      (InitOutcome platform varlink req client) := by
  unfold initEtypeInfo
  refine Ends.bind_get ?_
  split
  · next holds => exact Ends.of_pure (.kept holds)
  have unread : ∀ e, req.profile = .error e →
      InitOutcome platform varlink req client client (.error e) := by
    intro e unavailable
    have failed : InitOutcome platform varlink req client
        { client with config := configRead req client } (.error e) := .failed
    simpa only [configRead, unavailable] using failed
  refine Ends.bind_lift unread ?_
  intro profile available
  have read : configRead req client = (call (readClientConfig profile req.realm) client.config).1 :=
    by simp [configRead, available]
  unfold readConfig
  refine Ends.bind (Ends.bind_get (Ends.bind_set (Ends.of_lift ?_)))
  rw [← read]
  cases ((call (readClientConfig profile req.realm) client.config).2.mapError
      fun _ => Krb5Error.custom EINVAL) with
  | error e => exact .failed
  | ok _ =>
      refine Ends.bind_get ?_
      split
      · next unconfigured =>
          simp only [Bool.and_eq_true, Bool.not_eq_true', Option.isNone_iff_eq_none]
            at unconfigured
          exact Ends.of_pure (.unconfigured unconfigured.1 unconfigured.2)
      · next configured =>
          refine initParty_outcome req fun named absent => configured ?_
          simp [named, absent]

end PkinitClient

end Kurbu5Pkinit

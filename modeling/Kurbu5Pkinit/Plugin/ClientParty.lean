import Kurbu5Pkinit.Crypto.CmsRoundTrip
import Kurbu5Pkinit.Plugin.ClientOutcomes
import Kurbu5Pkinit.Reference.Laws
import Kurbu5Pkinit.Reference.Plugin

/-!
# Whose request the plugin sends

One module object serves anonymous and named exchanges in turn. What it sends
belongs to the party set up by the latest successful `init_etype_info`, as long
as that call kept nothing an earlier one left: a state that still holds a key,
a state it had no identity to replace, an identity that waits for its
password. `OrderlyInit` names the calls that leave nothing of another party
behind.
-/

set_option autoImplicit false

namespace Kurbu5Pkinit

open Library PkinitClient

variable {platform : Platform} {varlink : Varlink} {client client' : PkinitClient}
  {history : List PluginEvent}

/-! ## The invariant -/

/-- The held state and a waiting identity belong to the latest party. -/
structure PartyHeld (platform : Platform) (history : List PluginEvent) (client : PkinitClient) :
    Prop where
  pending : ∀ p, client.pendingPkcs12 = some p → latestMode history = some false ∧
    ∃ identityStr, client.config.identity = some identityStr ∧
      IdentitySource.parse identityStr = .ok (.pkcs12 p.path)
  anonymous : ∀ s, client.state = some s → s.isAnonymous = true →
    latestMode history = some true ∧ s.identity = .anonymous
  named : ∀ s, client.state = some s → s.isAnonymous = false →
    latestMode history = some false ∧ ∃ identityStr, client.config.identity = some identityStr ∧
      LoadedFrom platform identityStr s.identity

/-- The call, if it is a successful `init_etype_info`, leaves nothing of
another party behind. For the anonymous principal: no identity waits for a
password, and a state that still holds a key is anonymous. For a named one: a
held anonymous state has no keys, and is replaced because the configured
identity loads at once. -/
structure OrderlyInit (platform : Platform) (e : PluginEvent) : Prop where
  anonymous : ∀ req, e.input = .initEtypeInfo req → e.output = .done (.ok ()) →
    req.isAnonymous = true → e.before.pendingPkcs12 = none ∧
    ∀ s, e.before.state = some s → e.before.holdsKeys = true → s.isAnonymous = true
  named : ∀ req, e.input = .initEtypeInfo req → e.output = .done (.ok ()) →
    req.isAnonymous = false → ∀ s, e.before.state = some s → s.isAnonymous = true →
    e.before.holdsKeys = false ∧ ∃ identityStr source identity,
      (configRead req e.before).identity = some identityStr ∧
      IdentitySource.parse identityStr = .ok source ∧
      PkinitIdentity.load platform req.instant source = .ok identity

theorem buildClient_identity {instant : Instant} {identity : PkinitIdentity}
    {trustStore : TrustStore} {config : PkinitClientConfig} {serverPrincipal : Option String}
    {isAnonymous : Bool} :
    (buildClient varlink instant identity trustStore config serverPrincipal isAnonymous).identity =
      identity := by
  unfold buildClient
  cases serverPrincipal <;> (dsimp only; split) <;> rfl

theorem buildClient_isAnonymous {instant : Instant} {identity : PkinitIdentity}
    {trustStore : TrustStore} {config : PkinitClientConfig} {serverPrincipal : Option String}
    {isAnonymous : Bool} :
    (buildClient varlink instant identity trustStore config serverPrincipal
      isAnonymous).isAnonymous = isAnonymous := by
  unfold buildClient
  cases serverPrincipal <;> (dsimp only; split) <;> rfl

/-! ## One step -/

theorem partyHeld_init : PartyHeld platform [] {} where
  pending := fun p waits => absurd waits (Option.some_ne_none p).symm
  anonymous := fun s present => absurd present (Option.some_ne_none s).symm
  named := fun s present => absurd present (Option.some_ne_none s).symm

/-- A call that sets nobody up leaves the latest party as it was. -/
theorem PartyHeld.of_quiet {e : PluginEvent} (held : PartyHeld platform history client)
    (quiet : e.setsUp = none) : PartyHeld platform (e :: history) client := by
  have same : latestMode (e :: history) = latestMode history := by simp [latestMode, quiet]
  exact ⟨same ▸ held.pending, same ▸ held.anonymous, same ▸ held.named⟩

theorem PartyHeld.of_config (held : PartyHeld platform history client)
    {config : PkinitClientConfig}
    (kept : ∀ identity, client.config.identity = some identity →
      config.identity = some identity) :
    PartyHeld platform history { client with config := config } where
  pending := by
    intro p waits
    obtain ⟨latest, identityStr, configured, parsed⟩ := held.pending p waits
    exact ⟨latest, identityStr, kept identityStr configured, parsed⟩
  anonymous := held.anonymous
  named := by
    intro s present mode
    obtain ⟨latest, identityStr, configured, loaded⟩ := held.named s present mode
    exact ⟨latest, identityStr, kept identityStr configured, loaded⟩

theorem PartyHeld.of_continues (held : PartyHeld platform history client)
    (continues : Continues client client') : PartyHeld platform history client' where
  pending := by
    rw [continues.pending, continues.config]
    exact held.pending
  anonymous := by
    intro s' present mode
    obtain ⟨s, present, same⟩ := continues.state s' present
    rw [same.mode] at mode
    rw [same.identity]
    exact held.anonymous s present mode
  named := by
    intro s' present mode
    obtain ⟨s, present, same⟩ := continues.state s' present
    rw [same.mode] at mode
    rw [same.identity, continues.config]
    exact held.named s present mode

theorem PartyHeld.of_finish {req : ProcessRequest} {r : Except Krb5Error Unit}
    (held : PartyHeld platform history client)
    (outcome : FinishOutcome platform varlink req client client' r) :
    PartyHeld platform history client' := by
  cases outcome with
  | idle => exact held
  | failed => exact ⟨nofun, held.anonymous, held.named⟩
  | finished waited loaded =>
      obtain ⟨latest, identityStr, configured, parsed⟩ := held.pending _ waited
      refine ⟨nofun, ?_, ?_⟩
      · rintro _ ⟨⟩ mode
        rw [buildClient_isAnonymous] at mode
        cases mode
      · rintro _ ⟨⟩ _
        rw [buildClient_identity]
        exact ⟨latest, identityStr, configured, .withPassword parsed loaded⟩

theorem PartyHeld.of_init {req : EtypeInfoRequest} {r : Except Krb5Error Unit}
    (held : PartyHeld platform history client)
    (outcome : InitOutcome platform varlink req client client' r)
    (orderly : OrderlyInit platform ⟨client, .initEtypeInfo req, .done r, client'⟩) :
    PartyHeld platform (⟨client, .initEtypeInfo req, .done r, client'⟩ :: history) client' := by
  cases outcome with
  | failed => exact (held.of_config fun _ => configRead_identity).of_quiet rfl
  | kept holds =>
      cases mode : req.isAnonymous with
      | true =>
          obtain ⟨nothing, anonymous⟩ := orderly.anonymous req rfl rfl mode
          refine ⟨?_, ?_, ?_⟩
          · exact fun p waits => absurd (nothing.symm.trans waits) nofun
          · exact fun s present isAnonymous => ⟨congrArg some mode,
              (held.anonymous s present isAnonymous).2⟩
          · exact fun s present named => absurd ((anonymous s present holds).symm.trans named) nofun
      | false =>
          refine ⟨?_, ?_, ?_⟩
          · exact fun p waits => ⟨congrArg some mode, (held.pending p waits).2⟩
          · intro s present isAnonymous
            have dropped := (orderly.named req rfl rfl mode s present isAnonymous).1
            exact absurd (holds.symm.trans dropped) nofun
          · exact fun s present named => ⟨congrArg some mode, (held.named s present named).2⟩
  | unconfigured named absent =>
      -- Without an identity there never was a named party, nor a pending one.
      have never : ∀ identity, client.config.identity ≠ some identity := fun identity configured =>
        absurd (absent.symm.trans (configRead_identity configured)) nofun
      refine ⟨?_, ?_, ?_⟩
      · intro p waits
        obtain ⟨_, identityStr, configured, _⟩ := held.pending p waits
        exact absurd configured (never identityStr)
      · intro s present isAnonymous
        obtain ⟨_, _, _, _, configured, _⟩ := orderly.named req rfl rfl named s present isAnonymous
        exact absurd (absent.symm.trans configured) nofun
      · intro s present mode
        obtain ⟨_, identityStr, configured, _⟩ := held.named s present mode
        exact absurd configured (never identityStr)
  | anonymous isAnonymous =>
      obtain ⟨nothing, _⟩ := orderly.anonymous req rfl rfl isAnonymous
      refine ⟨?_, ?_, ?_⟩
      · exact fun p waits => absurd (nothing.symm.trans waits) nofun
      · rintro _ ⟨⟩ _
        exact ⟨congrArg some isAnonymous, buildClient_identity⟩
      · rintro _ ⟨⟩ named
        rw [buildClient_isAnonymous] at named
        cases named
  | loaded named configured parsed loads =>
      refine ⟨nofun, ?_, ?_⟩
      · rintro _ ⟨⟩ isAnonymous
        rw [buildClient_isAnonymous] at isAnonymous
        cases isAnonymous
      · rintro _ ⟨⟩ _
        rw [buildClient_identity]
        exact ⟨congrArg some named, _, configured, .atOnce parsed loads⟩
  | waiting named configured parsed asks =>
      refine ⟨?_, ?_, ?_⟩
      · rintro _ ⟨⟩
        exact ⟨congrArg some named, _, configured, parsed⟩
      · intro s present isAnonymous
        obtain ⟨_, _, _, _, configured', parsed', loads⟩ :=
          orderly.named req rfl rfl named s present isAnonymous
        obtain rfl := Option.some.inj (configured.symm.trans configured')
        obtain rfl := Except.ok.inj (parsed.symm.trans parsed')
        exact absurd (asks.symm.trans loads) nofun
      · intro s present mode
        obtain ⟨_, identityStr, configured', loaded⟩ := held.named s present mode
        exact ⟨congrArg some named, identityStr, configRead_identity configured', loaded⟩

/-! ## Runs -/

/-- What the call sent, and asks the broker, belongs to the party of the
latest successful `init_etype_info` before it. -/
structure BelongsToLatestParty (platform : Platform) (varlink : Varlink)
    (older : List PluginEvent) (e : PluginEvent) : Prop where
  requests : ∀ reply pa, e.output = .reply (.ok reply) → pa ∈ reply.paData →
    (latestMode older = some true ∧ RequestUnsigned platform pa.contents) ∨
      (latestMode older = some false ∧ ∃ identityStr identity,
        e.after.config.identity = some identityStr ∧ LoadedFrom platform identityStr identity ∧
        RequestSignedBy platform identity pa.contents)
  /-- The state `process` works with is the one it holds once a pending
  identity is settled. -/
  questions : ∀ req s signerCertDer allCertsDer broker question, e.input = .process req →
    (call (finishPendingPkcs12 platform varlink req) e.before).1.state = some s →
    s.kdcTrustRequest signerCertDer allCertsDer = some (broker, question) →
    latestMode older = some question.interactive

theorem interactive_of_kdcTrustRequest {s : PkinitClientState} {signerCertDer : Bytes}
    {allCertsDer : List Bytes} {broker : KdcCaTrustBroker} {question : KdcTrustRequest}
    (asked : s.kdcTrustRequest signerCertDer allCertsDer = some (broker, question)) :
    question.interactive = s.isAnonymous := by
  simp only [PkinitClientState.kdcTrustRequest, Option.bind_eq_bind, Option.bind_eq_some_iff,
    Option.pure_def, Option.some.injEq, Prod.mk.injEq] at asked
  obtain ⟨_, _, _, _, _, _, _, rfl⟩ := asked
  rfl

/-- A held party's requests are unsigned or signed as its mode says. -/
theorem PartyHeld.requests (nonempty : CertificatesNonempty platform.files)
    (held : PartyHeld platform history client) {r : Except Krb5Error ProcessReply}
    (serves : Serves platform client client' r) {reply : ProcessReply} {pa : PaData}
    (ok : r = .ok reply) (sent : pa ∈ reply.paData) :
    (latestMode history = some true ∧ RequestUnsigned platform pa.contents) ∨
      (latestMode history = some false ∧ ∃ identityStr identity,
        client'.config.identity = some identityStr ∧ LoadedFrom platform identityStr identity ∧
        RequestSignedBy platform identity pa.contents) := by
  obtain ⟨s, present, made⟩ := serves.requests reply pa ok sent
  cases mode : s.isAnonymous with
  | true =>
      obtain ⟨latest, anonymous⟩ := held.anonymous s present mode
      rw [anonymous] at made
      exact .inl ⟨latest, made.unsigned⟩
  | false =>
      obtain ⟨latest, identityStr, configured, loaded⟩ := held.named s present mode
      rw [serves.continues.config]
      exact .inr ⟨latest, identityStr, s.identity, configured, loaded,
        made.signed (loaded.certDer_ne_nil nonempty)⟩

theorem PartyHeld.questions {req : ProcessRequest} (held : PartyHeld platform history client)
    {s : PkinitClientState} {signerCertDer : Bytes} {allCertsDer : List Bytes}
    {broker : KdcCaTrustBroker} {question : KdcTrustRequest}
    (present : (call (finishPendingPkcs12 platform varlink req) client).1.state = some s)
    (asked : s.kdcTrustRequest signerCertDer allCertsDer = some (broker, question)) :
    latestMode history = some question.interactive := by
  have settled := held.of_finish (finishPendingPkcs12_outcome platform varlink req client)
  rw [interactive_of_kdcTrustRequest asked]
  cases mode : s.isAnonymous with
  | true => exact (settled.anonymous s present mode).1
  | false => exact (settled.named s present mode).1

/-- A call that answers no padata and is no `process` sends and asks nothing. -/
theorem belongsToLatestParty_of_done {e : PluginEvent} {result : Except Krb5Error Unit}
    (done : e.output = .done result) (noProcess : ∀ req, e.input ≠ .process req) :
    BelongsToLatestParty platform varlink history e where
  requests := by
    intro reply pa ok
    rw [done] at ok
    cases ok
  questions := fun req _ _ _ _ _ isProcess => absurd isProcess (noProcess req)

theorem partyHeld_step (nonempty : CertificatesNonempty platform.files)
    (history : List PluginEvent) (client : PkinitClient) (i : PluginCall)
    (held : PartyHeld platform history client)
    (orderly : OrderlyInit platform ((pluginMachine platform varlink).event client i)) :
    BelongsToLatestParty platform varlink history
        ((pluginMachine platform varlink).event client i) ∧
      PartyHeld platform ((pluginMachine platform varlink).event client i :: history)
        (pluginMachine platform varlink client i).1 := by
  cases i with
  | initEtypeInfo req =>
      have outcome := initEtypeInfo_outcome platform varlink req client
      exact ⟨belongsToLatestParty_of_done rfl (fun _ => PluginCall.noConfusion),
        held.of_init outcome orderly⟩
  | supplyGicOpts attr value =>
      obtain ⟨config, left, kept⟩ := supplyGicOpts_outcome attr value client
      refine ⟨belongsToLatestParty_of_done rfl (fun _ => PluginCall.noConfusion),
        PartyHeld.of_quiet ?_ rfl⟩
      have configured := held.of_config kept
      rw [← left] at configured
      exact configured
  | tryagain req typedData =>
      have serves := tryagain_outcome platform req typedData client
      refine ⟨⟨fun reply pa ok sent => held.requests nonempty serves ?_ sent, ?_⟩,
        (held.of_continues serves.continues).of_quiet rfl⟩
      · exact PluginAnswer.reply.inj ok
      · rintro _ _ _ _ _ _ ⟨⟩
  | process req =>
      obtain ⟨settled, _, finished, serves⟩ := process_outcome platform varlink req client
      have settledHeld := held.of_finish finished
      refine ⟨⟨fun reply pa ok sent => settledHeld.requests nonempty serves ?_ sent, ?_⟩,
        (settledHeld.of_continues serves.continues).of_quiet rfl⟩
      · exact PluginAnswer.reply.inj ok
      · rintro _ s _ _ broker question ⟨⟩ present asked
        exact held.questions present asked

/-- **In a run whose calls of `init_etype_info` are orderly, the plugin never
mixes the anonymous and the named exchange.** -/
theorem orderly_plugin_separates_parties (platform : Platform) (varlink : Varlink)
    (nonempty : CertificatesNonempty platform.files) (history : List PluginEvent)
    (client : PkinitClient) (run : Run (pluginMachine platform varlink) {} history client)
    (orderly : ∀ e ∈ history, OrderlyInit platform e) :
    Each (BelongsToLatestParty platform varlink) history :=
  (Run.rule (J := PartyHeld platform) (A := fun _ => OrderlyInit platform)
    (P := BelongsToLatestParty platform varlink) partyHeld_init (partyHeld_step nonempty) run
    (each_iff_forall_mem.mpr orderly)).1

/-! ## A signed request is no unsigned one -/

theorem RequestUnsigned.not_signedBy (codecs : EnvelopeCodecs platform.synta)
    (requests : platform.synta.paPkAsReq.RoundTrips) {request : Bytes}
    (unsigned : RequestUnsigned platform request) (identity : PkinitIdentity) :
    ¬ RequestSignedBy platform identity request := by
  rintro ⟨instant, signerKey, authPackDer, signedEnvelope, _, created, signedRequest⟩
  obtain ⟨bare, envelope, noSigners, _, wrapped, unsignedRequest⟩ := unsigned
  obtain ⟨signedData, signerInfo, _, wrappedSigned, signs⟩ := createSignedData_eq_ok created
  have same := requests.injective unsignedRequest signedRequest
  simp only [PaPkAsReq.mk.injEq, and_true] at same
  subst same
  have left := unwrapSignedData_wrapSignedData codecs wrapped
  have right := unwrapSignedData_wrapSignedData codecs wrappedSigned
  obtain rfl := Except.ok.inj (left.symm.trans right)
  rw [signs.signers] at noSigners
  cases noSigners

/-- A module that holds an anonymous state sends unsigned requests. -/
theorem unsigned_of_process {varlink : Varlink} {req : ProcessRequest} {s : PkinitClientState}
    {pa : PaData}
    (nothing : client.pendingPkcs12 = none) (present : client.state = some s)
    (anonymous : s.identity = .anonymous)
    (sent : pa ∈ ((pluginMachine platform varlink).event client (.process req)).output.sent) :
    RequestUnsigned platform pa.contents := by
  obtain ⟨settled, _, finished, serves⟩ := process_outcome platform varlink req client
  have kept : settled.state = some s := by
    cases finished with
    | idle | failed => exact present
    | finished waited => exact absurd (nothing.symm.trans waited) nofun
  rw [Machine.event_output, pluginMachine, Prod.map_snd] at sent
  cases result : (call (process platform varlink req) client).2 with
  | error e =>
      rw [result] at sent
      exact absurd sent List.not_mem_nil
  | ok reply =>
      rw [result] at sent
      obtain ⟨s', present', made⟩ := serves.requests reply pa result sent
      obtain rfl := Option.some.inj (kept.symm.trans present')
      rw [anonymous] at made
      exact made.unsigned

/-- Armor was asked for and then Alice's ticket; what is sent for Alice is
unsigned, and her exchange may establish new trust. -/
theorem unsigned_request_for_alice :
    ∃ (history : List PluginEvent) (client : PkinitClient) (s : PkinitClientState) (pa : PaData),
      Run (pluginMachine Reference.recorded Reference.silentVarlink) {} history client ∧
      latestMode history = some false ∧
      client.config.identity = some Reference.aliceSource ∧
      client.state = some s ∧
      (s.kdcTrustRequest Reference.kdcCertDer [Reference.kdcCertDer]).map
        (fun asked => asked.2.interactive) = some true ∧
      pa ∈ ((pluginMachine Reference.recorded Reference.silentVarlink).event client
        Reference.askAsAlice).output.sent ∧
      RequestUnsigned Reference.recorded pa.contents ∧
      ∀ identity, ¬ RequestSignedBy Reference.recorded identity pa.contents := by
  obtain ⟨latest, configured, nothing⟩ : latestMode Reference.mixedRun.1 = some false ∧
      Reference.mixedRun.2.config.identity = some Reference.aliceSource ∧
      Reference.mixedRun.2.pendingPkcs12 = none := by
    decide +kernel
  obtain ⟨held, sends⟩ : (Reference.mixedRun.2.state.map fun s => (s.identity,
        (s.kdcTrustRequest Reference.kdcCertDer [Reference.kdcCertDer]).map
          fun asked => asked.2.interactive)) = some (.anonymous, some true) ∧
      0 < ((pluginMachine Reference.recorded Reference.silentVarlink).event
        Reference.mixedRun.2 Reference.askAsAlice).output.sent.length := by
    decide +kernel
  obtain ⟨s, present, shape⟩ := Option.map_eq_some_iff.mp held
  obtain ⟨anonymous, interactive⟩ := Prod.mk.inj shape
  obtain ⟨pa, sent⟩ := List.exists_mem_of_length_pos sends
  have unsigned := unsigned_of_process nothing present anonymous sent
  exact ⟨Reference.mixedRun.1, Reference.mixedRun.2, s, pa, Reference.run_pluginRun _, latest,
    configured, present, interactive, sent, unsigned,
    unsigned.not_signedBy Reference.synta_envelopeCodecs Reference.synta_messageCodecs.paPkAsReq⟩

theorem orderlyInit_of_process {varlink : Varlink} (req : ProcessRequest) :
    OrderlyInit platform ((pluginMachine platform varlink).event client (.process req)) where
  anonymous := nofun
  named := nofun

/-- A module that holds nothing yet. -/
theorem orderlyInit_of_empty {varlink : Varlink} (req : EtypeInfoRequest) :
    OrderlyInit platform ((pluginMachine platform varlink).event {} (.initEtypeInfo req)) where
  anonymous _ _ _ _ := ⟨rfl, fun s present => absurd present (Option.some_ne_none s).symm⟩
  named _ _ _ _ s present := absurd present (Option.some_ne_none s).symm

/-- A named principal, whose identity loads, on a module that holds no keys. -/
theorem orderlyInit_of_loads {varlink : Varlink} {req : EtypeInfoRequest} {identityStr : String}
    {source : IdentitySource} {identity : PkinitIdentity} (isNamed : req.isAnonymous = false)
    (noKeys : client.holdsKeys = false)
    (configured : (configRead req client).identity = some identityStr)
    (parsed : IdentitySource.parse identityStr = .ok source)
    (loads : PkinitIdentity.load platform req.instant source = .ok identity) :
    OrderlyInit platform ((pluginMachine platform varlink).event client (.initEtypeInfo req)) where
  anonymous := by
    rintro _ ⟨⟩ _ isAnonymous
    rw [isNamed] at isAnonymous
    cases isAnonymous
  named := by
    rintro _ ⟨⟩ _ _ _ _ _
    exact ⟨noKeys, identityStr, source, identity, configured, parsed, loads⟩

/-- Armor was given up before Alice's ticket was asked for. -/
theorem orderly_plugin_separates_parties_aliceRun :
    Each (BelongsToLatestParty Reference.recorded Reference.silentVarlink)
        Reference.aliceRun.1 ∧
      ((pluginMachine Reference.recorded Reference.silentVarlink).event Reference.freshModule
        Reference.askAsAlice).output.sent = [⟨PA_PK_AS_REQ, Reference.firstRequest⟩] := by
  have run : Run (pluginMachine Reference.recorded Reference.silentVarlink) {}
      Reference.aliceRun.1 Reference.aliceRun.2 := Reference.run_pluginRun _
  refine ⟨orderly_plugin_separates_parties Reference.recorded Reference.silentVarlink
    Reference.recorded_certificatesNonempty _ _ run ?_, by decide +kernel⟩
  rw [Reference.history_of_aliceRun]
  simp only [List.forall_mem_cons, List.not_mem_nil, false_imp_iff, implies_true, and_true]
  obtain ⟨noKeys, configured⟩ : Reference.armorModule.holdsKeys = false ∧
      (configRead (Reference.initRequest Reference.alicePrincipal)
        Reference.armorModule).identity = some Reference.aliceSource := by
    decide
  obtain ⟨parsed, loads⟩ : IdentitySource.parse Reference.aliceSource =
        .ok (.file "/etc/pki/alice.pem" "/etc/pki/alice.key") ∧
      PkinitIdentity.load Reference.recorded Reference.clientInstant
        (.file "/etc/pki/alice.pem" "/etc/pki/alice.key") = .ok Reference.aliceIdentity := by
    decide +kernel
  exact ⟨orderlyInit_of_process _, orderlyInit_of_process _,
    orderlyInit_of_loads (by decide) noKeys configured parsed loads,
    orderlyInit_of_empty _⟩

end Kurbu5Pkinit

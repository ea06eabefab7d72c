import Kurbu5Pkinit.Agreement
import Kurbu5Pkinit.Plugin.ClientOutcomes
import Kurbu5Pkinit.Reference.Laws
import Kurbu5Pkinit.Reference.Plugin

/-!
# Freshness tokens

The KDC hands out a token, and the client echoes it in the next `AuthPack`.
The token is kept in the state of the exchange, so a state that is built anew,
by `init_etype_info` or for an identity that waited for its password, has none.
In every run the `AuthPack` carries the token received since the state was
built.

The option that switches freshness off is recorded in the configuration, and
nothing reads it there: what follows it are the requests for which there is no
token anyway (`freshness_followed`).
-/

set_option autoImplicit false

namespace Kurbu5Pkinit

open Library PkinitClient

variable {platform : Platform} {varlink : Varlink} {client client' : PkinitClient}

/-! ## What a history says about freshness -/

/-- The user's option that switches freshness off. -/
def PluginCall.disablesFreshness : PluginCall → Bool
  | .supplyGicOpts attr value =>
      attr = "disable_freshness" ∧ value.map Char.toLower ∈ ["yes", "true", "1"]
  | _ => false

def FreshnessDisabled (history : List PluginEvent) : Prop :=
  ∃ e ∈ history, e.input.disablesFreshness = true

/-- The call built the state of an exchange. `init_etype_info` does for the
anonymous principal and for an identity that needs no password, where no key is
held; `process` does for an identity that waited. -/
def PluginEvent.buildsState (platform : Platform) (varlink : Varlink) (e : PluginEvent) : Bool :=
  match e.input with
  | .initEtypeInfo req =>
      e.output = .done (.ok ()) && !e.before.holdsKeys &&
        (req.isAnonymous || e.after.config.identity.isSome && e.after.pendingPkcs12.isNone)
  | .process req =>
      e.before.pendingPkcs12.isSome &&
        (call (finishPendingPkcs12 platform varlink req) e.before).2 = .ok ()
  | _ => false

/-- The token the KDC handed out in this call. -/
def PluginEvent.tokenReceived (e : PluginEvent) : Option Bytes :=
  match e.input, e.output with
  | .process req, .reply (.ok _) =>
      if req.paData.paType = PA_AS_FRESHNESS then some req.paData.contents else none
  | _, _ => none

section Tokens

variable (platform varlink)

/-- What is left of the latest token when the call gets to work. -/
def PluginEvent.tokenLeft (e : PluginEvent) (latest : Option Bytes) : Option Bytes :=
  if e.buildsState platform varlink then none else latest

/-- The most recent token since the state of the exchange was built. -/
def latestToken : List PluginEvent → Option Bytes
  | [] => none
  | e :: older => e.tokenReceived <|> e.tokenLeft platform varlink (latestToken older)

/-- The token an `AuthPack` of this call has to carry. -/
def tokenInForce (older : List PluginEvent) (e : PluginEvent) : Option Bytes :=
  e.tokenLeft platform varlink (latestToken platform varlink older)

end Tokens

/-- The `AuthPack` of the request carries this token. -/
def CarriesToken (platform : Platform) (token : Option Bytes) (request : Bytes) : Prop :=
  ∃ instant identity authPack authPackDer envelope,
    authPack.pkAuthenticator.freshnessToken = token ∧
    platform.synta.authPack.toDer authPack = .ok authPackDer ∧
    signAuthPack platform instant identity authPackDer = .ok envelope ∧
    platform.synta.paPkAsReq.toDer { signedAuthPack := envelope } = .ok request

/-- What the call sent carries no token where freshness is switched off, and
the token in force otherwise. -/
def FollowsFreshness (platform : Platform) (varlink : Varlink) (older : List PluginEvent)
    (e : PluginEvent) : Prop :=
  ∀ pa ∈ e.output.sent, ∃ token, CarriesToken platform token pa.contents ∧
    (FreshnessDisabled older → token = none) ∧
    (¬ FreshnessDisabled older → token = tokenInForce platform varlink older e)

/-- Where freshness is switched off, there is no token to echo. -/
def HasNoUnwantedToken (platform : Platform) (varlink : Varlink) (older : List PluginEvent)
    (e : PluginEvent) : Prop :=
  FreshnessDisabled older → tokenInForce platform varlink older e = none

/-! ## One request has one token -/

theorem CarriesToken.unique (envelopes : EnvelopeCodecs platform.synta)
    (messages : MessageCodecs platform.synta) {token token' : Option Bytes} {request : Bytes}
    (carries : CarriesToken platform token request)
    (carries' : CarriesToken platform token' request) : token = token' := by
  obtain ⟨_, _, authPack, der, envelope, rfl, encoded, signed, sent⟩ := carries
  obtain ⟨_, _, authPack', der', envelope', rfl, encoded', signed', sent'⟩ := carries'
  obtain rfl : envelope = envelope' :=
    congrArg PaPkAsReq.signedAuthPack (messages.paPkAsReq.injective sent sent')
  obtain ⟨signedData, unwrapped, content⟩ := signAuthPack_holds envelopes signed
  obtain ⟨signedData', unwrapped', content'⟩ := signAuthPack_holds envelopes signed'
  obtain rfl := Except.ok.inj (unwrapped.symm.trans unwrapped')
  obtain rfl := Option.some.inj (content.symm.trans content')
  rw [messages.authPack.injective encoded encoded']

theorem freshnessToken_of_buildPkAuthenticator {token : Option Bytes} {nonce cusec : Int32}
    {ctime : Int} {reqBodyDer : Bytes} {pkAuth : PkAuthenticator}
    (built : buildPkAuthenticator platform token nonce ctime cusec reqBodyDer = .ok pkAuth) :
    pkAuth.freshnessToken = token := by
  simp only [buildPkAuthenticator, bind_eq_ok, pure_eq_ok, Except.ok.injEq] at built
  obtain ⟨_, _, _, _, _, _, rfl⟩ := built
  rfl

/-- A request carries the token of the state it was built in. -/
theorem carriesToken_of_build {instant : Instant} {s s' : PkinitClientState}
    {input : PkinitClientState.RequestInput} {request : Bytes}
    (outcome : PkinitClientState.BuildOutcome platform instant s input s' (.ok request)) :
    CarriesToken platform s.freshnessToken request := by
  have carried : ∃ spkiDer dhNonce useKem, PkinitClientState.RequestCarries platform instant s
      input spkiDer dhNonce useKem request := by
    cases outcome with
    | kem _ _ _ carries | dh _ _ _ _ carries => exact ⟨_, _, _, carries⟩
  obtain ⟨_, _, _, pkAuth, element, authenticated, _, encoded⟩ := carried
  simp only [PkinitClientState.encodeRequest, bind_eq_ok, mapError_eq_ok] at encoded
  obtain ⟨_, _, authPackDer, packed, envelope, signed, request⟩ := encoded
  exact ⟨instant, s.identity, _, authPackDer, envelope,
    freshnessToken_of_buildPkAuthenticator authenticated, packed, signed, request⟩

theorem freshnessToken_of_steps {s s' : PkinitClientState} (steps : CoreSteps platform s s') :
    s'.freshnessToken = s.freshnessToken := by
  induction steps with
  | refl s => rfl
  | trans _ _ first second => exact second.trans first
  | selection outcome =>
      cases outcome with
      | unchanged => rfl
      | @applied offered _ => cases offered <;> rfl
  | build outcome => cases outcome <;> rfl
  | reply outcome => cases outcome <;> rfl

theorem buildClient_freshnessToken {instant : Instant} {identity : PkinitIdentity}
    {trustStore : TrustStore} {config : PkinitClientConfig} {serverPrincipal : Option String}
    {isAnonymous : Bool} :
    (buildClient varlink instant identity trustStore config serverPrincipal
      isAnonymous).freshnessToken = none := by
  unfold buildClient
  cases serverPrincipal <;> (dsimp only; split) <;> rfl

/-! ## The invariant -/

/-- The token of the held state, if a state is held. -/
def TokenHeld (client : PkinitClient) (token : Option Bytes) : Prop :=
  ∀ s, client.state = some s → s.freshnessToken = token

theorem TokenHeld.of_steps {token : Option Bytes} (held : TokenHeld client token)
    (steps : StepsTo platform client client') : TokenHeld client' token := by
  intro s' present
  obtain ⟨s, present, steps⟩ := steps.state s' present
  rw [freshnessToken_of_steps steps]
  exact held s present

/-- What a call sends carries the token of the state it found. -/
theorem TokenHeld.carries {token : Option Bytes} {request : Bytes} (held : TokenHeld client token)
    (built : BuiltFrom platform client request) : CarriesToken platform token request := by
  obtain ⟨s, s₁, _, _, _, present, steps, outcome⟩ := built
  rw [← held s present, ← freshnessToken_of_steps steps]
  exact carriesToken_of_build outcome

/-- Settling an identity that waited builds a state without a token. -/
theorem TokenHeld.of_finish {req : ProcessRequest} {token : Option Bytes} {settled : PkinitClient}
    (held : TokenHeld client token)
    (settles : call (finishPendingPkcs12 platform varlink req) client = (settled, .ok ())) :
    TokenHeld settled (if client.pendingPkcs12.isSome then none else token) := by
  have outcome := finishPendingPkcs12_outcome platform varlink req client
  unfold Ends at outcome
  rw [settles] at outcome
  cases outcome with
  | idle nothing =>
      rw [nothing]
      exact held
  | finished waited =>
      rw [waited]
      rintro _ ⟨⟩
      exact buildClient_freshnessToken

/-! ## One step -/

/-- A module that holds a key is left as it is. -/
theorem initEtypeInfo_of_holdsKeys {req : EtypeInfoRequest} (holds : client.holdsKeys = true) :
    call (initEtypeInfo platform varlink req) client = (client, .ok ()) := by
  unfold initEtypeInfo
  rw [call_get_bind, if_pos holds]
  rfl

theorem TokenHeld.of_init {req : EtypeInfoRequest} {r : Except Krb5Error Unit}
    {token : Option Bytes} (held : TokenHeld client token) (noKeys : client.holdsKeys = false)
    (outcome : InitOutcome platform varlink req client client' r) :
    TokenHeld client' (PluginEvent.tokenLeft platform varlink
      ⟨client, .initEtypeInfo req, .done r, client'⟩ token) := by
  have fresh : ∀ {s : PkinitClientState}, client'.state = some s → s.freshnessToken = none →
      r = .ok () → (req.isAnonymous = true ∨ client'.config.identity.isSome = true ∧
        client'.pendingPkcs12 = none) →
      TokenHeld client' (PluginEvent.tokenLeft platform varlink
        ⟨client, .initEtypeInfo req, .done r, client'⟩ token) := by
    rintro s present none rfl party s' present'
    obtain rfl := Option.some.inj (present.symm.trans present')
    rw [none, PluginEvent.tokenLeft, if_pos]
    rcases party with isAnonymous | ⟨configured, waits⟩
    · simp [PluginEvent.buildsState, noKeys, isAnonymous]
    · simp [PluginEvent.buildsState, noKeys, configured, waits]
  have same : ∀ {e : PluginEvent}, e.buildsState platform varlink = false →
      TokenHeld client (e.tokenLeft platform varlink token) := by
    intro e quiet
    rw [PluginEvent.tokenLeft, quiet]
    exact held
  cases outcome with
  | kept holds => exact Bool.noConfusion (holds.symm.trans noKeys)
  | failed => exact same rfl
  | unconfigured named absent => exact same (by simp [PluginEvent.buildsState, named, absent])
  | anonymous isAnonymous => exact fresh rfl buildClient_freshnessToken rfl (.inl isAnonymous)
  | loaded named configured =>
      exact fresh rfl buildClient_freshnessToken rfl (.inr ⟨by rw [configured]; rfl, rfl⟩)
  | waiting named => exact same (by simp [PluginEvent.buildsState, named])

/-- The latest token is held afterwards, and what was sent carried the one in
force. -/
structure Echoes (platform : Platform) (varlink : Varlink) (history : List PluginEvent)
    (e : PluginEvent) : Prop where
  held : TokenHeld e.after (latestToken platform varlink (e :: history))
  sent : ∀ pa ∈ e.output.sent,
    CarriesToken platform (tokenInForce platform varlink history e) pa.contents

variable {history : List PluginEvent}

theorem echoes_of_silent {e : PluginEvent} (silent : e.output.sent = [])
    (nothing : e.tokenReceived = none)
    (held : TokenHeld e.after (tokenInForce platform varlink history e)) :
    Echoes platform varlink history e where
  held := by
    rw [latestToken, nothing]
    exact held
  sent := by
    rw [silent]
    intro pa sent
    cases sent

/-- A call that worked on a held state echoes what that state had. -/
theorem echoes_of_works {i : PluginCall} {r : Except Krb5Error ProcessReply}
    {settled : PkinitClient}
    (nothing : PluginEvent.tokenReceived ⟨client, i, .reply r, client'⟩ = none)
    (held : TokenHeld settled
      (tokenInForce platform varlink history ⟨client, i, .reply r, client'⟩))
    (works : Works platform settled client' r) :
    Echoes platform varlink history ⟨client, i, .reply r, client'⟩ where
  held := by
    rw [latestToken, nothing]
    exact held.of_steps works.steps
  sent := by
    intro pa sent
    cases r with
    | error e => cases sent
    | ok reply => exact held.carries (works.requests reply pa rfl sent)

theorem echoes_of_process {req : ProcessRequest}
    (held : TokenHeld client (latestToken platform varlink history)) :
    Echoes platform varlink history
      ((pluginMachine platform varlink).event client (.process req)) := by
  have outcome := process_settles platform varlink req client
  unfold Ends at outcome
  rw [Machine.event, pluginMachine, Prod.map_fst, Prod.map_snd, id_eq]
  revert outcome
  generalize (call (process platform varlink req) client).1 = client'
  generalize (call (process platform varlink req) client).2 = r
  rintro (⟨e, settles, rfl⟩ | ⟨settled, settles, outcome⟩)
  · refine echoes_of_silent rfl rfl ?_
    have finished := finishPendingPkcs12_outcome platform varlink req client
    rw [Ends, settles] at finished
    have quiet : PluginEvent.buildsState platform varlink
        ⟨client, .process req, .reply (.error e), client'⟩ = false := by
      simp [PluginEvent.buildsState, settles]
    rw [tokenInForce, PluginEvent.tokenLeft, quiet]
    cases finished with
    | idle | failed => exact held
  · have settledHeld : TokenHeld settled (tokenInForce platform varlink history
        ⟨client, .process req, .reply r, client'⟩) := by
      simpa [tokenInForce, PluginEvent.tokenLeft, PluginEvent.buildsState, settles]
        using held.of_finish settles
    cases outcome with
    | noted token =>
        refine ⟨?_, fun pa sent => absurd sent List.not_mem_nil⟩
        have received : PluginEvent.tokenReceived
            ⟨client, .process req, .reply (.ok {}), { settled with
              state := settled.state.map fun (state : PkinitClientState) =>
                state.setFreshnessToken req.paData.contents }⟩ = some req.paData.contents :=
          if_pos token
        rw [latestToken, received]
        intro s' present
        obtain ⟨s, _, rfl⟩ := Option.map_eq_some_iff.mp present
        rfl
    | worked other works =>
        refine echoes_of_works ?_ settledHeld works
        cases r with
        | error e => rfl
        | ok reply => exact if_neg other

theorem echoes_step (i : PluginCall)
    (held : TokenHeld client (latestToken platform varlink history)) :
    Echoes platform varlink history ((pluginMachine platform varlink).event client i) := by
  cases i with
  | process req => exact echoes_of_process held
  | tryagain req typedData =>
      exact echoes_of_works rfl held (tryagain_works platform req typedData client)
  | supplyGicOpts attr value =>
      refine echoes_of_silent rfl rfl ?_
      obtain ⟨config, left, _⟩ := supplyGicOpts_outcome attr value client
      have after : ((pluginMachine platform varlink).event client
          (.supplyGicOpts attr value)).after = { client with config := config } := left
      rw [after]
      exact held
  | initEtypeInfo req =>
      refine echoes_of_silent rfl rfl ?_
      cases holds : client.holdsKeys with
      | false => exact held.of_init holds (initEtypeInfo_outcome platform varlink req client)
      | true =>
          have kept : call (initEtypeInfo platform varlink req) client = (client, .ok ()) :=
            initEtypeInfo_of_holdsKeys holds
          simpa [tokenInForce, PluginEvent.tokenLeft, PluginEvent.buildsState, Machine.event,
            pluginMachine, kept, holds] using held

/-! ## Runs -/

/-- In every run the latest token is held, and echoed. -/
theorem echoes_run (run : Run (pluginMachine platform varlink) {} history client) :
    Each (Echoes platform varlink) history ∧
      TokenHeld client (latestToken platform varlink history) := by
  have initial : TokenHeld {} (latestToken platform varlink []) :=
    fun s present => absurd present (Option.some_ne_none s).symm
  refine Run.rule (J := fun history client => TokenHeld client (latestToken platform varlink
    history)) (A := fun _ _ => True) initial (fun history client i held _ => ?_) run
    fun _ _ _ _ => trivial
  have echoes := echoes_step i held
  exact ⟨echoes, echoes.held⟩

theorem Echoes.follows {e : PluginEvent} (echoes : Echoes platform varlink history e)
    (unwanted : HasNoUnwantedToken platform varlink history e) :
    FollowsFreshness platform varlink history e :=
  fun pa sent => ⟨_, echoes.sent pa sent, unwanted, fun _ => rfl⟩

theorem Echoes.hasNoUnwantedToken (envelopes : EnvelopeCodecs platform.synta)
    (messages : MessageCodecs platform.synta) {e : PluginEvent}
    (echoes : Echoes platform varlink history e)
    (follows : FollowsFreshness platform varlink history e) :
    e.output.sent = [] ∨ HasNoUnwantedToken platform varlink history e := by
  cases sent : e.output.sent with
  | nil => exact .inl rfl
  | cons pa more =>
      have member : pa ∈ e.output.sent := sent ▸ List.mem_cons_self
      obtain ⟨token, carries, off, _⟩ := follows pa member
      have same := (echoes.sent pa member).unique envelopes messages carries
      exact .inr fun disabled => same.trans (off disabled)

/-- **In every run, a request follows the user's wish about freshness exactly
where the wish is not to have it or there is no token to leave out.** It then
carries the token received since the state of its exchange was built, or none. -/
theorem freshness_followed (platform : Platform) (varlink : Varlink) (history : List PluginEvent)
    (client : PkinitClient) (run : Run (pluginMachine platform varlink) {} history client) :
    Each (fun older e => HasNoUnwantedToken platform varlink older e →
        FollowsFreshness platform varlink older e) history ∧
      (EnvelopeCodecs platform.synta → MessageCodecs platform.synta →
        Each (fun older e => FollowsFreshness platform varlink older e →
          e.output.sent = [] ∨ HasNoUnwantedToken platform varlink older e) history) := by
  have echoes := (echoes_run run).1
  exact ⟨echoes.mono fun _ _ echoes => echoes.follows, fun envelopes messages =>
    echoes.mono fun _ _ echoes => echoes.hasNoUnwantedToken envelopes messages⟩

/-- Alice did not switch freshness off, and all her requests follow. -/
theorem freshness_followed_aliceRun :
    Each (FollowsFreshness Reference.recorded Reference.silentVarlink) Reference.aliceRun.1 := by
  have wanted : ∀ e ∈ Reference.aliceRun.1, e.input.disablesFreshness = false := by
    intro e member
    have input := input_mem_of_mem_exec member
    simp only [List.mem_cons, List.not_mem_nil, or_false] at input
    rcases input with input | input | input | input <;> rw [input] <;> rfl
  have run : Run (pluginMachine Reference.recorded Reference.silentVarlink) {}
    Reference.aliceRun.1 Reference.aliceRun.2 := Reference.run_pluginRun _
  have follows := (freshness_followed _ _ _ _ run).1
  intro newer e older split
  refine follows newer e older split ?_
  rintro ⟨e', member, disables⟩
  have present : e' ∈ Reference.aliceRun.1 := by
    rw [split]
    exact List.mem_append_right _ (List.mem_cons_of_mem e member)
  rw [wanted e' present] at disables
  cases disables

/-- Alice switched freshness off, and was given a token. -/
def Reference.disabledRun : List PluginEvent × PkinitClient :=
  Reference.pluginRun [.supplyGicOpts "disable_freshness" "yes",
    Reference.initFor Reference.alicePrincipal, Reference.giveToken]

/-- Her request carries the token. -/
theorem unwanted_token_echoed :
    ∃ (history : List PluginEvent) (client : PkinitClient) (pa : PaData),
      Run (pluginMachine Reference.recorded Reference.silentVarlink) {} history client ∧
      FreshnessDisabled history ∧
      pa ∈ ((pluginMachine Reference.recorded Reference.silentVarlink).event client
        Reference.askAsAlice).output.sent ∧
      CarriesToken Reference.recorded (some Reference.firstToken) pa.contents ∧
      ∀ token, CarriesToken Reference.recorded token pa.contents → token ≠ none := by
  obtain ⟨disabled, force, sends⟩ :
      Reference.disabledRun.1.any (fun e => e.input.disablesFreshness) = true ∧
      tokenInForce Reference.recorded Reference.silentVarlink Reference.disabledRun.1
        ((pluginMachine Reference.recorded Reference.silentVarlink).event Reference.disabledRun.2
          Reference.askAsAlice) = some Reference.firstToken ∧
      0 < ((pluginMachine Reference.recorded Reference.silentVarlink).event Reference.disabledRun.2
        Reference.askAsAlice).output.sent.length := by
    decide +kernel
  have run : Run (pluginMachine Reference.recorded Reference.silentVarlink) {}
    Reference.disabledRun.1 Reference.disabledRun.2 := Reference.run_pluginRun _
  obtain ⟨pa, sent⟩ := List.exists_mem_of_length_pos sends
  have carries := (echoes_step Reference.askAsAlice (echoes_run run).2).sent pa sent
  rw [force] at carries
  refine ⟨_, _, pa, run, by simpa [FreshnessDisabled] using disabled, sent, carries, ?_⟩
  rintro _ other rfl
  have same := carries.unique Reference.synta_envelopeCodecs Reference.synta_messageCodecs other
  cases same

end Kurbu5Pkinit

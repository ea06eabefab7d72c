import Kurbu5Pkinit.Brokerd.Pinning
import Kurbu5Pkinit.Brokerd.Provenance
import Kurbu5Pkinit.Library.Service
import Kurbu5Pkinit.Reference.Broker

/-!
# The broker as a service

The daemon answers `RequestTrust` and `ListTrustedRealms` on a socket, one call
at a time, whichever clients they come from. A client that times out leaves its
call behind: the daemon may serve it later, and the user's approval is then
kept although its answer reaches nobody.

Whatever the clients send and in whichever order they are served, an answer
that trusts a CA is the daemon's to the call of that number, and the user
approved the CA for that realm in that call or in an earlier one; an approval
is asked for in an interactive call only (`received_trust_was_approved`).
-/

set_option autoImplicit false

namespace Kurbu5Pkinit.Brokerd

open Library

/-! ## The interface -/

/-- `RequestTrust` as it travels. -/
structure RequestTrust where
  realm : String
  kdcPrincipal : String
  signerCert : String
  presentedCerts : List String
  interactive : Bool
  deriving DecidableEq, Repr

inductive KdcTrustError where
  | invalidRequest (reason : String)
  | internal (reason : String)
  deriving DecidableEq, Repr

inductive TrustMethod where
  | requestTrust (request : RequestTrust)
  | listTrustedRealms
  deriving DecidableEq, Repr

inductive TrustAnswer where
  | trust (result : Except KdcTrustError TrustReply)
  | realms (result : Except KdcTrustError TrustStoreReply)

/-- What the daemon adds to a call: its own clock, the peer's process, and the
user it can reach. -/
structure Attendance where
  instant : Instant
  clientPid : Option Int
  prompter : Prompter

/-- A call as the daemon serves it. -/
structure ServedCall where
  method : TrustMethod
  attendance : Attendance

def decodeAll (b : BrokerPlatform) (items : List String) : Option (List Bytes) :=
  items.mapM fun s => (b.base64.decode s).toOption

/-- The call of `decide` in a `RequestTrust`. -/
def RequestTrust.decideCall (request : RequestTrust) (b : BrokerPlatform)
    (attendance : Attendance) : Except KdcTrustError DecideCall := do
  let signer ← (b.base64.decode request.signerCert).mapError
    fun _ => .invalidRequest "signer_cert not base64"
  let presented ← okOr (decodeAll b request.presentedCerts)
    (.invalidRequest "presented_certs not base64")
  return {
    instant := attendance.instant
    realm := request.realm
    kdcPrincipal := request.kdcPrincipal
    clientPid := attendance.clientPid
    signerDer := signer
    presentedDer := presented
    interactive := request.interactive
    prompter := attendance.prompter }

def requestTrust (b : BrokerPlatform) (store : PinStore) (request : RequestTrust)
    (attendance : Attendance) : PinStore × Except KdcTrustError TrustReply :=
  match request.decideCall b attendance with
  | .error e => (store, .error e)
  | .ok call =>
      let (store', decided) := store.decide b call
      (store', .ok decided.reply)

/-- The daemon. -/
def serviceMachine (b : BrokerPlatform) : Machine PinStore ServedCall TrustAnswer
  | store, ⟨.requestTrust request, attendance⟩ =>
      let (store', result) := requestTrust b store request attendance
      (store', .trust result)
  | store, ⟨.listTrustedRealms, attendance⟩ =>
      (store, .realms (.ok ⟨store.trustedRealms attendance.instant.now⟩))

abbrev BrokerSignal : Type :=
  Signal PinStore ServedCall TrustMethod TrustAnswer

/-- The daemon serves what was sent. -/
def Serves (method : TrustMethod) (served : ServedCall) : Prop :=
  served.method = method

/-- Clients and the daemon, from a store without pins. -/
abbrev BrokerTraffic (b : BrokerPlatform) (path : Option String) (history : List BrokerSignal)
    (n : Network PinStore TrustMethod TrustAnswer) : Prop :=
  Traffic (serviceMachine b) Serves ⟨path, ∅⟩ history n

/-! ## The store behind it -/

/-- The decision a call led to, if it was one that decodes. -/
def decisionOf (b : BrokerPlatform) (e : Event PinStore ServedCall TrustAnswer) :
    Option BrokerEvent :=
  match e.input.method with
  | .requestTrust request =>
      ((request.decideCall b e.input.attendance).toOption).map ((brokerMachine b).event e.before)
  | .listTrustedRealms => none

/-- The decisions of a history, the latest first. -/
def decisions (b : BrokerPlatform) (history : List BrokerSignal) : List BrokerEvent :=
  (servedEvents history).filterMap (decisionOf b)

variable {b : BrokerPlatform} {path : Option String} {history older : List BrokerSignal}
  {n : Network PinStore TrustMethod TrustAnswer}

theorem decisionOf_of_decoded {e : Event PinStore ServedCall TrustAnswer} {request : RequestTrust}
    {call : DecideCall} (method : e.input.method = .requestTrust request)
    (decoded : request.decideCall b e.input.attendance = .ok call) :
    decisionOf b e = some ((brokerMachine b).event e.before call) := by
  unfold decisionOf
  rw [method]
  simp only [decoded, Except.toOption, Option.map_some]

theorem decisionOf_eq_some {e : Event PinStore ServedCall TrustAnswer} {decision : BrokerEvent}
    (decided : decisionOf b e = some decision) :
    ∃ request call, e.input.method = .requestTrust request ∧
      request.decideCall b e.input.attendance = .ok call ∧
      decision = (brokerMachine b).event e.before call := by
  unfold decisionOf at decided
  split at decided
  · next request method =>
      obtain ⟨call, decoded, rfl⟩ := Option.map_eq_some_iff.mp decided
      refine ⟨request, call, method, ?_, rfl⟩
      cases read : request.decideCall b e.input.attendance with
      | error e => simp [read, Except.toOption] at decoded
      | ok call' => simpa [read, Except.toOption] using decoded
  · cases decided

/-- A call of the service is a decision of the store, or leaves it alone. -/
theorem serviceMachine_step (b : BrokerPlatform) (store : PinStore) (served : ServedCall) :
    (decisionOf b ((serviceMachine b).event store served) = none ∧
        (serviceMachine b store served).1 = store) ∨
      ∃ call, decisionOf b ((serviceMachine b).event store served) =
          some ((brokerMachine b).event store call) ∧
        (serviceMachine b store served).1 = (brokerMachine b store call).1 := by
  obtain ⟨method, attendance⟩ := served
  cases method with
  | listTrustedRealms => exact .inl ⟨rfl, rfl⟩
  | requestTrust request =>
      unfold decisionOf
      simp only [Machine.event_input, Machine.event_before, serviceMachine, requestTrust]
      cases request.decideCall b attendance with
      | error e => exact .inl ⟨rfl, rfl⟩
      | ok call => exact .inr ⟨call, rfl, rfl⟩

/-- **The decisions are a run of the store on its own.** -/
theorem decisions_run (traffic : BrokerTraffic b path history n) :
    Run (brokerMachine b) ⟨path, ∅⟩ (decisions b history) n.state :=
  traffic.served_run.filterMap (serviceMachine_step b)

theorem serviceMachine_requestTrust {store : PinStore} {request : RequestTrust}
    {attendance : Attendance} {call : DecideCall}
    (decoded : request.decideCall b attendance = .ok call) :
    serviceMachine b store ⟨.requestTrust request, attendance⟩ =
      ((brokerMachine b store call).1, .trust (.ok (brokerMachine b store call).2.reply)) := by
  simp only [serviceMachine, requestTrust, decoded, brokerMachine]

/-- What a call whose client gave up and a later one lead to. -/
theorem retried_decisions (b : BrokerPlatform) (store : PinStore) {first second : RequestTrust}
    {attendance attendance' : Attendance} {call call' : DecideCall} {history : List BrokerSignal}
    (decoded : first.decideCall b attendance = .ok call)
    (decoded' : second.decideCall b attendance' = .ok call')
    (isHistory : history = retried (serviceMachine b) store (.requestTrust first)
      ⟨.requestTrust first, attendance⟩ (.requestTrust second)
      ⟨.requestTrust second, attendance'⟩) :
    .received 1 (.trust (.ok (brokerMachine b (brokerMachine b store call).1 call').2.reply)) ∈
        history ∧
      decisions b history = [(brokerMachine b).event (brokerMachine b store call).1 call',
        (brokerMachine b).event store call] := by
  constructor
  · rw [isHistory]
    convert received_retried (serviceMachine b) store _ _ _ _
    simp only [serviceMachine_requestTrust decoded, serviceMachine_requestTrust decoded']
  · rw [isHistory, decisions, servedEvents_retried,
      List.filterMap_cons_some (decisionOf_of_decoded rfl decoded'),
      List.filterMap_cons_some (decisionOf_of_decoded rfl decoded), List.filterMap_nil]
    simp only [serviceMachine_requestTrust decoded, Machine.event_before]

theorem decodeAll_encode (standard : b.base64.Standard) (ders : List Bytes) :
    decodeAll b (ders.map b.base64.encode) = some ders := by
  induction ders with
  | nil => rfl
  | cons der rest ih =>
      unfold decodeAll at ih ⊢
      rw [List.map_cons, List.mapM_cons, standard.roundTrips, ih]
      rfl

theorem decideCall_eq_ok {request : RequestTrust} {attendance : Attendance} {call : DecideCall}
    (decoded : request.decideCall b attendance = .ok call) :
    b.base64.decode request.signerCert = .ok call.signerDer ∧
      decodeAll b request.presentedCerts = some call.presentedDer ∧
      call.realm = request.realm ∧ call.interactive = request.interactive ∧
      call.instant = attendance.instant := by
  simp only [RequestTrust.decideCall, bind_eq_ok, mapError_eq_ok, okOr_eq_ok, pure_eq_ok,
    Except.ok.injEq] at decoded
  obtain ⟨signer, first, presented, rest, rfl⟩ := decoded
  exact ⟨first, rest, rfl, rfl, rfl⟩

/-! ## What arrives -/

/-- The question was sent under this number, and later served under it as this
event; `oldest` is what came before. -/
structure ServedAs (b : BrokerPlatform) (signals : List BrokerSignal) (id : Nat)
    (request : RequestTrust) (event : Event PinStore ServedCall TrustAnswer)
    (oldest : List BrokerSignal) (call : DecideCall) : Prop where
  served : ∃ newer, signals = newer ++ .served id event :: oldest
  sent : .sent id (.requestTrust request) ∈ oldest
  method : event.input.method = .requestTrust request
  decoded : request.decideCall b event.input.attendance = .ok call

/-- The user approved the CA for the realm of the question: in the decision on
it, where it may be put to the user, or for long enough in an earlier one. -/
inductive ConsentedTo (b : BrokerPlatform) (earlier : List BrokerEvent) (decision : BrokerEvent)
    (request : RequestTrust) (ca : Bytes) : Prop
  | now {fingerprint : String} {ttl : GrantTtl} (interactive : request.interactive = true)
      (approves : Approves b decision ca fingerprint ttl) :
      ConsentedTo b earlier decision request ca
  | before {grant : BrokerEvent} {fingerprint : String} {ttl : GrantTtl}
      (member : grant ∈ earlier) (approves : Approves b grant ca fingerprint ttl)
      (realm : grant.input.realm = request.realm)
      (covers : ttl.Covers grant.input.instant.now decision.input.instant.now) :
      ConsentedTo b earlier decision request ca

/-- A reply that trusts a CA is the daemon's to the call of this number: the CA
is the last anchor of the chain that was sent, and the user consented to it. -/
structure ApprovedAnswer (b : BrokerPlatform) (signals : List BrokerSignal) (id : Nat)
    (request : RequestTrust) (reply : TrustReply) (ca : Bytes) : Prop where
  anchors : reply.anchors = [b.base64.encode ca]
  approved : ∃ event oldest call, ServedAs b signals id request event oldest call ∧
    event.output = .trust (.ok reply) ∧ call.LastAnchor b ca ∧
    ConsentedTo b (decisions b oldest) ((brokerMachine b).event event.before call) request ca

/-- What trusts was approved before it is received, and the user is asked in
interactive calls only. -/
structure AnswersWithConsent (b : BrokerPlatform) (older : List BrokerSignal)
    (signal : BrokerSignal) : Prop where
  trusted : ∀ id reply, signal = .received id (.trust (.ok reply)) →
    reply.decision = .trusted → ∃ request ca, ApprovedAnswer b older id request reply ca
  asks : ∀ id event decision question, signal = .served id event →
    decisionOf b event = some decision → decision.output.asked = some question →
    ∃ request, .sent id (.requestTrust request) ∈ older ∧
      event.input.method = .requestTrust request ∧ request.interactive = true

/-- A live grant decides the calls for its realm without the user, whether or
not its own answer arrived. -/
def HonoursGrants (b : BrokerPlatform) (older : List BrokerEvent) (e : BrokerEvent) : Prop :=
  ∀ grant ∈ older, ∀ ca fingerprint ttl, Approves b grant ca fingerprint ttl →
    grant.input.realm = e.input.realm →
    lapsed (ttl.expiresAtEpochSecs grant.input.instant.now) e.input.instant.now = false →
    ∀ presented other, e.input.ca b = some presented → sha256Hex b presented = some other →
      e.output.asked = none ∧
        e.output.reply.decision = if other = fingerprint then .trusted else .denied

/-- The clock of the daemon does not go back. -/
def ClockMovesOn (b : BrokerPlatform) (history : List BrokerSignal) : Prop :=
  Each (fun older e => NotBefore older e.input.instant.now) (decisions b history)

theorem honoursGrants_of_outcome {store store' : PinStore} {events : List BrokerEvent}
    {call : DecideCall} {decided : Decided} (pins : PinsAreGrants b events store)
    (ordered : NotBefore events call.instant.now)
    (outcome : DecideOutcome b store call (store', decided)) :
    HonoursGrants b events ⟨store, call, decided, store'⟩ := by
  intro grant member ca fingerprint ttl approves realm live presented other selected hashed
  have found := pins.livePin member approves ordered live
  rw [realm] at found
  refine ⟨(outcome.of_live found).2, ?_⟩
  cases outcome with
  | refused unusable => cases hashed.symm.trans (unusable presented selected)
  | @trusted ca' pin selected' live' same =>
      obtain rfl := Option.some.inj (selected.symm.trans selected')
      obtain rfl := Option.some.inj (found.symm.trans live')
      exact (if_pos (Option.some.inj (hashed.symm.trans same))).symm
  | @changed ca' pin fingerprint' _ selected' hashed' live' differs =>
      obtain rfl := Option.some.inj (selected.symm.trans selected')
      obtain rfl := Option.some.inj (found.symm.trans live')
      obtain rfl := Option.some.inj (hashed.symm.trans hashed')
      exact (if_neg fun same => differs same.symm).symm
  | unknown _ noPin | declined _ noPin | approved _ _ noPin =>
      exact absurd (found.symm.trans noPin) (Option.some_ne_none _)

/-- No approval is lost with its answer. -/
theorem honoursGrants_decisions (traffic : BrokerTraffic b path history n)
    (clock : ClockMovesOn b history) : Each (HonoursGrants b) (decisions b history) :=
  (Run.rule (J := PinsAreGrants b) (pinsAreGrants_empty path)
    (fun _ store call pins ordered =>
      have outcome := decide_outcome store call
      ⟨honoursGrants_of_outcome pins ordered outcome, pins.step ordered outcome⟩)
    (decisions_run traffic) clock).1

/-- A decision that trusts a CA follows from consent to it. -/
def TrustsWithConsent (b : BrokerPlatform) (older : List BrokerEvent) (e : BrokerEvent) : Prop :=
  e.output.reply.decision = .trusted → ∃ ca, e.input.LastAnchor b ca ∧
    e.output.reply.anchors = [b.base64.encode ca] ∧
    ∀ request : RequestTrust, request.realm = e.input.realm →
      request.interactive = e.input.interactive → ConsentedTo b older e request ca

theorem trustsWithConsent_decisions (injective : Sha256Injective b.core)
    (traffic : BrokerTraffic b path history n) :
    Each (TrustsWithConsent b) (decisions b history) := by
  refine (Run.rule (J := PinsGranted b) (A := fun _ _ => True) (pinsGranted_empty path) ?_
    (decisions_run traffic) fun _ _ _ _ => trivial).1
  intro events store call granted _
  have outcome := decide_outcome (b := b) store call
  refine ⟨?_, granted.step outcome⟩
  intro trusted
  obtain ⟨ca, fingerprint, selected, hashed, anchors, consent⟩ :=
    granted.trusted injective outcome trusted
  refine ⟨ca, ca_eq_some_iff.mp selected, anchors, ?_⟩
  intro request realm interactive
  rcases consent with ⟨ttl, approves⟩ | ⟨grant, member, ttl, approves, sameRealm, covers⟩
  · exact .now (interactive.trans approves.interactive) approves
  · exact .before member approves (sameRealm.trans realm.symm) covers

theorem decisions_append_served {newer : List BrokerSignal} {id : Nat}
    {e : Event PinStore ServedCall TrustAnswer} {decision : BrokerEvent}
    (decided : decisionOf b e = some decision) :
    decisions b (newer ++ .served id e :: older) =
      decisions b newer ++ decision :: decisions b older := by
  have event : (Signal.served id e : BrokerSignal).event = some e := rfl
  simp only [decisions, servedEvents, List.filterMap_append, List.filterMap_cons_some event,
    List.filterMap_cons_some decided]

/-- A reply is that of the decision its call led to. -/
theorem decisionOf_reply {event : Event PinStore ServedCall TrustAnswer} {reply : TrustReply}
    (real : (serviceMachine b).event event.before event.input = event)
    (output : event.output = .trust (.ok reply)) :
    ∃ request call, event.input.method = .requestTrust request ∧
      request.decideCall b event.input.attendance = .ok call ∧
      decisionOf b event = some ((brokerMachine b).event event.before call) ∧
      (event.before.decide b call).2.reply = reply := by
  rw [← real] at output
  obtain ⟨before, ⟨method, attendance⟩, _, _⟩ := event
  cases method with
  | listTrustedRealms => cases output
  | requestTrust request =>
      simp only [Machine.event_output, serviceMachine, requestTrust] at output
      cases read : request.decideCall b attendance with
      | error e => simp [read] at output
      | ok call =>
          simp only [read, TrustAnswer.trust.injEq, Except.ok.injEq] at output
          exact ⟨request, call, rfl, read, decisionOf_of_decoded rfl read, output⟩

theorem ApprovedAnswer.mono {id : Nat} {request : RequestTrust} {reply : TrustReply} {ca : Bytes}
    (answer : ApprovedAnswer b older id request reply ca) (newer : List BrokerSignal) :
    ApprovedAnswer b (newer ++ older) id request reply ca := by
  obtain ⟨anchors, event, oldest, call, served, rest⟩ := answer
  obtain ⟨between, split⟩ := served.served
  refine ⟨anchors, event, oldest, call, ?_, rest⟩
  exact ⟨⟨newer ++ between, by rw [split, List.append_assoc]⟩, served.sent, served.method,
    served.decoded⟩

/-- **A reply that trusts a CA is served with the user's consent.** -/
theorem approvedAnswer_of_served (injective : Sha256Injective b.core)
    (traffic : BrokerTraffic b path history n) {newer oldest : List BrokerSignal} {id : Nat}
    {event : Event PinStore ServedCall TrustAnswer} {reply : TrustReply}
    (split : history = newer ++ .served id event :: oldest)
    (output : event.output = .trust (.ok reply)) (trusted : reply.decision = .trusted) :
    ∃ request ca, ApprovedAnswer b (.served id event :: oldest) id request reply ca := by
  have served : event ∈ servedEvents history :=
    List.mem_filterMap.mpr ⟨.served id event, by simp [split], rfl⟩
  obtain ⟨request, call, method, decoded, decided, rfl⟩ :=
    decisionOf_reply (traffic.served_run.event_eq served) output
  have consents := trustsWithConsent_decisions injective traffic
  rw [split, decisions_append_served decided] at consents
  obtain ⟨ca, last, anchors, consent⟩ := consents _ _ _ rfl trusted
  obtain ⟨_, _, realm, interactive, _⟩ := decideCall_eq_ok decoded
  have sent : .sent id (.requestTrust request) ∈ oldest := by
    cases traffic.orderly newer _ oldest split with
    | served sent enter once =>
        rw [Serves, method] at enter
        exact enter ▸ sent
  exact ⟨request, ca, anchors, event, oldest, call, ⟨⟨[], rfl⟩, sent, method, decoded⟩, output,
    last, consent request realm.symm interactive.symm⟩

theorem approvedAnswer_of_received (injective : Sha256Injective b.core)
    (traffic : BrokerTraffic b path history n) {newer : List BrokerSignal} {id : Nat}
    {reply : TrustReply}
    (split : history = newer ++ .received id (.trust (.ok reply)) :: older)
    (trusted : reply.decision = .trusted) :
    ∃ request ca, ApprovedAnswer b older id request reply ca := by
  have comes := traffic.orderly newer _ older split
  generalize answer : TrustAnswer.trust (.ok reply) = received at comes
  cases comes with
  | @received _ event served once =>
      obtain ⟨between, oldest, rfl⟩ := List.append_of_mem served
      have whole : history = (newer ++ .received id (.trust (.ok reply)) :: between) ++
          .served id event :: oldest := by
        rw [split, List.append_assoc, List.cons_append]
      obtain ⟨request, ca, approved⟩ :=
        approvedAnswer_of_served injective traffic whole answer.symm trusted
      exact ⟨request, ca, approved.mono between⟩

/-- **A client is told to trust only what a user approved before.** Over every
traffic of any clients with the daemon, with calls served late, answers lost
and clients that gave up. Where the daemon's clock does not go back, no approval
is lost with its answer. -/
theorem received_trust_was_approved (injective : Sha256Injective b.core)
    (traffic : BrokerTraffic b path history n) :
    Each (AnswersWithConsent b) history ∧
      (ClockMovesOn b history → Each (HonoursGrants b) (decisions b history)) := by
  refine ⟨?_, honoursGrants_decisions traffic⟩
  intro newer signal older split
  constructor
  · rintro id reply rfl trusted
    exact approvedAnswer_of_received injective traffic split trusted
  · rintro id event decision question rfl decided asked
    obtain ⟨request, call, method, decoded, rfl⟩ := decisionOf_eq_some decided
    obtain ⟨_, _, _, interactive, _⟩ := decideCall_eq_ok decoded
    have outcome := decide_outcome (b := b) event.before call
    cases traffic.orderly newer _ older split with
    | served sent enter once =>
        rw [Serves, method] at enter
        exact ⟨request, enter ▸ sent, method,
          interactive.symm.trans (outcome.interactive_of_asked asked)⟩

end Kurbu5Pkinit.Brokerd

namespace Kurbu5Pkinit.Reference

open Library Brokerd

/-- What a client of the recorded realm sends. -/
def trustRequest (interactive : Bool) : RequestTrust where
  realm := "EXAMPLE.COM"
  kdcPrincipal := kdcName
  signerCert := standardBase64.encode kdcCertDer
  presentedCerts := [kdcCertDer, caCertDer].map standardBase64.encode
  interactive := interactive

/-- A call that reaches the daemon from a process of the recorded user. -/
def attended (now : Nat) (interactive : Bool) : ServedCall where
  method := .requestTrust (trustRequest interactive)
  attendance := ⟨⟨now, 0⟩, some 4711, trustsForAnHour⟩

theorem decideCall_trustRequest (now : Nat) (interactive : Bool) :
    (trustRequest interactive).decideCall broker ⟨⟨now, 0⟩, some 4711, trustsForAnHour⟩ =
      .ok (askBroker now interactive) := by
  have standard : broker.base64.Standard := standardBase64_standard
  have signer : broker.base64.decode (trustRequest interactive).signerCert = .ok kdcCertDer :=
    standard.roundTrips kdcCertDer
  have presented : decodeAll broker (trustRequest interactive).presentedCerts =
      some [kdcCertDer, caCertDer] :=
    decodeAll_encode standard [kdcCertDer, caCertDer]
  rw [RequestTrust.decideCall, signer, presented]
  rfl

/-- The first client gave up before its answer came. -/
def retriedHistory : List BrokerSignal :=
  retried (serviceMachine broker) .inMemory (.requestTrust (trustRequest true))
    (attended 1800000000 true) (.requestTrust (trustRequest false)) (attended 1800003599 false)

end Kurbu5Pkinit.Reference

namespace Kurbu5Pkinit.Brokerd

open Library

/-- The answer to the first call is lost, and the second call is trusted. -/
theorem received_trust_was_approved_retried :
    ∃ reply, .received 1 (.trust (.ok reply)) ∈ Reference.retriedHistory ∧
      reply.decision = .trusted ∧
      Each (AnswersWithConsent Reference.broker) Reference.retriedHistory ∧
      Each (HonoursGrants Reference.broker)
        (decisions Reference.broker Reference.retriedHistory) := by
  obtain ⟨n, traffic⟩ : ∃ n, BrokerTraffic Reference.broker none
      Reference.retriedHistory n := traffic_retried _ _ rfl rfl
  have isHistory : Reference.retriedHistory =
      retried (serviceMachine Reference.broker) .inMemory
        (.requestTrust (Reference.trustRequest true)) (Reference.attended 1800000000 true)
        (.requestTrust (Reference.trustRequest false)) (Reference.attended 1800003599 false) := rfl
  obtain ⟨received, decided⟩ := retried_decisions Reference.broker .inMemory
    (Reference.decideCall_trustRequest 1800000000 true)
    (Reference.decideCall_trustRequest 1800003599 false) isHistory
  have clock : ClockMovesOn Reference.broker Reference.retriedHistory := by
    rw [ClockMovesOn, decided]
    refine each_cons.mpr ⟨?_, each_cons.mpr ⟨?_, each_nil _⟩⟩
    · intro e member
      obtain rfl := List.mem_singleton.mp member
      exact (by decide : 1800000000 ≤ 1800003599)
    · intro e member
      cases member
  obtain ⟨consents, honours⟩ :=
    received_trust_was_approved (b := Reference.broker) Reference.sha256_injective traffic
  exact ⟨_, received, by decide +kernel, consents, honours clock⟩

end Kurbu5Pkinit.Brokerd

import Kurbu5Pkinit.Reference.Client

/-!
# Which request a reply is accepted for

A reply is opened with whatever key pair the state holds. The invariant of a
run: a DH key pair held while DH is selected, and a KEM key pair held at all,
are the ones the latest request went out with.

Two things break it. Moving the selection to a KEM keeps a DH key pair, and a
reply that is not a `kemInfo` is opened with it. A request that fails after
generating a key pair leaves one in the state that was never sent. `Orderly`
names the runs in which neither happens.
-/

set_option autoImplicit false

namespace Kurbu5Pkinit

open Library PkinitClientState

variable {platform : Platform} {instant : Instant} {s s' : PkinitClientState}
  {history : List ClientEvent}

/-- The key pairs a reply would be opened with are those of the latest
request. -/
structure HeldKeysSent (platform : Platform) (history : List ClientEvent)
    (s : PkinitClientState) : Prop where
  group : ∀ key, s.dhKey = some key → key.group = s.config.dhGroup
  dh : ∀ key, s.dhKey = some key → s.config.kemAlgorithm = none →
    ∃ e, latestRequest history = some e ∧ SentDhKey platform e key
  kem : ∀ key, s.kemKey = some key → s.config.kemAlgorithm ≠ none ∧
    ∃ e, latestRequest history = some e ∧ SentKemKey platform e key

/-- Neither defect occurs in this call: it is no request that fails after it
generated a key pair, and no reply that might be a `dhInfo`, processed with a
KEM selected and a DH key pair of an earlier attempt still held. -/
structure Orderly (e : ClientEvent) : Prop where
  requests : ∀ err, e.output = .request (.error err) →
    e.after.dhKey = e.before.dhKey ∧ e.after.kemKey = e.before.kemKey
  replies : ∀ instant o2k paRepDer params, e.input = .processAsRep instant o2k paRepDer params →
    isKemRep paRepDer = false → e.before.config.kemAlgorithm = none ∨ e.before.dhKey = none

/-- A request that was built is orderly. -/
theorem orderly_of_built {input : RequestInput}
    (built : ((clientMachine platform).event s (.buildAsReq instant input)).output.request?.isSome =
      true) : Orderly ((clientMachine platform).event s (.buildAsReq instant input)) where
  requests err failed := by
    rw [failed] at built
    cases built
  replies := nofun

/-- A reply is, while no KEM is selected. -/
theorem orderly_of_unselected {o2k : OctetString2Key} {paRepDer : Bytes} {params : AsRepParams}
    (unselected : s.config.kemAlgorithm = none) :
    Orderly ((clientMachine platform).event s (.processAsRep instant o2k paRepDer params)) where
  requests := nofun
  replies _ _ _ _ _ _ := .inl unselected

theorem orderly_of_setKdcIdentity (principal : String) (hostname : Option String) :
    Orderly ((clientMachine platform).event s (.setKdcIdentity principal hostname)) where
  requests := nofun
  replies := nofun

/-! ## One step -/

theorem heldKeysSent_new (identity : PkinitIdentity) (trustStore : TrustStore)
    (config : PkinitClientConfig) :
    HeldKeysSent platform [] (PkinitClientState.new identity trustStore config) where
  group := nofun
  dh := nofun
  kem := nofun

/-- A call that builds no request leaves the latest one as it was. -/
theorem HeldKeysSent.of_unbuilt {e : ClientEvent} (held : HeldKeysSent platform history s)
    (unbuilt : e.output.request? = none) : HeldKeysSent platform (e :: history) s := by
  have same : latestRequest (e :: history) = latestRequest history :=
    latestRequest_cons_of_none unbuilt
  exact ⟨held.group, same ▸ held.dh, same ▸ held.kem⟩

/-- Picking a group discards every key pair. -/
theorem heldKeysSent_setDhGroup (history : List ClientEvent) (s : PkinitClientState)
    (group : DhGroup) : HeldKeysSent platform history (s.setDhGroup group) where
  group := nofun
  dh := nofun
  kem := nofun

theorem HeldKeysSent.setKemAlgorithm (held : HeldKeysSent platform history s)
    (alg : KemAlgorithm) : HeldKeysSent platform history (s.setKemAlgorithm alg) where
  group := held.group
  dh := fun _ _ unselected => absurd unselected (Option.some_ne_none alg)
  kem := nofun

theorem HeldKeysSent.of_selection (held : HeldKeysSent platform history s)
    (outcome : SelectionOutcome platform s s') : HeldKeysSent platform history s' := by
  cases outcome with
  | unchanged => exact held
  | @applied offered _ =>
      cases offered with
      | kem alg => exact held.setKemAlgorithm alg
      | dh group => exact heldKeysSent_setDhGroup history s group

theorem HeldKeysSent.of_build {input : RequestInput} {r : Except PkinitError Bytes}
    (held : HeldKeysSent platform history s)
    (outcome : BuildOutcome platform instant s input s' r)
    (orderly : Orderly ⟨s, .buildAsReq instant input, .request r, s'⟩) :
    HeldKeysSent platform (⟨s, .buildAsReq instant input, .request r, s'⟩ :: history) s' := by
  cases outcome with
  | refused => exact held.of_unbuilt rfl
  | kemUnfinished selected =>
      refine HeldKeysSent.of_unbuilt ⟨held.group, held.dh, ?_⟩ rfl
      intro key present
      exact held.kem key ((orderly.requests _ rfl).2.symm.trans present)
  | dhUnfinished unselected =>
      have same := (orderly.requests _ rfl).1
      refine HeldKeysSent.of_unbuilt ⟨?_, ?_, held.kem⟩ rfl
      · exact fun key present => held.group key (same.symm.trans present)
      · exact fun key present => held.dh key (same.symm.trans present)
  | @kem alg key spkiDer request selected generated exported carried =>
      have algorithm := KemKeyPair.algorithm_of_generate generated
      have sent : SentKemKey platform ⟨s, .buildAsReq instant input, .request (.ok request),
          { s with keyExchange := some (.kem alg), kemKey := some key }⟩ key :=
        ⟨by rw [algorithm], instant, input, request, spkiDer, rfl, rfl, exported, carried⟩
      refine ⟨held.group, ?_, ?_⟩
      · intro _ _ unselected
        exact absurd (selected.symm.trans unselected) (Option.some_ne_none alg)
      · rintro _ ⟨⟩
        exact ⟨fun unselected => Option.some_ne_none alg (selected.symm.trans unselected), _,
          latestRequest_cons_of_some rfl, sent⟩
  | @dh key dhNonce spkiDer request unselected allowed origin exported carried =>
      have group : key.group = s.config.dhGroup := by
        rcases origin with present | ⟨_, generated⟩
        · exact held.group key present
        · exact DhKeyPair.group_of_generate generated
      have sent : SentDhKey platform ⟨s, .buildAsReq instant input, .request (.ok request),
          { s with
            keyExchange := some (.dh s.config.dhGroup)
            dhKey := some key
            dhNonce := some dhNonce }⟩ key :=
        ⟨by rw [group], instant, input, request, spkiDer, dhNonce, rfl, rfl, exported, carried⟩
      refine ⟨?_, ?_, ?_⟩
      · rintro _ ⟨⟩
        exact group
      · rintro _ ⟨⟩ _
        exact ⟨_, latestRequest_cons_of_some rfl, sent⟩
      · exact fun other present => absurd unselected (held.kem other present).1

theorem HeldKeysSent.of_reply {o2k : OctetString2Key} {paRepDer : Bytes} {params : AsRepParams}
    {r : Except PkinitError DerivedKey} (held : HeldKeysSent platform history s)
    (outcome : ReplyOutcome platform o2k instant s paRepDer params s' r) :
    HeldKeysSent platform history s' := by
  cases outcome with
  | dhRefused | dh => exact held
  | kemRefused | kem => exact ⟨held.group, held.dh, nofun⟩

/-! ## Accepted replies -/

/-- A reply the event accepted answers the latest request before it: on that
request's path, with the key pair sent in it. -/
structure AnswersLatestRequest (platform : Platform) (older : List ClientEvent) (e : ClientEvent) :
    Prop where
  dh : ∀ instant o2k paRepDer params key, e.input = .processAsRep instant o2k paRepDer params →
    e.output = .replyKey (.ok key) → isKemRep paRepDer = false →
    e.before.config.kemAlgorithm = none ∧ ∃ request dhKey dhRepInfo verified,
      latestRequest older = some request ∧ SentDhKey platform request dhKey ∧
      platform.synta.paPkAsRep.fromDer paRepDer = .ok (.dhInfo dhRepInfo) ∧
      AcceptsDhRep platform o2k instant e.before dhRepInfo params verified dhKey key
  kem : ∀ instant o2k paRepDer params key, e.input = .processAsRep instant o2k paRepDer params →
    e.output = .replyKey (.ok key) → isKemRep paRepDer = true →
    ∃ request kemKey verified info,
      latestRequest older = some request ∧ SentKemKey platform request kemKey ∧
      e.before.kemKey = some kemKey ∧
      AcceptsKemRep platform o2k instant { e.before with kemKey := none } kemKey paRepDer params
        verified info key

theorem answersLatestRequest_of_no_key {e : ClientEvent} (noReply : ∀ r, e.output ≠ .replyKey r) :
    AnswersLatestRequest platform history e :=
  ⟨fun _ _ _ _ _ _ isReply => absurd isReply (noReply _),
    fun _ _ _ _ _ _ isReply => absurd isReply (noReply _)⟩

theorem answersLatestRequest_of_reply {o2k : OctetString2Key} {paRepDer : Bytes}
    {params : AsRepParams} {r : Except PkinitError DerivedKey}
    (held : HeldKeysSent platform history s)
    (outcome : ReplyOutcome platform o2k instant s paRepDer params s' r)
    (orderly : Orderly ⟨s, .processAsRep instant o2k paRepDer params, .replyKey r, s'⟩) :
    AnswersLatestRequest platform history
      ⟨s, .processAsRep instant o2k paRepDer params, .replyKey r, s'⟩ where
  dh := by
    rintro _ _ _ _ key ⟨⟩ ⟨⟩ tag
    cases outcome with
    | kem tag' => exact absurd (tag'.symm.trans tag) (by decide)
    | dh _ parsed processed =>
        obtain ⟨verified, dhKey, accepts⟩ := processDhRep_eq_ok.mp processed
        have selected : s.config.kemAlgorithm = none :=
          (orderly.replies _ _ _ _ rfl tag).resolve_right
            fun empty => Option.some_ne_none dhKey (accepts.held.symm.trans empty)
        obtain ⟨request, latest, sent⟩ := held.dh dhKey accepts.held selected
        exact ⟨selected, request, dhKey, _, verified, latest, sent, parsed, accepts⟩
  kem := by
    rintro _ _ _ _ key ⟨⟩ ⟨⟩ tag
    cases outcome with
    | dh tag' => exact absurd (tag'.symm.trans tag) (by decide)
    | kem _ present opened =>
        obtain ⟨verified, info, accepts⟩ := openKemRep_eq_ok.mp opened
        obtain ⟨_, request, latest, sent⟩ := held.kem _ present
        exact ⟨request, _, verified, info, latest, sent, present, accepts⟩

/-! ## Runs -/

theorem heldKeysSent_step (history : List ClientEvent) (s : PkinitClientState) (i : ClientCall)
    (held : HeldKeysSent platform history s)
    (orderly : Orderly ((clientMachine platform).event s i)) :
    AnswersLatestRequest platform history ((clientMachine platform).event s i) ∧
      HeldKeysSent platform ((clientMachine platform).event s i :: history)
        (clientMachine platform s i).1 := by
  cases i with
  | setFreshnessToken | setKdcIdentity | setTrustBroker | setIsAnonymous =>
      exact ⟨answersLatestRequest_of_no_key nofun,
        HeldKeysSent.of_unbuilt ⟨held.group, held.dh, held.kem⟩ rfl⟩
  | setDhGroup group =>
      exact ⟨answersLatestRequest_of_no_key nofun,
        (heldKeysSent_setDhGroup history s group).of_unbuilt rfl⟩
  | processPkinitHint hintDer =>
      have selected := held.of_selection (processPkinitHint_outcome s hintDer)
      exact ⟨answersLatestRequest_of_no_key nofun, selected.of_unbuilt rfl⟩
  | handleTryagain errorPadataDer =>
      have selected := held.of_selection (handleTryagain_outcome s errorPadataDer)
      exact ⟨answersLatestRequest_of_no_key nofun, selected.of_unbuilt rfl⟩
  | handleTryagainTypedData typedData =>
      have selected := held.of_selection (handleTryagainTypedData_outcome s typedData)
      exact ⟨answersLatestRequest_of_no_key nofun, selected.of_unbuilt rfl⟩
  | buildAsReq instant input =>
      have outcome := buildAsReq_outcome platform instant s input
      exact ⟨answersLatestRequest_of_no_key nofun, held.of_build outcome orderly⟩
  | processAsRep instant o2k paRepDer params =>
      have outcome := processAsRep_outcome platform o2k instant s paRepDer params
      exact ⟨answersLatestRequest_of_reply held outcome orderly,
        (held.of_reply outcome).of_unbuilt rfl⟩

/-- **In an orderly run every accepted reply answers the latest request.** -/
theorem orderly_replies_answer_latest_request (platform : Platform) (identity : PkinitIdentity)
    (trustStore : TrustStore) (config : PkinitClientConfig) (history : List ClientEvent)
    (s : PkinitClientState)
    (run : Run (clientMachine platform) (PkinitClientState.new identity trustStore config)
      history s)
    (orderly : ∀ e ∈ history, Orderly e) : Each (AnswersLatestRequest platform) history :=
  (Run.rule (J := HeldKeysSent platform) (A := fun _ => Orderly)
    (P := AnswersLatestRequest platform) (heldKeysSent_new identity trustStore config)
    heldKeysSent_step run (each_iff_forall_mem.mpr orderly)).1

/-- The client asked with P-256, then with ML-KEM-512, and takes the reply to
the request before its latest. -/
theorem dhInfo_accepted_after_kem_request :
    ∃ history s request,
      Run (clientMachine Reference.recorded) Reference.anonymousClient history s ∧
      latestRequest history = some request ∧
      request.after.keyExchange = some (.kem .mlKem512) ∧
      isKemRep Reference.agileDhReply = false ∧
      ((clientMachine Reference.recorded).event s Reference.acceptReply).output =
        .replyKey (.ok ⟨18, Reference.dhReplyKey⟩) ∧
      ¬ AnswersLatestRequest Reference.recorded history
        ((clientMachine Reference.recorded).event s Reference.acceptReply) := by
  obtain ⟨_, sent, selected, accepted⟩ := Reference.readReply_answered
  have tag : isKemRep Reference.agileDhReply = false := by
    decide
  obtain ⟨request, latest, exchanged⟩ := Option.map_eq_some_iff.mp sent
  refine ⟨Reference.retriedRun.1, Reference.retriedRun.2, request, Reference.run_clientRun _ _,
    latest, exchanged, tag, accepted, fun answers => ?_⟩
  have unselected := (answers.dh _ _ _ _ _ rfl accepted tag).1
  rw [Machine.event_before, selected] at unselected
  cases unselected

/-- The client asks once and takes the reply to that. -/
theorem orderly_replies_answer_latest_request_agileDhReply :
    Each (AnswersLatestRequest Reference.recorded) (Reference.clientRun Reference.anonymousClient
      [Reference.nameKdc, Reference.sendRequest, Reference.acceptReply]).1 := by
  have built : ((clientMachine Reference.recorded).event Reference.readyClient
      Reference.sendRequest).output.request?.isSome = true := by
    decide +kernel
  have unselected : Reference.waitingClient.config.kemAlgorithm = none := by
    decide +kernel
  refine orderly_replies_answer_latest_request Reference.recorded Reference.noIdentity
    Reference.trustStore Reference.clientConfig _ _ (Reference.run_clientRun _ _) ?_
  rw [Reference.history_of_answered]
  simp only [List.forall_mem_cons, List.not_mem_nil, false_imp_iff, implies_true, and_true]
  exact ⟨orderly_of_unselected unselected, orderly_of_built built,
    orderly_of_setKdcIdentity _ _⟩

end Kurbu5Pkinit

import Kurbu5Pkinit.Client.Policy
import Kurbu5Pkinit.Reference.PostQuantum

/-!
# A commitment to a KEM

A post-quantum client without a floor commits to a KEM by sending a KEM key:
from then on it refuses groups. The commitment is read off the record of the
latest request, and a list that moves the selection to another KEM clears that
record. Until the next request the client then accepts groups again.

A run keeps the commitment where every list of the KDC is read while the
record stands.
-/

set_option autoImplicit false

namespace Kurbu5Pkinit

open Library PkinitClientState

variable {platform : Platform} {instant : Instant} {start s s' : PkinitClientState}

/-- A client that signs with a post-quantum certificate and configured no KEM. -/
structure PkinitClientState.Unfloored (platform : Platform) (s : PkinitClientState) : Prop where
  postQuantum : s.hasPqCertificate platform = true
  floor : s.kemFloor = none
  classical : s.config.requireKem = false

/-- A request with a KEM key was built. -/
def SentKem (platform : Platform) (history : List ClientEvent) : Prop :=
  ∃ e ∈ history, ∃ key, SentKemKey platform e key

theorem sentKem_cons {e : ClientEvent} {history : List ClientEvent} :
    SentKem platform (e :: history) ↔
      (∃ key, SentKemKey platform e key) ∨ SentKem platform history := by
  simp [SentKem]

/-- The calls that read a list of the KDC. -/
def ClientCall.ReadsOffers : ClientCall → Prop
  | .processPkinitHint _ | .handleTryagain _ | .handleTryagainTypedData _ => True
  | _ => False

/-- After a request with a KEM key, a list is read only while the client has a
record of its latest request. -/
def ReadsOnRecord (platform : Platform) (history : List ClientEvent) (e : ClientEvent) : Prop :=
  SentKem platform history → e.input.ReadsOffers → e.before.keyExchange ≠ none

/-- After a request with a KEM key, no list leaves a group selected and every
request has a KEM key. -/
structure StaysWithKem (platform : Platform) (history : List ClientEvent) (e : ClientEvent) :
    Prop where
  selected : SentKem platform history → e.input.ReadsOffers → e.after.config.kemAlgorithm ≠ none
  requests : SentKem platform history → ∀ request, e.output = .request (.ok request) →
    ∃ key, SentKemKey platform e key

/-! ## The policy without a floor -/

/-- Groups are acceptable unless the record is of a KEM. -/
theorem dhAllowed_of_unfloored (unfloored : s.Unfloored platform) :
    s.dhAllowed platform = true ↔ ∀ alg, s.keyExchange ≠ some (.kem alg) := by
  unfold dhAllowed
  rw [unfloored.postQuantum, unfloored.floor, unfloored.classical]
  cases s.keyExchange with
  | none => simp
  | some exchange => cases exchange <;> simp

/-- Without a floor no KEM is required. -/
theorem unfloored_new {identity : PkinitIdentity} {trustStore : TrustStore}
    {config : PkinitClientConfig}
    (postQuantum : (PkinitClientState.new identity trustStore config).hasPqCertificate platform =
      true)
    (floor : (PkinitClientState.new identity trustStore config).kemFloor = none) :
    (PkinitClientState.new identity trustStore config).Unfloored platform where
  postQuantum := postQuantum
  floor := floor
  classical := by
    by_contra required
    have committed : (PkinitClientState.new identity trustStore config).Committed platform :=
      .inl (by simpa using required)
    obtain ⟨implied, fixed⟩ := exists_floor_of_committed committed
    exact Option.some_ne_none implied (fixed.symm.trans floor)

theorem PolicyKept.unfloored (kept : PolicyKept platform start s)
    (unfloored : start.Unfloored platform) : s.Unfloored platform where
  postQuantum := by
    rw [hasPqCertificate, kept.identity]
    exact unfloored.postQuantum
  floor := kept.floor.trans unfloored.floor
  classical := kept.required.trans unfloored.classical

/-! ## The invariant -/

/-- After a request with a KEM key a KEM is selected, and no record is of a
group. -/
structure Commits (platform : Platform) (start : PkinitClientState) (history : List ClientEvent)
    (s : PkinitClientState) : Prop where
  policy : PolicyKept platform start s
  selected : SentKem platform history → s.config.kemAlgorithm ≠ none
  record : SentKem platform history → ∀ group, s.keyExchange ≠ some (.dh group)

variable {history : List ClientEvent}

/-- An event that built nothing is no request with a KEM key. -/
theorem sentKem_of_unbuilt {e : ClientEvent}
    (unbuilt : ∀ request, e.output ≠ .request (.ok request))
    (sent : SentKem platform (e :: history)) : SentKem platform history := by
  rcases sentKem_cons.mp sent with ⟨key, sends⟩ | earlier
  · obtain ⟨_, _, request, _, _, built, _⟩ := sends.sent
    exact absurd built (unbuilt request)
  · exact earlier

theorem Commits.of_unbuilt {e : ClientEvent} (commits : Commits platform start history s)
    (policy : PolicyKept platform start s') (config : s'.config = s.config)
    (record : s'.keyExchange = s.keyExchange)
    (unbuilt : ∀ request, e.output ≠ .request (.ok request)) :
    Commits platform start (e :: history) s' := by
  refine ⟨policy, fun sent => ?_, fun sent => ?_⟩
  · rw [config]
    exact commits.selected (sentKem_of_unbuilt unbuilt sent)
  · rw [record]
    exact commits.record (sentKem_of_unbuilt unbuilt sent)

/-- **A list read on the record of a KEM moves the selection to a KEM.** -/
theorem Commits.of_selection {e : ClientEvent} (commits : Commits platform start history s)
    (unfloored : start.Unfloored platform) (outcome : SelectionOutcome platform s s')
    (recorded : SentKem platform history → s.keyExchange ≠ none)
    (unbuilt : ∀ request, e.output ≠ .request (.ok request)) :
    (SentKem platform history → s'.config.kemAlgorithm ≠ none) ∧
      Commits platform start (e :: history) s' := by
  have policy := commits.policy.of_selection outcome
  cases outcome with
  | unchanged => exact ⟨commits.selected, commits.of_unbuilt policy rfl rfl unbuilt⟩
  | @applied offered accepted =>
      have moved : SentKem platform history → ∃ alg, offered = .kem alg := by
        intro sent
        cases offered with
        | kem alg => exact ⟨alg, rfl⟩
        | dh group =>
            have allowed :=
              (dhAllowed_of_unfloored (commits.policy.unfloored unfloored)).mp accepted
            cases standing : s.keyExchange with
            | none => exact absurd standing (recorded sent)
            | some exchange =>
                cases exchange with
                | kem alg => exact absurd standing (allowed alg)
                | dh group => exact absurd standing (commits.record sent group)
      have selected : SentKem platform history → (s.apply offered).config.kemAlgorithm ≠ none := by
        intro sent
        obtain ⟨alg, rfl⟩ := moved sent
        exact Option.some_ne_none alg
      refine ⟨selected, policy, fun sent => selected (sentKem_of_unbuilt unbuilt sent), ?_⟩
      intro sent group
      obtain ⟨alg, rfl⟩ := moved (sentKem_of_unbuilt unbuilt sent)
      exact nofun

theorem staysWithKem_of_quiet {e : ClientEvent} (silent : ¬ e.input.ReadsOffers)
    (unbuilt : ∀ request, e.output ≠ .request (.ok request)) :
    StaysWithKem platform history e :=
  ⟨fun _ reads => absurd reads silent, fun _ _ built => absurd built (unbuilt _)⟩

/-- A request built with a KEM selected carries a KEM key. -/
theorem sentKemKey_of_built {input : RequestInput} {alg : KemAlgorithm} {request : Bytes}
    (selected : s.config.kemAlgorithm = some alg)
    (outcome : BuildOutcome platform instant s input s' (.ok request)) :
    ∃ key, SentKemKey platform ⟨s, .buildAsReq instant input, .request (.ok request), s'⟩ key := by
  cases outcome with
  | dh unselected => exact absurd (selected.symm.trans unselected) (Option.some_ne_none alg)
  | @kem alg' key spkiDer _ _ generated exported carries =>
      have same := KemKeyPair.algorithm_of_generate generated
      exact ⟨key, by rw [same], instant, input, request, spkiDer, rfl, rfl, exported, carries⟩

/-- One built without, and without a key pair of an earlier attempt, carries a
key of the selected group. -/
theorem sentDhKey_of_built {input : RequestInput} {request : Bytes}
    (unselected : s.config.kemAlgorithm = none) (fresh : s.dhKey = none)
    (outcome : BuildOutcome platform instant s input s' (.ok request)) :
    ∃ key, SentDhKey platform ⟨s, .buildAsReq instant input, .request (.ok request), s'⟩ key := by
  cases outcome with
  | @kem alg _ _ _ selected =>
      exact absurd (selected.symm.trans unselected) (Option.some_ne_none alg)
  | @dh key dhNonce spkiDer _ _ _ source exported carries =>
      have group : key.group = s.config.dhGroup := by
        rcases source with held | ⟨_, generated⟩
        · exact absurd (held.symm.trans fresh) (Option.some_ne_none key)
        · exact DhKeyPair.group_of_generate generated
      exact ⟨key, by rw [group], instant, input, request, spkiDer, dhNonce, rfl, rfl, exported,
        carries⟩

/-- A request of a client with a KEM selected has a KEM key. -/
theorem Commits.of_build {input : RequestInput} {r : Except PkinitError Bytes}
    (commits : Commits platform start history s)
    (outcome : BuildOutcome platform instant s input s' r) :
    StaysWithKem platform history ⟨s, .buildAsReq instant input, .request r, s'⟩ ∧
      Commits platform start (⟨s, .buildAsReq instant input, .request r, s'⟩ :: history) s' := by
  have policy := commits.policy.of_build outcome
  cases outcome with
  | refused => exact ⟨staysWithKem_of_quiet id nofun, commits.of_unbuilt policy rfl rfl nofun⟩
  | @kemUnfinished alg kemKey e selected =>
      refine ⟨staysWithKem_of_quiet id nofun, policy, ?_, fun _ _ => nofun⟩
      intro _ unselected
      exact Option.some_ne_none alg (selected.symm.trans unselected)
  | @kem alg key spkiDer request selected generated exported carries =>
      have built : BuildOutcome platform instant s input _ (.ok request) :=
        .kem selected generated exported carries
      have sends := sentKemKey_of_built selected built
      refine ⟨⟨fun _ reads => reads.elim, fun _ _ _ => sends⟩, policy, ?_, fun _ _ => nofun⟩
      intro _ unselected
      exact Option.some_ne_none alg (selected.symm.trans unselected)
  | dhUnfinished unselected | dh unselected =>
      have unsent : ¬ SentKem platform history := fun sent => commits.selected sent unselected
      have later : ∀ e : ClientEvent, e.after.keyExchange = some (.dh s.config.dhGroup) →
          ¬ SentKem platform (e :: history) := by
        intro e group sent
        rcases sentKem_cons.mp sent with ⟨key, sends⟩ | sent
        · rw [sends.keyExchange] at group
          cases group
        · exact unsent sent
      exact ⟨⟨fun sent => absurd sent unsent, fun sent => absurd sent unsent⟩, policy,
        fun sent => absurd sent (later _ rfl), fun sent => absurd sent (later _ rfl)⟩

theorem Commits.of_reply {o2k : OctetString2Key} {paRepDer : Bytes} {params : AsRepParams}
    {r : Except PkinitError DerivedKey} {e : ClientEvent}
    (commits : Commits platform start history s)
    (outcome : ReplyOutcome platform o2k instant s paRepDer params s' r)
    (unbuilt : ∀ request, e.output ≠ .request (.ok request)) :
    Commits platform start (e :: history) s' := by
  have policy := commits.policy.of_reply outcome
  cases outcome with
  | kemRefused | kem | dhRefused | dh => exact commits.of_unbuilt policy rfl rfl unbuilt

/-! ## Runs -/

theorem commits_step (unfloored : start.Unfloored platform) (history : List ClientEvent)
    (s : PkinitClientState) (i : ClientCall) (commits : Commits platform start history s)
    (allowed : i.KdcDriven ∧
      ReadsOnRecord platform history ((clientMachine platform).event s i)) :
    StaysWithKem platform history ((clientMachine platform).event s i) ∧
      Commits platform start ((clientMachine platform).event s i :: history)
        (clientMachine platform s i).1 := by
  obtain ⟨driven, recorded⟩ := allowed
  have reading : ∀ s', i.ReadsOffers → (clientMachine platform s i).1 = s' →
      (∀ request, (clientMachine platform s i).2 ≠ .request (.ok request)) →
      SelectionOutcome platform s s' →
      StaysWithKem platform history ((clientMachine platform).event s i) ∧
        Commits platform start ((clientMachine platform).event s i :: history)
          (clientMachine platform s i).1 := by
    rintro _ reads rfl unbuilt outcome
    obtain ⟨selected, kept⟩ := @Commits.of_selection _ _ _ _ _
      ((clientMachine platform).event s i) commits unfloored outcome
      (fun sent => recorded sent reads) unbuilt
    exact ⟨⟨fun sent _ => selected sent, fun _ _ built => absurd built (unbuilt _)⟩, kept⟩
  have policy := (policyKept_step s i commits.policy driven).2
  cases i with
  | setDhGroup group => exact absurd driven id
  | setFreshnessToken | setKdcIdentity | setTrustBroker | setIsAnonymous =>
      exact ⟨staysWithKem_of_quiet id nofun, commits.of_unbuilt policy rfl rfl nofun⟩
  | processPkinitHint hintDer =>
      exact reading _ trivial rfl nofun (processPkinitHint_outcome s hintDer)
  | handleTryagain errorPadataDer =>
      exact reading _ trivial rfl nofun (handleTryagain_outcome s errorPadataDer)
  | handleTryagainTypedData typedData =>
      exact reading _ trivial rfl nofun (handleTryagainTypedData_outcome s typedData)
  | buildAsReq instant input =>
      exact commits.of_build (buildAsReq_outcome platform instant s input)
  | processAsRep instant o2k paRepDer params =>
      have outcome := processAsRep_outcome platform o2k instant s paRepDer params
      exact ⟨staysWithKem_of_quiet id nofun, commits.of_reply outcome nofun⟩

/-- **A commitment to a KEM is kept as long as lists are read on the record of
a request.** In a run driven by the KDC, where after a request with a KEM key
no list is read between a list that moved the selection and the next request,
no list leaves a group selected and every request has a KEM key. The record is
what keeps it: in every state a group is acceptable unless it is of a KEM. -/
theorem kem_commitment_kept (platform : Platform) (identity : PkinitIdentity)
    (trustStore : TrustStore) (config : PkinitClientConfig)
    (postQuantum : (PkinitClientState.new identity trustStore config).hasPqCertificate platform =
      true)
    (floor : (PkinitClientState.new identity trustStore config).kemFloor = none)
    (history : List ClientEvent) (s : PkinitClientState)
    (run : Run (clientMachine platform) (PkinitClientState.new identity trustStore config)
      history s)
    (driven : ∀ e ∈ history, e.input.KdcDriven) :
    (Each (ReadsOnRecord platform) history → Each (StaysWithKem platform) history) ∧
      (s.dhAllowed platform = true ↔ ∀ alg, s.keyExchange ≠ some (.kem alg)) := by
  let start := PkinitClientState.new identity trustStore config
  have unfloored : start.Unfloored platform := unfloored_new postQuantum floor
  have policy : PolicyKept platform start start := policyKept_new identity trustStore config
  constructor
  · intro recorded
    have allowed : Each (fun older e => e.input.KdcDriven ∧ ReadsOnRecord platform older e)
        history := by
      intro newer e older split
      refine ⟨driven e ?_, recorded newer e older split⟩
      rw [split]
      exact List.mem_append_right newer List.mem_cons_self
    have initial : Commits platform start [] start := by
      refine ⟨policy, ?_, ?_⟩
      all_goals
        rintro ⟨e, member, _⟩
        cases member
    exact (Run.rule initial (commits_step unfloored) run allowed).1
  · have kept := (Run.invariant (I := PolicyKept platform start) (P := fun _ => True) policy
      (fun s i kept driven => ⟨trivial, (policyKept_step s i kept driven).2⟩) run driven).2
    exact dhAllowed_of_unfloored (kept.unfloored unfloored)

namespace Reference

theorem pqClient_unfloored :
    pqClient.hasPqCertificate pqRecorded = true ∧ pqClient.kemFloor = none := by
  decide +kernel

/-- A request call whose output is a request, as its outcome. -/
theorem outcome_of_built {s : PkinitClientState}
    (built : (pqMachine s sendRequest).2.request?.isSome = true) :
    ∃ request, pqMachine.event s sendRequest =
        ⟨s, .buildAsReq clientInstant requestInput, .request (.ok request),
          (pqMachine s sendRequest).1⟩ ∧
      BuildOutcome pqRecorded clientInstant s requestInput (pqMachine s sendRequest).1
        (.ok request) := by
  have outcome := buildAsReq_outcome pqRecorded clientInstant s requestInput
  unfold Ends at outcome
  have output : (pqMachine s sendRequest).2 = .request (call (buildAsReq pqRecorded clientInstant
      requestInput.nonce requestInput.ctime requestInput.cusec requestInput.reqBodyDer) s).2 := rfl
  cases result : (call (buildAsReq pqRecorded clientInstant requestInput.nonce requestInput.ctime
      requestInput.cusec requestInput.reqBodyDer) s).2 with
  | error e =>
      rw [output, result] at built
      cases built
  | ok request =>
      rw [result] at outcome output
      exact ⟨request, congrArg (Event.mk s sendRequest · (pqMachine s sendRequest).1) output,
        outcome⟩

/-- The first request is for ML-KEM-512. -/
theorem pqClient_asks :
    (pqMachine.after pqClient [offerKem]).config.kemAlgorithm = some .mlKem512 ∧
      (pqMachine (pqMachine.after pqClient [offerKem]) sendRequest).2.request?.isSome = true ∧
      (pqMachine.after pqClient [offerKem, sendRequest]).keyExchange = some (.kem .mlKem512) := by
  decide +kernel

theorem pqClient_sendsKem :
    ∃ key, SentKemKey pqRecorded
      (pqMachine.event (pqMachine.after pqClient [offerKem]) sendRequest) key := by
  obtain ⟨selected, built, -⟩ := pqClient_asks
  obtain ⟨request, event, outcome⟩ := outcome_of_built built
  rw [event]
  exact sentKemKey_of_built selected outcome

/-- The second is for P-256. -/
theorem pqClient_weakened :
    (pqMachine.after pqClient
        [offerKem, sendRequest, offerOtherKem, offerGroup]).config.kemAlgorithm = none ∧
      (pqMachine.after pqClient [offerKem, sendRequest, offerOtherKem, offerGroup]).dhKey = none ∧
      (pqMachine (pqMachine.after pqClient [offerKem, sendRequest, offerOtherKem, offerGroup])
        sendRequest).2.request?.isSome = true := by
  decide +kernel

theorem pqClient_sendsDh :
    ∃ key, SentDhKey pqRecorded (pqMachine.event
      (pqMachine.after pqClient [offerKem, sendRequest, offerOtherKem, offerGroup])
      sendRequest) key := by
  obtain ⟨unselected, fresh, built⟩ := pqClient_weakened
  obtain ⟨request, event, outcome⟩ := outcome_of_built built
  rw [event]
  exact sentDhKey_of_built unselected fresh outcome

/-- Offered a group right after its request, the client asks again. -/
theorem history_of_retry :
    (exec pqMachine ([], pqClient) [offerKem, sendRequest, offerGroup, sendRequest]).1 =
      [pqMachine.event (pqMachine.after pqClient [offerKem, sendRequest, offerGroup]) sendRequest,
       pqMachine.event (pqMachine.after pqClient [offerKem, sendRequest]) offerGroup,
       pqMachine.event (pqMachine.after pqClient [offerKem]) sendRequest,
       pqMachine.event pqClient offerKem] := by
  have events : ∀ m : Machine PkinitClientState ClientCall ClientAnswer, ∀ s,
      (exec m ([], s) [offerKem, sendRequest, offerGroup, sendRequest]).1 =
        [m.event (m.after s [offerKem, sendRequest, offerGroup]) sendRequest,
         m.event (m.after s [offerKem, sendRequest]) offerGroup,
         m.event (m.after s [offerKem]) sendRequest, m.event s offerKem] :=
    fun _ _ => rfl
  exact events pqMachine pqClient

theorem history_of_weakeningCalls :
    (exec pqMachine ([], pqClient) weakeningCalls).1 =
      [pqMachine.event (pqMachine.after pqClient [offerKem, sendRequest, offerOtherKem, offerGroup])
        sendRequest,
       pqMachine.event (pqMachine.after pqClient [offerKem, sendRequest, offerOtherKem]) offerGroup,
       pqMachine.event (pqMachine.after pqClient [offerKem, sendRequest]) offerOtherKem,
       pqMachine.event (pqMachine.after pqClient [offerKem]) sendRequest,
       pqMachine.event pqClient offerKem] := by
  have events : ∀ m : Machine PkinitClientState ClientCall ClientAnswer, ∀ s,
      (exec m ([], s) weakeningCalls).1 =
        [m.event (m.after s [offerKem, sendRequest, offerOtherKem, offerGroup]) sendRequest,
         m.event (m.after s [offerKem, sendRequest, offerOtherKem]) offerGroup,
         m.event (m.after s [offerKem, sendRequest]) offerOtherKem,
         m.event (m.after s [offerKem]) sendRequest, m.event s offerKem] :=
    fun _ _ => rfl
  exact events pqMachine pqClient

end Reference

/-- A client that was offered P-256 right after its request stays with its KEM. -/
theorem kem_commitment_kept_pqClient :
    Each (StaysWithKem Reference.pqRecorded)
      (exec Reference.pqMachine ([], Reference.pqClient)
        [Reference.offerKem, Reference.sendRequest, Reference.offerGroup,
          Reference.sendRequest]).1 := by
  have driven : ∀ e ∈ (exec Reference.pqMachine ([], Reference.pqClient)
      [Reference.offerKem, Reference.sendRequest, Reference.offerGroup,
        Reference.sendRequest]).1, e.input.KdcDriven := by
    intro e member
    have called := input_mem_of_mem_exec member
    simp only [List.mem_cons, List.not_mem_nil, or_false] at called
    rcases called with same | same | same | same <;> rw [same] <;> exact trivial
  obtain ⟨postQuantum, floor⟩ := Reference.pqClient_unfloored
  have asked : ∀ e : ClientEvent, e.input = Reference.sendRequest → ∀ older,
      ReadsOnRecord Reference.pqRecorded older e := by
    rintro e request _ _ reads
    rw [request] at reads
    exact reads.elim
  have recorded : Each (ReadsOnRecord Reference.pqRecorded)
      (exec Reference.pqMachine ([], Reference.pqClient)
        [Reference.offerKem, Reference.sendRequest, Reference.offerGroup,
          Reference.sendRequest]).1 := by
    rw [Reference.history_of_retry]
    simp only [each_cons]
    refine ⟨asked _ rfl _, fun _ _ => ?_, asked _ rfl _, ?_, each_nil _⟩
    · rw [Machine.event_before, Reference.pqClient_asks.2.2]
      exact Option.some_ne_none _
    · rintro ⟨_, member, _⟩
      cases member
  exact (kem_commitment_kept Reference.pqRecorded _ _ _ postQuantum floor _ _ (run_exec _ _ _)
    driven).1 recorded

/-- The client's second call is a request with a KEM, its last one with P-256. -/
theorem commitment_forgotten :
    Reference.pqClient.hasPqCertificate Reference.pqRecorded = true ∧
      Reference.pqClient.kemFloor = none ∧
      Run Reference.pqMachine Reference.pqClient
        (exec Reference.pqMachine ([], Reference.pqClient) Reference.weakeningCalls).1
        (exec Reference.pqMachine ([], Reference.pqClient) Reference.weakeningCalls).2 ∧
      (∀ i ∈ Reference.weakeningCalls, i.KdcDriven) ∧
      ∃ last, ∃ first ∈ (exec Reference.pqMachine ([], Reference.pqClient)
          Reference.weakeningCalls).1.tail,
        (exec Reference.pqMachine ([], Reference.pqClient) Reference.weakeningCalls).1.head? =
          some last ∧
        (∃ key, SentKemKey Reference.pqRecorded first key) ∧
        ∃ key, SentDhKey Reference.pqRecorded last key := by
  obtain ⟨postQuantum, floor⟩ := Reference.pqClient_unfloored
  refine ⟨postQuantum, floor, run_exec _ _ _, ?_, ?_⟩
  · intro i member
    simp only [Reference.weakeningCalls, List.mem_cons, List.not_mem_nil, or_false] at member
    rcases member with rfl | rfl | rfl | rfl | rfl <;> exact trivial
  · rw [Reference.history_of_weakeningCalls]
    refine ⟨_, _, ?_, rfl, Reference.pqClient_sendsKem, Reference.pqClient_sendsDh⟩
    simp only [List.tail_cons, List.mem_cons, true_or, or_true]

end Kurbu5Pkinit

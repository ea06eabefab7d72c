import Kurbu5Pkinit.Reference.Client

/-!
# The KDC cannot weaken the client's policy

Hints, error data and replies are unauthenticated when the client reads them.
The invariant of a run driven by them: the floor, the identity and
`requireKem` never change, a selected KEM meets the floor, and a client
committed to a KEM has one selected and no DH key pair. Moving the selection
keeps it because `accepts` reads exactly these fields.
-/

set_option autoImplicit false

namespace Kurbu5Pkinit

open Library PkinitClientState

variable {platform : Platform} {instant : Instant} {start s s' : PkinitClientState}

/-- The client gave up classic key exchange when it was built: it requires a
KEM, or signs with a post-quantum certificate and configured one. -/
def PkinitClientState.Committed (platform : Platform) (s : PkinitClientState) : Prop :=
  s.config.requireKem = true ∨ s.hasPqCertificate platform = true ∧ s.kemFloor ≠ none

/-- The policy fixed at construction, in a state reached later. -/
structure PolicyKept (platform : Platform) (start s : PkinitClientState) : Prop where
  floor : s.kemFloor = start.kemFloor
  required : s.config.requireKem = start.config.requireKem
  identity : s.identity = start.identity
  atLeast : ∀ floor alg, start.kemFloor = some floor → s.config.kemAlgorithm = some alg →
    floor.strengthOrder ≤ alg.strengthOrder
  selected : start.Committed platform → s.config.kemAlgorithm ≠ none
  noDhKey : start.Committed platform → s.dhKey = none

/-! ## The initial state -/

/-- A committed client has a floor, given or implied. -/
theorem exists_floor_of_committed {identity : PkinitIdentity} {trustStore : TrustStore}
    {config : PkinitClientConfig}
    (committed : (PkinitClientState.new identity trustStore config).Committed platform) :
    ∃ floor, (PkinitClientState.new identity trustStore config).kemFloor = some floor := by
  rw [← Option.ne_none_iff_exists']
  rcases committed with required | ⟨_, floor⟩
  · simp only [PkinitClientState.new, PkinitClientConfig.withImplicitKem] at required ⊢
    split at required
    · next implied => simp [implied]
    · next configured => simp_all
  · exact floor

theorem policyKept_new (identity : PkinitIdentity) (trustStore : TrustStore)
    (config : PkinitClientConfig) :
    PolicyKept platform (PkinitClientState.new identity trustStore config)
      (PkinitClientState.new identity trustStore config) where
  floor := rfl
  required := rfl
  identity := rfl
  atLeast := by
    intro floor alg fixed selected
    -- The floor is the algorithm selected at construction.
    obtain rfl : floor = alg := Option.some.inj (fixed.symm.trans selected)
    exact le_refl _
  selected := by
    intro committed
    obtain ⟨floor, fixed⟩ := exists_floor_of_committed committed
    exact fun unselected => Option.some_ne_none floor (fixed.symm.trans unselected)
  noDhKey := fun _ => rfl

/-! ## One step -/

theorem PolicyKept.committed_iff (kept : PolicyKept platform start s) :
    s.Committed platform ↔ start.Committed platform := by
  simp only [Committed, hasPqCertificate, kept.floor, kept.required, kept.identity]

/-- A committed client accepts no classic offer. -/
theorem dhAllowed_eq_false (committed : s.Committed platform) : s.dhAllowed platform = false := by
  unfold dhAllowed
  rcases committed with required | ⟨pq, floor⟩
  · simp [required]
  · simp [pq, Option.isSome_iff_ne_none.mpr floor]

theorem PolicyKept.of_selection (kept : PolicyKept platform start s)
    (outcome : SelectionOutcome platform s s') : PolicyKept platform start s' := by
  cases outcome with
  | unchanged => exact kept
  | @applied offered accepted =>
      cases offered with
      | kem alg =>
          refine ⟨kept.floor, kept.required, kept.identity, ?_, ?_, kept.noDhKey⟩
          · intro floor alg' fixed selected
            obtain rfl := Option.some.inj selected
            simpa [accepts, kept.floor, fixed] using accepted
          · exact fun _ => Option.some_ne_none alg
      | dh group =>
          have uncommitted : ¬ start.Committed platform := by
            intro committed
            have refused := dhAllowed_eq_false (kept.committed_iff.mpr committed)
            rw [accepts, refused] at accepted
            cases accepted
          refine ⟨kept.floor, kept.required, kept.identity, ?_, ?_, fun _ => rfl⟩
          · intro _ _ _ selected
            cases selected
          · exact fun committed => absurd committed uncommitted

/-- A request writes only the keys, the nonce and the record of the exchange;
a DH request is made only when no KEM is selected. -/
theorem PolicyKept.of_build {input : RequestInput} {r : Except PkinitError Bytes}
    (kept : PolicyKept platform start s)
    (outcome : BuildOutcome platform instant s input s' r) : PolicyKept platform start s' := by
  cases outcome with
  | refused => exact kept
  | kemUnfinished | kem =>
      exact ⟨kept.floor, kept.required, kept.identity, kept.atLeast, kept.selected, kept.noDhKey⟩
  | dhUnfinished unselected | dh unselected =>
      refine ⟨kept.floor, kept.required, kept.identity, kept.atLeast, kept.selected, ?_⟩
      exact fun committed => absurd unselected (kept.selected committed)

theorem PolicyKept.of_reply {o2k : OctetString2Key} {paRepDer : Bytes} {params : AsRepParams}
    {r : Except PkinitError DerivedKey} (kept : PolicyKept platform start s)
    (outcome : ReplyOutcome platform o2k instant s paRepDer params s' r) :
    PolicyKept platform start s' := by
  cases outcome with
  | dhRefused | dh => exact kept
  | kemRefused | kem =>
      exact ⟨kept.floor, kept.required, kept.identity, kept.atLeast, kept.selected, kept.noDhKey⟩

/-! ## Requests and replies of a committed client -/

/-- The request carries a fresh KEM key of at least the floor. -/
structure CarriesKemKey (platform : Platform) (floor : KemAlgorithm) (e : ClientEvent) : Prop where
  carries : ∃ key, SentKemKey platform e key ∧ e.after.kemKey = some key ∧
    floor.strengthOrder ≤ key.algorithm.strengthOrder

/-- What an event of a committed client may be: a request is for a KEM, an
accepted reply is not a `dhInfo`. -/
structure StaysPostQuantum (platform : Platform) (floor : KemAlgorithm) (e : ClientEvent) :
    Prop where
  requests : ∀ request, e.output = .request (.ok request) → CarriesKemKey platform floor e
  replies : ∀ instant o2k paRepDer params key, e.input = .processAsRep instant o2k paRepDer params →
    e.output = .replyKey (.ok key) → isKemRep paRepDer = true

theorem staysPostQuantum_of_build {input : RequestInput} {floor : KemAlgorithm}
    {r : Except PkinitError Bytes} (kept : PolicyKept platform start s)
    (committed : start.Committed platform) (fixed : start.kemFloor = some floor)
    (outcome : BuildOutcome platform instant s input s' r) :
    StaysPostQuantum platform floor ⟨s, .buildAsReq instant input, .request r, s'⟩ where
  replies := by
    intro _ _ _ _ _ isReply
    cases isReply
  requests := by
    intro request built
    cases built
    cases outcome with
    | dh unselected => exact absurd unselected (kept.selected committed)
    | @kem alg key spkiDer _ selected generated exported carried =>
        have same := KemKeyPair.algorithm_of_generate generated
        refine ⟨key, ⟨by rw [same], instant, input, request, spkiDer, rfl, rfl, exported, carried⟩,
          rfl, ?_⟩
        rw [same]
        exact kept.atLeast floor alg fixed selected

theorem staysPostQuantum_of_reply {o2k : OctetString2Key} {paRepDer : Bytes}
    {params : AsRepParams} {floor : KemAlgorithm} {r : Except PkinitError DerivedKey}
    (kept : PolicyKept platform start s) (committed : start.Committed platform)
    (outcome : ReplyOutcome platform o2k instant s paRepDer params s' r) :
    StaysPostQuantum platform floor
      ⟨s, .processAsRep instant o2k paRepDer params, .replyKey r, s'⟩ where
  requests := by
    intro _ isRequest
    cases isRequest
  replies := by
    rintro _ _ _ _ key ⟨⟩ ⟨⟩
    cases outcome with
    | kem tag => exact tag
    | dh _ _ processed =>
        -- Without a DH key pair no `dhInfo` gets as far as a key.
        obtain ⟨_, dhKey, accepts⟩ := processDhRep_eq_ok.mp processed
        exact absurd (accepts.held.symm.trans (kept.noDhKey committed)) (Option.some_ne_none dhKey)

theorem staysPostQuantum_of_quiet {e : ClientEvent} {floor : KemAlgorithm}
    (noRequest : ∀ r, e.output ≠ .request r) (noReply : ∀ r, e.output ≠ .replyKey r) :
    StaysPostQuantum platform floor e :=
  ⟨fun _ isRequest => absurd isRequest (noRequest _),
    fun _ _ _ _ _ _ isReply => absurd isReply (noReply _)⟩

/-! ## Runs -/

/-- Every call but the one by which the client's own user picks a group. -/
def ClientCall.KdcDriven : ClientCall → Prop
  | .setDhGroup _ => False
  | _ => True

theorem policyKept_step (s : PkinitClientState) (i : ClientCall)
    (kept : PolicyKept platform start s) (driven : i.KdcDriven) :
    (∀ floor, start.Committed platform → start.kemFloor = some floor →
        StaysPostQuantum platform floor ((clientMachine platform).event s i)) ∧
      PolicyKept platform start (clientMachine platform s i).1 := by
  cases i with
  | setDhGroup group => exact absurd driven id
  | setFreshnessToken | setKdcIdentity | setTrustBroker | setIsAnonymous =>
      exact ⟨fun _ _ _ => staysPostQuantum_of_quiet nofun nofun, kept.floor, kept.required,
        kept.identity, kept.atLeast, kept.selected, kept.noDhKey⟩
  | processPkinitHint hintDer =>
      exact ⟨fun _ _ _ => staysPostQuantum_of_quiet nofun nofun,
        kept.of_selection (processPkinitHint_outcome s hintDer)⟩
  | handleTryagain errorPadataDer =>
      exact ⟨fun _ _ _ => staysPostQuantum_of_quiet nofun nofun,
        kept.of_selection (handleTryagain_outcome s errorPadataDer)⟩
  | handleTryagainTypedData typedData =>
      exact ⟨fun _ _ _ => staysPostQuantum_of_quiet nofun nofun,
        kept.of_selection (handleTryagainTypedData_outcome s typedData)⟩
  | buildAsReq instant input =>
      have outcome := buildAsReq_outcome platform instant s input
      exact ⟨fun _ committed fixed => staysPostQuantum_of_build kept committed fixed outcome,
        kept.of_build outcome⟩
  | processAsRep instant o2k paRepDer params =>
      have outcome := processAsRep_outcome platform o2k instant s paRepDer params
      exact ⟨fun _ committed _ => staysPostQuantum_of_reply kept committed outcome,
        kept.of_reply outcome⟩

/-- **The KDC cannot weaken the client's policy.** In every state a run driven
by the KDC reaches, a selected KEM meets the floor; and a client that was
committed to a KEM still has one selected, holds no DH key pair, has sent only
KEM keys of at least the floor and has accepted no `dhInfo` reply. -/
theorem kdc_cannot_weaken_policy (platform : Platform) (identity : PkinitIdentity)
    (trustStore : TrustStore) (config : PkinitClientConfig) (history : List ClientEvent)
    (s : PkinitClientState)
    (run : Run (clientMachine platform) (PkinitClientState.new identity trustStore config)
      history s)
    (driven : ∀ e ∈ history, e.input.KdcDriven) :
    (∀ floor alg, (PkinitClientState.new identity trustStore config).kemFloor = some floor →
      s.config.kemAlgorithm = some alg → floor.strengthOrder ≤ alg.strengthOrder) ∧
    ((PkinitClientState.new identity trustStore config).Committed platform →
      s.config.kemAlgorithm ≠ none ∧ s.dhKey = none ∧
      ∃ floor, (PkinitClientState.new identity trustStore config).kemFloor = some floor ∧
        ∀ e ∈ history, StaysPostQuantum platform floor e) := by
  let start := PkinitClientState.new identity trustStore config
  obtain ⟨events, kept⟩ := Run.invariant (I := PolicyKept platform start)
    (P := fun e => ∀ floor, start.Committed platform → start.kemFloor = some floor →
      StaysPostQuantum platform floor e)
    (policyKept_new identity trustStore config) policyKept_step run driven
  refine ⟨kept.atLeast, fun committed => ⟨kept.selected committed, kept.noDhKey committed, ?_⟩⟩
  obtain ⟨floor, fixed⟩ := exists_floor_of_committed committed
  exact ⟨floor, fixed, fun e member => events e member floor committed fixed⟩

/-- A client that requires a KEM asks, is offered P-256 alone, and asks again. -/
theorem kdc_cannot_weaken_policy_kemClient :
    (Reference.clientRun Reference.kemClient
        [Reference.sendRequest, Reference.offerGroup, Reference.sendRequest]).2.dhKey = none ∧
      ∀ e ∈ (Reference.clientRun Reference.kemClient
          [Reference.sendRequest, Reference.offerGroup, Reference.sendRequest]).1,
        StaysPostQuantum Reference.recorded .mlKem512 e := by
  have driven : ∀ e ∈ (Reference.clientRun Reference.kemClient
      [Reference.sendRequest, Reference.offerGroup, Reference.sendRequest]).1,
      e.input.KdcDriven := by
    intro e member
    have called := input_mem_of_mem_exec member
    simp only [List.mem_cons, List.not_mem_nil, or_false] at called
    rcases called with same | same | same <;> rw [same] <;> exact trivial
  obtain ⟨-, committed⟩ := kdc_cannot_weaken_policy Reference.recorded Reference.noIdentity
    Reference.trustStore _ _ _ (Reference.run_clientRun Reference.kemClient _) driven
  obtain ⟨-, noDhKey, floor, fixed, events⟩ := committed (.inl rfl)
  cases fixed
  exact ⟨noDhKey, events⟩

end Kurbu5Pkinit

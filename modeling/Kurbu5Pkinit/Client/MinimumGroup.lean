import Kurbu5Pkinit.Client.Policy
import Kurbu5Pkinit.Client.Selection
import Kurbu5Pkinit.Plugin.Profile

/-!
# The configured minimum size of a group

`pkinit_dh_min_bits` bounds the groups a client is to use from below. It is
applied twice: the first group is chosen by it, and an offered group below it
counts as not implemented. The first choice meets every minimum up to 4096
bits. Among the offers only the MODP groups are compared with it; a curve is
recognized whatever its size.

A run keeps the minimum where its lists name no curve that is too small.
-/

set_option autoImplicit false

namespace Kurbu5Pkinit

open Library PkinitClientState

variable {platform : Platform} {instant : Instant} {s s' : PkinitClientState}

/-! ## The first group -/

theorem le_minBits_dhGroupFromMinBits_iff (minBits : Nat) :
    minBits ≤ (dhGroupFromMinBits minBits).minBits ↔ minBits ≤ 4096 := by
  unfold dhGroupFromMinBits
  split
  · next small => simp only [DhGroup.minBits]; omega
  · split
    · next medium => simp only [DhGroup.minBits]; omega
    · simp only [DhGroup.minBits]

/-- A configuration that was read has the group its minimum selects. -/
theorem dhGroup_of_readClientConfig {profile : Profile} {realm : Option String}
    {given config : PkinitClientConfig}
    (configured : call (readClientConfig profile realm) given = (config, .ok ())) :
    config.dhGroup = dhGroupFromMinBits config.dhMinBits := by
  have ends : Ends (readClientConfig profile realm) given fun config r =>
      r = .ok () → config.dhGroup = dhGroupFromMinBits config.dhMinBits := by
    unfold readClientConfig
    refine Ends.bind_modify ?_
    split
    · refine Ends.bind_lift (fun e _ failed => by cases failed) ?_
      intro kemAlgorithm _
      exact Ends.bind_modify fun _ => rfl
    · exact fun _ => rfl
  unfold Ends at ends
  rw [configured] at ends
  exact ends rfl

/-! ## The offers -/

/-- The identifier of a curve. -/
inductive NamesCurve : Oid → DhGroup → Prop
  | p256 : NamesCurve SECP256R1 .ecP256
  | p384 : NamesCurve SECP384R1 .ecP384
  | p521 : NamesCurve SECP521R1 .ecP521

/-- The offer names a curve below the minimum. -/
def NamesWeakCurve (synta : Synta) (minBits : Nat) (offer : OfferedAlgorithm) : Prop :=
  offer.1 = ID_EC_PUBLIC_KEY ∧ ∃ params oid curve, offer.2 = some params ∧
    synta.objectIdentifier.fromDer params = .ok oid ∧ NamesCurve oid curve ∧
    curve.minBits < minBits

theorem curve_eq_some {oid : Oid} {group : DhGroup} :
    (if oid = SECP256R1 then some DhGroup.ecP256
      else if oid = SECP384R1 then some .ecP384
      else if oid = SECP521R1 then some .ecP521
      else none) = some group ↔ NamesCurve oid group := by
  constructor
  · intro found
    split at found
    · next same =>
        cases found
        rw [same]
        exact .p256
    · split at found
      · next same =>
          cases found
          rw [same]
          exact .p384
      · split at found
        · next same =>
            cases found
            rw [same]
            exact .p521
        · cases found
  · intro names
    cases names <;> rfl

/-- An offer of a curve is recognized whatever the minimum. -/
theorem groupFromAlgorithmIdentifier_curve {params : Option Bytes} {minBits : Nat}
    {group : DhGroup} :
    groupFromAlgorithmIdentifier platform ID_EC_PUBLIC_KEY params minBits = some group ↔
      ∃ paramsDer oid, params = some paramsDer ∧
        platform.synta.objectIdentifier.fromDer paramsDer = .ok oid ∧ NamesCurve oid group := by
  unfold groupFromAlgorithmIdentifier
  rw [if_pos rfl]
  cases params with
  | none => simp
  | some paramsDer =>
      cases read : platform.synta.objectIdentifier.fromDer paramsDer with
      | error e => simp [Except.toOption, read]
      | ok oid => simpa [Except.toOption, read] using curve_eq_some

/-- An offer of any other kind is recognized only from the minimum on. -/
theorem le_minBits_of_modp {oid : Oid} {params : Option Bytes} {minBits : Nat} {group : DhGroup}
    (other : oid ≠ ID_EC_PUBLIC_KEY)
    (found : groupFromAlgorithmIdentifier platform oid params minBits = some group) :
    minBits ≤ group.minBits := by
  unfold groupFromAlgorithmIdentifier at found
  rw [if_neg other] at found
  have kept : ∀ named : DhGroup,
      (if minBits ≤ named.minBits then some named else none) = some group →
        minBits ≤ group.minBits := by
    intro named kept
    split at kept
    · next above =>
        cases kept
        exact above
    · cases kept
  split at found
  · split at found
    · exact kept .oakley2048 found
    · split at found
      · exact kept .oakley4096 found
      · cases found
  · cases found

/-- **A group below the minimum is recognized exactly when it is a curve.** -/
theorem recognize_meets_minimum_iff (s : PkinitClientState) (offer : OfferedAlgorithm) :
    (∀ group, s.recognize platform offer = some (.dh group) →
        s.config.dhMinBits ≤ group.minBits) ↔
      ¬ NamesWeakCurve platform.synta s.config.dhMinBits offer := by
  obtain ⟨oid, params⟩ := offer
  by_cases curve : oid = ID_EC_PUBLIC_KEY
  · subst curve
    have unnamed : KemAlgorithm.fromOid ID_EC_PUBLIC_KEY = none := rfl
    have recognizes : ∀ group, s.recognize platform (ID_EC_PUBLIC_KEY, params) = some (.dh group) ↔
        groupFromAlgorithmIdentifier platform ID_EC_PUBLIC_KEY params s.config.dhMinBits =
          some group := by
      intro group
      simp [recognize, unnamed]
    simp only [recognizes, groupFromAlgorithmIdentifier_curve]
    constructor
    · rintro meets ⟨_, paramsDer, named, group, present, read, names, weak⟩
      exact absurd (meets group ⟨paramsDer, named, present, read, names⟩) (by omega)
    · rintro strong group ⟨paramsDer, named, present, read, names⟩
      by_contra weak
      exact strong ⟨rfl, paramsDer, named, group, present, read, names, by omega⟩
  · constructor
    · rintro _ ⟨same, _⟩
      exact curve same
    · intro _ group recognized
      unfold recognize at recognized
      split at recognized
      · cases recognized
      · simp only [Option.map_eq_some_iff] at recognized
        obtain ⟨found, named, ⟨⟩⟩ := recognized
        exact le_minBits_of_modp curve named

/-! ## Runs -/

/-- The list of the KDC that a call reads. -/
inductive Reads (platform : Platform) : ClientCall → List OfferedAlgorithm → Prop
  | hint {hintDer : Bytes} {advertised : List OfferedAlgorithm}
      (read : parsePkinitHint platform.synta platform.usizeBits hintDer = .ok advertised) :
      Reads platform (.processPkinitHint hintDer) advertised
  | typedData {typedData : List (Int × Bytes)} {value : Bytes} {advertised : List OfferedAlgorithm}
      (first : First DecidesRetry typedData (TD_DH_PARAMETERS, value))
      (read : parseTdOffered platform value = .ok advertised) :
      Reads platform (.handleTryagainTypedData typedData) advertised
  | errorPadata {errorPadataDer : Bytes} {padata : List PaData}
      {advertised : List OfferedAlgorithm}
      (decoded : platform.synta.methodData.fromDer errorPadataDer = .ok padata)
      (reads : Reads platform
        (.handleTryagainTypedData (padata.map fun pa => (pa.paType, pa.contents))) advertised) :
      Reads platform (.handleTryagain errorPadataDer) advertised

/-- No curve below the minimum is named on a list that the event read. -/
def ReadsNoWeakCurve (platform : Platform) (minBits : Nat) (e : ClientEvent) : Prop :=
  ∀ advertised, Reads platform e.input advertised → ∀ offer ∈ advertised,
    ¬ NamesWeakCurve platform.synta minBits offer

/-- A request of the event is for a KEM or a group that meets the minimum. -/
def RequestsAboveMinimum (platform : Platform) (minBits : Nat) (e : ClientEvent) : Prop :=
  ∀ request, e.output = .request (.ok request) → ∃ offered, RequestsBy platform e offered ∧
    ∀ group, offered = .dh group → minBits ≤ group.minBits

/-- A selected group meets the minimum, and so does a key pair held for it. -/
structure AboveMinimum (minBits : Nat) (s : PkinitClientState) : Prop where
  minimum : s.config.dhMinBits = minBits
  group : ∀ group, s.selection = .dh group → minBits ≤ group.minBits
  chosen : Chosen s.selection s

variable {minBits : Nat}

theorem dhMinBits_apply (s : PkinitClientState) (offered : Offered) :
    (s.apply offered).config.dhMinBits = s.config.dhMinBits := by
  cases offered <;> rfl

/-- Moving to a recognized entry of a list without weak curves. -/
theorem AboveMinimum.apply {advertised : List OfferedAlgorithm} {offered : Offered}
    (above : AboveMinimum minBits s)
    (strong : ∀ offer ∈ advertised, ¬ NamesWeakCurve platform.synta minBits offer)
    (recognized : offered ∈ s.recognized platform advertised) :
    AboveMinimum minBits (s.apply offered) := by
  have chosen := chosen_apply s offered
  obtain ⟨offer, listed, read⟩ := List.mem_filterMap.mp recognized
  refine ⟨(dhMinBits_apply s offered).trans above.minimum, ?_, ?_⟩
  · intro group selected
    rw [chosen.selected] at selected
    subst selected
    have wide : s.config.dhMinBits ≤ group.minBits := by
      refine (recognize_meets_minimum_iff s offer).mpr ?_ group read
      rw [above.minimum]
      exact strong offer listed
    exact above.minimum ▸ wide
  · rw [chosen.selected]
    exact chosen

theorem AboveMinimum.of_hint {hintDer : Bytes} {r : Except PkinitError Unit}
    (above : AboveMinimum minBits s)
    (strong : ∀ advertised, Reads platform (.processPkinitHint hintDer) advertised →
      ∀ offer ∈ advertised, ¬ NamesWeakCurve platform.synta minBits offer)
    (selects : HintSelects platform s hintDer s' r) : AboveMinimum minBits s' := by
  cases selects with
  | malformed | empty | kept | refused => exact above
  | moved read _ _ first => exact above.apply (strong _ (.hint read)) first.mem

theorem AboveMinimum.of_typedData {typedData : List (Int × Bytes)}
    {r : Except PkinitError RetryAction} (above : AboveMinimum minBits s)
    (strong : ∀ advertised, Reads platform (.handleTryagainTypedData typedData) advertised →
      ∀ offer ∈ advertised, ¬ NamesWeakCurve platform.synta minBits offer)
    (selects : TypedDataSelects platform s typedData s' r) : AboveMinimum minBits s' := by
  cases selects with
  | silent | certificates => exact above
  | parameters decides selects =>
      cases selects with
      | malformed | refused => exact above
      | moved read first => exact above.apply (strong _ (.typedData decides read)) first.mem

/-- A call that leaves the selection and the minimum alone. -/
theorem AboveMinimum.of_quiet {i : ClientCall} (above : AboveMinimum minBits s)
    (quiet : ¬ i.Selects)
    (minimum : (clientMachine platform s i).1.config.dhMinBits = s.config.dhMinBits) :
    RequestsAboveMinimum platform minBits ((clientMachine platform).event s i) ∧
      AboveMinimum minBits (clientMachine platform s i).1 := by
  obtain ⟨requests, chosen⟩ := @chosen_step platform _ s i above.chosen quiet
  refine ⟨fun request built => ⟨s.selection, requests request built, above.group⟩,
    minimum.trans above.minimum, ?_, ?_⟩
  · rw [chosen.selected]
    exact above.group
  · rw [chosen.selected]
    exact chosen

theorem dhMinBits_of_build {input : RequestInput} {r : Except PkinitError Bytes}
    (outcome : BuildOutcome platform instant s input s' r) :
    s'.config.dhMinBits = s.config.dhMinBits := by
  cases outcome <;> rfl

theorem dhMinBits_of_reply {o2k : OctetString2Key} {paRepDer : Bytes} {params : AsRepParams}
    {r : Except PkinitError DerivedKey}
    (outcome : ReplyOutcome platform o2k instant s paRepDer params s' r) :
    s'.config.dhMinBits = s.config.dhMinBits := by
  cases outcome <;> rfl

theorem aboveMinimum_step (s : PkinitClientState) (i : ClientCall)
    (above : AboveMinimum minBits s)
    (allowed : i.KdcDriven ∧
      ReadsNoWeakCurve platform minBits ((clientMachine platform).event s i)) :
    RequestsAboveMinimum platform minBits ((clientMachine platform).event s i) ∧
      AboveMinimum minBits (clientMachine platform s i).1 := by
  obtain ⟨driven, strong⟩ := allowed
  have reading : (∀ request, (clientMachine platform s i).2 ≠ .request (.ok request)) →
      RequestsAboveMinimum platform minBits ((clientMachine platform).event s i) :=
    fun unbuilt request built => absurd built (unbuilt request)
  cases i with
  | setDhGroup group => exact absurd driven id
  | setFreshnessToken | setKdcIdentity | setTrustBroker | setIsAnonymous =>
      exact above.of_quiet id rfl
  | processPkinitHint hintDer =>
      exact ⟨reading nofun, above.of_hint strong (processPkinitHint_follows s hintDer)⟩
  | handleTryagainTypedData typedData =>
      exact ⟨reading nofun,
        above.of_typedData strong (handleTryagainTypedData_follows s typedData)⟩
  | handleTryagain errorPadataDer =>
      refine ⟨reading nofun, ?_⟩
      have ends : Ends (handleTryagain platform errorPadataDer) s fun s' _ =>
          AboveMinimum minBits s' := by
        unfold handleTryagain
        refine Ends.bind_lift (fun _ _ => above) ?_
        intro padata decoded
        simp only [mapError_eq_ok] at decoded
        refine (handleTryagainTypedData_follows s _).mono fun _ _ selects => ?_
        exact above.of_typedData
          (fun advertised reads => strong advertised (.errorPadata decoded reads)) selects
      exact ends
  | buildAsReq instant input =>
      exact above.of_quiet id (dhMinBits_of_build (buildAsReq_outcome platform instant s input))
  | processAsRep instant o2k paRepDer params =>
      exact above.of_quiet id
        (dhMinBits_of_reply (processAsRep_outcome platform o2k instant s paRepDer params))

theorem config_new (identity : PkinitIdentity) (trustStore : TrustStore)
    (config : PkinitClientConfig) :
    (PkinitClientState.new identity trustStore config).config.dhMinBits = config.dhMinBits ∧
      (PkinitClientState.new identity trustStore config).config.dhGroup = config.dhGroup := by
  simp only [PkinitClientState.new, PkinitClientConfig.withImplicitKem]
  split <;> exact ⟨rfl, rfl⟩

/-- The client that was configured with a minimum it can meet. -/
theorem aboveMinimum_new {identity : PkinitIdentity} {trustStore : TrustStore}
    {config : PkinitClientConfig} (group : config.dhGroup = dhGroupFromMinBits config.dhMinBits)
    (met : config.dhMinBits ≤ 4096 ∨
      (PkinitClientState.new identity trustStore config).config.kemAlgorithm ≠ none) :
    AboveMinimum config.dhMinBits (PkinitClientState.new identity trustStore config) := by
  obtain ⟨minimum, sameGroup⟩ := config_new identity trustStore config
  refine ⟨minimum, ?_, rfl, fun _ key held => absurd held.symm (Option.some_ne_none key)⟩
  intro first selected
  cases unselected : (PkinitClientState.new identity trustStore config).config.kemAlgorithm with
  | some alg =>
      rw [selection_of_kem unselected] at selected
      cases selected
  | none =>
      rw [selection_of_dh unselected, sameGroup, group] at selected
      obtain rfl := Offered.dh.inj selected
      exact (le_minBits_dhGroupFromMinBits_iff config.dhMinBits).mpr
        (met.resolve_right fun kem => kem unselected)

/-- What a request is for is on record after it. -/
theorem keyExchange_of_requestsBy {e : ClientEvent} {offered : Offered}
    (requests : RequestsBy platform e offered) :
    e.after.keyExchange.map Offered.ofKeyExchange = some offered := by
  cases offered with
  | kem alg =>
      obtain ⟨key, sent, rfl⟩ := requests
      rw [sent.keyExchange]
      rfl
  | dh group =>
      obtain ⟨key, sent, rfl⟩ := requests
      rw [sent.keyExchange]
      rfl

/-- A client that cannot meet its minimum asks below it until it is offered
something else. -/
theorem first_request_below_minimum {identity : PkinitIdentity} {trustStore : TrustStore}
    {config : PkinitClientConfig} (group : config.dhGroup = dhGroupFromMinBits config.dhMinBits)
    (unmet : ¬ (config.dhMinBits ≤ 4096 ∨
      (PkinitClientState.new identity trustStore config).config.kemAlgorithm ≠ none))
    {history : List ClientEvent} {request : Bytes} {e : ClientEvent}
    (run : Run (clientMachine platform) (PkinitClientState.new identity trustStore config)
      history s)
    (quiet : ∀ e ∈ history, ¬ e.input.Selects) (member : e ∈ history)
    (built : e.output = .request (.ok request)) :
    ¬ RequestsAboveMinimum platform config.dhMinBits e := by
  obtain ⟨above, unselected⟩ := not_or.mp unmet
  have sameGroup := (config_new identity trustStore config).2
  have chosen : Chosen (.dh config.dhGroup) (PkinitClientState.new identity trustStore config) :=
    ⟨by rw [selection_of_dh (not_not.mp unselected), sameGroup],
      fun _ key held => absurd held.symm (Option.some_ne_none key)⟩
  have requests := chosen.requests run quiet e member request built
  intro meets
  obtain ⟨offered, requests', minimum⟩ := meets request built
  obtain rfl : Offered.dh config.dhGroup = offered := Option.some.inj
    ((keyExchange_of_requestsBy requests).symm.trans (keyExchange_of_requestsBy requests'))
  have met := minimum _ rfl
  rw [group] at met
  exact above ((le_minBits_dhGroupFromMinBits_iff config.dhMinBits).mp met)

/-- **The minimum is kept where no list names a curve below it.** The first
group meets the minimum exactly up to 4096 bits, and in every state of a run
an offer below it is recognized exactly when it is a curve. In a run without
such offers every request of a client that can meet its minimum is for a KEM
or for a group that does; one that cannot asks below the minimum from the
start. -/
theorem minimum_group_kept (platform : Platform) (profile : Profile) (realm : Option String)
    (given config : PkinitClientConfig)
    (configured : call (readClientConfig profile realm) given = (config, .ok ()))
    (identity : PkinitIdentity) (trustStore : TrustStore) :
    (config.dhMinBits ≤ config.dhGroup.minBits ↔ config.dhMinBits ≤ 4096) ∧
    (∀ s : PkinitClientState, ∀ offer,
      (∀ group, s.recognize platform offer = some (.dh group) →
          s.config.dhMinBits ≤ group.minBits) ↔
        ¬ NamesWeakCurve platform.synta s.config.dhMinBits offer) ∧
    (∀ history s,
      Run (clientMachine platform) (PkinitClientState.new identity trustStore config) history s →
      (∀ e ∈ history, e.input.KdcDriven) →
      (config.dhMinBits ≤ 4096 ∨
        (PkinitClientState.new identity trustStore config).config.kemAlgorithm ≠ none) →
      (∀ e ∈ history, ReadsNoWeakCurve platform config.dhMinBits e) →
      s.config.dhMinBits = config.dhMinBits ∧
        ∀ e ∈ history, RequestsAboveMinimum platform config.dhMinBits e) ∧
    (¬ (config.dhMinBits ≤ 4096 ∨
        (PkinitClientState.new identity trustStore config).config.kemAlgorithm ≠ none) →
      ∀ history s,
        Run (clientMachine platform) (PkinitClientState.new identity trustStore config) history s →
        (∀ e ∈ history, ¬ e.input.Selects) →
        ∀ e ∈ history, ∀ request, e.output = .request (.ok request) →
          ¬ RequestsAboveMinimum platform config.dhMinBits e) := by
  have group := dhGroup_of_readClientConfig configured
  refine ⟨?_, recognize_meets_minimum_iff, ?_, ?_⟩
  · rw [group]
    exact le_minBits_dhGroupFromMinBits_iff config.dhMinBits
  · intro history s run driven met strong
    obtain ⟨requests, above⟩ := Run.invariant (I := AboveMinimum config.dhMinBits)
      (A := fun e => e.input.KdcDriven ∧ ReadsNoWeakCurve platform config.dhMinBits e)
      (P := RequestsAboveMinimum platform config.dhMinBits) (aboveMinimum_new group met)
      aboveMinimum_step run fun e member => ⟨driven e member, strong e member⟩
    exact ⟨above.minimum, requests⟩
  · intro unmet history s run quiet e member request built
    exact first_request_below_minimum group unmet run quiet member built

/-! ## A profile with a minimum -/

namespace Reference

/-- `krb5.conf` with `pkinit_dh_min_bits` alone. -/
def minimumProfile (minBits : Int32) : Profile where
  getStringOpt _ _ _ := .ok none
  getValues _ := .ok []
  getBoolean _ _ _ default := .ok default
  getInteger _ key _ default := .ok (if key = "pkinit_dh_min_bits" then minBits else default)

def minimumConfig (minBits : Int32) : PkinitClientConfig :=
  (call (readClientConfig (minimumProfile minBits) none) {}).1

def minimumClient (minBits : Int32) : PkinitClientState :=
  .new noIdentity trustStore (minimumConfig minBits)

/-- A hint that offers P-256 alone. -/
def hintGroup : ClientCall :=
  .processPkinitHint (sequence (explicitly 0 (sequence (writeAlgorithmIdentifier
    ⟨ID_EC_PUBLIC_KEY, some (.objectIdentifier SECP256R1)⟩))))

theorem configured_minimumConfig (minBits : Int32) :
    call (readClientConfig (minimumProfile minBits) none) {} = (minimumConfig minBits, .ok ()) :=
  Prod.ext rfl rfl

/-- At 2048 bits the hint selects P-256, and the client asks. -/
theorem minimumClient_hinted :
    ((clientMachine recorded).after (minimumClient 2048) [hintGroup]).config.kemAlgorithm = none ∧
      ((clientMachine recorded).after (minimumClient 2048) [hintGroup]).config.dhGroup = .ecP256 ∧
      ((clientMachine recorded).after (minimumClient 2048) [hintGroup]).dhKey = none ∧
      (clientMachine recorded ((clientMachine recorded).after (minimumClient 2048) [hintGroup])
        sendRequest).2.request?.isSome = true := by
  decide +kernel

theorem history_of_hinted (start : PkinitClientState) :
    (clientRun start [hintGroup, sendRequest]).1 =
      [(clientMachine recorded).event ((clientMachine recorded).after start [hintGroup])
          sendRequest,
        (clientMachine recorded).event start hintGroup] := by
  have events : ∀ m : Machine PkinitClientState ClientCall ClientAnswer, ∀ s,
      (exec m ([], s) [hintGroup, sendRequest]).1 =
        [m.event (m.after s [hintGroup]) sendRequest, m.event s hintGroup] := fun _ _ => rfl
  exact events (clientMachine recorded) start

theorem kdcDriven_hinted (start : PkinitClientState) :
    ∀ e ∈ (clientRun start [hintGroup, sendRequest]).1, e.input.KdcDriven := by
  intro e member
  rw [history_of_hinted] at member
  simp only [List.mem_cons, List.not_mem_nil, or_false] at member
  rcases member with rfl | rfl <;> exact trivial

end Reference

/-- No curve is below 256 bits: at that minimum the hint is heeded rightly. -/
theorem minimum_group_kept_hintGroup :
    (Reference.minimumConfig 256).dhMinBits = 256 ∧
      ∀ e ∈ (Reference.clientRun (Reference.minimumClient 256)
          [Reference.hintGroup, Reference.sendRequest]).1,
        RequestsAboveMinimum Reference.recorded 256 e := by
  have strong : ∀ e : ClientEvent, ReadsNoWeakCurve Reference.recorded 256 e := by
    rintro e advertised _ offer _ ⟨_, _, _, curve, _, _, names, weak⟩
    cases names <;> simp only [DhGroup.minBits] at weak <;> omega
  obtain ⟨_, _, kept, _⟩ := minimum_group_kept Reference.recorded (Reference.minimumProfile 256)
    none {} _ (Reference.configured_minimumConfig 256) Reference.noIdentity Reference.trustStore
  exact ⟨rfl, (kept _ _ (Reference.run_clientRun (Reference.minimumClient 256) _)
    (Reference.kdcDriven_hinted _) (.inl (by decide)) fun e _ => strong e).2⟩

/-- At a minimum of 2048 bits the client asks with P-256. -/
theorem weak_curve_used :
    call (readClientConfig (Reference.minimumProfile 2048) none) {} =
        (Reference.minimumConfig 2048, .ok ()) ∧
      (Reference.minimumConfig 2048).dhMinBits = 2048 ∧
      Run (clientMachine Reference.recorded)
        (.new Reference.noIdentity Reference.trustStore (Reference.minimumConfig 2048))
        (Reference.clientRun (Reference.minimumClient 2048)
          [Reference.hintGroup, Reference.sendRequest]).1
        (Reference.clientRun (Reference.minimumClient 2048)
          [Reference.hintGroup, Reference.sendRequest]).2 ∧
      (∀ e ∈ (Reference.clientRun (Reference.minimumClient 2048)
          [Reference.hintGroup, Reference.sendRequest]).1, e.input.KdcDriven) ∧
      ∃ e ∈ (Reference.clientRun (Reference.minimumClient 2048)
          [Reference.hintGroup, Reference.sendRequest]).1,
        ∃ key, SentDhKey Reference.recorded e key ∧ key.group.minBits < 2048 := by
  refine ⟨Reference.configured_minimumConfig 2048, rfl, Reference.run_clientRun _ _,
    Reference.kdcDriven_hinted _, ?_⟩
  rw [Reference.history_of_hinted]
  refine ⟨_, List.mem_cons_self, ?_⟩
  obtain ⟨unselected, group, fresh, built⟩ := Reference.minimumClient_hinted
  have chosen : Chosen (.dh .ecP256) ((clientMachine Reference.recorded).after
      (Reference.minimumClient 2048) [Reference.hintGroup]) := by
    refine ⟨by rw [selection_of_dh unselected, group], fun _ key held => ?_⟩
    exact absurd (held.symm.trans fresh) (Option.some_ne_none key)
  have requests := (@chosen_step Reference.recorded _ _ Reference.sendRequest chosen id).1
  cases answered : (clientMachine Reference.recorded ((clientMachine Reference.recorded).after
      (Reference.minimumClient 2048) [Reference.hintGroup]) Reference.sendRequest).2 with
  | done | retry | replyKey => rw [answered] at built; cases built
  | request r =>
      cases r with
      | error e => rw [answered] at built; cases built
      | ok request =>
          obtain ⟨key, sent, same⟩ := requests request answered
          exact ⟨key, sent, by rw [same]; decide⟩

end Kurbu5Pkinit

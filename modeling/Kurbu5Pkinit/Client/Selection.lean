import Kurbu5Pkinit.Client.Calls
import Kurbu5Pkinit.Library.First

/-!
# The rule for selecting a key exchange

What the client makes of a list of the KDC, as a rule on the entries it
recognizes. A hint keeps a selected KEM that is listed and acceptable, and
otherwise selects the first entry the policy accepts. A retry passes over the
exchange that was just sent and selects the first entry that is left.

A call that fails leaves every field alone. One that succeeds moves the
selection, the key pairs and the record of the latest request, and the next
request is for what it selected.
-/

set_option autoImplicit false

namespace Kurbu5Pkinit

open Library PkinitClientState

variable {platform : Platform} {instant : Instant} {s : PkinitClientState}

/-! ## The rule -/

namespace PkinitClientState

/-- The entries of a list that the client implements, in the KDC's order. -/
def recognized (platform : Platform) (s : PkinitClientState) (advertised : List OfferedAlgorithm) :
    List Offered :=
  advertised.filterMap (s.recognize platform)

/-- The key exchange the next request is for. -/
def selected (s : PkinitClientState) : KeyExchangeType :=
  match s.config.kemAlgorithm with
  | some alg => .kem alg
  | none => .dh s.config.dhGroup

/-- The same, as an entry of a list. -/
def selection (s : PkinitClientState) : Offered :=
  .ofKeyExchange s.selected

/-- The selected KEM is listed, and the policy accepts it. -/
def Keeps (platform : Platform) (s : PkinitClientState) (offers : List Offered) : Prop :=
  ∃ alg, s.config.kemAlgorithm = some alg ∧ .kem alg ∈ offers ∧
    s.accepts platform (.kem alg) = true

/-- The policy accepts the exchange, and it is not the one just sent. -/
def Retries (platform : Platform) (s : PkinitClientState) (offered : Offered) : Prop :=
  s.accepts platform offered = true ∧ s.keyExchange.map Offered.ofKeyExchange ≠ some offered

instance (platform : Platform) (s : PkinitClientState) : DecidablePred (s.Retries platform) :=
  fun _ => inferInstanceAs (Decidable (_ ∧ _))

end PkinitClientState

/-- What the caller is told about a retry. -/
def Offered.retryAction : Offered → RetryAction
  | .kem alg => .retryWithKemAlgorithm alg
  | .dh group => .retryWithDhParams group

/-- What a hint does to the client. -/
inductive HintSelects (platform : Platform) (s : PkinitClientState) (hintDer : Bytes) :
    PkinitClientState → Except PkinitError Unit → Prop
  | malformed {e : PkinitError}
      (read : parsePkinitHint platform.synta platform.usizeBits hintDer = .error e) :
      HintSelects platform s hintDer s (.error e)
  | empty (read : parsePkinitHint platform.synta platform.usizeBits hintDer = .ok []) :
      HintSelects platform s hintDer s (.ok ())
  | kept {advertised : List OfferedAlgorithm}
      (read : parsePkinitHint platform.synta platform.usizeBits hintDer = .ok advertised)
      (nonempty : advertised ≠ []) (keeps : s.Keeps platform (s.recognized platform advertised)) :
      HintSelects platform s hintDer s (.ok ())
  | moved {advertised : List OfferedAlgorithm} {offered : Offered}
      (read : parsePkinitHint platform.synta platform.usizeBits hintDer = .ok advertised)
      (nonempty : advertised ≠ [])
      (unkept : ¬ s.Keeps platform (s.recognized platform advertised))
      (first : First (fun offered => s.accepts platform offered = true)
        (s.recognized platform advertised) offered) :
      HintSelects platform s hintDer (s.apply offered) (.ok ())
  | refused {advertised : List OfferedAlgorithm} {text : String}
      (read : parsePkinitHint platform.synta platform.usizeBits hintDer = .ok advertised)
      (nonempty : advertised ≠ [])
      (unkept : ¬ s.Keeps platform (s.recognized platform advertised))
      (none : ∀ offered ∈ s.recognized platform advertised, ¬ s.accepts platform offered = true) :
      HintSelects platform s hintDer s (.error (.noAcceptableKeyExchange text))

/-- What the list of a refused request does to the client. -/
inductive RetrySelects (platform : Platform) (s : PkinitClientState) (value : Bytes) :
    PkinitClientState → Except PkinitError RetryAction → Prop
  | malformed {e : PkinitError} (read : parseTdOffered platform value = .error e) :
      RetrySelects platform s value s (.error e)
  | moved {advertised : List OfferedAlgorithm} {offered : Offered}
      (read : parseTdOffered platform value = .ok advertised)
      (first : First (s.Retries platform) (s.recognized platform advertised) offered) :
      RetrySelects platform s value (s.apply offered) (.ok offered.retryAction)
  | refused {advertised : List OfferedAlgorithm} {e : PkinitError}
      (read : parseTdOffered platform value = .ok advertised)
      (none : ∀ offered ∈ s.recognized platform advertised, ¬ s.Retries platform offered) :
      RetrySelects platform s value s (.error e)

/-- The types of typed data the client knows. -/
def DecidesRetry (entry : Int × Bytes) : Prop :=
  entry.1 = TD_DH_PARAMETERS ∨ entry.1 = TD_TRUSTED_CERTIFIERS ∨
    entry.1 = TD_PKINIT_CMS_CERTIFICATES

/-- What the typed data of an error does to the client. -/
inductive TypedDataSelects (platform : Platform) (s : PkinitClientState)
    (typedData : List (Int × Bytes)) : PkinitClientState → Except PkinitError RetryAction → Prop
  | silent (none : ∀ entry ∈ typedData, ¬ DecidesRetry entry) :
      TypedDataSelects platform s typedData s (.ok .noRetry)
  | certificates {entry : Int × Bytes} (first : First DecidesRetry typedData entry)
      (type : entry.1 = TD_TRUSTED_CERTIFIERS ∨ entry.1 = TD_PKINIT_CMS_CERTIFICATES) :
      TypedDataSelects platform s typedData s (.ok .retryWithCerts)
  | parameters {value : Bytes} {s' : PkinitClientState} {r : Except PkinitError RetryAction}
      (first : First DecidesRetry typedData (TD_DH_PARAMETERS, value))
      (selects : RetrySelects platform s value s' r) :
      TypedDataSelects platform s typedData s' r

/-- A failure changes nothing; a success only the selection, the key pairs and
the record of the latest request. -/
structure MovesSelection {α : Type} (s s' : PkinitClientState) (r : Except PkinitError α) :
    Prop where
  failed : ∀ e, r = .error e → s' = s
  frame : s' = { s with
    config := { s.config with
      dhGroup := s'.config.dhGroup
      kemAlgorithm := s'.config.kemAlgorithm }
    dhKey := s'.dhKey
    kemKey := s'.kemKey
    keyExchange := s'.keyExchange }

/-! ## The code follows it -/

theorem keepsKem_eq_true {offers : List Offered} :
    s.keepsKem platform offers = true ↔ s.Keeps platform offers := by
  unfold keepsKem Keeps
  cases s.config.kemAlgorithm with
  | none => simp
  | some current => simp

theorem processPkinitHint_follows (s : PkinitClientState) (hintDer : Bytes) :
    Ends (processPkinitHint platform hintDer) s (HintSelects platform s hintDer) := by
  unfold processPkinitHint
  refine Ends.bind_get (Ends.bind_lift (fun e failed => .malformed failed) ?_)
  intro advertised read
  by_cases listed : advertised = []
  · subst listed
    exact .empty read
  have nonempty : advertised.isEmpty = false := by simpa using listed
  simp only [nonempty, Bool.false_or]
  split
  · next keeps => exact .kept read listed (keepsKem_eq_true.mp keeps)
  · next unkept =>
      have unkept := fun keeps => unkept (keepsKem_eq_true.mpr keeps)
      cases located : (s.recognized platform advertised).find? (s.accepts platform) with
      | none =>
          have none : ∀ offered ∈ s.recognized platform advertised,
              ¬ s.accepts platform offered = true := List.find?_eq_none.mp located
          simp only [recognized] at located
          rw [located]
          exact .refused read listed unkept none
      | some offered =>
          have first : First (fun offered => s.accepts platform offered = true)
              (s.recognized platform advertised) offered :=
            find?_eq_some_iff_first.mp (by simpa using located)
          simp only [recognized] at located
          rw [located]
          exact .moved read listed unkept first

theorem find?_filter_retries (offers : List Offered) :
    (offers.filter fun offered => some offered ≠ s.keyExchange.map Offered.ofKeyExchange).find?
        (s.accepts platform) = offers.find? fun offered => decide (s.Retries platform offered) := by
  rw [List.find?_filter]
  congr 1
  funext offered
  rw [Bool.eq_iff_iff, decide_eq_true_iff, decide_eq_true_iff, decide_eq_true_iff]
  exact ⟨fun ⟨other, accepted⟩ => ⟨accepted, other.symm⟩,
    fun ⟨accepted, other⟩ => ⟨other.symm, accepted⟩⟩

theorem retryWithOffers_follows (s : PkinitClientState) (value : Bytes) :
    Ends (retryWithOffers platform value) s (RetrySelects platform s value) := by
  unfold retryWithOffers
  refine Ends.bind_get (Ends.bind_lift (fun e failed => .malformed failed) ?_)
  intro advertised read
  dsimp only
  rw [find?_filter_retries]
  cases located : (s.recognized platform advertised).find?
      fun offered => decide (s.Retries platform offered) with
  | some offered =>
      have first := find?_eq_some_iff_first.mp located
      simp only [recognized] at located
      rw [located]
      cases offered with
      | kem alg => exact .moved read first
      | dh group => exact .moved read first
  | none =>
      have none : ∀ offered ∈ s.recognized platform advertised, ¬ s.Retries platform offered := by
        simpa using located
      simp only [recognized] at located
      rw [located]
      dsimp only
      split
      · exact .refused read none
      · exact .refused read none

theorem handleTryagainTypedData_follows (s : PkinitClientState) (typedData : List (Int × Bytes)) :
    Ends (handleTryagainTypedData platform typedData) s
      (TypedDataSelects platform s typedData) := by
  induction typedData with
  | nil => exact .silent fun _ member => absurd member List.not_mem_nil
  | cons entry rest ih =>
      obtain ⟨paType, value⟩ := entry
      unfold handleTryagainTypedData
      by_cases parameters : paType = TD_DH_PARAMETERS
      · rw [if_pos parameters]
        subst parameters
        exact .parameters (.head (.inl rfl)) (retryWithOffers_follows s value)
      rw [if_neg parameters]
      by_cases certificates : paType = TD_TRUSTED_CERTIFIERS ∨ paType = TD_PKINIT_CMS_CERTIFICATES
      · rw [if_pos certificates]
        exact .certificates (.head (.inr certificates)) certificates
      rw [if_neg certificates]
      have passed : ¬ DecidesRetry (paType, value) := by
        rintro (same | same)
        · exact parameters same
        · exact certificates same
      refine ih.mono ?_
      intro s' r selects
      cases selects with
      | silent none =>
          refine .silent fun entry member => ?_
          rcases List.mem_cons.mp member with rfl | member
          · exact passed
          · exact none entry member
      | certificates first type => exact .certificates (.cons passed first) type
      | parameters first selects => exact .parameters (.cons passed first) selects

/-! ## What a call changes -/

theorem movesSelection_self {α : Type} (s : PkinitClientState) (r : Except PkinitError α) :
    MovesSelection s s r :=
  ⟨fun _ _ => rfl, rfl⟩

theorem movesSelection_apply {α : Type} (s : PkinitClientState) (offered : Offered) (a : α) :
    MovesSelection s (s.apply offered) (Except.ok a : Except PkinitError α) := by
  constructor
  · intro _ failed
    cases failed
  · cases offered <;> rfl

theorem HintSelects.movesSelection {hintDer : Bytes} {s' : PkinitClientState}
    {r : Except PkinitError Unit} (selects : HintSelects platform s hintDer s' r) :
    MovesSelection s s' r := by
  cases selects with
  | malformed | empty | kept | refused => exact movesSelection_self s _
  | @moved _ offered => exact movesSelection_apply s offered ()

theorem TypedDataSelects.movesSelection {typedData : List (Int × Bytes)} {s' : PkinitClientState}
    {r : Except PkinitError RetryAction} (selects : TypedDataSelects platform s typedData s' r) :
    MovesSelection s s' r := by
  cases selects with
  | silent | certificates => exact movesSelection_self s _
  | parameters _ selects =>
      cases selects with
      | malformed | refused => exact movesSelection_self s _
      | @moved _ offered => exact movesSelection_apply s offered offered.retryAction

/-! ## The next request -/

/-- The event built a request for this exchange. -/
def RequestsBy (platform : Platform) (e : ClientEvent) : Offered → Prop
  | .kem alg => ∃ key, SentKemKey platform e key ∧ key.algorithm = alg
  | .dh group => ∃ key, SentDhKey platform e key ∧ key.group = group

/-- The exchange is selected, and a key pair the client would use belongs to
it. -/
structure Chosen (offered : Offered) (s : PkinitClientState) : Prop where
  selected : s.selection = offered
  fits : s.config.kemAlgorithm = none → ∀ key, s.dhKey = some key → key.group = s.config.dhGroup

theorem selection_of_kem {alg : KemAlgorithm} (selected : s.config.kemAlgorithm = some alg) :
    s.selection = .kem alg := by
  rw [selection, PkinitClientState.selected, selected, Offered.ofKeyExchange]

theorem selection_of_dh (selected : s.config.kemAlgorithm = none) :
    s.selection = .dh s.config.dhGroup := by
  rw [selection, PkinitClientState.selected, selected, Offered.ofKeyExchange]

theorem chosen_of_kem {alg : KemAlgorithm} (selected : s.config.kemAlgorithm = some alg) :
    Chosen (.kem alg) s where
  selected := selection_of_kem selected
  fits := fun unselected => absurd (selected.symm.trans unselected) (Option.some_ne_none alg)

theorem chosen_apply (s : PkinitClientState) (offered : Offered) :
    Chosen offered (s.apply offered) := by
  cases offered with
  | kem alg => exact chosen_of_kem rfl
  | dh group => exact ⟨rfl, fun _ key held => absurd held.symm (Option.some_ne_none key)⟩

/-- **A hint that succeeds selects an entry of it.** -/
theorem HintSelects.chosen {hintDer : Bytes} {advertised : List OfferedAlgorithm}
    {s' : PkinitClientState} (selects : HintSelects platform s hintDer s' (.ok ()))
    (read : parsePkinitHint platform.synta platform.usizeBits hintDer = .ok advertised)
    (nonempty : advertised ≠ []) :
    ∃ offered ∈ s.recognized platform advertised, Chosen offered s' := by
  cases selects with
  | empty none => exact absurd (Except.ok.inj (read.symm.trans none)) nonempty
  | kept read' _ keeps =>
      obtain rfl := Except.ok.inj (read.symm.trans read')
      obtain ⟨alg, selected, member, _⟩ := keeps
      exact ⟨.kem alg, member, chosen_of_kem selected⟩
  | @moved _ offered read' _ _ first =>
      obtain rfl := Except.ok.inj (read.symm.trans read')
      exact ⟨offered, first.mem, chosen_apply s offered⟩

/-- A request is for the exchange that is selected. -/
theorem Chosen.requestsBy {offered : Offered} {input : RequestInput} {request : Bytes}
    {s' : PkinitClientState} (chosen : Chosen offered s)
    (outcome : BuildOutcome platform instant s input s' (.ok request)) :
    RequestsBy platform ⟨s, .buildAsReq instant input, .request (.ok request), s'⟩ offered := by
  obtain ⟨rfl, fits⟩ := chosen
  cases outcome with
  | @kem alg key spkiDer _ selected generated exported carries =>
      rw [selection_of_kem selected]
      have same := KemKeyPair.algorithm_of_generate generated
      exact ⟨key, ⟨by rw [same], instant, input, request, spkiDer, rfl, rfl, exported, carries⟩,
        same⟩
  | @dh key dhNonce spkiDer _ selected _ source exported carries =>
      rw [selection_of_dh selected]
      have group : key.group = s.config.dhGroup := by
        rcases source with held | ⟨_, generated⟩
        · exact fits selected key held
        · exact DhKeyPair.group_of_generate generated
      exact ⟨key, ⟨by rw [group], instant, input, request, spkiDer, dhNonce, rfl, rfl, exported,
        carries⟩, group⟩

/-- Building leaves the selection, and any new key pair belongs to it. -/
theorem Chosen.of_build {offered : Offered} {input : RequestInput}
    {r : Except PkinitError Bytes} {s' : PkinitClientState} (chosen : Chosen offered s)
    (outcome : BuildOutcome platform instant s input s' r) : Chosen offered s' := by
  obtain ⟨selected, fits⟩ := chosen
  cases outcome with
  | refused | kemUnfinished | kem => exact ⟨selected, fits⟩
  | dhUnfinished unselected _ source =>
      refine ⟨selected, fun _ => ?_⟩
      rintro key rfl
      rcases source with same | ⟨_, fresh, ⟨⟩, generated⟩
      · exact fits unselected key same.symm
      · exact DhKeyPair.group_of_generate generated
  | @dh key _ _ _ unselected _ source =>
      refine ⟨selected, fun _ => ?_⟩
      rintro _ ⟨⟩
      rcases source with held | ⟨_, generated⟩
      · exact fits unselected key held
      · exact DhKeyPair.group_of_generate generated

theorem Chosen.of_reply {offered : Offered} {o2k : OctetString2Key} {paRepDer : Bytes}
    {params : AsRepParams} {r : Except PkinitError DerivedKey} {s' : PkinitClientState}
    (chosen : Chosen offered s)
    (outcome : ReplyOutcome platform o2k instant s paRepDer params s' r) : Chosen offered s' := by
  obtain ⟨selected, fits⟩ := chosen
  cases outcome <;> exact ⟨selected, fits⟩

/-- The calls that may move the selection. -/
def ClientCall.Selects : ClientCall → Prop
  | .setDhGroup _ | .processPkinitHint _ | .handleTryagain _ | .handleTryagainTypedData _ => True
  | _ => False

theorem chosen_step {offered : Offered} (s : PkinitClientState) (i : ClientCall)
    (chosen : Chosen offered s) (quiet : ¬ i.Selects) :
    (∀ request, (clientMachine platform s i).2 = .request (.ok request) →
        RequestsBy platform ((clientMachine platform).event s i) offered) ∧
      Chosen offered (clientMachine platform s i).1 := by
  cases i with
  | setDhGroup | processPkinitHint | handleTryagain | handleTryagainTypedData =>
      exact absurd trivial quiet
  | setFreshnessToken | setKdcIdentity | setTrustBroker | setIsAnonymous =>
      refine ⟨?_, chosen.selected, chosen.fits⟩
      intro _ built
      cases built
  | buildAsReq instant input =>
      have outcome := buildAsReq_outcome platform instant s input
      refine ⟨?_, chosen.of_build outcome⟩
      intro request built
      have result : (call (buildAsReq platform instant input.nonce input.ctime input.cusec
          input.reqBodyDer) s).2 = .ok request := ClientAnswer.request.inj built
      unfold Ends at outcome
      rw [result] at outcome
      simp only [Machine.event, built]
      exact chosen.requestsBy outcome
  | processAsRep instant o2k paRepDer params =>
      refine ⟨?_, chosen.of_reply (processAsRep_outcome platform o2k instant s paRepDer params)⟩
      intro _ built
      cases built

/-- **Until the selection moves again, every request is for it.** -/
theorem Chosen.requests {offered : Offered} {history : List ClientEvent} {s s' : PkinitClientState}
    (chosen : Chosen offered s) (run : Run (clientMachine platform) s history s')
    (quiet : ∀ e ∈ history, ¬ e.input.Selects) :
    ∀ e ∈ history, ∀ request, e.output = .request (.ok request) → RequestsBy platform e offered :=
  (Run.invariant (I := Chosen offered) (A := fun e => ¬ e.input.Selects)
    (P := fun e => ∀ request, e.output = .request (.ok request) → RequestsBy platform e offered)
    chosen chosen_step run quiet).1

/-- **Selection is exactly the stated rule**: for a hint, and for the typed data
of an error. A call that fails leaves the state as it was, one that succeeds
moves the selection and nothing else, and after a hint with entries every
request until the next selection is for one of them that the client
recognizes. -/
theorem selection_follows_rule (platform : Platform) (s : PkinitClientState) (hintDer : Bytes)
    (typedData : List (Int × Bytes)) :
    Ends (processPkinitHint platform hintDer) s (HintSelects platform s hintDer) ∧
    Ends (handleTryagainTypedData platform typedData) s (TypedDataSelects platform s typedData) ∧
    Ends (processPkinitHint platform hintDer) s (MovesSelection s) ∧
    Ends (handleTryagainTypedData platform typedData) s (MovesSelection s) ∧
    ∀ advertised, parsePkinitHint platform.synta platform.usizeBits hintDer = .ok advertised →
      advertised ≠ [] → (call (processPkinitHint platform hintDer) s).2 = .ok () →
      ∃ offered ∈ s.recognized platform advertised, ∀ history s',
        Run (clientMachine platform) (call (processPkinitHint platform hintDer) s).1 history s' →
        (∀ e ∈ history, ¬ e.input.Selects) →
        ∀ e ∈ history, ∀ request, e.output = .request (.ok request) →
          RequestsBy platform e offered := by
  have hint : Ends (processPkinitHint platform hintDer) s (HintSelects platform s hintDer) :=
    processPkinitHint_follows s hintDer
  have retry : Ends (handleTryagainTypedData platform typedData) s
      (TypedDataSelects platform s typedData) :=
    handleTryagainTypedData_follows s typedData
  refine ⟨hint, retry, hint.mono fun _ _ => HintSelects.movesSelection,
    retry.mono fun _ _ => TypedDataSelects.movesSelection, ?_⟩
  intro advertised read nonempty succeeded
  unfold Ends at hint
  rw [succeeded] at hint
  obtain ⟨offered, member, chosen⟩ := hint.chosen read nonempty
  exact ⟨offered, member, fun _ _ run quiet => chosen.requests run quiet⟩

end Kurbu5Pkinit

import Kurbu5Pkinit.Reference.Client

/-!
# The life of a KEM key pair

A KEM key pair enters the state when a request generates it, and leaves it
with the first `kemInfo` reply, whatever comes of that reply, or with the next
change of the selection. One outcome lemma for all calls says so. In a run the
key pair a reply takes is therefore the one of the latest request that
generated any, and no other reply has taken it.
-/

set_option autoImplicit false

namespace Kurbu5Pkinit

open Library PkinitClientState

variable {platform : Platform} {s s' : PkinitClientState} {key : KemKeyPair}
  {history : List ClientEvent}

/-! ## What a call does to the key pair -/

/-- A reply with the tag of a `kemInfo`. -/
def ClientCall.isKemReply : ClientCall → Bool
  | .processAsRep _ _ paRepDer _ => isKemRep paRepDer
  | _ => false

def ClientCall.isRequest : ClientCall → Bool
  | .buildAsReq _ _ => true
  | _ => false

/-- The key pair is taken out of the state to open a reply. Nothing else
decapsulates with it. -/
structure TakesKemKey (e : ClientEvent) (key : KemKeyPair) : Prop where
  tagged : e.input.isKemReply = true
  held : e.before.kemKey = some key

/-- A request generates the key pair, for the selected KEM, and leaves it in
the state. -/
structure GeneratesKemKey (platform : Platform) (e : ClientEvent) (key : KemKeyPair) : Prop where
  held : e.after.kemKey = some key
  generated : ∃ instant input alg, e.input = .buildAsReq instant input ∧
    e.before.config.kemAlgorithm = some alg ∧ KemKeyPair.generate platform instant alg = .ok key

/-- The event neither uses nor replaces the key pair, nor changes the selected
KEM. -/
structure KeepsKemKey (platform : Platform) (key : KemKeyPair) (e : ClientEvent) : Prop where
  untagged : e.input.isKemReply = false
  before : e.before.kemKey = some key
  after : e.after.kemKey = some key
  selection : e.after.config.kemAlgorithm = e.before.config.kemAlgorithm
  ungenerated : ∀ other, ¬GeneratesKemKey platform e other

/-- The event puts another key pair in the state, or none, or selects another
KEM. -/
def ReplacesKemKey (platform : Platform) (e : ClientEvent) : Prop :=
  (∃ key, GeneratesKemKey platform e key) ∨ e.after.kemKey ≠ e.before.kemKey ∨
    e.after.config.kemAlgorithm ≠ e.before.config.kemAlgorithm

/-- What a call can do to the key pair. -/
inductive KemKeyOutcome (platform : Platform) (s : PkinitClientState) (i : ClientCall)
    (s' : PkinitClientState) : Prop
  | dropped (empty : s'.kemKey = none)
  | generated {instant : Instant} {input : RequestInput} {alg : KemAlgorithm} {key : KemKeyPair}
      (request : i = .buildAsReq instant input) (selected : s.config.kemAlgorithm = some alg)
      (fresh : KemKeyPair.generate platform instant alg = .ok key) (held : s'.kemKey = some key)
      (selection : s'.config.kemAlgorithm = some alg)
      (keyExchange : s'.keyExchange = some (.kem alg))
  | kept (untagged : i.isKemReply = false) (same : s'.kemKey = s.kemKey)
      (selection : s'.config.kemAlgorithm = s.config.kemAlgorithm)
      (keyExchange : ∀ alg, s.config.kemAlgorithm = some alg →
        s'.keyExchange = s.keyExchange ∨ s'.keyExchange = some (.kem alg))

theorem kemKeyOutcome_of_selection {i : ClientCall} (untagged : i.isKemReply = false)
    (outcome : SelectionOutcome platform s s') : KemKeyOutcome platform s i s' := by
  cases outcome with
  | unchanged => exact .kept untagged rfl rfl fun _ _ => .inl rfl
  | @applied offered _ => cases offered <;> exact .dropped rfl

theorem kemKeyOutcome_of_build {instant : Instant} {input : RequestInput}
    {r : Except PkinitError Bytes} (outcome : BuildOutcome platform instant s input s' r) :
    KemKeyOutcome platform s (.buildAsReq instant input) s' := by
  cases outcome with
  | refused => exact .kept rfl rfl rfl fun _ _ => .inl rfl
  | @kemUnfinished alg kemKey e selected key =>
      rcases key with same | ⟨fresh, held, generated⟩
      · refine .kept rfl same rfl fun alg' selected' => .inr ?_
        rw [← Option.some.inj (selected.symm.trans selected')]
      · exact .generated rfl selected generated held selected rfl
  | kem selected generated => exact .generated rfl selected generated rfl selected rfl
  | dhUnfinished unselected | dh unselected =>
      refine .kept rfl rfl rfl fun alg selected => ?_
      exact absurd (unselected.symm.trans selected) nofun

theorem kemKeyOutcome_of_reply {o2k : OctetString2Key} {instant : Instant} {paRepDer : Bytes}
    {params : AsRepParams} {r : Except PkinitError DerivedKey}
    (outcome : ReplyOutcome platform o2k instant s paRepDer params s' r) :
    KemKeyOutcome platform s (.processAsRep instant o2k paRepDer params) s' := by
  cases outcome with
  | kemRefused | kem => exact .dropped rfl
  | dhRefused tag | dh tag => exact .kept tag rfl rfl fun _ _ => .inl rfl

/-- **Every call's outcome for the key pair.** -/
theorem kemKeyOutcome (platform : Platform) (s : PkinitClientState) (i : ClientCall) :
    KemKeyOutcome platform s i (clientMachine platform s i).1 := by
  cases i with
  | setFreshnessToken | setKdcIdentity | setTrustBroker | setIsAnonymous =>
      exact .kept rfl rfl rfl fun _ _ => .inl rfl
  | setDhGroup group => exact .dropped rfl
  | processPkinitHint hintDer =>
      exact kemKeyOutcome_of_selection rfl (processPkinitHint_outcome s hintDer)
  | handleTryagain errorPadataDer =>
      exact kemKeyOutcome_of_selection rfl (handleTryagain_outcome s errorPadataDer)
  | handleTryagainTypedData typedData =>
      exact kemKeyOutcome_of_selection rfl (handleTryagainTypedData_outcome s typedData)
  | buildAsReq instant input =>
      exact kemKeyOutcome_of_build (buildAsReq_outcome platform instant s input)
  | processAsRep instant o2k paRepDer params =>
      exact kemKeyOutcome_of_reply (processAsRep_outcome platform o2k instant s paRepDer params)

/-! ## The invariant -/

/-- The history has the request that generated the key pair, and nothing after
it touched the key pair. -/
def GeneratedIn (platform : Platform) (history : List ClientEvent) (key : KemKeyPair) : Prop :=
  ∃ between request past, history = between ++ request :: past ∧
    GeneratesKemKey platform request key ∧ ∀ e ∈ between, KeepsKemKey platform key e

/-- A key pair that is held is of the selected KEM, which the latest request
was for. -/
def HoldsSelected (s : PkinitClientState) : Prop :=
  ∀ key, s.kemKey = some key →
    s.config.kemAlgorithm = some key.algorithm ∧ s.keyExchange = some (.kem key.algorithm)

/-- Since a `kemInfo` reply no key pair is held, up to the next request. -/
def EmptySinceReply (history : List ClientEvent) (s : PkinitClientState) : Prop :=
  ∀ newer reply older, history = newer ++ reply :: older → reply.input.isKemReply = true →
    (∀ e ∈ newer, e.input.isRequest = false) → s.kemKey = none

structure OwnsKemKey (platform : Platform) (history : List ClientEvent) (s : PkinitClientState) :
    Prop where
  selected : HoldsSelected s
  generated : ∀ key, s.kemKey = some key → GeneratedIn platform history key
  emptied : EmptySinceReply history s

theorem ownsKemKey_new (identity : PkinitIdentity) (trustStore : TrustStore)
    (config : PkinitClientConfig) :
    OwnsKemKey platform [] (PkinitClientState.new identity trustStore config) where
  selected := nofun
  generated := nofun
  emptied newer reply older split := by simp at split

theorem HoldsSelected.of_outcome {i : ClientCall} (holds : HoldsSelected s)
    (outcome : KemKeyOutcome platform s i s') : HoldsSelected s' := by
  intro key held
  cases outcome with
  | dropped empty => exact absurd (empty.symm.trans held) nofun
  | @generated _ _ alg fresh _ _ generated held' selection keyExchange =>
      obtain rfl := Option.some.inj (held'.symm.trans held)
      rw [KemKeyPair.algorithm_of_generate generated]
      exact ⟨selection, keyExchange⟩
  | kept _ same selection keyExchange =>
      obtain ⟨selected, recorded⟩ := holds key (same.symm.trans held)
      refine ⟨selection.trans selected, ?_⟩
      rcases keyExchange _ selected with kept | again
      · exact kept.trans recorded
      · exact again

theorem EmptySinceReply.of_outcome {i : ClientCall} {r : ClientAnswer}
    (emptied : EmptySinceReply history s) (outcome : KemKeyOutcome platform s i s') :
    EmptySinceReply (⟨s, i, r, s'⟩ :: history) s' := by
  intro newer reply older split tagged quiet
  cases outcome with
  | dropped empty => exact empty
  | generated request =>
      subst request
      cases newer with
      | nil =>
          obtain ⟨rfl, _⟩ := List.cons.inj split
          cases tagged
      | cons e newer =>
          obtain ⟨rfl, _⟩ := List.cons.inj split
          cases quiet _ List.mem_cons_self
  | kept untagged same =>
      rw [same]
      cases newer with
      | nil =>
          obtain ⟨rfl, _⟩ := List.cons.inj split
          exact absurd (untagged.symm.trans tagged) nofun
      | cons e newer =>
          obtain ⟨_, rest⟩ := List.cons.inj split
          exact emptied newer reply older rest tagged fun e member =>
            quiet e (List.mem_cons_of_mem _ member)

/-- The latest request that generates a key pair generated the one that is
held. -/
theorem generatedIn_cons {i : ClientCall} {r : ClientAnswer}
    (generated : ∀ key, s.kemKey = some key → GeneratedIn platform history key)
    (outcome : KemKeyOutcome platform s i s') (held : s'.kemKey = some key) :
    GeneratedIn platform (⟨s, i, r, s'⟩ :: history) key := by
  by_cases here : GeneratesKemKey platform ⟨s, i, r, s'⟩ key
  · exact ⟨[], _, history, rfl, here, by simp⟩
  · cases outcome with
    | dropped empty => exact absurd (empty.symm.trans held) nofun
    | generated request selected fresh held' =>
        obtain rfl := Option.some.inj (held'.symm.trans held)
        exact absurd ⟨held, _, _, _, request, selected, fresh⟩ here
    | kept untagged same selection =>
        have before := same.symm.trans held
        obtain ⟨between, request, past, split, generates, quiet⟩ := generated key before
        refine ⟨_ :: between, request, past, by rw [split]; rfl, generates, ?_⟩
        intro e member
        rcases List.mem_cons.mp member with rfl | earlier
        · refine ⟨untagged, before, held, selection, fun other generates' => here ?_⟩
          rwa [← Option.some.inj (generates'.held.symm.trans held)]
        · exact quiet e earlier

theorem OwnsKemKey.step (owns : OwnsKemKey platform history s) (i : ClientCall) :
    OwnsKemKey platform ((clientMachine platform).event s i :: history)
      (clientMachine platform s i).1 where
  selected := owns.selected.of_outcome (kemKeyOutcome platform s i)
  generated _ held := generatedIn_cons owns.generated (kemKeyOutcome platform s i) held
  emptied := owns.emptied.of_outcome (kemKeyOutcome platform s i)

/-! ## Runs -/

/-- What does not keep the key pair came before the request that generated it,
or is that request. -/
theorem GeneratedIn.since {middle older : List ClientEvent} {e : ClientEvent}
    (generated : GeneratedIn platform (middle ++ e :: older) key)
    (breaks : ¬KeepsKemKey platform key e) :
    ∃ request ∈ middle ++ [e], GeneratesKemKey platform request key := by
  obtain ⟨between, request, past, split, generates, quiet⟩ := generated
  refine ⟨request, ?_, generates⟩
  rcases List.append_eq_append_iff.mp split with ⟨rest, rfl, tail⟩ | ⟨rest, rfl, tail⟩
  · cases rest with
    | nil =>
        obtain ⟨rfl, _⟩ := List.cons.inj tail
        simp
    | cons first rest =>
        obtain ⟨rfl, _⟩ := List.cons.inj tail
        exact absurd (quiet e (by simp)) breaks
  · cases rest with
    | nil =>
        obtain ⟨rfl, _⟩ := List.cons.inj tail
        simp
    | cons first rest =>
        obtain ⟨rfl, _⟩ := List.cons.inj tail
        simp

theorem not_keepsKemKey_of_takes {e : ClientEvent} {other : KemKeyPair}
    (takes : TakesKemKey e other) : ¬KeepsKemKey platform key e :=
  fun keeps => absurd (keeps.untagged.symm.trans takes.tagged) nofun

theorem not_keepsKemKey_of_replaces {e : ClientEvent} (replaces : ReplacesKemKey platform e) :
    ¬KeepsKemKey platform key e := by
  intro keeps
  rcases replaces with ⟨other, generates⟩ | changed | moved
  · exact keeps.ungenerated other generates
  · exact changed (keeps.after.trans keeps.before.symm)
  · exact moved keeps.selection

/-- A `kemInfo` reply that gives a key was opened with the key pair it took. -/
theorem takesKemKey_of_opened {i : ClientCall} {derived : DerivedKey}
    (tagged : i.isKemReply = true)
    (answered : (clientMachine platform s i).2 = .replyKey (.ok derived)) :
    ∃ key, TakesKemKey ((clientMachine platform).event s i) key := by
  cases i with
  | processAsRep instant o2k paRepDer params =>
      have outcome := processAsRep_outcome platform o2k instant s paRepDer params
      have accepted :
          (call (processAsRep platform o2k instant paRepDer params) s).2 = .ok derived :=
        ClientAnswer.replyKey.inj answered
      unfold Ends at outcome
      rw [accepted] at outcome
      generalize (call (processAsRep platform o2k instant paRepDer params) s).1 = s' at outcome
      cases outcome with
      | kem _ held => exact ⟨_, tagged, held⟩
      | dh untagged => exact absurd (untagged.symm.trans tagged) nofun
  | _ => cases tagged

/-- KEM key pairs serve one reply each, in this history and the state it led
to. -/
structure KemKeysSingleUse (platform : Platform) (history : List ClientEvent)
    (s : PkinitClientState) : Prop where
  /-- A key pair that is held is of the selected KEM, and `keyExchange` is too. -/
  selected : HoldsSelected s
  /-- After a `kemInfo` reply none is held, up to the next request. -/
  emptied : EmptySinceReply history s
  /-- The key pair a reply takes was generated by a request, and not touched since. -/
  traced : Each (fun older e => ∀ key, TakesKemKey e key → GeneratedIn platform older key) history
  /-- A `kemInfo` reply that gives a key takes a key pair. -/
  opened : ∀ e ∈ history, ∀ derived, e.input.isKemReply = true →
    e.output = .replyKey (.ok derived) → ∃ key, TakesKemKey e key
  /-- Of two replies that take a key pair, the later one's was generated in between. -/
  once : ∀ newer use middle use' older key key',
    history = newer ++ use :: (middle ++ use' :: older) →
    TakesKemKey use key → TakesKemKey use' key' →
    ∃ request ∈ middle, GeneratesKemKey platform request key
  /-- A reply after a replacement takes a key pair that was generated by it or later. -/
  replaced : ∀ newer use middle e older key, history = newer ++ use :: (middle ++ e :: older) →
    TakesKemKey use key → ReplacesKemKey platform e →
    ∃ request ∈ middle ++ [e], GeneratesKemKey platform request key

/-- **KEM key pairs are used once**, in every run of a client. -/
theorem kem_keys_single_use (platform : Platform) (identity : PkinitIdentity)
    (trustStore : TrustStore) (config : PkinitClientConfig) {history : List ClientEvent}
    {s : PkinitClientState}
    (run : Run (clientMachine platform) (.new identity trustStore config) history s) :
    KemKeysSingleUse platform history s := by
  have initial : OwnsKemKey platform [] (.new identity trustStore config) :=
    ownsKemKey_new identity trustStore config
  obtain ⟨traced, owns⟩ := Run.rule (A := fun _ _ => True)
    (P := fun older e => ∀ key, TakesKemKey e key → GeneratedIn platform older key) initial
    (fun history s i owns _ => ⟨fun key takes => owns.generated key takes.held, owns.step i⟩)
    run (fun _ _ _ _ => trivial)
  obtain ⟨opened, _⟩ := Run.invariant (I := fun _ => True) (A := fun _ => True)
    (P := fun e => ∀ derived, e.input.isKemReply = true → e.output = .replyKey (.ok derived) →
      ∃ key, TakesKemKey e key) trivial
    (fun s i _ _ => ⟨fun _ => takesKemKey_of_opened, trivial⟩) run (fun _ _ => trivial)
  refine ⟨owns.selected, owns.emptied, traced, opened, ?_, ?_⟩
  · intro newer use middle use' older key key' split takes takes'
    have generated := traced newer use _ split key takes
    obtain ⟨request, member, generates⟩ := generated.since (not_keepsKemKey_of_takes takes')
    refine ⟨request, ?_, generates⟩
    rcases List.mem_append.mp member with within | last
    · exact within
    · -- A reply generates nothing.
      obtain rfl := List.mem_singleton.mp last
      obtain ⟨_, _, _, isRequest, _⟩ := generates.generated
      have tagged := takes'.tagged
      rw [isRequest] at tagged
      cases tagged
  · intro newer use middle e older key split takes replaces
    exact (traced newer use _ split key takes).since (not_keepsKemKey_of_replaces replaces)

namespace Reference

/-- A `kemInfo` without content. -/
def emptyKemReply : ClientCall :=
  .processAsRep clientInstant (krb5OctetString2Key recorded) [0xA2, 0x00] (replyParams [0xA2, 0x00])

theorem kemClient_takes :
    ((clientMachine recorded).after kemClient [sendRequest]).kemKey.isSome = true ∧
      (clientRun kemClient [sendRequest, emptyKemReply]).2.kemKey = none := by
  decide +kernel

theorem history_of_emptyKemReply (start : PkinitClientState) :
    (clientRun start [sendRequest, emptyKemReply]).1 =
      [(clientMachine recorded).event ((clientMachine recorded).after start [sendRequest])
          emptyKemReply,
        (clientMachine recorded).event start sendRequest] := by
  have events : ∀ m : Machine PkinitClientState ClientCall ClientAnswer, ∀ s,
      (exec m ([], s) [sendRequest, emptyKemReply]).1 =
        [m.event (m.after s [sendRequest]) emptyKemReply, m.event s sendRequest] :=
    fun _ _ => rfl
  exact events (clientMachine recorded) start

end Reference

/-- A reply that does not parse takes the key pair of the request before it. -/
theorem kem_keys_single_use_emptyKemReply :
    ∃ key, TakesKemKey ((clientMachine Reference.recorded).event
        ((clientMachine Reference.recorded).after Reference.kemClient [Reference.sendRequest])
        Reference.emptyKemReply) key ∧
      GeneratedIn Reference.recorded
        [(clientMachine Reference.recorded).event Reference.kemClient Reference.sendRequest] key ∧
      (Reference.clientRun Reference.kemClient
        [Reference.sendRequest, Reference.emptyKemReply]).2.kemKey = none := by
  obtain ⟨present, emptied⟩ := Reference.kemClient_takes
  obtain ⟨key, held⟩ := Option.isSome_iff_exists.mp present
  have singleUse := kem_keys_single_use Reference.recorded Reference.noIdentity
    Reference.trustStore _ (Reference.run_clientRun Reference.kemClient
      [Reference.sendRequest, Reference.emptyKemReply])
  have takes : TakesKemKey ((clientMachine Reference.recorded).event
      ((clientMachine Reference.recorded).after Reference.kemClient [Reference.sendRequest])
      Reference.emptyKemReply) key := ⟨rfl, held⟩
  refine ⟨key, takes, singleUse.traced [] _ _ ?_ key takes, emptied⟩
  exact Reference.history_of_emptyKemReply Reference.kemClient

end Kurbu5Pkinit

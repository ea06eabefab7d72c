import Kurbu5Pkinit.Reference.Broker

/-!
# Where the broker's trust comes from

The history of a store that started empty. Every pin goes back to a call in
which the user approved that CA for that realm, and every such grant is still
in the store for as long as it has not lapsed. From the two the answers of
`decide` follow: what it trusts was approved, what contradicts a live grant is
denied, and nothing but an approval adds a pin.
-/

set_option autoImplicit false

namespace Kurbu5Pkinit.Brokerd

open Library

variable {b : BrokerPlatform} {store store' : PinStore} {history : List BrokerEvent}

/-! ## What one call can do -/

/-- The outcomes of `decide`. -/
inductive DecideOutcome (b : BrokerPlatform) (store : PinStore) (call : DecideCall) :
    PinStore × Decided → Prop
  | refused {reason : String}
      (unusable : ∀ ca, call.ca b = some ca → sha256Hex b ca = none) :
      DecideOutcome b store call (store, { reply := .denied reason })
  | trusted {ca : Bytes} {pin : Pin} (selected : call.ca b = some ca)
      (live : store.livePin call.realm call.instant.now = some pin)
      (same : sha256Hex b ca = some pin.fingerprint) :
      DecideOutcome b store call
        (store, { reply := { decision := .trusted, anchors := [pin.caB64] } })
  | changed {ca : Bytes} {pin : Pin} {fingerprint reason : String}
      (selected : call.ca b = some ca) (hashed : sha256Hex b ca = some fingerprint)
      (live : store.livePin call.realm call.instant.now = some pin)
      (differs : pin.fingerprint ≠ fingerprint) :
      DecideOutcome b store call (store, { reply := .denied reason })
  | unknown {ca : Bytes} (selected : call.ca b = some ca)
      (noPin : store.livePin call.realm call.instant.now = none)
      (silent : call.interactive = false) :
      DecideOutcome b store call (store.forget call.realm, { reply := { decision := .unknown } })
  | declined {ca : Bytes} {request : TrustRequest} {reason : String}
      (selected : call.ca b = some ca)
      (noPin : store.livePin call.realm call.instant.now = none)
      (interactive : call.interactive = true) (answered : call.prompter request = none) :
      DecideOutcome b store call
        (store.forget call.realm, { reply := .denied reason, asked := some request })
  | approved {ca : Bytes} {fingerprint : String} {ttl : GrantTtl}
      {persisted : Option (String × Pins)}
      (selected : call.ca b = some ca) (hashed : sha256Hex b ca = some fingerprint)
      (noPin : store.livePin call.realm call.instant.now = none)
      (interactive : call.interactive = true)
      (confirmed : call.prompter (PinStore.trustRequest b call ca fingerprint) = some ttl) :
      DecideOutcome b store call
        ((store.forget call.realm).pin call.realm {
          caB64 := b.base64.encode ca
          fingerprint := fingerprint
          expiresAt := ttl.expiresAtEpochSecs call.instant.now }, {
          reply := { decision := .trusted, anchors := [b.base64.encode ca] }
          asked := some (PinStore.trustRequest b call ca fingerprint)
          persisted := persisted })

theorem decide_outcome (store : PinStore) (call : DecideCall) :
    DecideOutcome b store call (store.decide b call) := by
  unfold PinStore.decide
  cases selected : call.ca b with
  | none =>
      refine .refused ?_
      intro ca taken
      rw [selected] at taken
      cases taken
  | some ca =>
      dsimp only
      cases hashed : sha256Hex b ca with
      | none =>
          refine .refused ?_
          intro ca' taken
          obtain rfl := Option.some.inj (selected.symm.trans taken)
          exact hashed
      | some fingerprint =>
          dsimp only
          cases live : store.livePin call.realm call.instant.now with
          | some pin =>
              dsimp only
              split
              · next same => exact .trusted selected live (same ▸ hashed)
              · next differs => exact .changed selected hashed live differs
          | none =>
              dsimp only [PinStore.askUser]
              split
              · next silent => exact .unknown selected live silent
              · next asks =>
                  have interactive : call.interactive = true := by simpa using asks
                  cases confirmed : call.prompter
                      (PinStore.trustRequest b call ca fingerprint) with
                  | none => exact .declined selected live interactive confirmed
                  | some ttl => exact .approved selected hashed live interactive confirmed

theorem DecideOutcome.lookup_of_ne {call : DecideCall} {decided : Decided}
    (outcome : DecideOutcome b store call (store', decided)) {realm : String}
    (other : realm ≠ call.realm) : store'.pins.lookup realm = store.pins.lookup realm := by
  cases outcome with
  | refused | trusted | changed => rfl
  | unknown | declined => exact PinStore.lookup_forget_ne other
  | approved =>
      rw [PinStore.lookup_pin_ne other, PinStore.lookup_forget_ne other]

/-- A live pin is left in place, and nobody is asked about its realm. -/
theorem DecideOutcome.of_live {call : DecideCall} {decided : Decided} {pin : Pin}
    (outcome : DecideOutcome b store call (store', decided))
    (live : store.livePin call.realm call.instant.now = some pin) :
    store' = store ∧ decided.asked = none := by
  cases outcome with
  | refused | trusted | changed => exact ⟨rfl, rfl⟩
  | unknown _ noPin | declined _ noPin | approved _ _ noPin =>
      exact absurd (live.symm.trans noPin) (Option.some_ne_none pin)

/-- Nobody is asked but in an interactive call. -/
theorem DecideOutcome.interactive_of_asked {call : DecideCall} {decided : Decided}
    {request : TrustRequest} (outcome : DecideOutcome b store call (store', decided))
    (asked : decided.asked = some request) : call.interactive = true := by
  cases outcome with
  | refused | trusted | changed | unknown => cases asked
  | declined _ _ interactive | approved _ _ _ interactive => exact interactive

/-! ## Grants -/

/-- In this call the user was asked about this CA and approved it. -/
structure Approves (b : BrokerPlatform) (e : BrokerEvent) (ca : Bytes) (fingerprint : String)
    (ttl : GrantTtl) : Prop where
  interactive : e.input.interactive = true
  selected : e.input.ca b = some ca
  hashed : sha256Hex b ca = some fingerprint
  asked : e.output.asked = some (PinStore.trustRequest b e.input ca fingerprint)
  confirmed : e.input.prompter (PinStore.trustRequest b e.input ca fingerprint) = some ttl

/-- The pin a grant leaves. -/
def grantedPin (b : BrokerPlatform) (e : BrokerEvent) (ca : Bytes) (fingerprint : String)
    (ttl : GrantTtl) : Pin where
  caB64 := b.base64.encode ca
  fingerprint := fingerprint
  expiresAt := ttl.expiresAtEpochSecs e.input.instant.now

/-- No call of the history is later than this moment. -/
def NotBefore (history : List BrokerEvent) (now : Nat) : Prop :=
  ∀ e ∈ history, e.input.instant.now ≤ now

/-- Every pin is a grant of these calls. -/
def PinsGranted (b : BrokerPlatform) (history : List BrokerEvent) (store : PinStore) : Prop :=
  ∀ realm pin, store.pins.lookup realm = some pin →
    ∃ e ∈ history, ∃ ca fingerprint ttl, Approves b e ca fingerprint ttl ∧
      e.input.realm = realm ∧ pin = grantedPin b e ca fingerprint ttl

/-- The invariant of a history: pins are grants, and live grants are pins. -/
structure PinsAreGrants (b : BrokerPlatform) (history : List BrokerEvent) (store : PinStore) :
    Prop where
  granted : PinsGranted b history store
  kept : ∀ e ∈ history, ∀ ca fingerprint ttl now, Approves b e ca fingerprint ttl →
    NotBefore history now →
    lapsed (ttl.expiresAtEpochSecs e.input.instant.now) now = false →
    store.pins.lookup e.input.realm = some (grantedPin b e ca fingerprint ttl)

theorem pinsGranted_empty (path : Option String) : PinsGranted b history ⟨path, ∅⟩ := by
  intro realm pin present
  rw [AList.lookup_empty] at present
  cases present

theorem PinsGranted.mono {later : List BrokerEvent} (granted : PinsGranted b history store)
    (subset : history ⊆ later) : PinsGranted b later store := by
  intro realm pin present
  obtain ⟨grant, member, rest⟩ := granted realm pin present
  exact ⟨grant, subset member, rest⟩

theorem pinsAreGrants_empty (path : Option String) : PinsAreGrants b [] ⟨path, ∅⟩ where
  granted := pinsGranted_empty path
  kept := fun e member => absurd member (List.not_mem_nil)

/-- A live grant is a live pin at the time of the next call. -/
theorem PinsAreGrants.livePin {e : BrokerEvent} {ca : Bytes} {fingerprint : String}
    {ttl : GrantTtl} {now : Nat} (pins : PinsAreGrants b history store) (member : e ∈ history)
    (approves : Approves b e ca fingerprint ttl) (notBefore : NotBefore history now)
    (live : lapsed (ttl.expiresAtEpochSecs e.input.instant.now) now = false) :
    store.livePin e.input.realm now = some (grantedPin b e ca fingerprint ttl) :=
  PinStore.livePin_eq_some.mpr ⟨pins.kept e member ca fingerprint ttl now approves notBefore live,
    live⟩

/-! ## One step -/

/-- After a call there are the pins there were, and the one it granted. -/
theorem DecideOutcome.lookup {call : DecideCall} {decided : Decided}
    (outcome : DecideOutcome b store call (store', decided)) {realm : String} {pin : Pin}
    (present : store'.pins.lookup realm = some pin) :
    store.pins.lookup realm = some pin ∨ ∃ ca fingerprint ttl,
      Approves b ⟨store, call, decided, store'⟩ ca fingerprint ttl ∧ call.realm = realm ∧
      pin = grantedPin b ⟨store, call, decided, store'⟩ ca fingerprint ttl := by
  by_cases other : realm = call.realm
  · subst other
    cases outcome with
    | refused | trusted | changed => exact .inl present
    | unknown | declined =>
        rw [PinStore.lookup_forget] at present
        cases present
    | @approved ca fingerprint ttl _ selected hashed _ interactive confirmed =>
        rw [PinStore.lookup_pin] at present
        obtain rfl := Option.some.inj present
        exact .inr ⟨ca, fingerprint, ttl, ⟨interactive, selected, hashed, rfl, confirmed⟩, rfl,
          rfl⟩
  · exact .inl ((outcome.lookup_of_ne other).symm.trans present)

/-- An approval leaves its pin. -/
theorem DecideOutcome.lookup_of_approves {call : DecideCall} {decided : Decided}
    (outcome : DecideOutcome b store call (store', decided)) {ca : Bytes} {fingerprint : String}
    {ttl : GrantTtl} (approves : Approves b ⟨store, call, decided, store'⟩ ca fingerprint ttl) :
    store'.pins.lookup call.realm =
      some (grantedPin b ⟨store, call, decided, store'⟩ ca fingerprint ttl) := by
  have asked := approves.asked
  cases outcome with
  | refused | trusted | changed | unknown => cases asked
  | declined _ _ _ answered =>
      have confirmed := approves.confirmed
      rw [← Option.some.inj asked] at confirmed
      exact absurd (confirmed.symm.trans answered) (Option.some_ne_none ttl)
  | approved selected hashed _ _ confirmed =>
      obtain rfl := Option.some.inj (selected.symm.trans approves.selected)
      obtain rfl := Option.some.inj (hashed.symm.trans approves.hashed)
      obtain rfl := Option.some.inj (confirmed.symm.trans approves.confirmed)
      exact PinStore.lookup_pin _ _ _

theorem PinsGranted.step {call : DecideCall} {decided : Decided}
    (granted : PinsGranted b history store)
    (outcome : DecideOutcome b store call (store', decided)) :
    PinsGranted b (⟨store, call, decided, store'⟩ :: history) store' := by
  intro realm pin present
  rcases outcome.lookup present with old | ⟨ca, fingerprint, ttl, approves, same, isGrant⟩
  · exact granted.mono (List.subset_cons_self _ _) realm pin old
  · exact ⟨_, List.mem_cons_self, ca, fingerprint, ttl, approves, same, isGrant⟩

theorem PinsAreGrants.step {call : DecideCall} {decided : Decided}
    (pins : PinsAreGrants b history store) (ordered : NotBefore history call.instant.now)
    (outcome : DecideOutcome b store call (store', decided)) :
    PinsAreGrants b (⟨store, call, decided, store'⟩ :: history) store' where
  granted := pins.granted.step outcome
  kept := by
    intro e member ca fingerprint ttl now approves notBefore live
    rcases List.mem_cons.mp member with rfl | member
    · exact outcome.lookup_of_approves approves
    · -- The grant was live at this call too, so the call found its pin.
      have liveThen := lapsed_eq_false_of_le
        (notBefore ⟨store, call, decided, store'⟩ List.mem_cons_self) live
      by_cases same : e.input.realm = call.realm
      · have found := pins.livePin member approves ordered liveThen
        rw [same] at found
        rw [(outcome.of_live found).1]
        exact pins.kept e member ca fingerprint ttl _ approves ordered liveThen
      · rw [outcome.lookup_of_ne same]
        exact pins.kept e member ca fingerprint ttl _ approves ordered liveThen

/-! ## The answers -/

/-- A grant made at `granted` covers the moment `now`. -/
def GrantTtl.Covers (granted now : Nat) : GrantTtl → Prop
  | .forever => True
  | .forSecs secs => now < granted + secs

theorem GrantTtl.covers_of_live {ttl : GrantTtl} {granted now : Nat}
    (live : lapsed (ttl.expiresAtEpochSecs granted) now = false) : ttl.Covers granted now := by
  cases ttl with
  | forever => trivial
  | forSecs secs =>
      have before := lapsed_eq_false_iff.mp live _ rfl
      exact lt_of_lt_of_le before (min_le_left _ _)

/-- **What is trusted is an approval, or a live pin that was granted.** The
clock has no part in this. -/
theorem PinsGranted.trusted (injective : Sha256Injective b.core) {call : DecideCall}
    {decided : Decided} (granted : PinsGranted b history store)
    (outcome : DecideOutcome b store call (store', decided))
    (trusted : decided.reply.decision = .trusted) :
    ∃ ca fingerprint, call.ca b = some ca ∧ sha256Hex b ca = some fingerprint ∧
      decided.reply.anchors = [b.base64.encode ca] ∧
      ((∃ ttl, Approves b ⟨store, call, decided, store'⟩ ca fingerprint ttl) ∨
        ∃ grant ∈ history, ∃ ttl, Approves b grant ca fingerprint ttl ∧
          grant.input.realm = call.realm ∧
          ttl.Covers grant.input.instant.now call.instant.now) := by
  cases outcome with
  | refused | changed | unknown | declined => cases trusted
  | @approved ca fingerprint ttl _ selected hashed _ interactive confirmed =>
      exact ⟨ca, fingerprint, selected, hashed, rfl,
        .inl ⟨ttl, interactive, selected, hashed, rfl, confirmed⟩⟩
  | @trusted ca pin selected live same =>
      obtain ⟨present, unlapsed⟩ := PinStore.livePin_eq_some.mp live
      obtain ⟨grant, member, ca', fingerprint, ttl, approves, realm, rfl⟩ := granted _ pin present
      obtain rfl : ca = ca' := sha256Hex_unique injective same approves.hashed
      exact ⟨ca, fingerprint, selected, same, rfl,
        .inr ⟨grant, member, ttl, approves, realm, GrantTtl.covers_of_live unlapsed⟩⟩

/-- What the answer to one call says, given the calls before it. -/
structure AnswersFromGrants (b : BrokerPlatform) (older : List BrokerEvent) (e : BrokerEvent) :
    Prop where
  /-- A trusted CA is the one presented now, approved in this call or covered
  by an earlier grant for the same realm. -/
  trusted : e.output.reply.decision = .trusted → ∃ ca fingerprint,
    e.input.ca b = some ca ∧ sha256Hex b ca = some fingerprint ∧
    e.output.reply.anchors = [b.base64.encode ca] ∧
    ((∃ ttl, Approves b e ca fingerprint ttl) ∨
      ∃ grant ∈ older, ∃ ttl, Approves b grant ca fingerprint ttl ∧
        grant.input.realm = e.input.realm ∧
        ttl.Covers grant.input.instant.now e.input.instant.now)
  /-- Another CA than a live grant's is denied without asking, and the pin of
  the grant stays. -/
  changed : ∀ grant ∈ older, ∀ ca fingerprint ttl, Approves b grant ca fingerprint ttl →
    grant.input.realm = e.input.realm →
    lapsed (ttl.expiresAtEpochSecs grant.input.instant.now) e.input.instant.now = false →
    ∀ presented other, e.input.ca b = some presented → sha256Hex b presented = some other →
      other ≠ fingerprint →
      e.output.reply.decision = .denied ∧ e.output.asked = none ∧
      e.after.pins.lookup e.input.realm = some (grantedPin b grant ca fingerprint ttl)
  /-- Without the user nothing is pinned. -/
  silent : e.input.interactive = false → ∀ realm pin, e.after.pins.lookup realm = some pin →
    e.before.pins.lookup realm = some pin
  others : ∀ realm, realm ≠ e.input.realm →
    e.after.pins.lookup realm = e.before.pins.lookup realm
  noCa : e.input.ca b = none → e.output.reply.decision = .denied ∧ e.after = e.before

theorem answersFromGrants_of_outcome (injective : Sha256Injective b.core) {call : DecideCall}
    {decided : Decided} (pins : PinsAreGrants b history store)
    (ordered : NotBefore history call.instant.now)
    (outcome : DecideOutcome b store call (store', decided)) :
    AnswersFromGrants b history ⟨store, call, decided, store'⟩ where
  trusted := pins.granted.trusted injective outcome
  changed := by
    intro grant member ca fingerprint ttl approves realm live presented other selected hashed
      differs
    have found := pins.livePin member approves ordered live
    have present := (PinStore.livePin_eq_some.mp found).1
    rw [realm] at found present
    obtain ⟨kept, silent⟩ := outcome.of_live found
    refine ⟨?_, silent, kept ▸ present⟩
    cases outcome with
    | refused | changed | declined => rfl
    | unknown _ noPin | approved _ _ noPin =>
        exact absurd (found.symm.trans noPin) (Option.some_ne_none _)
    | @trusted ca' pin selected' live' same =>
        obtain rfl := Option.some.inj (selected.symm.trans selected')
        obtain rfl := Option.some.inj (found.symm.trans live')
        exact absurd (Option.some.inj (hashed.symm.trans same)) differs
  silent := by
    intro silent realm pin present
    rcases outcome.lookup present with old | ⟨_, _, _, approves, _⟩
    · exact old
    · exact absurd (silent.symm.trans approves.interactive) (by decide)
  others := fun _ other => outcome.lookup_of_ne other
  noCa := by
    intro noCa
    cases outcome with
    | refused => exact ⟨rfl, rfl⟩
    | trusted selected | changed selected | unknown selected | declined selected
    | approved selected => exact absurd (selected.symm.trans noCa) (Option.some_ne_none _)

/-! ## Runs -/

/-- **The broker trusts only what its user approved.** Over every run from the
empty store with a clock that does not go back, each answer follows from the
grants before it. -/
theorem broker_answers_from_grants (b : BrokerPlatform) (injective : Sha256Injective b.core)
    (path : Option String) (history : List BrokerEvent) (store : PinStore)
    (run : Run (brokerMachine b) ⟨path, ∅⟩ history store)
    (clock : Each (fun older e => NotBefore older e.input.instant.now) history) :
    Each (AnswersFromGrants b) history :=
  (Run.rule (J := PinsAreGrants b) (pinsAreGrants_empty path)
    (fun _ store call pins ordered =>
      have outcome := decide_outcome store call
      ⟨answersFromGrants_of_outcome injective pins ordered outcome, pins.step ordered outcome⟩)
    run clock).1

/-- A CA approved for an hour, trusted in its last second, then forgotten. -/
theorem broker_answers_from_grants_hour :
    Each (AnswersFromGrants Reference.broker) Reference.brokerHour.1 ∧
      Reference.brokerHour.1.map (fun e => e.output.reply.decision) =
        [.unknown, .trusted, .trusted] := by
  refine ⟨?_, by decide +kernel⟩
  refine broker_answers_from_grants Reference.broker Reference.sha256_injective none
    Reference.brokerHour.1 Reference.brokerHour.2 (run_exec _ _ _) ?_
  simp [Reference.brokerHour, exec, NotBefore, Reference.askBroker]

end Kurbu5Pkinit.Brokerd

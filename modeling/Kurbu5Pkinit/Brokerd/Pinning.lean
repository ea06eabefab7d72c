import Kurbu5Pkinit.Reference.Broker

/-!
# Which CA a live pin meets

A chain usually holds several certificates that validate as anchors, and
`selectCa` takes the last of them before the pin is looked at. A live pin is
honoured exactly when that one has the pinned fingerprint: a pinned CA that is
presented earlier in the list is taken for a changed one.
-/

set_option autoImplicit false

namespace Kurbu5Pkinit.Brokerd

variable {b : BrokerPlatform} {store : PinStore} {call : DecideCall}

/-! ## The last anchor -/

/-- A presented certificate is an anchor of the signer's chain. -/
def DecideCall.Anchors (call : DecideCall) (b : BrokerPlatform) (der : Bytes) : Prop :=
  der ≠ call.signerDer ∧
    validatesAsAnchor b call.instant der call.signerDer call.presentedDer = true

/-- It is one, and no certificate presented after it is. -/
def DecideCall.LastAnchor (call : DecideCall) (b : BrokerPlatform) (der : Bytes) : Prop :=
  call.Anchors b der ∧ ∃ earlier later, call.presentedDer = earlier ++ der :: later ∧
    ∀ other ∈ later, ¬ call.Anchors b other

/-- The test `selectCa` makes of each certificate. -/
theorem anchors_iff {der : Bytes} :
    (decide (der ≠ call.signerDer) &&
      validatesAsAnchor b call.instant der call.signerDer call.presentedDer) = true ↔
      call.Anchors b der := by
  simp [DecideCall.Anchors]

/-- **The CA a call is about is the last anchor presented.** -/
theorem ca_eq_some_iff {ca : Bytes} : call.ca b = some ca ↔ call.LastAnchor b ca := by
  unfold DecideCall.ca selectCa DecideCall.LastAnchor
  rw [List.find?_eq_some_iff_append, anchors_iff]
  refine and_congr_right fun _ => ?_
  -- The list is searched from its end.
  constructor
  · rintro ⟨later, earlier, split, fails⟩
    refine ⟨earlier.reverse, later.reverse, ?_, ?_⟩
    · rw [List.reverse_eq_iff.mp split]
      simp
    · intro other member anchors
      have failed := fails other (List.mem_reverse.mp member)
      rw [anchors_iff.mpr anchors] at failed
      cases failed
  · rintro ⟨earlier, later, split, fails⟩
    refine ⟨later.reverse, earlier.reverse, by simp [split], ?_⟩
    intro other member
    by_contra passed
    exact fails other (List.mem_reverse.mp member) (anchors_iff.mp (by simpa using passed))

/-! ## A live pin -/

/-- The pin is for this CA. -/
structure Pin.Names (pin : Pin) (b : BrokerPlatform) (ca : Bytes) : Prop where
  encoded : pin.caB64 = b.base64.encode ca
  hashed : sha256Hex b ca = some pin.fingerprint

/-- The pinned fingerprint is answered with the pinned CA. -/
theorem decide_of_pinned {pin : Pin} {ca : Bytes}
    (live : store.livePin call.realm call.instant.now = some pin) (selected : call.ca b = some ca)
    (hashed : sha256Hex b ca = some pin.fingerprint) :
    (store.decide b call).2.reply = { decision := .trusted, anchors := [pin.caB64] } := by
  unfold PinStore.decide
  simp only [selected, hashed, live, if_true]

/-- Any other is denied. -/
theorem decide_of_changed {pin : Pin} {ca : Bytes}
    (live : store.livePin call.realm call.instant.now = some pin) (selected : call.ca b = some ca)
    (differs : sha256Hex b ca ≠ some pin.fingerprint) :
    (store.decide b call).2.reply.decision = .denied := by
  unfold PinStore.decide
  simp only [selected, live]
  cases hashed : sha256Hex b ca with
  | none => rfl
  | some fingerprint =>
      have changed : pin.fingerprint ≠ fingerprint := by
        rintro rfl
        exact differs hashed
      simp only [if_neg changed]
      rfl

/-- An approval leaves its pin, and is answered with the CA. -/
theorem decide_of_approved {ca : Bytes} {fingerprint : String} {ttl : GrantTtl}
    (selected : call.ca b = some ca) (hashed : sha256Hex b ca = some fingerprint)
    (noPin : store.livePin call.realm call.instant.now = none)
    (interactive : call.interactive = true)
    (confirmed : call.prompter (PinStore.trustRequest b call ca fingerprint) = some ttl) :
    let approved := (store.forget call.realm).pin call.realm {
      caB64 := b.base64.encode ca
      fingerprint := fingerprint
      expiresAt := ttl.expiresAtEpochSecs call.instant.now }
    store.decide b call = (approved, {
      reply := { decision := .trusted, anchors := [b.base64.encode ca] }
      asked := some (PinStore.trustRequest b call ca fingerprint)
      persisted := approved.persist }) := by
  unfold PinStore.decide PinStore.askUser
  simp only [selected, hashed, noPin, interactive, confirmed, Bool.true_eq_false, if_false]

/-- **A live pin is honoured exactly when the last anchor presented has its
fingerprint.** -/
theorem live_pin_honoured_iff (b : BrokerPlatform) (store : PinStore) (call : DecideCall)
    (pin : Pin) (ca : Bytes) (live : store.livePin call.realm call.instant.now = some pin)
    (names : pin.Names b ca) :
    (store.decide b call).2.reply = { decision := .trusted, anchors := [b.base64.encode ca] } ↔
      ∃ last, call.LastAnchor b last ∧ sha256Hex b last = some pin.fingerprint := by
  constructor
  · intro trusted
    have decision := congrArg TrustReply.decision trusted
    cases selected : call.ca b with
    | none =>
        unfold PinStore.decide at decision
        rw [selected] at decision
        cases decision
    | some last =>
        refine ⟨last, ca_eq_some_iff.mp selected, ?_⟩
        by_contra differs
        rw [decide_of_changed live selected differs] at decision
        cases decision
  · rintro ⟨last, lastAnchor, hashed⟩
    rw [decide_of_pinned live (ca_eq_some_iff.mpr lastAnchor) hashed, names.encoded]

/-! ## The renewed CA -/

open Reference

theorem ca_askBroker : (askBroker 1800000000 true).ca renewedBroker = some caCertDer := by
  decide +kernel

theorem caPin_names : caPin.Names renewedBroker caCertDer :=
  ⟨rfl, by decide +kernel⟩

theorem livePin_storeWithCa : storeWithCa.livePin "EXAMPLE.COM" 1800000060 = some caPin := by
  have confirmed : (askBroker 1800000000 true).prompter (PinStore.trustRequest renewedBroker
      (askBroker 1800000000 true) caCertDer caPin.fingerprint) = some (.forSecs 3600) := by
    decide +kernel
  have noPin : PinStore.inMemory.livePin (askBroker 1800000000 true).realm
      (askBroker 1800000000 true).instant.now = none := by
    simp [PinStore.livePin, PinStore.inMemory]
  unfold storeWithCa
  rw [decide_of_approved ca_askBroker caPin_names.hashed noPin rfl confirmed]
  change (PinStore.pin _ "EXAMPLE.COM" _).livePin "EXAMPLE.COM" 1800000060 = some caPin
  rw [PinStore.livePin_pin]
  simp [caPin, lapsed, GrantTtl.expiresAtEpochSecs, saturatingAdd, askBroker]

/-- With the renewed certificate after the pinned one the pin is not honoured;
the same list the other way round is trusted. -/
theorem live_pin_denied_by_order :
    storeWithCa.livePin "EXAMPLE.COM" 1800000060 = some caPin ∧
    caPin.Names renewedBroker caCertDer ∧
    (askAbout [caCertDer, renewedCaCertDer]).Anchors renewedBroker caCertDer ∧
    (storeWithCa.decide renewedBroker (askAbout [caCertDer, renewedCaCertDer])).2.reply.decision =
      .denied ∧
    (storeWithCa.decide renewedBroker (askAbout [renewedCaCertDer, caCertDer])).2.reply =
      { decision := .trusted, anchors := [renewedBroker.base64.encode caCertDer] } := by
  have last : (askAbout [caCertDer, renewedCaCertDer]).ca renewedBroker =
      some renewedCaCertDer := by
    decide +kernel
  have lastReversed : (askAbout [renewedCaCertDer, caCertDer]).ca renewedBroker =
      some caCertDer := by
    decide +kernel
  have differs : sha256Hex renewedBroker renewedCaCertDer ≠ some caPin.fingerprint := by
    decide +kernel
  refine ⟨livePin_storeWithCa, caPin_names, ⟨by decide +kernel, by decide +kernel⟩, ?_, ?_⟩
  · exact @decide_of_changed renewedBroker storeWithCa _ caPin _ livePin_storeWithCa last differs
  · exact @decide_of_pinned renewedBroker storeWithCa _ caPin _ livePin_storeWithCa lastReversed
      caPin_names.hashed

/-- The two certificates in the order the broker expects. -/
theorem live_pin_honoured_iff_renewed :
    (storeWithCa.decide renewedBroker (askAbout [renewedCaCertDer, caCertDer])).2.reply =
        { decision := .trusted, anchors := [renewedBroker.base64.encode caCertDer] } ↔
      ∃ last, (askAbout [renewedCaCertDer, caCertDer]).LastAnchor renewedBroker last ∧
        sha256Hex renewedBroker last = some caPin.fingerprint :=
  live_pin_honoured_iff renewedBroker storeWithCa (askAbout [renewedCaCertDer, caCertDer]) caPin
    caCertDer livePin_storeWithCa caPin_names

end Kurbu5Pkinit.Brokerd

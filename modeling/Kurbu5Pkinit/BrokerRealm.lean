import Kurbu5Pkinit.Library.Escaping
import Kurbu5Pkinit.Brokerd.Provenance
import Kurbu5Pkinit.Reference.Client

/-!
# The realm a broker is asked about

A client reads the realm from the text of its KDC's principal: what stands
between the first `@` and the next. An `@` inside a component stands after a
backslash there and is taken for the separator all the same, and what the realm
itself escapes is read with its backslashes. The realm is right exactly where
neither occurs, or where the wrong text happens to spell it.
-/

set_option autoImplicit false

namespace Kurbu5Pkinit

open Library Brokerd

/-! ## Principals as text -/

/-- What the Kerberos library escapes in the text of a principal. -/
def unparsing : Escaping Char where
  mark := '\\'
  spelling
    | '@' => some '@'
    | '/' => some '/'
    | '\\' => some '\\'
    | '\n' => some 'n'
    | '\t' => some 't'
    | '\x08' => some 'b'
    | '\x00' => some '0'
    | _ => none

def componentsText (components : List String) : List Char :=
  ['/'].intercalate (components.map fun component => unparsing.write component.toList)

def unparsedText (components : List String) (realm : String) : List Char :=
  componentsText components ++ '@' :: unparsing.write realm.toList

def unparsedName (components : List String) (realm : String) : String :=
  String.ofList (unparsedText components realm)

variable {components : List String} {realm : String}

theorem unparsing_guards : unparsing.Guards '@' where
  escaped := rfl
  mark := by decide
  only := by
    intro x
    unfold unparsing
    dsimp only
    split <;> simp

theorem mem_componentsText_iff :
    '@' ∈ componentsText components ↔ ∃ component ∈ components, '@' ∈ component.toList := by
  unfold componentsText
  rw [mem_intercalate_iff (by decide)]
  simp only [List.mem_map, exists_exists_and_eq_and, Escaping.mem_write_iff unparsing_guards]

/-- The second piece of a principal's text is its realm. -/
def RecoversRealm (components : List String) (realm : String) : Prop :=
  (∀ component ∈ components, '@' ∉ component.toList) ∧ unparsing.Plain realm.toList ∨
    (∃ component ∈ components, '@' ∈ component.toList) ∧
      secondPiece '@' (componentsText components) = realm.toList

theorem secondPiece_unparsedText_iff :
    secondPiece '@' (unparsedText components realm) = realm.toList ↔
      RecoversRealm components realm := by
  unfold RecoversRealm unparsedText
  by_cases escaped : ∃ component ∈ components, '@' ∈ component.toList
  · rw [secondPiece_append_of_mem (mem_componentsText_iff.mpr escaped)]
    simp only [escaped, true_and, iff_or_self]
    rintro ⟨absent, _⟩
    obtain ⟨component, member, present⟩ := escaped
    exact absurd present (absent component member)
  · rw [secondPiece_append_cons fun present => escaped (mem_componentsText_iff.mp present),
      Escaping.takeWhile_write_eq_iff unparsing_guards]
    simp only [escaped, false_and, or_false, iff_and_self]
    intro _ component member present
    exact escaped ⟨component, member, present⟩

/-- What the client reads as the realm. -/
theorem split_unparsedName :
    (split '@' (unparsedName components realm))[1]? =
      some (String.ofList (secondPiece '@' (unparsedText components realm))) := by
  unfold split unparsedName
  rw [String.toList_ofList, splitChars_eq_splitOn, List.getElem?_map, getElem?_one_splitOn
    (by simp [unparsedText]), Option.map_some]

/-! ## The question -/

namespace PkinitClientState

variable (platform : Platform) (instant : Instant) (state : PkinitClientState)
  (signerCertDer : Bytes) (allCertsDer : List Bytes)

/-- What the broker is asked while a chain is validated: nothing where the
configured anchors suffice. -/
def consulted : Option (KdcCaTrustBroker × KdcTrustRequest) :=
  match state.trustStore.validateChain platform instant signerCertDer allCertsDer false with
  | .ok () => none
  | .error _ => state.kdcTrustRequest signerCertDer allCertsDer

theorem consulted_of_named (hostname : Option String) :
    (state.setKdcIdentity (unparsedName components realm) hostname).consulted platform instant
        signerCertDer allCertsDer =
      match state.trustStore.validateChain platform instant signerCertDer allCertsDer false with
      | .ok () => none
      | .error _ => state.broker.map fun broker => (broker, {
          realm := String.ofList (secondPiece '@' (unparsedText components realm))
          kdcPrincipal := unparsedName components realm
          signerCertDer := signerCertDer
          presentedCertsDer := allCertsDer
          interactive := state.isAnonymous }) := by
  have kept : (state.setKdcIdentity (unparsedName components realm) hostname).trustStore =
      state.trustStore := rfl
  unfold consulted
  rw [kept]
  cases state.trustStore.validateChain platform instant signerCertDer allCertsDer false with
  | ok => rfl
  | error e =>
      simp only [setKdcIdentity, kdcTrustRequest, Option.bind_eq_bind, Option.bind_some,
        split_unparsedName]
      cases state.broker with
      | none => rfl
      | some broker => rfl

end PkinitClientState

/-! ## The decision -/

/-- The broker answers this call from the pin of the realm, and leaves all
others as they are. -/
structure DecidesUnder (b : BrokerPlatform) (call : DecideCall) (realm : String) : Prop where
  reads : ∀ store store' : PinStore, store.pins.lookup realm = store'.pins.lookup realm →
    (store.decide b call).2.reply = (store'.decide b call).2.reply
  writes : ∀ (store : PinStore) (other : String), other ≠ realm →
    (store.decide b call).1.pins.lookup other = store.pins.lookup other

theorem reply_askUser (b : BrokerPlatform) (store store' : PinStore) (call : DecideCall)
    (ca : Bytes) (fingerprint : String) :
    (store.askUser b call ca fingerprint).2.reply =
      (store'.askUser b call ca fingerprint).2.reply := by
  unfold PinStore.askUser
  by_cases silent : call.interactive = false
  · simp only [silent, if_true]
  · rw [if_neg silent, if_neg silent]
    dsimp only
    cases call.prompter (PinStore.trustRequest b call ca fingerprint) with
    | none => rfl
    | some ttl => rfl

theorem decidesUnder_own (b : BrokerPlatform) (call : DecideCall) :
    DecidesUnder b call call.realm where
  reads := by
    intro store store' same
    have live : store.livePin call.realm call.instant.now =
        store'.livePin call.realm call.instant.now := by
      unfold PinStore.livePin
      rw [same]
    unfold PinStore.decide
    rw [live]
    cases call.ca b with
    | none => rfl
    | some ca =>
        dsimp only
        cases sha256Hex b ca with
        | none => rfl
        | some fingerprint =>
            dsimp only
            cases store'.livePin call.realm call.instant.now with
            | none => exact reply_askUser b store store' call ca fingerprint
            | some existing =>
                by_cases known : existing.fingerprint = fingerprint
                · simp only [known, if_true]
                · simp only [known, if_false]
  writes := fun store _ different => (decide_outcome store call).lookup_of_ne different

/-- Whatever is asked while the chain is validated is asked about this realm,
and decided under it. -/
def AsksUnder (platform : Platform) (instant : Instant) (state : PkinitClientState)
    (signerCertDer : Bytes) (allCertsDer : List Bytes) (realm : String) : Prop :=
  ∀ broker req, state.consulted platform instant signerCertDer allCertsDer = some (broker, req) →
    req.realm = realm ∧
      ∀ (b : BrokerPlatform) (call : DecideCall), call.realm = req.realm →
        DecidesUnder b call realm

/-- **The broker is asked about the right realm exactly when the text of the
principal gives it back**, or when it is not asked at all. -/
theorem asked_under_realm_iff (platform : Platform) (instant : Instant)
    (state : PkinitClientState) (hostname : Option String) (components : List String)
    (realm : String) (signerCertDer : Bytes) (allCertsDer : List Bytes) :
    AsksUnder platform instant (state.setKdcIdentity (unparsedName components realm) hostname)
        signerCertDer allCertsDer realm ↔
      state.trustStore.validateChain platform instant signerCertDer allCertsDer false = .ok () ∨
        state.broker = none ∨ RecoversRealm components realm := by
  unfold AsksUnder
  rw [PkinitClientState.consulted_of_named, ← secondPiece_unparsedText_iff]
  cases state.trustStore.validateChain platform instant signerCertDer allCertsDer false with
  | ok => simp
  | error e =>
      cases state.broker with
      | none => simp
      | some broker =>
          simp only [reduceCtorEq, false_or, Option.map_some, Option.some.injEq, Prod.mk.injEq]
          constructor
          · intro asked
            obtain ⟨same, _⟩ := asked _ _ ⟨rfl, rfl⟩
            exact String.toList_ofList.symm.trans (congrArg String.toList same)
          · rintro recovered _ req ⟨_, rfl⟩
            have same :
                String.ofList (secondPiece '@' (unparsedText components realm)) = realm := by
              rw [recovered, String.ofList_toList]
            refine ⟨same, fun b call named => ?_⟩
            have own : call.realm = realm := named.trans same
            exact own ▸ decidesUnder_own b call

namespace Reference

/-- A broker that denies every realm by its name. -/
def namingBroker : KdcCaTrustBroker := fun _ req => .ok (.denied req.realm)

/-- A client without anchors of its own, and for one server. -/
def trustingClient : PkinitClientState :=
  (PkinitClientState.new noIdentity {} clientConfig).setTrustBroker namingBroker

def askingClient (components : List String) (realm : String) : PkinitClientState :=
  trustingClient.setKdcIdentity (unparsedName components realm) none

end Reference

/-- A component with an `@` names the realm to the broker, and an X.500 realm
is not the one it is asked about. -/
theorem escaped_realm_misread :
    ¬AsksUnder Reference.recorded Reference.clientInstant
        (Reference.askingClient ["host", "www@OTHER.COM"] "EXAMPLE.COM") Reference.kdcCertDer
        [Reference.kdcCertDer] "EXAMPLE.COM" ∧
      (Reference.askingClient ["host", "www@OTHER.COM"] "EXAMPLE.COM").validateKdcChain
        Reference.recorded Reference.clientInstant Reference.kdcCertDer [Reference.kdcCertDer] =
          .error (.kdcCaTrustDenied "OTHER.COM") ∧
      (Reference.askingClient ["host", "www"] "C=US/O=EXAMPLE").validateKdcChain
        Reference.recorded Reference.clientInstant Reference.kdcCertDer [Reference.kdcCertDer] =
          .error (.kdcCaTrustDenied "C=US\\/O=EXAMPLE") := by
  have refused : Reference.trustingClient.trustStore.validateChain Reference.recorded
      Reference.clientInstant Reference.kdcCertDer [Reference.kdcCertDer] false ≠ .ok () := by
    decide +kernel
  refine ⟨?_, by decide +kernel, by decide +kernel⟩
  intro asks
  unfold AsksUnder Reference.askingClient at asks
  rw [PkinitClientState.consulted_of_named] at asks
  cases configured : Reference.trustingClient.trustStore.validateChain Reference.recorded
      Reference.clientInstant Reference.kdcCertDer [Reference.kdcCertDer] false with
  | ok => exact refused configured
  | error e =>
      rw [configured] at asks
      have misread := (asks _ _ rfl).1
      revert misread
      decide

end Kurbu5Pkinit

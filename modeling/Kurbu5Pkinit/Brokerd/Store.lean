import Mathlib.Algebra.Group.Nat.Defs
import Mathlib.Data.List.AList
import Mathlib.Data.Multiset.Defs
import Kurbu5Pkinit.Library.Runs
import Kurbu5Pkinit.Platform
import Kurbu5Pkinit.TrustProto

/-!
# The trust broker's pin store

The broker remembers, for each realm, the one CA its user approved, and until
when. `decide` selects a CA from the chain a KDC presented and answers from the
live pin, or asks the user when the exchange may establish trust. A lapsed pin
is forgotten by the next call for its realm that finds a CA.

What the user was asked and what was written to the state file are part of the
outcome: neither shows in the store. The file is written after an approval
only, so it may lag behind the store.
-/

set_option autoImplicit false

namespace Kurbu5Pkinit.Brokerd

open Library

/-! ## Grants and pins -/

/-- How long an approved CA is trusted. Of a `Duration` only its whole seconds
are read. -/
inductive GrantTtl where
  | forever
  | forSecs (secs : Nat)
  deriving DecidableEq, Repr

/-- `u64::saturating_add`. -/
def saturatingAdd (a b : Nat) : Nat :=
  min (a + b) (2 ^ 64 - 1)

def GrantTtl.expiresAtEpochSecs (now : Nat) : GrantTtl → Option Nat
  | .forever => none
  | .forSecs secs => some (saturatingAdd now secs)

structure Pin where
  caB64 : String
  fingerprint : String
  /-- When the grant lapses; never, when absent. -/
  expiresAt : Option Nat
  deriving DecidableEq, Repr

/-- Whether a grant with this end has lapsed. -/
def lapsed (expiresAt : Option Nat) (now : Nat) : Bool :=
  match expiresAt with
  | some exp => decide (exp ≤ now)
  | none => false

theorem lapsed_eq_false_iff {expiresAt : Option Nat} {now : Nat} :
    lapsed expiresAt now = false ↔ ∀ exp, expiresAt = some exp → now < exp := by
  cases expiresAt <;> simp [lapsed]

/-- A grant that has not lapsed had not lapsed before. -/
theorem lapsed_eq_false_of_le {expiresAt : Option Nat} {earlier later : Nat}
    (ordered : earlier ≤ later) (live : lapsed expiresAt later = false) :
    lapsed expiresAt earlier = false := by
  rw [lapsed_eq_false_iff] at live ⊢
  exact fun exp ends => lt_of_le_of_lt ordered (live exp ends)

abbrev Pins : Type := AList fun _ : String => Pin

structure PinStore where
  path : Option String
  pins : Pins

def PinStore.inMemory : PinStore where
  path := none
  pins := ∅

/-! ## Questions and answers -/

/-- What the user is shown. -/
structure TrustRequest where
  realm : String
  kdcPrincipal : String
  caSubject : String
  fingerprint : String
  clientPid : Option Int
  deriving DecidableEq, Repr

/-- The user behind one call: approves for a time, or denies. -/
abbrev Prompter : Type := TrustRequest → Option GrantTtl

/-- The dependencies of the broker beyond those of the core. -/
structure BrokerPlatform where
  core : Platform
  base64 : Base64Engine
  /-- `get_general_category(c) == Format`. -/
  isFormatCharacter : Char → Bool
  formatDn : Bytes → String

/-- `char::is_control`. -/
def isControl (c : Char) : Bool :=
  c.toNat < 0x20 || (0x7F ≤ c.toNat && c.toNat < 0xA0)

def sanitizeForDisplay (b : BrokerPlatform) (text : String) : String :=
  String.ofList (text.toList.filter fun c => !(isControl c || b.isFormatCharacter c))

def subjectDn (b : BrokerPlatform) (der : Bytes) : Option String :=
  match b.core.synta.certificate.fromDer der with
  | .ok cert => some (b.formatDn cert.tbsCertificate.subject)
  | .error _ => none

/-! ## Selecting a CA -/

def decodeForVerification (b : BrokerPlatform) (der : Bytes) :
    Except String VerificationCertificate := do
  let cert ← b.core.synta.certificate.fromDer der
  return ⟨cert, der⟩

/-- Verify the signer's chain to the certificate, as the only anchor and a CA. -/
def verifyToAnchor (b : BrokerPlatform) (instant : Instant) (anchorDer signerDer : Bytes)
    (presentedDer : List Bytes) : Except String Unit := do
  b.core.x509.openStore [anchorDer]
  let leaf ← decodeForVerification b signerDer
  let others := presentedDer.filter fun der => !(der = signerDer || der = anchorDer)
  let intermediates ← others.mapM (decodeForVerification b)
  let policy := PolicyDefinition.newClient instant.now .defaultWebPkiCa
  b.core.x509.verify leaf intermediates policy [anchorDer] { crls := none }

/-- Whether the certificate is a CA that ends the chain of the signer. -/
def validatesAsAnchor (b : BrokerPlatform) (instant : Instant) (anchorDer signerDer : Bytes)
    (presentedDer : List Bytes) : Bool :=
  (verifyToAnchor b instant anchorDer signerDer presentedDer).isOk

/-- The last presented certificate that is an anchor and not the signer. -/
def selectCa (b : BrokerPlatform) (instant : Instant) (signerDer : Bytes)
    (presentedDer : List Bytes) : Option Bytes :=
  presentedDer.reverse.find? fun der =>
    der ≠ signerDer && validatesAsAnchor b instant der signerDer presentedDer

/-- `format!("{b:02x}")`. -/
def hexByte (byte : UInt8) : List Char :=
  [Nat.digitChar (byte.toNat / 16), Nat.digitChar (byte.toNat % 16)]

def sha256Hex (b : BrokerPlatform) (der : Bytes) : Option String :=
  match b.core.crypto.hashData "sha256" der with
  | .ok digest => some (String.ofList (digest.flatMap hexByte))
  | .error _ => none

/-! ## The decision -/

/-- The arguments of one call of `decide`, with its moment and its user. -/
structure DecideCall where
  instant : Instant
  realm : String
  kdcPrincipal : String
  clientPid : Option Int
  signerDer : Bytes
  presentedDer : List Bytes
  interactive : Bool
  prompter : Prompter

/-- The CA a call is about. -/
def DecideCall.ca (call : DecideCall) (b : BrokerPlatform) : Option Bytes :=
  selectCa b call.instant call.signerDer call.presentedDer

structure Decided where
  reply : TrustReply
  /-- The question put to the user, if one was. -/
  asked : Option TrustRequest := none
  /-- The pins written to the state file, if it was written. -/
  persisted : Option (String × Pins) := none

namespace PinStore

/-- The pin of a realm, unless it has lapsed. -/
def livePin (store : PinStore) (realm : String) (now : Nat) : Option Pin :=
  (store.pins.lookup realm).filter fun pin => !lapsed pin.expiresAt now

def forget (store : PinStore) (realm : String) : PinStore :=
  { store with pins := store.pins.erase realm }

def pin (store : PinStore) (realm : String) (pin : Pin) : PinStore :=
  { store with pins := store.pins.insert realm pin }

def persist (store : PinStore) : Option (String × Pins) :=
  store.path.map fun path => (path, store.pins)

def trustRequest (b : BrokerPlatform) (call : DecideCall) (ca : Bytes) (fingerprint : String) :
    TrustRequest :=
  let realmDisplay := sanitizeForDisplay b call.realm
  { realm := realmDisplay
    kdcPrincipal := sanitizeForDisplay b call.kdcPrincipal
    caSubject := sanitizeForDisplay b ((subjectDn b ca).getD s!"(CA for {realmDisplay})")
    fingerprint := fingerprint
    clientPid := call.clientPid }

/-- The second half of `decide`: the realm has no live pin. -/
def askUser (b : BrokerPlatform) (store : PinStore) (call : DecideCall) (ca : Bytes)
    (fingerprint : String) : PinStore × Decided :=
  if call.interactive = false then
    (store.forget call.realm, { reply := { decision := .unknown } })
  else
    let request := trustRequest b call ca fingerprint
    match call.prompter request with
    | some ttl =>
        let approved := (store.forget call.realm).pin call.realm {
          caB64 := b.base64.encode ca
          fingerprint := fingerprint
          expiresAt := ttl.expiresAtEpochSecs call.instant.now }
        (approved, {
          reply := { decision := .trusted, anchors := [b.base64.encode ca] }
          asked := some request
          persisted := approved.persist })
    | none =>
        (store.forget call.realm,
          { reply := .denied "user declined", asked := some request })

def decide (b : BrokerPlatform) (store : PinStore) (call : DecideCall) : PinStore × Decided :=
  match call.ca b with
  | none => (store, { reply := .denied "presented chain contains no valid CA certificate" })
  | some ca =>
      match sha256Hex b ca with
      | none => (store, { reply := .denied "failed to compute CA fingerprint" })
      | some fingerprint =>
          match store.livePin call.realm call.instant.now with
          | none => askUser b store call ca fingerprint
          | some existing =>
              if existing.fingerprint = fingerprint then
                (store, { reply := { decision := .trusted, anchors := [existing.caB64] } })
              else
                (store, { reply := .denied "KDC CA changed for a known realm" })

/-- The realms with a live pin, in no particular order. -/
def trustedRealms (store : PinStore) (now : Nat) : List TrustedRealm :=
  (store.pins.entries.filter fun entry => !lapsed entry.2.expiresAt now).map fun entry =>
    { realm := entry.1
      caDer := entry.2.caB64
      fingerprint := entry.2.fingerprint
      expiresAt := entry.2.expiresAt }

/-! ## Lookups -/

theorem livePin_eq_some {store : PinStore} {realm : String} {now : Nat} {pin : Pin} :
    store.livePin realm now = some pin ↔
      store.pins.lookup realm = some pin ∧ lapsed pin.expiresAt now = false := by
  simp [livePin, Option.filter_eq_some_iff]

@[simp] theorem lookup_forget (store : PinStore) (realm : String) :
    (store.forget realm).pins.lookup realm = none :=
  AList.lookup_erase realm store.pins

theorem lookup_forget_ne {store : PinStore} {realm other : String} (ne : other ≠ realm) :
    (store.forget realm).pins.lookup other = store.pins.lookup other :=
  AList.lookup_erase_ne ne

@[simp] theorem lookup_pin (store : PinStore) (realm : String) (pin : Pin) :
    (store.pin realm pin).pins.lookup realm = some pin :=
  AList.lookup_insert store.pins

theorem lookup_pin_ne {store : PinStore} {realm other : String} {pin : Pin} (ne : other ≠ realm) :
    (store.pin realm pin).pins.lookup other = store.pins.lookup other :=
  AList.lookup_insert_ne ne

@[simp] theorem livePin_forget (store : PinStore) (realm : String) (now : Nat) :
    (store.forget realm).livePin realm now = none := by
  simp [livePin]

theorem livePin_forget_ne {store : PinStore} {realm other : String} (ne : other ≠ realm)
    (now : Nat) :
    (store.forget realm).livePin other now = store.livePin other now := by
  simp only [livePin, lookup_forget_ne ne]

theorem livePin_pin (store : PinStore) (realm : String) (pin : Pin) (now : Nat) :
    (store.pin realm pin).livePin realm now =
      (some pin).filter fun pin => !lapsed pin.expiresAt now := by
  simp only [livePin, lookup_pin]

theorem livePin_pin_ne {store : PinStore} {realm other : String} {pin : Pin} (ne : other ≠ realm)
    (now : Nat) :
    (store.pin realm pin).livePin other now = store.livePin other now := by
  simp only [livePin, lookup_pin_ne ne]

end PinStore

/-! ## The state file -/

/-- `serde_json` on the map of pins. -/
structure SerdeJson where
  toVecPretty : Pins → Option Bytes
  fromSlice : Bytes → Option Pins

/-- The map written is read back, with its entries in some order. -/
def SerdeJson.RoundTrips (serde : SerdeJson) (pins : Pins) : Prop :=
  ∃ data restored, serde.toVecPretty pins = some data ∧ serde.fromSlice data = some restored ∧
    ∀ realm, restored.lookup realm = pins.lookup realm

/-- What is found at the path of a store. -/
inductive StateFile where
  | missing
  | unreadable (reason : String)
  | holds (data : Bytes)
  deriving DecidableEq, Repr

/-- `PinStore::open`: a file that does not parse counts as empty. -/
def PinStore.openFile (serde : SerdeJson) (path : String) : StateFile → Except String PinStore
  | .missing => .ok ⟨some path, ∅⟩
  | .unreadable reason => .error reason
  | .holds data => .ok ⟨some path, (serde.fromSlice data).getD ∅⟩

/-! ## The store as a machine -/

/-- The calls a store answers. -/
def brokerMachine (b : BrokerPlatform) : Machine PinStore DecideCall Decided :=
  PinStore.decide b

abbrev BrokerEvent : Type :=
  Event PinStore DecideCall Decided

inductive StoreCall where
  | decide (call : DecideCall)
  | trustedRealms (instant : Instant)

def StoreCall.now : StoreCall → Nat
  | .decide call => call.instant.now
  | .trustedRealms instant => instant.now

/-- What a caller and its user see of a call. The realms come out of a hash map,
so their order says nothing. -/
inductive StoreAnswer where
  | decided (reply : TrustReply) (asked : Option TrustRequest)
  | realms (realms : Multiset TrustedRealm)
  deriving DecidableEq

def storeMachine (b : BrokerPlatform) : Machine PinStore StoreCall StoreAnswer
  | store, .decide call =>
      let (store', decided) := store.decide b call
      (store', .decided decided.reply decided.asked)
  | store, .trustedRealms instant => (store, .realms (store.trustedRealms instant.now))

structure StoreOnDisk where
  store : PinStore
  file : StateFile

/-- The pins a call writes to the state file, if it writes it. -/
def StoreCall.written (b : BrokerPlatform) (store : PinStore) : StoreCall → Option Pins
  | .decide call => (store.decide b call).2.persisted.map Prod.snd
  | .trustedRealms _ => none

/-- The store with its file, every write succeeding. -/
def diskMachine (b : BrokerPlatform) (serde : SerdeJson) :
    Machine StoreOnDisk StoreCall StoreAnswer
  | disk, call =>
      let (store, answer) := storeMachine b disk.store call
      let file := match call.written b disk.store with
        | some pins => .holds ((serde.toVecPretty pins).getD [])
        | none => disk.file
      (⟨store, file⟩, answer)

abbrev DiskEvent : Type :=
  Event StoreOnDisk StoreCall StoreAnswer

/-! ## Fingerprints -/

theorem digitChar_injective : ∀ m n : Fin 16, Nat.digitChar m = Nat.digitChar n → m = n := by
  decide

theorem hexByte_injective : Function.Injective hexByte := by
  intro left right same
  have boundLeft := left.toNat_lt
  have boundRight := right.toNat_lt
  simp only [hexByte, List.cons.injEq, and_true] at same
  have high := digitChar_injective ⟨left.toNat / 16, by omega⟩ ⟨right.toNat / 16, by omega⟩ same.1
  have low := digitChar_injective ⟨left.toNat % 16, by omega⟩ ⟨right.toNat % 16, by omega⟩ same.2
  simp only [Fin.mk.injEq] at high low
  rw [← UInt8.toNat_inj]
  omega

theorem flatMap_hexByte_injective : Function.Injective fun digest : Bytes =>
    digest.flatMap hexByte := by
  intro left
  induction left with
  | nil =>
      intro right same
      cases right with
      | nil => rfl
      | cons byte right => simp [hexByte] at same
  | cons byte left ih =>
      intro right same
      cases right with
      | nil => simp [hexByte] at same
      | cons byte' right =>
          simp only [List.flatMap_cons] at same
          obtain ⟨head, tail⟩ := List.append_inj same rfl
          rw [hexByte_injective head, ih tail]

/-- No two certificates have the same SHA-256 digest. -/
def Sha256Injective (platform : Platform) : Prop :=
  ∀ der der' digest, platform.crypto.hashData "sha256" der = .ok digest →
    platform.crypto.hashData "sha256" der' = .ok digest → der = der'

/-- **A fingerprint names one certificate.** -/
theorem sha256Hex_unique {b : BrokerPlatform} (injective : Sha256Injective b.core)
    {der der' : Bytes} {fingerprint : String} (left : sha256Hex b der = some fingerprint)
    (right : sha256Hex b der' = some fingerprint) : der = der' := by
  unfold sha256Hex at left right
  cases hashed : b.core.crypto.hashData "sha256" der with
  | error e => simp [hashed] at left
  | ok digest =>
      cases hashed' : b.core.crypto.hashData "sha256" der' with
      | error e => simp [hashed'] at right
      | ok digest' =>
          simp only [hashed, hashed', Option.some.injEq] at left right
          have same : digest = digest' :=
            flatMap_hexByte_injective (String.ofList_injective (left.trans right.symm))
          exact injective der der' digest hashed (same ▸ hashed')

end Kurbu5Pkinit.Brokerd

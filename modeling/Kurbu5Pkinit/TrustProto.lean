import Kurbu5Pkinit.Asn1

/-!
# The trust protocol

What the broker answers a client over its socket: its decision on a CA, or the
realms it trusts. Certificates travel as base64 text.
-/

set_option autoImplicit false

namespace Kurbu5Pkinit

/-- `base64::engine::general_purpose::STANDARD`. -/
structure Base64Engine where
  encode : Bytes → String
  decode : String → Except String Bytes

/-- What its documentation promises: it reads back what it wrote, which is of
the standard alphabet, padded and in one line. -/
structure Base64Engine.Standard (engine : Base64Engine) : Prop where
  roundTrips : ∀ data, engine.decode (engine.encode data) = .ok data
  alphabet : ∀ data, ∀ c ∈ (engine.encode data).toList,
    c.isAlphanum = true ∨ c = '+' ∨ c = '/' ∨ c = '='

/-- No two lists of bytes are written alike. -/
theorem Base64Engine.Standard.encode_eq_iff {engine : Base64Engine} (standard : engine.Standard)
    {data data' : Bytes} : engine.encode data = engine.encode data' ↔ data = data' := by
  constructor
  · intro same
    have read := standard.roundTrips data
    rw [same, standard.roundTrips] at read
    exact (Except.ok.inj read).symm
  · intro same
    rw [same]

inductive Decision where
  | trusted
  | denied
  | unknown
  deriving DecidableEq, Repr

structure TrustReply where
  decision : Decision
  anchors : List String := []
  reason : Option String := none
  deriving DecidableEq, Repr

/-- A realm whose CA is trusted, with that CA. -/
structure TrustedRealm where
  realm : String
  caDer : String
  fingerprint : String
  /-- When the grant lapses; never, when absent. -/
  expiresAt : Option Nat := none
  deriving DecidableEq, Repr

structure TrustStoreReply where
  realms : List TrustedRealm
  deriving DecidableEq, Repr

def TrustReply.denied (reason : String) : TrustReply where
  decision := .denied
  reason := some reason

end Kurbu5Pkinit

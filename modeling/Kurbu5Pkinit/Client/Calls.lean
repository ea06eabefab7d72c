import Kurbu5Pkinit.Client.Outcomes
import Kurbu5Pkinit.Library.Runs

/-!
# The client as a machine

The public operations of the client state, one input each, so that a caller's
whole use of one client is a run. The setters are among them: a module calls
them between the steps of an exchange. What a request went out with is a
property of its event, and the latest request is found in the history.
-/

set_option autoImplicit false

namespace Kurbu5Pkinit

open Library

inductive ClientCall where
  | setFreshnessToken (token : Bytes)
  | setKdcIdentity (principal : String) (hostname : Option String)
  | setTrustBroker (broker : KdcCaTrustBroker)
  | setIsAnonymous (isAnonymous : Bool)
  | setDhGroup (group : DhGroup)
  | processPkinitHint (hintDer : Bytes)
  | handleTryagain (errorPadataDer : Bytes)
  | handleTryagainTypedData (typedData : List (Int × Bytes))
  | buildAsReq (instant : Instant) (input : PkinitClientState.RequestInput)
  | processAsRep (instant : Instant) (o2k : OctetString2Key) (paRepDer : Bytes)
      (params : AsRepParams)

inductive ClientAnswer where
  | done (result : Except PkinitError Unit)
  | retry (result : Except PkinitError RetryAction)
  | request (result : Except PkinitError Bytes)
  | replyKey (result : Except PkinitError DerivedKey)
  deriving DecidableEq

/-- One call of the client. -/
def clientMachine (platform : Platform) : Machine PkinitClientState ClientCall ClientAnswer
  | s, .setFreshnessToken token => (s.setFreshnessToken token, .done (.ok ()))
  | s, .setKdcIdentity principal hostname => (s.setKdcIdentity principal hostname, .done (.ok ()))
  | s, .setTrustBroker broker => (s.setTrustBroker broker, .done (.ok ()))
  | s, .setIsAnonymous isAnonymous => (s.setIsAnonymous isAnonymous, .done (.ok ()))
  | s, .setDhGroup group => (s.setDhGroup group, .done (.ok ()))
  | s, .processPkinitHint hintDer =>
      (call (PkinitClientState.processPkinitHint platform hintDer) s).map id .done
  | s, .handleTryagain errorPadataDer =>
      (call (PkinitClientState.handleTryagain platform errorPadataDer) s).map id .retry
  | s, .handleTryagainTypedData typedData =>
      (call (PkinitClientState.handleTryagainTypedData platform typedData) s).map id .retry
  | s, .buildAsReq instant input =>
      (call (PkinitClientState.buildAsReq platform instant input.nonce input.ctime input.cusec
        input.reqBodyDer) s).map id .request
  | s, .processAsRep instant o2k paRepDer params =>
      (call (PkinitClientState.processAsRep platform o2k instant paRepDer params) s).map id
        .replyKey

abbrev ClientEvent : Type :=
  Event PkinitClientState ClientCall ClientAnswer

variable {platform : Platform}

/-- The result of a request call. -/
def ClientAnswer.request? : ClientAnswer → Option Bytes
  | .request (.ok der) => some der
  | _ => none

/-- The most recent request that was built. -/
def latestRequest (history : List ClientEvent) : Option ClientEvent :=
  history.find? fun e => e.output.request?.isSome

theorem latestRequest_cons_of_none {e : ClientEvent} {history : List ClientEvent}
    (unbuilt : e.output.request? = none) :
    latestRequest (e :: history) = latestRequest history := by
  simp [latestRequest, unbuilt]

theorem latestRequest_cons_of_some {e : ClientEvent} {history : List ClientEvent} {request : Bytes}
    (built : e.output.request? = some request) : latestRequest (e :: history) = some e := by
  simp [latestRequest, built]

/-! ## What a request went out with -/

/-- The event built a request for a DH exchange with this key pair. -/
structure SentDhKey (platform : Platform) (e : ClientEvent) (key : DhKeyPair) : Prop where
  keyExchange : e.after.keyExchange = some (.dh key.group)
  sent : ∃ instant input request spkiDer dhNonce, e.input = .buildAsReq instant input ∧
    e.output = .request (.ok request) ∧ key.publicKeySpkiDer platform = .ok spkiDer ∧
    PkinitClientState.RequestCarries platform instant e.before input spkiDer (some dhNonce) false
      request

/-- The event built a request for a KEM exchange with this key pair. -/
structure SentKemKey (platform : Platform) (e : ClientEvent) (key : KemKeyPair) : Prop where
  keyExchange : e.after.keyExchange = some (.kem key.algorithm)
  sent : ∃ instant input request spkiDer, e.input = .buildAsReq instant input ∧
    e.output = .request (.ok request) ∧ key.publicKeySpkiDer platform = .ok spkiDer ∧
    PkinitClientState.RequestCarries platform instant e.before input spkiDer none true request

end Kurbu5Pkinit

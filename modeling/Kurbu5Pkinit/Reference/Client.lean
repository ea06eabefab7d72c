import Kurbu5Pkinit.Client.Calls
import Kurbu5Pkinit.Reference.Exchange

/-!
# A client of the recorded realm

An anonymous client that asks the realm's KDC for a ticket, on P-256 or, where
it is configured for one, with a KEM.
-/

set_option autoImplicit false

namespace Kurbu5Pkinit.Reference

open Library

def noIdentity : PkinitIdentity := ⟨[], none, []⟩

/-- P-256, and keys of its size accepted. -/
def clientConfig : PkinitClientConfig := { dhMinBits := 256, dhGroup := .ecP256 }

def anonymousClient : PkinitClientState :=
  .new noIdentity trustStore clientConfig

def requestInput : PkinitClientState.RequestInput where
  nonce := requestNonce
  ctime := 1800000000
  cusec := 0
  reqBodyDer := requestBody

def replyParams (reply : Bytes) : AsRepParams where
  nonce := requestNonce
  enctype := 18
  asReqDer := asReqDer
  paRepRaw := reply
  clientName := anonymousName
  serverName := kdcName

/-- The reply with the function the client lists first. -/
def agileDhReply : Bytes := dhReply (some ID_PKINIT_KDF_AH_SHA256)

/-- The client's request, and the calls around it. -/
def buildRequest : EStateM PkinitError PkinitClientState Bytes :=
  PkinitClientState.buildAsReq recorded clientInstant requestInput.nonce requestInput.ctime
    requestInput.cusec requestInput.reqBodyDer

def nameKdc : ClientCall := .setKdcIdentity kdcName none
def sendRequest : ClientCall := .buildAsReq clientInstant requestInput

/-- The client's reading of that reply, and the call for it. -/
def readReply : EStateM PkinitError PkinitClientState DerivedKey :=
  PkinitClientState.processAsRep recorded (krb5OctetString2Key recorded) clientInstant agileDhReply
    (replyParams agileDhReply)

def acceptReply : ClientCall :=
  .processAsRep clientInstant (krb5OctetString2Key recorded) agileDhReply (replyParams agileDhReply)

/-- The history of a client's calls, and where they led it. -/
def clientRun (start : PkinitClientState) (calls : List ClientCall) :
    List ClientEvent × PkinitClientState :=
  exec (clientMachine recorded) ([], start) calls

theorem run_clientRun (start : PkinitClientState) (calls : List ClientCall) :
    Run (clientMachine recorded) start (clientRun start calls).1 (clientRun start calls).2 :=
  run_exec _ _ _

/-- The anonymous client that knows whom it talks to, and then has asked. -/
def readyClient : PkinitClientState := (clientRun anonymousClient [nameKdc]).2
def waitingClient : PkinitClientState := (clientRun anonymousClient [nameKdc, sendRequest]).2

theorem history_of_answered :
    (clientRun anonymousClient [nameKdc, sendRequest, acceptReply]).1 =
      [(clientMachine recorded).event waitingClient acceptReply,
       (clientMachine recorded).event readyClient sendRequest,
       (clientMachine recorded).event anonymousClient nameKdc] := by
  simp only [clientRun, exec, waitingClient, readyClient]

/-! A KEM instead. -/

/-- Error data that offers ML-KEM-512 alone. -/
def offerKem : ClientCall :=
  .handleTryagainTypedData
    [(TD_DH_PARAMETERS, sequence (writeAlgorithmIdentifier ⟨ID_ML_KEM_512, none⟩))]

/-- Error data that offers P-256 alone. -/
def offerGroup : ClientCall :=
  .handleTryagainTypedData [(TD_DH_PARAMETERS, sequence (writeAlgorithmIdentifier
    ⟨ID_EC_PUBLIC_KEY, some (.objectIdentifier SECP256R1)⟩))]

/-- The client that asked with P-256, was offered a KEM, and asked again. -/
def retriedRun : List ClientEvent × PkinitClientState :=
  clientRun anonymousClient [nameKdc, sendRequest, offerKem, sendRequest]

/-- The key is derived from the reply by the client that asked once, and by the
one that asked again, for a KEM. -/
theorem readReply_answered :
    (call readReply waitingClient).2 = .ok ⟨18, dhReplyKey⟩ ∧
      (latestRequest retriedRun.1).map (fun e => e.after.keyExchange) =
        some (some (.kem .mlKem512)) ∧
      retriedRun.2.config.kemAlgorithm = some .mlKem512 ∧
      ((clientMachine recorded).event retriedRun.2 acceptReply).output =
        .replyKey (.ok ⟨18, dhReplyKey⟩) := by
  decide +kernel

/-- A client that requires a KEM, and settles for the weakest. -/
def kemClient : PkinitClientState :=
  .new noIdentity trustStore
    { clientConfig with requireKem := true, kemAlgorithm := some .mlKem512 }

end Kurbu5Pkinit.Reference

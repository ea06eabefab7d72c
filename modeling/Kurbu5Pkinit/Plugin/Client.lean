import Kurbu5Pkinit.Client.Exchange
import Kurbu5Pkinit.Plugin.Kdc
import Kurbu5Pkinit.Plugin.Profile
import Kurbu5Pkinit.TrustProto

/-!
# The client plugin

The module libkrb5 drives on the client: it reads the profile, loads the
identity of the principal a ticket is asked for, and turns each piece of
preauthentication data into calls of the core. One module object serves every
exchange of a login, an anonymous one for armor and a named one among them.

A PKCS#12 identity that needs a password is remembered, and loaded when
`process` next runs with the responder's answer.
-/

set_option autoImplicit false

namespace Kurbu5Pkinit

open Library

inductive Krb5Error where
  | custom (code : Int)
  | noHandle
  /-- A code of the library, passed on. -/
  | library (code : Int)
  deriving DecidableEq, Repr

/-! ## The broker client -/

/-- The transport to a broker, and the encodings of its messages. -/
structure Varlink where
  base64 : Base64Engine
  defaultSocketPath : Instant → String
  /-- Connect and call within the timeout. -/
  requestTrust : (socketPath : String) → (timeoutSecs : Nat) → Instant →
    (realm kdcPrincipal signerCert : String) → (presentedCerts : List String) →
    (interactive : Bool) → Except String TrustReply

/-- `VarlinkTrustBroker::request_trust`. -/
def varlinkTrustBroker (varlink : Varlink) (socketPath : String) (timeoutSecs : Nat) :
    KdcCaTrustBroker := fun instant req => do
  let reply ← (varlink.requestTrust socketPath timeoutSecs instant req.realm req.kdcPrincipal
    (varlink.base64.encode req.signerCertDer) (req.presentedCertsDer.map varlink.base64.encode)
    req.interactive).mapError .config
  match reply.decision with
  | .trusted =>
      let anchors ← reply.anchors.mapM fun a =>
        (varlink.base64.decode a).mapError fun e => .config s!"trust broker anchor b64: {e}"
      return .trusted anchors
  | .denied => return .denied (reply.reason.getD "denied")
  | .unknown => return .unknown

/-! ## The module -/

/-- An identity that waits for its password. -/
structure PendingPkcs12 where
  path : String
  trustStore : TrustStore
  serverPrincipal : Option String
  deriving DecidableEq, Repr

structure PkinitClient where
  state : Option PkinitClientState := none
  config : PkinitClientConfig := {}
  pendingPkcs12 : Option PendingPkcs12 := none

/-- What `init_etype_info` reads: the request's principals (either may be
missing), the library's realm and profile, and the responder. -/
structure EtypeInfoRequest where
  instant : Instant
  client : Option Principal
  server : Option Principal
  realm : Option String
  profile : Except Krb5Error Profile
  askResponderQuestion : String → String → Except Krb5Error Unit

/-- What `process` and `tryagain` read: the padata and the request, and the
callbacks. -/
structure ProcessRequest where
  instant : Instant
  paData : PaData
  nonce : Int32
  client : Option Principal
  server : Option Principal
  encodedRequestBody : Option Bytes
  encodedPreviousRequest : Option Bytes
  responderAnswer : String → Option Bytes
  etype : Int32
  preauthTime : Except Krb5Error (Int × Int32)
  setAsKey : DerivedKey → Except Krb5Error Unit

/-- The padata to send, and the key handed to the library. -/
structure ProcessReply where
  paData : List PaData := []
  asKey : Option DerivedKey := none
  deriving DecidableEq, Repr

def PKCS12_PASSWORD_QUESTION : String := "pkinit_pkcs12_password"

/-- Whether the principal of a request is the anonymous one; a missing one is
not. -/
def EtypeInfoRequest.isAnonymous (req : EtypeInfoRequest) : Bool :=
  match req.client with
  | some client => client.isAnonymous
  | none => false

/-- A state for an identity, with the KDC's name and, where the configuration
asks for trust on first use, a broker. -/
def buildClient (varlink : Varlink) (instant : Instant) (identity : PkinitIdentity)
    (trustStore : TrustStore) (config : PkinitClientConfig) (serverPrincipal : Option String)
    (isAnonymous : Bool) : PkinitClientState :=
  let client := PkinitClientState.new identity trustStore config
  let client := match serverPrincipal with
    | some principal => client.setKdcIdentity principal none
    | none => client
  let client := client.setIsAnonymous isAnonymous
  if config.kdcTrustTofu then
    let path := config.kdcTrustBroker.getD (varlink.defaultSocketPath instant)
    client.setTrustBroker (varlinkTrustBroker varlink path config.kdcTrustTimeout)
  else
    client

def loadAnchors (platform : Platform) (instant : Instant) (anchors : List String) :
    Except PkinitError TrustStore :=
  anchors.foldlM (TrustStore.loadFromPath platform instant) {}

namespace PkinitClient

variable (platform : Platform) (varlink : Varlink)

def holdsKeys (self : PkinitClient) : Bool :=
  match self.state with
  | some state => state.hasDhKey || state.hasKemKey
  | none => false

/-- `read_client_config` on the module's own configuration. -/
def readConfig (profile : Profile) (realm : Option String) : EStateM Krb5Error PkinitClient Unit :=
  do
  let self ← get
  let read := call (readClientConfig profile realm) self.config
  set { self with config := read.1 }
  lift (read.2.mapError fun _ => .custom EINVAL)

/-- The end of `init_etype_info` for a named principal: load the configured
identity, or ask for its password. -/
def loadIdentity (req : EtypeInfoRequest) (identityStr : String) (trustStore : TrustStore)
    (serverPrincipal : Option String) : EStateM Krb5Error PkinitClient Unit := do
  let source ← lift ((IdentitySource.parse identityStr).mapError fun _ => .custom EINVAL)
  match PkinitIdentity.load platform req.instant source with
  | .ok identity =>
      modify fun self => { self with
        state := some (buildClient varlink req.instant identity trustStore self.config
          serverPrincipal false)
        pendingPkcs12 := none }
  | .error .pkcs12PasswordRequired =>
      match source with
      | .pkcs12 path => do
          lift ((req.askResponderQuestion PKCS12_PASSWORD_QUESTION path).mapError
            fun _ => .custom EINVAL)
          modify fun self => { self with pendingPkcs12 := some ⟨path, trustStore, serverPrincipal⟩ }
      | _ => throw (.custom EINVAL)
  | .error _ => throw (.custom EINVAL)

/-- The rest of `init_etype_info`, under the configuration just read. -/
def initParty (req : EtypeInfoRequest) (config : PkinitClientConfig) :
    EStateM Krb5Error PkinitClient Unit := do
  let trustStore ← lift ((loadAnchors platform req.instant config.anchors).mapError
    fun _ => .custom EINVAL)
  let serverPrincipal := match req.server with
    | some server => (platform.krb5.unparsePrincipal server).toOption
    | none => none
  if req.isAnonymous then
    modify fun self => { self with
      state := some (buildClient varlink req.instant .anonymous trustStore config serverPrincipal
        true) }
  else
    match config.identity with
    | some identityStr => loadIdentity platform varlink req identityStr trustStore serverPrincipal
    | none => return ()

/-- Set up the party a ticket is asked for. A module that still holds an
ephemeral key is left as it is. -/
def initEtypeInfo (req : EtypeInfoRequest) : EStateM Krb5Error PkinitClient Unit := do
  let self ← get
  if self.holdsKeys then
    return ()
  let profile ← lift req.profile
  readConfig profile req.realm
  let self ← get
  if !req.isAnonymous && self.config.identity.isNone then
    return ()
  initParty platform varlink req self.config

/-- Load the identity that waits for a password, if one does. -/
def finishPendingPkcs12 (req : ProcessRequest) : EStateM Krb5Error PkinitClient Unit := do
  let self ← get
  match self.pendingPkcs12 with
  | none => return ()
  | some pending => do
      set { self with pendingPkcs12 := none }
      let password ← lift (okOr (req.responderAnswer PKCS12_PASSWORD_QUESTION) (.custom EINVAL))
      let identity ← lift ((PkinitIdentity.loadPkcs12 platform req.instant pending.path
        password).mapError fun _ => .custom EINVAL)
      set { self with
        pendingPkcs12 := none
        state := some (buildClient varlink req.instant identity pending.trustStore self.config
          pending.serverPrincipal false) }

/-- Call a method of the held state, which keeps what the method wrote. -/
def withState {α : Type} (method : EStateM PkinitError PkinitClientState α) :
    EStateM Krb5Error PkinitClient (Except PkinitError α) := do
  let self ← get
  let state ← lift (okOr self.state .noHandle)
  let result := call method state
  set { self with state := some result.1 }
  return result.2

def buildPaPkAsReq (req : ProcessRequest) : EStateM Krb5Error PkinitClient ProcessReply := do
  let (ctime, cusec) ← lift req.preauthTime
  let reqBodyDer ← lift (okOr req.encodedRequestBody (.custom EINVAL))
  let built ← withState (PkinitClientState.buildAsReq platform req.instant req.nonce ctime cusec
    reqBodyDer)
  let paReqDer ← lift (built.mapError fun _ => .custom EINVAL)
  return { paData := [⟨PA_PK_AS_REQ, paReqDer⟩] }

/-- A hint that does not parse is ignored, one with nothing acceptable ends
the attempt. -/
def heedHint (contents : Bytes) : EStateM Krb5Error PkinitClient Unit := do
  if contents.isEmpty then
    return ()
  let heeded ← withState (PkinitClientState.processPkinitHint platform contents)
  match heeded with
  | .ok () => return ()
  | .error (.asn1 _) => return ()
  | .error _ => throw (.custom EINVAL)

/-- The name of a principal of the request. -/
def principalName (principal : Option Principal) : Except Krb5Error String := do
  let principal ← okOr principal (.custom EINVAL)
  (platform.krb5.unparsePrincipal principal).mapError .library

def processReply (req : ProcessRequest) : EStateM Krb5Error PkinitClient ProcessReply := do
  lift (rejectIf (req.paData.contents = []) (.custom EINVAL))
  let clientName ← lift (principalName platform req.client)
  let serverName ← lift (principalName platform req.server)
  let derived ← withState (PkinitClientState.processAsRep platform (krb5OctetString2Key platform)
    req.instant req.paData.contents {
      nonce := req.nonce
      enctype := req.etype
      asReqDer := req.encodedPreviousRequest.getD []
      paRepRaw := req.paData.contents
      clientName := clientName
      serverName := serverName })
  let key ← lift (derived.mapError fun _ => .custom EINVAL)
  lift (req.setAsKey key)
  return { asKey := some key }

/-- `process`, once a pending identity is settled. -/
def dispatch (req : ProcessRequest) : EStateM Krb5Error PkinitClient ProcessReply := do
  let self ← get
  if req.paData.paType = PA_PKINIT_KX then
    return {}
  else if req.paData.paType = PA_AS_FRESHNESS then do
    set { self with state := self.state.map fun (state : PkinitClientState) =>
      state.setFreshnessToken req.paData.contents }
    return {}
  else if req.paData.paType = PA_PK_AS_REQ then do
    let _ ← lift (okOr self.state Krb5Error.noHandle)
    heedHint platform req.paData.contents
    buildPaPkAsReq platform req
  else if req.paData.paType = PA_PK_AS_REP then do
    let _ ← lift (okOr self.state Krb5Error.noHandle)
    processReply platform req
  else
    throw .noHandle

def process (req : ProcessRequest) : EStateM Krb5Error PkinitClient ProcessReply := do
  finishPendingPkcs12 platform varlink req
  dispatch platform req

/-- Retry after an error, with the key exchange its typed data selects. -/
def tryagain (req : ProcessRequest) (typedData : List (Int × Bytes)) :
    EStateM Krb5Error PkinitClient ProcessReply := do
  let action ← withState (PkinitClientState.handleTryagainTypedData platform typedData)
  match action with
  | .ok (.retryWithKemAlgorithm _) => buildPaPkAsReq platform req
  | .ok (.retryWithDhParams _) => buildPaPkAsReq platform req
  | .ok _ => throw .noHandle
  | .error _ => throw (.custom KRB5KDC_ERR_PREAUTH_FAILED)

/-- One `-X` option. -/
def supplyGicOpts (attr value : String) : EStateM Krb5Error PkinitClient Unit := do
  let self ← get
  if attr = "X509_user_identity" then do
    lift (rejectIf (self.config.identity.isSome = true) (.custom KRB5_PREAUTH_FAILED))
    set { self with config := { self.config with identity := some value } }
  else if attr = "X509_anchors" then
    set { self with config := { self.config with anchors := self.config.anchors ++ [value] } }
  else if attr = "disable_freshness" ∧ value.map Char.toLower ∈ ["yes", "true", "1"] then
    set { self with config := { self.config with disableFreshness := true } }
  else
    return ()

end PkinitClient

end Kurbu5Pkinit

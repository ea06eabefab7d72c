import Kurbu5Pkinit.Certauth
import Kurbu5Pkinit.Config
import Kurbu5Pkinit.Crypto.Cms
import Kurbu5Pkinit.Crypto.Dh
import Kurbu5Pkinit.Crypto.Kem
import Kurbu5Pkinit.Identity

/-!
# The client's state and policy

The state one client carries from its first attempt to its last retry: the
configuration it was built with, the key exchange currently selected, the
ephemeral keys of the attempts made so far. The hint and the typed data of an
error move the selection; `accepts` is the policy they must satisfy.

The selection, the keys and the record of the last attempt are separate
fields, written by different operations.
-/

set_option autoImplicit false

namespace Kurbu5Pkinit

open Library

/-! ## The trust broker -/

/-- The question put to a broker about the certificates a KDC presented. -/
structure KdcTrustRequest where
  realm : String
  kdcPrincipal : String
  signerCertDer : Bytes
  presentedCertsDer : List Bytes
  /-- Only an anonymous exchange may establish new trust. -/
  interactive : Bool
  deriving DecidableEq, Repr

inductive KdcTrustDecision where
  | trusted (anchors : List Bytes)
  | denied (reason : String)
  | unknown
  deriving DecidableEq, Repr

/-- A broker answers a question, at the moment it is asked, or fails. -/
abbrev KdcCaTrustBroker : Type :=
  Instant → KdcTrustRequest → Except PkinitError KdcTrustDecision

/-! ## The state -/

structure PkinitClientState where
  identity : PkinitIdentity
  trustStore : TrustStore
  config : PkinitClientConfig
  dhKey : Option DhKeyPair := none
  kemKey : Option KemKeyPair := none
  freshnessToken : Option Bytes := none
  dhNonce : Option Bytes := none
  kdcPrincipal : Option String := none
  kdcHostname : Option String := none
  /-- The key exchange of the most recent request. -/
  keyExchange : Option KeyExchangeType := none
  broker : Option KdcCaTrustBroker := none
  isAnonymous : Bool := false
  /-- The configured minimum, fixed at construction; the configuration's own
  `kemAlgorithm` is the current selection and moves. -/
  kemFloor : Option KemAlgorithm

/-- A key exchange the KDC offered and the client implements. -/
inductive Offered where
  | kem (algorithm : KemAlgorithm)
  | dh (group : DhGroup)
  deriving DecidableEq, Repr

def Offered.ofKeyExchange : KeyExchangeType → Offered
  | .kem alg => .kem alg
  | .dh group => .dh group

inductive RetryAction where
  | retryWithDhParams (group : DhGroup)
  | retryWithKemAlgorithm (algorithm : KemAlgorithm)
  | retryWithCerts
  | noRetry
  deriving DecidableEq, Repr

/-- With `requireKem` and no KEM configured, ML-KEM-768 is. -/
def PkinitClientConfig.withImplicitKem (config : PkinitClientConfig) : PkinitClientConfig :=
  if config.requireKem ∧ config.kemAlgorithm = none then
    { config with kemAlgorithm := some .mlKem768 }
  else
    config

/-! ## Approved anchors -/

def anchorVc (platform : Platform) (what : String) (der : Bytes) :
    Except PkinitError VerificationCertificate := do
  let cert ← (platform.synta.certificate.fromDer der).mapError
    fun e => .kdcCaTrustDenied s!"bad {what} DER: {e}"
  return ⟨cert, der⟩

/-- The signer's chain must validate to the anchors a broker approved, under
the default rules for a CA. -/
def validateBrokerAnchors (platform : Platform) (instant : Instant) (anchors : List Bytes)
    (signerCertDer : Bytes) (allCertsDer : List Bytes) : Except PkinitError Unit := do
  let _ ← anchors.mapM (anchorVc platform "anchor")
  let intermediates ← allCertsDer.mapM (anchorVc platform "presented certificate")
  let leaf ← anchorVc platform "KDC signer certificate" signerCertDer
  let policy := PolicyDefinition.newClient instant.now .defaultWebPkiCa
  (platform.x509.verify leaf intermediates policy anchors { crls := none }).mapError
    fun e => .kdcCaTrustDenied s!"broker-approved anchor failed validation: {e}"

/-! ## The lists of the KDC -/

def parseTdOffered (platform : Platform) (data : Bytes) :
    Except PkinitError (List OfferedAlgorithm) := do
  let td ← (platform.synta.tdDhParameters.fromDer data).mapError
    (asn1Err "decode TD-EPHEMERAL-KEY-PARAMETERS-DATA")
  td.mapM fun elem => do
    let elemDer ← (platform.synta.element.toDer elem).mapError
      (asn1Err "encode AlgorithmIdentifier")
    let algId ← (platform.synta.algorithmIdentifier.fromDer elemDer).mapError
      (asn1Err "decode AlgorithmIdentifier")
    offeredAlgorithm platform.synta algId

namespace PkinitClientState

def new (identity : PkinitIdentity) (trustStore : TrustStore) (config : PkinitClientConfig) :
    PkinitClientState where
  identity := identity
  trustStore := trustStore
  config := config.withImplicitKem
  kemFloor := config.withImplicitKem.kemAlgorithm

def hasDhKey (state : PkinitClientState) : Bool :=
  state.dhKey.isSome

def hasKemKey (state : PkinitClientState) : Bool :=
  state.kemKey.isSome

def hasPqCertificate (platform : Platform) (state : PkinitClientState) : Bool :=
  !state.identity.certDer.isEmpty && isPqSigningCertificate platform state.identity.certDer

def setFreshnessToken (state : PkinitClientState) (token : Bytes) : PkinitClientState :=
  { state with freshnessToken := some token }

def setKdcIdentity (state : PkinitClientState) (principal : String) (hostname : Option String) :
    PkinitClientState :=
  { state with kdcPrincipal := some principal, kdcHostname := hostname }

def setTrustBroker (state : PkinitClientState) (broker : KdcCaTrustBroker) : PkinitClientState :=
  { state with broker := some broker }

def setIsAnonymous (state : PkinitClientState) (isAnonymous : Bool) : PkinitClientState :=
  { state with isAnonymous := isAnonymous }

/-! ## The KDC's chain -/

/-- The question for the broker: asked when a broker is installed and the
KDC's principal is known and has a realm. -/
def kdcTrustRequest (state : PkinitClientState) (signerCertDer : Bytes)
    (allCertsDer : List Bytes) : Option (KdcCaTrustBroker × KdcTrustRequest) := do
  let broker ← state.broker
  let kdcPrincipal ← state.kdcPrincipal
  let realm ← (split '@' kdcPrincipal)[1]?
  return (broker, {
    realm := realm
    kdcPrincipal := kdcPrincipal
    signerCertDer := signerCertDer
    presentedCertsDer := allCertsDer
    interactive := state.isAnonymous })

/-- The first half of `validate_kdc_chain`: the configured anchors, or else
the anchors of the broker. -/
def validateKdcAnchors (platform : Platform) (instant : Instant) (state : PkinitClientState)
    (signerCertDer : Bytes) (allCertsDer : List Bytes) : Except PkinitError Unit :=
  match state.trustStore.validateChain platform instant signerCertDer allCertsDer false with
  | .ok () => .ok ()
  | .error configuredErr =>
      match state.kdcTrustRequest signerCertDer allCertsDer with
      | none => .error configuredErr
      | some (broker, req) => do
          match ← broker instant req with
          | .trusted anchors =>
              validateBrokerAnchors platform instant anchors signerCertDer allCertsDer
          | .denied reason => throw (.kdcCaTrustDenied reason)
          | .unknown => throw .kdcCaTrustUnknown

/-- The second half: purpose and name, whichever anchors validated. -/
def validateKdcNames (platform : Platform) (state : PkinitClientState) (signerCertDer : Bytes) :
    Except PkinitError Unit := do
  verifyKdcEku platform signerCertDer
  match state.kdcPrincipal with
  | some kdcPrincipal => verifyKdcSan platform signerCertDer kdcPrincipal state.kdcHostname
  | none => return ()

def validateKdcChain (platform : Platform) (instant : Instant) (state : PkinitClientState)
    (signerCertDer : Bytes) (allCertsDer : List Bytes) : Except PkinitError Unit := do
  state.validateKdcAnchors platform instant signerCertDer allCertsDer
  state.validateKdcNames platform signerCertDer

/-! ## Selecting a key exchange -/

def setDhGroup (state : PkinitClientState) (group : DhGroup) : PkinitClientState :=
  { state with
    config := { state.config with dhGroup := group, kemAlgorithm := none }
    dhKey := none
    kemKey := none
    keyExchange := none }

/-- A DH key pair of an earlier attempt is kept. -/
def setKemAlgorithm (state : PkinitClientState) (kemAlg : KemAlgorithm) : PkinitClientState :=
  { state with
    config := { state.config with kemAlgorithm := some kemAlg }
    kemKey := none
    keyExchange := none }

def recognize (platform : Platform) (state : PkinitClientState) (offer : OfferedAlgorithm) :
    Option Offered :=
  match KemAlgorithm.fromOid offer.1 with
  | some kemAlg => some (.kem kemAlg)
  | none =>
      (groupFromAlgorithmIdentifier platform offer.1 offer.2 state.config.dhMinBits).map .dh

/-- Whether classic DH/ECDH is acceptable: never with `requireKem`, nor for a
post-quantum client that has a floor or has sent a KEM key. -/
def dhAllowed (platform : Platform) (state : PkinitClientState) : Bool :=
  !state.config.requireKem &&
    !(state.hasPqCertificate platform &&
      (state.kemFloor.isSome ||
        match state.keyExchange with
        | some (.kem _) => true
        | _ => false))

def accepts (platform : Platform) (state : PkinitClientState) : Offered → Bool
  | .kem alg =>
      match state.kemFloor with
      | some floor => floor.strengthOrder ≤ alg.strengthOrder
      | none => true
  | .dh _ => state.dhAllowed platform

def apply (state : PkinitClientState) : Offered → PkinitClientState
  | .kem alg => state.setKemAlgorithm alg
  | .dh group => state.setDhGroup group

/-- Whether the selected KEM is among the offers and acceptable. -/
def keepsKem (platform : Platform) (state : PkinitClientState) (offers : List Offered) : Bool :=
  match state.config.kemAlgorithm with
  | some current => offers.contains (.kem current) && state.accepts platform (.kem current)
  | none => false

def processPkinitHint (platform : Platform) (hintDer : Bytes) :
    EStateM PkinitError PkinitClientState Unit := do
  let state ← get
  let advertised ← lift (parsePkinitHint platform.synta platform.usizeBits hintDer)
  let offers := advertised.filterMap (state.recognize platform)
  if advertised.isEmpty || state.keepsKem platform offers then
    return ()
  match offers.find? (state.accepts platform) with
  | some offered => set (state.apply offered)
  | none => throw (.noAcceptableKeyExchange
      "the KDC advertised no key-establishment algorithm acceptable to the client")

/-! ## Retrying after an error -/

/-- Select a key exchange from the KDC's typed data, other than the one just
sent. -/
def retryWithOffers (platform : Platform) (value : Bytes) :
    EStateM PkinitError PkinitClientState RetryAction := do
  let state ← get
  let advertised ← lift (parseTdOffered platform value)
  let sent := state.keyExchange.map Offered.ofKeyExchange
  let offers := (advertised.filterMap (state.recognize platform)).filter
    fun offered => some offered ≠ sent
  match offers.find? (state.accepts platform) with
  | some offered =>
      set (state.apply offered)
      match offered with
      | .kem alg => return .retryWithKemAlgorithm alg
      | .dh group => return .retryWithDhParams group
  | none =>
      let offersDh := offers.any fun
        | .dh _ => true
        | .kem _ => false
      if offersDh then
        throw (.downgradeRejected (if state.config.requireKem then
          "KDC offered only classic DH/ECDH; pkinit_require_kem is set"
        else
          "client is committed to a post-quantum KEM; refusing to fall back to classical DH/ECDH"))
      else
        throw (.noAcceptableKeyExchange
          "the KDC offered no key-establishment algorithm acceptable to the client")

/-- The first entry of a known type decides. -/
def handleTryagainTypedData (platform : Platform) :
    List (Int × Bytes) → EStateM PkinitError PkinitClientState RetryAction
  | [] => return .noRetry
  | (paType, value) :: rest =>
      if paType = TD_DH_PARAMETERS then
        retryWithOffers platform value
      else if paType = TD_TRUSTED_CERTIFIERS ∨ paType = TD_PKINIT_CMS_CERTIFICATES then
        return .retryWithCerts
      else
        handleTryagainTypedData platform rest

def handleTryagain (platform : Platform) (errorPadataDer : Bytes) :
    EStateM PkinitError PkinitClientState RetryAction := do
  let padataList ← lift ((platform.synta.methodData.fromDer errorPadataDer).mapError
    (asn1Err "decode error padata"))
  handleTryagainTypedData platform (padataList.map fun pa => (pa.paType, pa.contents))

end PkinitClientState

end Kurbu5Pkinit

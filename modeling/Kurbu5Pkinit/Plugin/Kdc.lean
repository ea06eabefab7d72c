import Kurbu5Pkinit.Server

/-!
# The KDC plugin's verify callback

The krb5 KDC hands the plugin a piece of preauthentication data together with
callbacks into the request being answered. The plugin verifies the data with
the core, then binds the result to the principal a ticket is asked for.
-/

set_option autoImplicit false

namespace Kurbu5Pkinit

open Library

/-- Whether a principal is `WELLKNOWN/ANONYMOUS`, in any realm. -/
def Principal.isAnonymous (p : Principal) : Bool :=
  p.components = [asciiBytes "WELLKNOWN", asciiBytes "ANONYMOUS"]

/-- What the KDC's callbacks answer about the request at hand. The encoded
request body and the KDC's judgement of a freshness token are among them,
though no code of the plugin asks for either. -/
structure KdcpreauthCallbacks where
  maxTimeSkew : Int
  clientNamePrincipal : Option Principal
  requestBody : Bytes
  checkFreshnessToken : Bytes → Bool

/-- The plugin's answer: accepted, with the verified request it keeps and the
authentication indicators it asserted, or a code with typed data. -/
inductive VerifyResponse where
  | accepted (verified : VerifiedRequest) (indicators : List String)
  | err (code : Int)
  | errWithEdata (code : Int) (edata : List PaData)
  deriving DecidableEq, Repr

structure PkinitKdc where
  state : PkinitKdcState
  config : PkinitKdcConfig
  deriving DecidableEq, Repr

namespace PkinitKdc

/-- The end of `init_module`: the module for a loaded identity, trust store
and configuration. -/
def new (platform : Platform) (identity : PkinitIdentity) (trustStore : TrustStore)
    (config : PkinitKdcConfig) : Except PkinitError PkinitKdc := do
  let state ← PkinitKdcState.new platform identity trustStore config
  return ⟨state, config⟩

/-- The code, if any, a verified request is refused with for its principal. -/
def authorizeClient (platform : Platform) (kdc : PkinitKdc) (verified : VerifiedRequest)
    (callbacks : KdcpreauthCallbacks) : Except Int Unit := do
  let client ← okOr callbacks.clientNamePrincipal KRB5KDC_ERR_PREAUTH_FAILED
  if verified.isAnonymous then
    rejectIf (client.isAnonymous = false) KRB5KDC_ERR_PREAUTH_FAILED
  else
    let clientName ← (platform.krb5.unparsePrincipal client).mapError
      fun _ => KRB5KDC_ERR_PREAUTH_FAILED
    let result ← (verifyClientSan platform verified.clientCertDer clientName
      kdc.config.allowUpn).mapError fun _ => KRB5KDC_ERR_CLIENT_NAME_MISMATCH
    rejectIf (result ≠ .authorized) KRB5KDC_ERR_CLIENT_NAME_MISMATCH

def errorResponse (kdc : PkinitKdc) (err : PkinitError) : VerifyResponse :=
  match err.kemErrorClass with
  | .ephemeralKeyParamsNotAccepted =>
      .errWithEdata KRB5KDC_ERR_EPHEMERAL_KEY_PARAMS_NOT_ACCEPTED
        [⟨TD_DH_PARAMETERS, kdc.state.tdEphemeralKeyParams⟩]
  | .noAcceptableKdf => .err KRB5KDC_ERR_NO_ACCEPTABLE_KDF
  | .preauthFailed => .err KRB5KDC_ERR_PREAUTH_FAILED
  | .invalidSignature => .err KRB5KDC_ERR_INVALID_SIG
  | .clientNotTrusted => .err KRB5KDC_ERR_CLIENT_NOT_TRUSTED
  | .inconsistentKeyPurpose => .err KRB5KDC_ERR_INCONSISTENT_KEY_PURPOSE
  | .other => .err EINVAL

def verify (platform : Platform) (instant : Instant) (kdc : PkinitKdc) (paData : PaData)
    (callbacks : KdcpreauthCallbacks) : VerifyResponse :=
  if paData.contents.isEmpty then
    .err EINVAL
  else
    -- No request body is passed to the core.
    match kdc.state.verifyAsReq platform instant paData.contents none callbacks.maxTimeSkew
        instant.now with
    | .error e => kdc.errorResponse e
    | .ok verified =>
        match kdc.authorizeClient platform verified callbacks with
        | .error code => .err code
        | .ok () =>
            .accepted verified (if verified.isAnonymous then [] else kdc.config.authIndicators)

/-- Whether the callback accepted. -/
def Accepts (platform : Platform) (instant : Instant) (kdc : PkinitKdc) (paData : PaData)
    (callbacks : KdcpreauthCallbacks) : Prop :=
  ∃ verified indicators, kdc.verify platform instant paData callbacks =
    .accepted verified indicators

end PkinitKdc

end Kurbu5Pkinit

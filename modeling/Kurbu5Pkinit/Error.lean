import Kurbu5Pkinit.Asn1

/-!
# Failures

Every failure of the core carries the text the source gives it. The KDC maps
a failure to the code it answers with through its class.

`panicked` is not a variant of the source's type: it marks a call that
panicked, and so returned neither a value nor an error.
-/

set_option autoImplicit false

namespace Kurbu5Pkinit

inductive PkinitError where
  | cmsSignFailed (reason : String)
  | cmsVerifyFailed (reason : String)
  | cmsContentTypeMismatch (expected actual : String)
  | dhParamsRejected (reason : String)
  | dhAgreementFailed (reason : String)
  | kdfFailed (reason : String)
  | sanMismatch (reason : String)
  | ekuMismatch (reason : String)
  | identityLoadFailed (reason : String)
  | pkcs12PasswordRequired
  | chainValidationFailed (reason : String)
  | kdcCaTrustDenied (reason : String)
  | kdcCaTrustUnknown
  | clockSkew (clientTime maxSkew : Int)
  | checksumFailed
  | nonceMismatch (expected actual : Int32)
  | noSupportedKdf
  | asn1 (reason : String)
  | ossl (reason : String)
  | config (reason : String)
  | kemEncapFailed (reason : String)
  | kemDecapFailed (reason : String)
  | kemAlgorithmMismatch (expected actual : String)
  | kemCiphertextLengthInvalid (expected actual : Nat)
  | kemAlgorithmNotSupported (reason : String)
  | noAcceptableKdf
  | kdfNotOffered (reason : String)
  | noAcceptableKeyExchange (reason : String)
  | kemNonceNotAllowed
  | downgradeRejected (reason : String)
  | unsupported (reason : String)
  | panicked (reason : String)
  deriving DecidableEq, Repr

/-- A failure of the ASN.1 library, under a short context. -/
def asn1Err (context : String) (failure : String) : PkinitError :=
  .asn1 (context ++ ": " ++ failure)

/-- The answers the KDC distinguishes. -/
inductive KemErrorClass where
  | ephemeralKeyParamsNotAccepted
  | noAcceptableKdf
  | preauthFailed
  | invalidSignature
  | clientNotTrusted
  | inconsistentKeyPurpose
  | other
  deriving DecidableEq, Repr

def PkinitError.kemErrorClass : PkinitError → KemErrorClass
  | kemAlgorithmNotSupported _ | dhParamsRejected _ => .ephemeralKeyParamsNotAccepted
  | noAcceptableKdf | noSupportedKdf => .noAcceptableKdf
  | kemNonceNotAllowed => .preauthFailed
  | cmsVerifyFailed _ => .invalidSignature
  | chainValidationFailed _ => .clientNotTrusted
  | ekuMismatch _ => .inconsistentKeyPurpose
  | _ => .other

end Kurbu5Pkinit

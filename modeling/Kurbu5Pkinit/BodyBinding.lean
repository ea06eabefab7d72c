import Kurbu5Pkinit.Plugin.KdcSoundness
import Kurbu5Pkinit.Reference.Kdc

/-!
# Binding a request to its body

The core compares a request body it is given with the digests the signed part
of the request carries. Every digest that is present must be right. A request
that carries none is compared with nothing, and is bound to no body.
-/

set_option autoImplicit false

namespace Kurbu5Pkinit

open Library

variable {platform : Platform} {body : Bytes} {pkAuth : PkAuthenticator}

/-! ## The comparison -/

/-- `paChecksum` is the digest of the body that its length tells. -/
def IsBodyChecksum (platform : Platform) (body checksum : Bytes) : Prop :=
  (checksum.length = 32 ∧ platform.crypto.hashData "sha256" body = .ok checksum) ∨
    (checksum.length = 20 ∧ platform.crypto.hashData "sha1" body = .ok checksum)

/-- `paChecksum2` is the digest of the body under an algorithm it names. -/
def IsBodyChecksum2 (platform : Platform) (body : Bytes) (checksum2 : PaChecksum2) : Prop :=
  ∃ alg, platform.crypto.digestOidToName checksum2.algorithmIdentifier.algorithm = some alg ∧
    platform.crypto.hashData alg body = .ok checksum2.checksum

/-- Either checksum is present. -/
def CarriesChecksum (pkAuth : PkAuthenticator) : Prop :=
  pkAuth.paChecksum ≠ none ∨ pkAuth.paChecksum2 ≠ none

/-- The authenticator binds a request to the body: it carries a checksum, and
what it carries is right. A checksum of another length, or under an unknown
algorithm, is not. -/
structure BindsBody (platform : Platform) (body : Bytes) (pkAuth : PkAuthenticator) : Prop where
  carries : CarriesChecksum pkAuth
  paChecksum : ∀ checksum, pkAuth.paChecksum = some checksum →
    IsBodyChecksum platform body checksum
  paChecksum2 : ∀ checksum2, pkAuth.paChecksum2 = some checksum2 →
    IsBodyChecksum2 platform body checksum2

theorem verifyChecksum2_sound {checksum2 : PaChecksum2}
    (compared : verifyChecksum2 platform body checksum2.checksum
      checksum2.algorithmIdentifier.algorithm = .ok ()) :
    IsBodyChecksum2 platform body checksum2 := by
  simp only [verifyChecksum2, hashForAlgorithm, bind_eq_ok, okOr_eq_ok, mapError_eq_ok,
    rejectIf_eq_ok, not_not] at compared
  obtain ⟨alg, named, _, hashed, rfl⟩ := compared
  exact ⟨alg, named, hashed⟩

theorem verifyChecksums_sound {checksum : Bytes} {checksum2 : Option (Bytes × Oid)}
    (compared : verifyChecksums platform body checksum checksum2 = .ok ()) :
    IsBodyChecksum platform body checksum ∧
      ∀ bytes oid, checksum2 = some (bytes, oid) →
        verifyChecksum2 platform body bytes oid = .ok () := by
  simp only [verifyChecksums, generateChecksums, bind_eq_ok, mapError_eq_ok, pure_eq_ok,
    Except.ok.injEq] at compared
  obtain ⟨_, ⟨sha1, hashed1, sha256, hashed256, rfl⟩, compared⟩ := compared
  split at compared
  · next long =>
      simp only [bind_eq_ok, rejectIf_eq_ok, not_not] at compared
      obtain ⟨_, rfl, rest⟩ := compared
      refine ⟨.inl ⟨long, hashed256⟩, ?_⟩
      rintro bytes oid rfl
      exact rest
  · next short =>
      simp only [bind_eq_ok, rejectIf_eq_ok, not_not] at compared
      obtain ⟨_, rfl, rest⟩ := compared
      refine ⟨.inr ⟨short, hashed1⟩, ?_⟩
      rintro bytes oid rfl
      exact rest
  · cases compared

/-- **What a compared request carries is right.** -/
theorem checkRequestBody_sound (checked : checkRequestBody platform (some body) pkAuth = .ok ()) :
    (∀ checksum, pkAuth.paChecksum = some checksum → IsBodyChecksum platform body checksum) ∧
      ∀ checksum2, pkAuth.paChecksum2 = some checksum2 →
        IsBodyChecksum2 platform body checksum2 := by
  unfold checkRequestBody at checked
  cases first : pkAuth.paChecksum with
  | some checksum =>
      rw [first] at checked
      obtain ⟨right, then2⟩ := verifyChecksums_sound checked
      refine ⟨?_, fun checksum2 second => ?_⟩
      · rintro _ ⟨⟩
        exact right
      · exact verifyChecksum2_sound (then2 _ _ (by rw [second]; rfl))
  | none =>
      refine ⟨nofun, fun checksum2 second => ?_⟩
      rw [first, second] at checked
      exact verifyChecksum2_sound checked

/-- Without a checksum nothing is compared. -/
theorem checkRequestBody_of_not_carriesChecksum (bare : ¬CarriesChecksum pkAuth)
    (reqBodyDer : Option Bytes) : checkRequestBody platform reqBodyDer pkAuth = .ok () := by
  simp only [CarriesChecksum, not_or, not_not] at bare
  unfold checkRequestBody
  rw [bare.1, bare.2]
  cases reqBodyDer <;> rfl

/-- **An accepted request is bound to the body it was given exactly when it
carries a checksum.** Without one it is accepted with every body. -/
theorem body_bound_iff_carriesChecksum {instant : Instant} {state : PkinitKdcState}
    {paReqDer : Bytes} {maxSkew currentTime : Int} {verified : VerifiedRequest}
    {authPack : AuthPack} {cert : Bytes} {isAnonymous : Bool}
    (verifies : state.verifyAsReq platform instant paReqDer (some body) maxSkew currentTime =
      .ok verified)
    (opens : Opens platform instant state paReqDer authPack cert isAnonymous) :
    (BindsBody platform body authPack.pkAuthenticator ↔
        CarriesChecksum authPack.pkAuthenticator) ∧
      (¬CarriesChecksum authPack.pkAuthenticator → ∀ reqBodyDer,
        state.verifyAsReq platform instant paReqDer reqBodyDer maxSkew currentTime =
          .ok verified) := by
  obtain ⟨_, _, _, opensToo, passes⟩ := verifyAsReq_eq_ok.mp verifies
  obtain ⟨rfl, rfl, rfl⟩ := opens.unique opensToo
  obtain ⟨right, right2⟩ := checkRequestBody_sound passes.body
  refine ⟨⟨BindsBody.carries, fun carries => ⟨carries, right, right2⟩⟩, ?_⟩
  intro bare reqBodyDer
  exact verifyAsReq_eq_ok.mpr ⟨_, _, _, opens,
    { passes with body := checkRequestBody_of_not_carriesChecksum bare reqBodyDer }⟩

namespace Reference

/-- An anonymous request on P-256 with these checksums. -/
def checksumAuthPack (paChecksum : Option Bytes) (paChecksum2 : Option PaChecksum2) : AuthPack :=
  { dhAuthPack firstToken with pkAuthenticator :=
      { (dhAuthPack firstToken).pkAuthenticator with
        paChecksum := paChecksum
        paChecksum2 := paChecksum2 } }

def checksumEnvelope (paChecksum : Option Bytes) (paChecksum2 : Option PaChecksum2) : Bytes :=
  writeContentInfo ⟨ID_SIGNED_DATA, explicitly 0 (writeSignedData {
    version := 3
    digestAlgorithms := []
    encapContentInfo :=
      ⟨ID_PKINIT_AUTH_DATA, some (writeAuthPack (checksumAuthPack paChecksum paChecksum2))⟩
    certificates := none
    signerInfos := [] })⟩

def checksumRequest (paChecksum : Option Bytes) (paChecksum2 : Option PaChecksum2) : Bytes :=
  writePaPkAsReq { signedAuthPack := checksumEnvelope paChecksum paChecksum2 }

def verifiedAnonymously : VerifiedRequest :=
  { verifiedRequest with clientCertDer := [], isAnonymous := true }

set_option maxRecDepth 16384 in
theorem opens_bareRequest : Opens recorded kdcInstant smallGroupKdc (checksumRequest none none)
    (checksumAuthPack none none) [] true :=
  ⟨{ signedAuthPack := checksumEnvelope none none }, writeAuthPack (checksumAuthPack none none),
    by decide, by decide, by decide⟩

set_option maxRecDepth 16384 in
theorem verifies_bareRequest :
    smallGroupKdc.verifyAsReq recorded kdcInstant (checksumRequest none none) (some requestBody)
      300 1800000000 = .ok verifiedAnonymously := by
  decide

set_option maxRecDepth 16384 in
theorem opens_sha1Request :
    Opens recorded kdcInstant smallGroupKdc (checksumRequest (some requestBodySha1) none)
      (checksumAuthPack (some requestBodySha1) none) [] true :=
  ⟨{ signedAuthPack := checksumEnvelope (some requestBodySha1) none },
    writeAuthPack (checksumAuthPack (some requestBodySha1) none), by decide,
    by decide, by decide⟩

set_option maxRecDepth 16384 in
theorem verifies_sha1Request :
    smallGroupKdc.verifyAsReq recorded kdcInstant (checksumRequest (some requestBodySha1) none)
      (some requestBody) 300 1800000000 = .ok verifiedAnonymously := by
  decide

end Reference

/-- A request with the SHA-1 digest alone is bound to the body. -/
theorem body_bound_iff_sha1Request :
    BindsBody Reference.recorded Reference.requestBody
      (Reference.checksumAuthPack (some Reference.requestBodySha1) none).pkAuthenticator :=
  (body_bound_iff_carriesChecksum Reference.verifies_sha1Request
    Reference.opens_sha1Request).1.mpr (.inl (Option.some_ne_none _))

/-- A request without checksums is accepted with a body it says nothing about,
and with another one. -/
theorem unbound_request_accepted :
    Opens Reference.recorded Reference.kdcInstant Reference.smallGroupKdc
        (Reference.checksumRequest none none) (Reference.checksumAuthPack none none) [] true ∧
      Reference.smallGroupKdc.verifyAsReq Reference.recorded Reference.kdcInstant
        (Reference.checksumRequest none none) (some Reference.requestBody) 300 1800000000 =
          .ok Reference.verifiedAnonymously ∧
      Reference.smallGroupKdc.verifyAsReq Reference.recorded Reference.kdcInstant
        (Reference.checksumRequest none none) (some Reference.otherBody) 300 1800000000 =
          .ok Reference.verifiedAnonymously ∧
      ¬BindsBody Reference.recorded Reference.requestBody
        (Reference.checksumAuthPack none none).pkAuthenticator := by
  refine ⟨Reference.opens_bareRequest, Reference.verifies_bareRequest, by decide +kernel, ?_⟩
  intro binds
  rcases binds.carries with present | present
  · exact present rfl
  · exact present rfl

end Kurbu5Pkinit

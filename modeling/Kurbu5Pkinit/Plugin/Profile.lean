import Kurbu5Pkinit.Config
import Kurbu5Pkinit.Library.Fallible

/-!
# Reading the profile

The relations of `krb5.conf` that configure PKINIT. A value under the realm's
stanza takes precedence over the defaults section, and a relation absent from
both leaves the caller's value alone. Reading writes into the configuration as
it goes: a value that cannot be used stops it halfway.
-/

set_option autoImplicit false

namespace Kurbu5Pkinit

open Library

/-- The profile library's getters, on one profile. -/
structure Profile where
  getStringOpt : String → String → Option String → Except Int (Option String)
  getValues : List String → Except Int (List String)
  getBoolean : String → String → Option String → Bool → Except Int Bool
  getInteger : String → String → Option String → Int32 → Except Int Int32

structure Lookup where
  profile : Profile
  defaults : String
  realm : Option String

namespace Lookup

/-- The realm's value of a relation, when the realm sets it. -/
def realmString (lookup : Lookup) (key : String) : Option String :=
  match lookup.realm with
  | none => none
  | some realm =>
      match lookup.profile.getStringOpt "realms" realm (some key) with
      | .ok value => value
      | .error _ => none

def string (lookup : Lookup) (key : String) : Option String :=
  match lookup.realmString key with
  | some value => some value
  | none => ((lookup.profile.getStringOpt lookup.defaults key none).toOption).join

def realmValues (lookup : Lookup) (key : String) : List String :=
  match lookup.realm with
  | none => []
  | some realm => ((lookup.profile.getValues ["realms", realm, key]).toOption).getD []

def values (lookup : Lookup) (key : String) : Option (List String) :=
  match lookup.realmValues key with
  | [] => ((lookup.profile.getValues [lookup.defaults, key]).toOption).filter fun v => !v.isEmpty
  | value :: rest => some (value :: rest)

/-- The defaults section's value is the realm's default. -/
def boolean (lookup : Lookup) (key : String) (current : Bool) : Bool :=
  let v := ((lookup.profile.getBoolean lookup.defaults key none current).toOption).getD current
  match lookup.realm with
  | some realm => ((lookup.profile.getBoolean "realms" realm (some key) v).toOption).getD v
  | none => v

def integer (lookup : Lookup) (key : String) (current : Int32) : Int32 :=
  let v := ((lookup.profile.getInteger lookup.defaults key none current).toOption).getD current
  match lookup.realm with
  | some realm => ((lookup.profile.getInteger "realms" realm (some key) v).toOption).getD v
  | none => v

end Lookup

/-! ## The client's relations -/

/-- A relation whose value cannot be used. -/
structure ConfigError where
  text : String
  deriving DecidableEq, Repr

def KEM_NAMES : String :=
  "ML-KEM-512, ML-KEM-768, ML-KEM-1024, ML-KEM-768-X25519, " ++
    "ML-KEM-768-ECDH-P256, ML-KEM-1024-ECDH-P384"

def parseKemAlgorithm (key value : String) : Except ConfigError KemAlgorithm :=
  okOr (KemAlgorithm.fromName value)
    ⟨s!"{key}: unknown KEM algorithm {value.quote} (expected one of {KEM_NAMES})"⟩

/-- The configuration with its three purposes set from `pkinit_eku_checking`;
an unknown value changes nothing. -/
def PkinitClientConfig.applyEkuChecking (config : PkinitClientConfig) (value : String) :
    PkinitClientConfig :=
  match value with
  | "kpClientAuth" => { config with requireEku := true, acceptSecondaryEku := false }
  | "scLogin" => { config with requireEku := true, acceptSecondaryEku := true }
  | "none" => { config with requireEku := false, acceptSecondaryEku := false }
  | _ => config

def dhGroupFromMinBits (minBits : Nat) : DhGroup :=
  if minBits ≤ 256 then
    .ecP256
  else if minBits ≤ 2048 then
    .oakley2048
  else
    .oakley4096

/-- `x as i32` on a `u32`, and back. -/
def asI32 (x : Nat) : Int32 :=
  (UInt32.ofNat x).toInt32

def asU32 (x : Int32) : Nat :=
  x.toUInt32.toNat

/-- An identity or anchors set by the caller win over the profile's. -/
def PkinitClientConfig.readSources (config : PkinitClientConfig) (lookup : Lookup) :
    PkinitClientConfig :=
  { config with
    identity := config.identity.or (lookup.string "pkinit_identities")
    anchors :=
      if config.anchors = [] then (lookup.values "pkinit_anchors").getD [] else config.anchors
    intermediates := (lookup.values "pkinit_pool").getD config.intermediates
    crls := (lookup.values "pkinit_revoke").getD config.crls }

/-- The relations read before the first that may be unusable. -/
def PkinitClientConfig.readChecks (config : PkinitClientConfig) (lookup : Lookup) :
    PkinitClientConfig :=
  let config := { config with
    requireCrlChecking := lookup.boolean "pkinit_require_crl_checking" config.requireCrlChecking
    dhMinBits := asU32 (lookup.integer "pkinit_dh_min_bits" (asI32 config.dhMinBits)) }
  let config := match lookup.string "pkinit_eku_checking" with
    | some v => config.applyEkuChecking v
    | none => config
  { config with
    requireFreshness := lookup.boolean "pkinit_require_freshness_token" config.requireFreshness }

/-- The relations read after it. -/
def PkinitClientConfig.readTrust (config : PkinitClientConfig) (lookup : Lookup) :
    PkinitClientConfig :=
  { config with
    requireKem := lookup.boolean "pkinit_require_kem" config.requireKem
    kdcTrustTofu := lookup.boolean "pkinit_kdc_trust_tofu" config.kdcTrustTofu
    kdcTrustBroker := (lookup.string "pkinit_kdc_trust_broker").or config.kdcTrustBroker
    kdcTrustTimeout :=
      (max 0 (lookup.integer "pkinit_kdc_trust_timeout" (asI32 config.kdcTrustTimeout))).toInt.toNat
    dhGroup := dhGroupFromMinBits config.dhMinBits }

def readClientConfig (profile : Profile) (realm : Option String) :
    EStateM ConfigError PkinitClientConfig Unit := do
  let lookup : Lookup := { profile := profile, defaults := "libdefaults", realm := realm }
  modify fun config => (config.readSources lookup).readChecks lookup
  match lookup.string "pkinit_pqc_min_algorithm" with
  | some v => do
      let kemAlgorithm ← lift (parseKemAlgorithm "pkinit_pqc_min_algorithm" v)
      modify fun config => { config with kemAlgorithm := some kemAlgorithm }
      modify fun config => config.readTrust lookup
  | none => modify fun config => config.readTrust lookup

/-! ## The KDC's relations -/

def COMPOSITE_KEM_NAMES : String :=
  "ML-KEM-768-X25519, ML-KEM-768-ECDH-P256, ML-KEM-1024-ECDH-P384"

def parseCompositeKemAlgorithms (key : String) (values : List String) :
    Except ConfigError (List KemAlgorithm) :=
  values.mapM fun v =>
    okOr ((KemAlgorithm.fromName v).filter KemAlgorithm.isComposite)
      ⟨s!"{key}: {v.quote} is not a composite KEM algorithm (expected one of {COMPOSITE_KEM_NAMES})"⟩

def PkinitKdcConfig.applyEkuChecking (config : PkinitKdcConfig) (value : String) :
    PkinitKdcConfig :=
  match value with
  | "kpClientAuth" => { config with requireEku := true, acceptSecondaryEku := false }
  | "scLogin" => { config with requireEku := true, acceptSecondaryEku := true }
  | "none" => { config with requireEku := false, acceptSecondaryEku := false }
  | _ => config

def PkinitKdcConfig.readSources (config : PkinitKdcConfig) (lookup : Lookup) : PkinitKdcConfig :=
  { config with
    identity := (lookup.string "pkinit_identity").or config.identity
    anchors := (lookup.values "pkinit_anchors").getD config.anchors
    intermediates := (lookup.values "pkinit_pool").getD config.intermediates
    crls := (lookup.values "pkinit_revoke").getD config.crls }

/-- The relations read before the first that may be unusable. -/
def PkinitKdcConfig.readChecks (config : PkinitKdcConfig) (lookup : Lookup) : PkinitKdcConfig :=
  let config := { config with
    requireCrlChecking := lookup.boolean "pkinit_require_crl_checking" config.requireCrlChecking
    dhMinBits := asU32 (lookup.integer "pkinit_dh_min_bits" (asI32 config.dhMinBits))
    allowUpn := lookup.boolean "pkinit_allow_upn" config.allowUpn }
  let config := match lookup.string "pkinit_eku_checking" with
    | some v => config.applyEkuChecking v
    | none => config
  { config with
    requireFreshness := lookup.boolean "pkinit_require_freshness_token" config.requireFreshness
    authIndicators := (lookup.values "pkinit_indicator").getD config.authIndicators }

/-- The pure KEMs of a floor, or those of the configuration. -/
def readKemFloor (lookup : Lookup) (config : PkinitKdcConfig) :
    Except ConfigError (List KemAlgorithm) :=
  match lookup.string "pkinit_pqc_min_algorithm" with
  | some v => KemAlgorithm.algorithmsAtOrAbove <$> parseKemAlgorithm "pkinit_pqc_min_algorithm" v
  | none => .ok config.supportedKemAlgorithms

def readCompositeKems (lookup : Lookup) (config : PkinitKdcConfig) :
    Except ConfigError (List KemAlgorithm) :=
  match lookup.values "pkinit_pqc_composite_algorithms" with
  | some names => parseCompositeKemAlgorithms "pkinit_pqc_composite_algorithms" names
  | none => .ok config.supportedCompositeKemAlgorithms

def readKdcConfig (profile : Profile) (realm : String) : Except ConfigError PkinitKdcConfig := do
  let lookup : Lookup := { profile := profile, defaults := "kdcdefaults", realm := some realm }
  let config := (({} : PkinitKdcConfig).readSources lookup).readChecks lookup
  let supportedKemAlgorithms ← readKemFloor lookup config
  let supportedCompositeKemAlgorithms ← readCompositeKems lookup config
  return { config with
    supportedKemAlgorithms := supportedKemAlgorithms
    supportedCompositeKemAlgorithms := supportedCompositeKemAlgorithms
    requireKem := lookup.boolean "pkinit_require_kem" config.requireKem }

/-! ## What reading keeps -/

theorem applyEkuChecking_identity (config : PkinitClientConfig) (value : String) :
    (config.applyEkuChecking value).identity = config.identity := by
  unfold PkinitClientConfig.applyEkuChecking
  split <;> rfl

theorem readChecks_identity (config : PkinitClientConfig) (lookup : Lookup) :
    (config.readChecks lookup).identity = config.identity := by
  unfold PkinitClientConfig.readChecks
  cases lookup.string "pkinit_eku_checking" with
  | none => rfl
  | some v => exact applyEkuChecking_identity _ v

/-- **A configured identity is never replaced by reading a profile.** -/
theorem readClientConfig_identity (profile : Profile) (realm : Option String)
    (config : PkinitClientConfig) {identity : String}
    (configured : config.identity = some identity) :
    (call (readClientConfig profile realm) config).1.identity = some identity := by
  have kept : ∀ lookup : Lookup,
      ((config.readSources lookup).readChecks lookup).identity = some identity := by
    intro lookup
    rw [readChecks_identity]
    simp [PkinitClientConfig.readSources, configured]
  have ends : Ends (readClientConfig profile realm) config
      fun config' _ => config'.identity = some identity := by
    unfold readClientConfig
    refine Ends.bind_modify ?_
    split
    · exact Ends.bind_lift (fun _ _ => kept _) fun _ _ => kept _
    · exact kept _
  exact ends

/-! ## What a KDC's configuration can be -/

theorem isComposite_of_algorithmsAtOrAbove {floor alg : KemAlgorithm}
    (member : alg ∈ floor.algorithmsAtOrAbove) : alg.isComposite = false := by
  have pure := List.mem_of_mem_filter member
  cases alg <;> simp_all [KemAlgorithm.isComposite]

theorem kdcApplyEkuChecking_kems (config : PkinitKdcConfig) (value : String) :
    (config.applyEkuChecking value).supportedKemAlgorithms = config.supportedKemAlgorithms ∧
      (config.applyEkuChecking value).supportedCompositeKemAlgorithms =
        config.supportedCompositeKemAlgorithms := by
  unfold PkinitKdcConfig.applyEkuChecking
  split <;> exact ⟨rfl, rfl⟩

/-- The checks read before the KEMs leave them alone. -/
theorem kdcReadChecks_kems (config : PkinitKdcConfig) (lookup : Lookup) :
    (config.readChecks lookup).supportedKemAlgorithms = config.supportedKemAlgorithms ∧
      (config.readChecks lookup).supportedCompositeKemAlgorithms =
        config.supportedCompositeKemAlgorithms := by
  unfold PkinitKdcConfig.readChecks
  cases lookup.string "pkinit_eku_checking" with
  | none => exact ⟨rfl, rfl⟩
  | some v => exact kdcApplyEkuChecking_kems _ v

/-- **A floor gives pure KEMs, and the explicit list composite ones.** -/
theorem readKdcConfig_kems {profile : Profile} {realm : String} {config : PkinitKdcConfig}
    (readable : readKdcConfig profile realm = .ok config) :
    (∀ alg ∈ config.supportedKemAlgorithms, alg.isComposite = false) ∧
      ∀ alg ∈ config.supportedCompositeKemAlgorithms, alg.isComposite = true := by
  simp only [readKdcConfig, bind_eq_ok, pure_eq_ok, Except.ok.injEq] at readable
  obtain ⟨pures, floor, composites, explicit, rfl⟩ := readable
  obtain ⟨noFloor, noList⟩ := kdcReadChecks_kems
    (({} : PkinitKdcConfig).readSources ⟨profile, "kdcdefaults", some realm⟩)
    ⟨profile, "kdcdefaults", some realm⟩
  constructor
  · intro alg member
    unfold readKemFloor at floor
    split at floor
    · next v _ =>
        cases parsed : parseKemAlgorithm "pkinit_pqc_min_algorithm" v with
        | error e => simp [parsed, Functor.map, Except.map] at floor
        | ok least =>
            rw [parsed] at floor
            obtain rfl := Except.ok.inj floor
            exact isComposite_of_algorithmsAtOrAbove member
    · obtain rfl := Except.ok.inj floor
      rw [noFloor] at member
      cases member
  · intro alg member
    unfold readCompositeKems at explicit
    split at explicit
    · next names _ =>
        obtain ⟨name, _, parsed⟩ := exists_of_mem_mapM explicit member
        exact (Option.filter_eq_some_iff.mp (okOr_eq_ok.mp parsed)).2
    · obtain rfl := Except.ok.inj explicit
      rw [noList] at member
      cases member

end Kurbu5Pkinit

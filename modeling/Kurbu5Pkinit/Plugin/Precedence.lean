import Kurbu5Pkinit.Plugin.Profile
import Mathlib.Algebra.Group.Nat.Defs

/-!
# Which value of a relation is in effect

A relation may stand in the realm's stanza, in the defaults section, or in
neither. The realm's value is in effect before the section's, and a relation
that stands nowhere leaves the starting value; a client's identity and anchors
that the caller has set win over both. Reading the profile once more changes
nothing.

A number is read as a `u32`: a minimum below zero is its two's complement and
a timeout below zero is none. The name of an EKU check that is not known is
the realm's value as well, and changes nothing (`unusual_values_converted`).
-/

set_option autoImplicit false

namespace Kurbu5Pkinit

open Library

/-! ## Settings -/

/-- Where a relation can stand. -/
inductive Stanza where
  | realm (name : String)
  | defaults (name : String)
  deriving DecidableEq, Repr

/-- What a profile says: nothing where a relation is absent or unparsable. -/
structure Settings where
  string : Stanza → String → Option String
  values : Stanza → String → List String
  boolean : Stanza → String → Option Bool
  integer : Stanza → String → Option Int32

namespace Profile

variable (profile : Profile)

def stringAt : Stanza → String → Except Int (Option String)
  | .realm name, key => profile.getStringOpt "realms" name (some key)
  | .defaults name, key => profile.getStringOpt name key none

def valuesAt : Stanza → String → Except Int (List String)
  | .realm name, key => profile.getValues ["realms", name, key]
  | .defaults name, key => profile.getValues [name, key]

def booleanAt : Stanza → String → Bool → Except Int Bool
  | .realm name, key => profile.getBoolean "realms" name (some key)
  | .defaults name, key => profile.getBoolean name key none

def integerAt : Stanza → String → Int32 → Except Int Int32
  | .realm name, key => profile.getInteger "realms" name (some key)
  | .defaults name, key => profile.getInteger name key none

/-- The getters read these settings: they give the default, or fail, exactly
where a relation is absent or unparsable. -/
structure Holds (settings : Settings) : Prop where
  string : ∀ stanza key, (profile.stringAt stanza key).toOption.join = settings.string stanza key
  values : ∀ stanza key,
    (profile.valuesAt stanza key).toOption.getD [] = settings.values stanza key
  boolean : ∀ stanza key default, (profile.booleanAt stanza key default).toOption.getD default =
    (settings.boolean stanza key).getD default
  integer : ∀ stanza key default, (profile.integerAt stanza key default).toOption.getD default =
    (settings.integer stanza key).getD default

end Profile

/-- A list that is empty is not set. -/
def Settings.list (settings : Settings) (stanza : Stanza) (key : String) :
    Option (List String) :=
  if settings.values stanza key = [] then none else some (settings.values stanza key)

/-- The realm's value, or else that of the defaults section. -/
def inEffect {α : Type} (realm : Option String) (defaults : String) (value : Stanza → Option α) :
    Option α :=
  (realm.bind fun name => value (.realm name)).or (value (.defaults defaults))

/-- The relations in effect for a realm. -/
structure Relations where
  string : String → Option String
  list : String → Option (List String)
  boolean : String → Option Bool
  integer : String → Option Int32

def Settings.relations (settings : Settings) (realm : Option String) (defaults : String) :
    Relations where
  string key := inEffect realm defaults (settings.string · key)
  list key := inEffect realm defaults (settings.list · key)
  boolean key := inEffect realm defaults (settings.boolean · key)
  integer key := inEffect realm defaults (settings.integer · key)

/-! ## The getters -/

section Lookup

variable {profile : Profile} {settings : Settings} {realm : Option String} {defaults : String}
  (holds : profile.Holds settings) (key : String)
include holds

theorem Profile.Holds.lookupString :
    (Lookup.mk profile defaults realm).string key =
      (settings.relations realm defaults).string key := by
  have elsewhere := holds.string (.defaults defaults) key
  cases realm with
  | none => exact elsewhere
  | some name =>
      have here := holds.string (.realm name) key
      simp only [Profile.stringAt] at here elsewhere
      simp only [Lookup.string, Lookup.realmString, Settings.relations, inEffect,
        Option.bind_some, ← here, ← elsewhere]
      cases profile.getStringOpt "realms" name (some key) with
      | error e => rfl
      | ok value => cases value <;> rfl

theorem Profile.Holds.lookupValues :
    (Lookup.mk profile defaults realm).values key =
      (settings.relations realm defaults).list key := by
  have elsewhere := holds.values (.defaults defaults) key
  have section' : (profile.getValues [defaults, key]).toOption.filter (fun v => !v.isEmpty) =
      settings.list (.defaults defaults) key := by
    rw [Settings.list, ← elsewhere, Profile.valuesAt]
    cases profile.getValues [defaults, key] with
    | error e => rfl
    | ok values => cases values <;> rfl
  cases realm with
  | none => exact section'
  | some name =>
      have here := holds.values (.realm name) key
      simp only [Profile.valuesAt] at here
      simp only [Lookup.values, Lookup.realmValues, here, section', Settings.relations, inEffect,
        Option.bind_some]
      cases read : settings.values (.realm name) key with
      | nil => simp [Settings.list, read]
      | cons value rest => simp [Settings.list, read]

theorem Profile.Holds.lookupBoolean (current : Bool) :
    (Lookup.mk profile defaults realm).boolean key current =
      ((settings.relations realm defaults).boolean key).getD current := by
  have elsewhere := holds.boolean (.defaults defaults) key current
  simp only [Profile.booleanAt] at elsewhere
  cases realm with
  | none => exact elsewhere
  | some name =>
      have here := holds.boolean (.realm name) key ((settings.boolean (.defaults defaults) key).getD
        current)
      simp only [Profile.booleanAt] at here
      simp only [Lookup.boolean, elsewhere, here, Settings.relations, inEffect,
        Option.bind_some, Option.getD_or]

theorem Profile.Holds.lookupInteger (current : Int32) :
    (Lookup.mk profile defaults realm).integer key current =
      ((settings.relations realm defaults).integer key).getD current := by
  have elsewhere := holds.integer (.defaults defaults) key current
  simp only [Profile.integerAt] at elsewhere
  cases realm with
  | none => exact elsewhere
  | some name =>
      have here := holds.integer (.realm name) key ((settings.integer (.defaults defaults) key).getD
        current)
      simp only [Profile.integerAt] at here
      simp only [Lookup.integer, elsewhere, here, Settings.relations, inEffect,
        Option.bind_some, Option.getD_or]

end Lookup

/-! ## The merged configurations -/

/-- What an EKU check demands: that there is a purpose, and whether smart card
logon is one. -/
def ekuCheck : String → Option (Bool × Bool)
  | "kpClientAuth" => some (true, false)
  | "scLogin" => some (true, true)
  | "none" => some (false, false)
  | _ => none

/-- Each relation of the client is the one in effect, or as it was. -/
structure ClientMerged (relations : Relations) (start result : PkinitClientConfig) : Prop where
  identity : result.identity = start.identity.or (relations.string "pkinit_identities")
  anchors : result.anchors =
    if start.anchors = [] then (relations.list "pkinit_anchors").getD [] else start.anchors
  intermediates : result.intermediates = (relations.list "pkinit_pool").getD start.intermediates
  crls : result.crls = (relations.list "pkinit_revoke").getD start.crls
  requireCrlChecking : result.requireCrlChecking =
    (relations.boolean "pkinit_require_crl_checking").getD start.requireCrlChecking
  dhMinBits : result.dhMinBits =
    ((relations.integer "pkinit_dh_min_bits").map asU32).getD start.dhMinBits
  ekuChecking : (result.requireEku, result.acceptSecondaryEku) =
    ((relations.string "pkinit_eku_checking").bind ekuCheck).getD
      (start.requireEku, start.acceptSecondaryEku)
  requireFreshness : result.requireFreshness =
    (relations.boolean "pkinit_require_freshness_token").getD start.requireFreshness
  kemAlgorithm : result.kemAlgorithm =
    ((relations.string "pkinit_pqc_min_algorithm").bind KemAlgorithm.fromName).or
      start.kemAlgorithm
  requireKem : result.requireKem =
    (relations.boolean "pkinit_require_kem").getD start.requireKem
  kdcTrustTofu : result.kdcTrustTofu =
    (relations.boolean "pkinit_kdc_trust_tofu").getD start.kdcTrustTofu
  kdcTrustBroker : result.kdcTrustBroker =
    (relations.string "pkinit_kdc_trust_broker").or start.kdcTrustBroker
  kdcTrustTimeout : result.kdcTrustTimeout =
    ((relations.integer "pkinit_kdc_trust_timeout").map fun seconds => seconds.toInt.toNat).getD
      start.kdcTrustTimeout
  /-- No relation of the profile. -/
  allowUpn : result.allowUpn = start.allowUpn
  disableFreshness : result.disableFreshness = start.disableFreshness
  /-- Derived. -/
  dhGroup : result.dhGroup = dhGroupFromMinBits result.dhMinBits

/-- Each relation of the KDC is the one in effect, or the built-in default. -/
structure KdcMerged (relations : Relations) (result : PkinitKdcConfig) : Prop where
  identity : result.identity = relations.string "pkinit_identity"
  anchors : result.anchors = (relations.list "pkinit_anchors").getD []
  intermediates : result.intermediates = (relations.list "pkinit_pool").getD []
  crls : result.crls = (relations.list "pkinit_revoke").getD []
  requireCrlChecking : result.requireCrlChecking =
    (relations.boolean "pkinit_require_crl_checking").getD false
  dhMinBits : result.dhMinBits =
    ((relations.integer "pkinit_dh_min_bits").map asU32).getD 2048
  allowUpn : result.allowUpn = (relations.boolean "pkinit_allow_upn").getD false
  ekuChecking : (result.requireEku, result.acceptSecondaryEku) =
    ((relations.string "pkinit_eku_checking").bind ekuCheck).getD (true, false)
  requireFreshness : result.requireFreshness =
    (relations.boolean "pkinit_require_freshness_token").getD false
  authIndicators : result.authIndicators = (relations.list "pkinit_indicator").getD []
  supportedKemAlgorithms : result.supportedKemAlgorithms =
    ((relations.string "pkinit_pqc_min_algorithm").bind KemAlgorithm.fromName).elim []
      KemAlgorithm.algorithmsAtOrAbove
  supportedCompositeKemAlgorithms :
    List.Forall₂ (fun name kem => KemAlgorithm.fromName name = some kem)
      ((relations.list "pkinit_pqc_composite_algorithms").getD [])
      result.supportedCompositeKemAlgorithms
  requireKem : result.requireKem = (relations.boolean "pkinit_require_kem").getD false

/-- The name of the KEM in effect, if there is one, is known. -/
def Relations.KnownKem (relations : Relations) : Prop :=
  ∀ name, relations.string "pkinit_pqc_min_algorithm" = some name →
    KemAlgorithm.fromName name ≠ none

/-! ## Numbers -/

theorem asU32_lt (x : Int32) : asU32 x < 2 ^ 32 :=
  x.toUInt32.toNat_lt

theorem asU32_asI32 {n : Nat} (small : n < 2 ^ 32) : asU32 (asI32 n) = n := by
  rw [asU32, asI32, UInt32.toUInt32_toInt32]
  exact UInt32.toNat_ofNat_of_lt' small

theorem toInt_asI32 {n : Nat} (small : n < 2 ^ 31) : (asI32 n).toInt = n := by
  rw [asI32, UInt32.toInt32_ofNat']
  exact Int32.toInt_ofNat_of_lt small

theorem toNat_max_zero (x : Int32) : (max 0 x).toInt.toNat = x.toInt.toNat := by
  rw [show max 0 x = if (0 : Int32) ≤ x then x else 0 from rfl]
  split
  · rfl
  · next negative =>
      rw [Int32.le_iff_toInt_le, Int32.toInt_zero] at negative
      rw [Int.toNat_of_nonpos (show x.toInt ≤ 0 by omega)]
      rfl

/-! ## The client -/

theorem PkinitClientConfig.applyEkuChecking_eq (config : PkinitClientConfig) (value : String) :
    config.applyEkuChecking value = { config with
      requireEku := ((ekuCheck value).getD (config.requireEku, config.acceptSecondaryEku)).1
      acceptSecondaryEku :=
        ((ekuCheck value).getD (config.requireEku, config.acceptSecondaryEku)).2 } := by
  unfold applyEkuChecking ekuCheck
  split <;> simp

namespace ClientMerged

variable {relations : Relations} {start result : PkinitClientConfig}

/-- The relations leave nothing open. -/
theorem unique {left right : PkinitClientConfig} (first : ClientMerged relations start left)
    (second : ClientMerged relations start right) : left = right := by
  have eku := first.ekuChecking.trans second.ekuChecking.symm
  have bits := first.dhMinBits.trans second.dhMinBits.symm
  have group : left.dhGroup = right.dhGroup := by
    rw [first.dhGroup, second.dhGroup, bits]
  rw [Prod.mk.injEq] at eku
  rw [PkinitClientConfig.mk.injEq]
  exact ⟨eku.1, eku.2, first.allowUpn.trans second.allowUpn.symm,
    first.requireCrlChecking.trans second.requireCrlChecking.symm,
    first.requireFreshness.trans second.requireFreshness.symm,
    first.disableFreshness.trans second.disableFreshness.symm, bits, group,
    first.kemAlgorithm.trans second.kemAlgorithm.symm,
    first.requireKem.trans second.requireKem.symm,
    first.identity.trans second.identity.symm, first.anchors.trans second.anchors.symm,
    first.intermediates.trans second.intermediates.symm, first.crls.trans second.crls.symm,
    first.kdcTrustTofu.trans second.kdcTrustTofu.symm,
    first.kdcTrustBroker.trans second.kdcTrustBroker.symm,
    first.kdcTrustTimeout.trans second.kdcTrustTimeout.symm⟩

/-- What is merged is merged with itself. -/
theorem again (merged : ClientMerged relations start result) :
    ClientMerged relations result result := by
  have stays {α : Type} {start result : α} {read : Option α}
      (eq : result = read.getD start) : result = read.getD result := by
    subst eq
    cases read <;> rfl
  exact {
    identity := by rw [merged.identity, Option.or_assoc, Option.or_self]
    anchors := by
      rw [merged.anchors]
      by_cases unset : start.anchors = []
      · rw [if_pos unset, ite_self]
      · rw [if_neg unset, if_neg unset]
    intermediates := stays merged.intermediates
    crls := stays merged.crls
    requireCrlChecking := stays merged.requireCrlChecking
    dhMinBits := stays merged.dhMinBits
    ekuChecking := stays merged.ekuChecking
    requireFreshness := stays merged.requireFreshness
    kemAlgorithm := by rw [merged.kemAlgorithm, ← Option.or_assoc, Option.or_self]
    requireKem := stays merged.requireKem
    kdcTrustTofu := stays merged.kdcTrustTofu
    kdcTrustBroker := by rw [merged.kdcTrustBroker, ← Option.or_assoc, Option.or_self]
    kdcTrustTimeout := stays merged.kdcTrustTimeout
    allowUpn := rfl
    disableFreshness := rfl
    dhGroup := merged.dhGroup }

/-- What was in range before is in range after. -/
theorem dhMinBits_lt (merged : ClientMerged relations start result)
    (small : start.dhMinBits < 2 ^ 32) : result.dhMinBits < 2 ^ 32 := by
  rw [merged.dhMinBits]
  cases relations.integer "pkinit_dh_min_bits" with
  | none => exact small
  | some bits => exact asU32_lt bits

theorem kdcTrustTimeout_lt (merged : ClientMerged relations start result)
    (small : start.kdcTrustTimeout < 2 ^ 31) : result.kdcTrustTimeout < 2 ^ 31 := by
  rw [merged.kdcTrustTimeout]
  cases relations.integer "pkinit_kdc_trust_timeout" with
  | none => exact small
  | some seconds =>
      have bound := seconds.toInt_lt
      simp only [Option.map_some, Option.getD_some]
      omega

end ClientMerged

theorem PkinitClientConfig.readChecks_eq (config : PkinitClientConfig) (lookup : Lookup) :
    config.readChecks lookup = { config with
      requireCrlChecking := lookup.boolean "pkinit_require_crl_checking" config.requireCrlChecking
      dhMinBits := asU32 (lookup.integer "pkinit_dh_min_bits" (asI32 config.dhMinBits))
      requireEku := (((lookup.string "pkinit_eku_checking").bind ekuCheck).getD
        (config.requireEku, config.acceptSecondaryEku)).1
      acceptSecondaryEku := (((lookup.string "pkinit_eku_checking").bind ekuCheck).getD
        (config.requireEku, config.acceptSecondaryEku)).2
      requireFreshness :=
        lookup.boolean "pkinit_require_freshness_token" config.requireFreshness } := by
  unfold readChecks
  cases lookup.string "pkinit_eku_checking" with
  | none => rfl
  | some value =>
      simp only [applyEkuChecking_eq]
      rfl

section Reading

variable {profile : Profile} {settings : Settings} {realm : Option String}
  {start : PkinitClientConfig} (holds : profile.Holds settings)
  (small : start.dhMinBits < 2 ^ 32) (timeout : start.kdcTrustTimeout < 2 ^ 31)
include holds small timeout

/-- What the relations are read into, once the KEM in effect is known. -/
theorem readTrust_merged {kem : Option KemAlgorithm}
    (floor : kem = (((settings.relations realm "libdefaults").string
      "pkinit_pqc_min_algorithm").bind KemAlgorithm.fromName).or start.kemAlgorithm) :
    ClientMerged (settings.relations realm "libdefaults") start
      ({ (start.readSources ⟨profile, "libdefaults", realm⟩).readChecks
          ⟨profile, "libdefaults", realm⟩ with kemAlgorithm := kem }.readTrust
            ⟨profile, "libdefaults", realm⟩) := by
  rw [PkinitClientConfig.readChecks_eq]
  simp only [PkinitClientConfig.readTrust, PkinitClientConfig.readSources, holds.lookupString,
    holds.lookupValues, holds.lookupBoolean, holds.lookupInteger, toNat_max_zero]
  have bits : ∀ read : Option Int32, asU32 (read.getD (asI32 start.dhMinBits)) =
      (read.map asU32).getD start.dhMinBits := by
    intro read
    cases read with
    | none => exact asU32_asI32 small
    | some bits => rfl
  have seconds : ∀ read : Option Int32,
      (read.getD (asI32 start.kdcTrustTimeout)).toInt.toNat =
        (read.map fun seconds => seconds.toInt.toNat).getD start.kdcTrustTimeout := by
    intro read
    cases read with
    | none =>
        rw [Option.getD_none, toInt_asI32 timeout]
        rfl
    | some seconds => rfl
  exact {
    identity := rfl
    anchors := rfl
    intermediates := rfl
    crls := rfl
    requireCrlChecking := rfl
    dhMinBits := bits _
    ekuChecking := rfl
    requireFreshness := rfl
    kemAlgorithm := floor
    requireKem := rfl
    kdcTrustTofu := rfl
    kdcTrustBroker := rfl
    kdcTrustTimeout := seconds _
    allowUpn := rfl
    disableFreshness := rfl
    dhGroup := rfl }

/-- Reading succeeds exactly where the KEM in effect is known, and merges. -/
theorem readClientConfig_merges :
    Ends (readClientConfig profile realm) start fun result outcome =>
      (outcome = .ok () ↔ (settings.relations realm "libdefaults").KnownKem) ∧
        (outcome = .ok () →
          ClientMerged (settings.relations realm "libdefaults") start result) := by
  unfold readClientConfig
  refine Ends.bind_modify ?_
  simp only [holds.lookupString]
  cases named : (settings.relations realm "libdefaults").string "pkinit_pqc_min_algorithm" with
  | none =>
      refine ⟨iff_of_true rfl ?_, fun _ => ?_⟩
      · rintro name effective
        cases named.symm.trans effective
      · have merged := @readTrust_merged _ _ realm _ holds small timeout start.kemAlgorithm
          (by rw [named]; rfl)
        rwa [PkinitClientConfig.readChecks_eq] at merged ⊢
  | some name =>
      refine Ends.bind_lift ?_ ?_
      · intro e unknown
        refine ⟨iff_of_false (fun ended => by cases ended) ?_, fun ended => by cases ended⟩
        intro known
        obtain ⟨kem, found⟩ := Option.ne_none_iff_exists'.mp (known name named)
        have parsed : parseKemAlgorithm "pkinit_pqc_min_algorithm" name = .ok kem :=
          okOr_eq_ok.mpr found
        cases parsed.symm.trans unknown
      · intro kem parsed
        have found : KemAlgorithm.fromName name = some kem := okOr_eq_ok.mp parsed
        refine ⟨iff_of_true rfl ?_, fun _ => ?_⟩
        · rintro other effective
          obtain rfl : name = other := Option.some.inj (named.symm.trans effective)
          simp [found]
        · exact readTrust_merged holds small timeout
            (by rw [named, Option.bind_some, found]; rfl)

end Reading

/-! ## The KDC -/

theorem PkinitKdcConfig.applyEkuChecking_eq (config : PkinitKdcConfig) (value : String) :
    config.applyEkuChecking value = { config with
      requireEku := ((ekuCheck value).getD (config.requireEku, config.acceptSecondaryEku)).1
      acceptSecondaryEku :=
        ((ekuCheck value).getD (config.requireEku, config.acceptSecondaryEku)).2 } := by
  unfold applyEkuChecking ekuCheck
  split <;> simp

theorem PkinitKdcConfig.readChecks_eq (config : PkinitKdcConfig) (lookup : Lookup) :
    config.readChecks lookup = { config with
      requireCrlChecking := lookup.boolean "pkinit_require_crl_checking" config.requireCrlChecking
      dhMinBits := asU32 (lookup.integer "pkinit_dh_min_bits" (asI32 config.dhMinBits))
      allowUpn := lookup.boolean "pkinit_allow_upn" config.allowUpn
      requireEku := (((lookup.string "pkinit_eku_checking").bind ekuCheck).getD
        (config.requireEku, config.acceptSecondaryEku)).1
      acceptSecondaryEku := (((lookup.string "pkinit_eku_checking").bind ekuCheck).getD
        (config.requireEku, config.acceptSecondaryEku)).2
      requireFreshness := lookup.boolean "pkinit_require_freshness_token" config.requireFreshness
      authIndicators := (lookup.values "pkinit_indicator").getD config.authIndicators } := by
  unfold readChecks
  cases lookup.string "pkinit_eku_checking" with
  | none => rfl
  | some value =>
      simp only [applyEkuChecking_eq]
      rfl

section Reading

variable {profile : Profile} {settings : Settings} {realm : Option String} {defaults : String}
  (holds : profile.Holds settings)
include holds

theorem readKemFloor_ok {config : PkinitKdcConfig} {kems : List KemAlgorithm}
    (read : readKemFloor ⟨profile, defaults, realm⟩ config = .ok kems) :
    (settings.relations realm defaults).KnownKem ∧
      kems = (((settings.relations realm defaults).string "pkinit_pqc_min_algorithm").bind
        KemAlgorithm.fromName).elim config.supportedKemAlgorithms
          KemAlgorithm.algorithmsAtOrAbove := by
  unfold readKemFloor at read
  rw [holds.lookupString] at read
  cases named : (settings.relations realm defaults).string "pkinit_pqc_min_algorithm" with
  | none =>
      rw [named] at read
      refine ⟨?_, (Except.ok.inj read).symm⟩
      rintro name effective
      cases named.symm.trans effective
  | some name =>
      rw [named] at read
      cases found : KemAlgorithm.fromName name with
      | none => simp [parseKemAlgorithm, found, okOr, Functor.map, Except.map] at read
      | some floor =>
          simp only [parseKemAlgorithm, found, okOr_some] at read
          refine ⟨?_, ?_⟩
          · rintro other effective
            obtain rfl : name = other := Option.some.inj (named.symm.trans effective)
            simp [found]
          · rw [Option.bind_some, found]
            exact (Except.ok.inj read).symm

theorem readCompositeKems_ok {config : PkinitKdcConfig} {kems : List KemAlgorithm}
    (fresh : config.supportedCompositeKemAlgorithms = [])
    (read : readCompositeKems ⟨profile, defaults, realm⟩ config = .ok kems) :
    List.Forall₂ (fun name kem => KemAlgorithm.fromName name = some kem)
      (((settings.relations realm defaults).list "pkinit_pqc_composite_algorithms").getD [])
      kems := by
  unfold readCompositeKems at read
  rw [holds.lookupValues] at read
  cases listed : (settings.relations realm defaults).list "pkinit_pqc_composite_algorithms" with
  | none =>
      rw [listed] at read
      obtain rfl := Except.ok.inj read
      rw [fresh]
      exact List.Forall₂.nil
  | some names =>
      rw [listed] at read
      refine (mapM_eq_ok.mp read).imp ?_
      intro name kem parsed
      exact (Option.filter_eq_some_iff.mp (okOr_eq_ok.mp parsed)).1

theorem readKdcConfig_merges {name : String} {result : PkinitKdcConfig}
    (readable : readKdcConfig profile name = .ok result) :
    (settings.relations (some name) "kdcdefaults").KnownKem ∧
      KdcMerged (settings.relations (some name) "kdcdefaults") result := by
  simp only [readKdcConfig, PkinitKdcConfig.readChecks_eq, bind_eq_ok, pure_eq_ok,
    Except.ok.injEq] at readable
  obtain ⟨kems, floor, composites, explicit, rfl⟩ := readable
  obtain ⟨known, floored⟩ := readKemFloor_ok holds floor
  have listed := readCompositeKems_ok holds rfl explicit
  have bits : ∀ read : Option Int32,
      asU32 (read.getD (asI32 2048)) = (read.map asU32).getD 2048 := by
    intro read
    cases read with
    | none => rfl
    | some bits => rfl
  simp only [PkinitKdcConfig.readSources, holds.lookupString, holds.lookupValues,
    holds.lookupBoolean, holds.lookupInteger, Option.or_none]
  exact ⟨known, {
    identity := rfl
    anchors := rfl
    intermediates := rfl
    crls := rfl
    requireCrlChecking := rfl
    dhMinBits := bits _
    allowUpn := rfl
    ekuChecking := rfl
    requireFreshness := rfl
    authIndicators := rfl
    supportedKemAlgorithms := floored
    supportedCompositeKemAlgorithms := listed
    requireKem := rfl }⟩

end Reading

/-! ## Both parties -/

/-- **The realm's stanza comes before the defaults, and the defaults before the
starting values, in every relation of both parties; a configuration that was
read is read again without a change; and an unknown KEM is refused.** -/
theorem realm_before_defaults {profile : Profile} {settings : Settings}
    (holds : profile.Holds settings) :
    (∀ (realm : Option String) (start : PkinitClientConfig), start.dhMinBits < 2 ^ 32 →
      start.kdcTrustTimeout ≤ Int32.maxValue.toInt.toNat →
      Ends (readClientConfig profile realm) start fun result outcome =>
        (outcome = .ok () ↔ (settings.relations realm "libdefaults").KnownKem) ∧
          (outcome = .ok () →
            ClientMerged (settings.relations realm "libdefaults") start result ∧
              call (readClientConfig profile realm) result = (result, .ok ()))) ∧
      ∀ (name : String) (result : PkinitKdcConfig), readKdcConfig profile name = .ok result →
        (settings.relations (some name) "kdcdefaults").KnownKem ∧
          KdcMerged (settings.relations (some name) "kdcdefaults") result := by
  refine ⟨fun realm start small timeout => ?_, fun name result => readKdcConfig_merges holds⟩
  have short : start.kdcTrustTimeout < 2 ^ 31 := Nat.lt_succ_of_le timeout
  have reads := @readClientConfig_merges _ _ realm _ holds small short
  refine ⟨reads.1, fun succeeded => ?_⟩
  have merged := reads.2 succeeded
  have known := reads.1.mp succeeded
  -- The second reading starts in range again, so it merges as well.
  have rereads := @readClientConfig_merges _ _ realm _ holds (merged.dhMinBits_lt small)
    (merged.kdcTrustTimeout_lt short)
  have again := rereads.1.mpr known
  have unchanged := (rereads.2 again).unique merged.again
  exact ⟨merged, Prod.ext unchanged again⟩

/-- A profile whose getters read the settings and never fail. -/
def Settings.profile (settings : Settings) : Profile where
  getStringOpt
    | _, name, some key => .ok (settings.string (.realm name) key)
    | name, key, none => .ok (settings.string (.defaults name) key)
  getValues
    | [_, name, key] => .ok (settings.values (.realm name) key)
    | [name, key] => .ok (settings.values (.defaults name) key)
    | _ => .ok []
  getBoolean
    | _, name, some key, default => .ok ((settings.boolean (.realm name) key).getD default)
    | name, key, none, default => .ok ((settings.boolean (.defaults name) key).getD default)
  getInteger
    | _, name, some key, default => .ok ((settings.integer (.realm name) key).getD default)
    | name, key, none, default => .ok ((settings.integer (.defaults name) key).getD default)

theorem Settings.profile_holds (settings : Settings) : settings.profile.Holds settings where
  string stanza key := by cases stanza <;> rfl
  values stanza key := by cases stanza <;> rfl
  boolean stanza key default := by cases stanza <;> rfl
  integer stanza key default := by cases stanza <;> rfl

/-- A realm that sets its numbers below zero and misspells its EKU check. -/
def unusualSettings : Settings where
  string
    | .realm "EXAMPLE.ORG", "pkinit_eku_checking" => some "scLogon"
    | .defaults "libdefaults", "pkinit_eku_checking" => some "none"
    | _, _ => none
  values _ _ := []
  boolean _ _ := none
  integer
    | .realm "EXAMPLE.ORG", "pkinit_dh_min_bits" => some (-1)
    | .realm "EXAMPLE.ORG", "pkinit_kdc_trust_timeout" => some (-5)
    | _, _ => none

theorem realm_before_defaults_unusual :
    (call (readClientConfig unusualSettings.profile (some "EXAMPLE.ORG")) {}).2 = .ok () ∧
      ClientMerged (unusualSettings.relations (some "EXAMPLE.ORG") "libdefaults") {}
        (call (readClientConfig unusualSettings.profile (some "EXAMPLE.ORG")) {}).1 := by
  have reads := (realm_before_defaults unusualSettings.profile_holds).1 (some "EXAMPLE.ORG") {}
    (by decide) (by decide)
  have succeeded := reads.1.mpr (by rintro name ⟨⟩)
  exact ⟨succeeded, (reads.2 succeeded).1⟩

/-- **The numbers are not those of the realm, and the EKU check is neither that
of the realm nor that of the defaults.** -/
theorem unusual_values_converted :
    unusualSettings.integer (.realm "EXAMPLE.ORG") "pkinit_kdc_trust_timeout" = some (-5) ∧
      unusualSettings.integer (.realm "EXAMPLE.ORG") "pkinit_dh_min_bits" = some (-1) ∧
      unusualSettings.string (.realm "EXAMPLE.ORG") "pkinit_eku_checking" = some "scLogon" ∧
      unusualSettings.string (.defaults "libdefaults") "pkinit_eku_checking" = some "none" ∧
      ∃ result, call (readClientConfig unusualSettings.profile (some "EXAMPLE.ORG")) {} =
          (result, .ok ()) ∧
        result.kdcTrustTimeout = 0 ∧ result.dhMinBits = 4294967295 ∧
        result.requireEku = true ∧ result.acceptSecondaryEku = false :=
  ⟨rfl, rfl, rfl, rfl, _, rfl, rfl, rfl, rfl, rfl⟩

end Kurbu5Pkinit

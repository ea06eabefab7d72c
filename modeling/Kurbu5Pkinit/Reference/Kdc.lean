import Kurbu5Pkinit.Plugin.Profile
import Kurbu5Pkinit.Reference.Exchange
import Kurbu5Pkinit.Server

/-!
# KDCs of the recorded realm

The realm's KDC, started from what a profile says of groups and KEMs.
-/

set_option autoImplicit false

namespace Kurbu5Pkinit.Reference

open Library

/-- A profile that sets the minimum size alone. -/
def minBitsProfile (minBits : Int32) : Profile where
  getStringOpt _ _ _ := .ok none
  getValues _ := .ok []
  getBoolean _ _ _ default := .ok default
  getInteger _ key _ default := .ok (if key = "pkinit_dh_min_bits" then minBits else default)

/-- The realm's KDC with this configuration. -/
def recordedKdc (config : PkinitKdcConfig) : PkinitKdcState where
  identity := kdcIdentity
  trustStore := trustStore
  config := config.withImplicitKems
  supportedAlgorithmsHint :=
    ((buildSupportedAlgorithmsHint recorded config.withImplicitKems).toOption).join
  tdEphemeralKeyParams :=
    (buildTdEphemeralKeyParams recorded config.withImplicitKems).toOption.getD []

/-- It starts from this profile. -/
structure KdcStarted (profile : Profile) (config : PkinitKdcConfig) : Prop where
  read : readKdcConfig profile "EXAMPLE.COM" = .ok config
  made : PkinitKdcState.new recorded kdcIdentity trustStore config = .ok (recordedKdc config)

/-- Without relations the minimum is 2048 bits. -/
def defaultKdc : PkinitKdcState := recordedKdc {}

set_option maxRecDepth 16384 in
theorem defaultKdc_started : KdcStarted (minBitsProfile 2048) {} where
  read := by decide
  made := by decide

/-- A KDC that admits the smallest curve. -/
def smallGroupKdc : PkinitKdcState := recordedKdc { dhMinBits := 256 }

set_option maxRecDepth 16384 in
theorem smallGroupKdc_started : KdcStarted (minBitsProfile 256) { dhMinBits := 256 } where
  read := by decide
  made := by decide

/-- A profile that requires a KEM, without naming one. -/
def requireKemProfile : Profile where
  getStringOpt _ _ _ := .ok none
  getValues _ := .ok []
  getBoolean _ key _ default := .ok (if key = "pkinit_require_kem" then true else default)
  getInteger _ _ _ default := .ok default

/-- A KDC that accepts every pure KEM and no group. -/
def strictKdc : PkinitKdcState := recordedKdc { requireKem := true }

set_option maxRecDepth 16384 in
theorem strictKdc_started : KdcStarted requireKemProfile { requireKem := true } where
  read := by decide
  made := by decide

end Kurbu5Pkinit.Reference

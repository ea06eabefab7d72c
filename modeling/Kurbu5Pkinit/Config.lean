import Kurbu5Pkinit.Constants

/-!
# Configuration

The settings a client and a KDC start from, with their defaults.
-/

set_option autoImplicit false

namespace Kurbu5Pkinit

structure PkinitClientConfig where
  requireEku : Bool := true
  acceptSecondaryEku : Bool := false
  allowUpn : Bool := false
  requireCrlChecking : Bool := false
  requireFreshness : Bool := false
  disableFreshness : Bool := false
  dhMinBits : Nat := 2048
  dhGroup : DhGroup := .oakley2048
  kemAlgorithm : Option KemAlgorithm := none
  /-- Refuse classic DH/ECDH: always use a KEM and never fall back. -/
  requireKem : Bool := false
  identity : Option String := none
  anchors : List String := []
  intermediates : List String := []
  crls : List String := []
  kdcTrustTofu : Bool := false
  kdcTrustBroker : Option String := none
  kdcTrustTimeout : Nat := 30
  deriving DecidableEq, Repr

structure PkinitKdcConfig where
  requireEku : Bool := true
  acceptSecondaryEku : Bool := false
  allowUpn : Bool := false
  requireCrlChecking : Bool := false
  requireFreshness : Bool := false
  dhMinBits : Nat := 2048
  identity : Option String := none
  anchors : List String := []
  intermediates : List String := []
  crls : List String := []
  authIndicators : List String := []
  supportedKemAlgorithms : List KemAlgorithm := []
  /-- Composite KEMs are an explicit list, not a floor. -/
  supportedCompositeKemAlgorithms : List KemAlgorithm := []
  /-- Refuse classic DH/ECDH requests. -/
  requireKem : Bool := false
  deriving DecidableEq, Repr

end Kurbu5Pkinit

import Kurbu5Pkinit.Library.Fallible
import Kurbu5Pkinit.Platform

/-!
# KEM key pairs

One interface over the pure and the composite algorithms: the key pair
remembers its algorithm, which decides the provider's operation and the length
a ciphertext must have.
-/

set_option autoImplicit false

namespace Kurbu5Pkinit

open Library

structure KemKeyPair where
  algorithm : KemAlgorithm
  privateKey : PrivateKey
  deriving DecidableEq, Repr

namespace KemKeyPair

def generate (platform : Platform) (instant : Instant) (algorithm : KemAlgorithm) :
    Except PkinitError KemKeyPair := do
  let privateKey ← (match algorithm.compositeSubArc with
    | some subArc => platform.crypto.generateCompositeKem instant subArc
    | none => platform.crypto.generateMlKem instant algorithm.parameterSetName).mapError
    fun e => .kemEncapFailed s!"generate {algorithm.parameterSetName}: {e}"
  return ⟨algorithm, privateKey⟩

def publicKeySpkiDer (platform : Platform) (key : KemKeyPair) : Except PkinitError Bytes :=
  (platform.crypto.publicKeySpkiDer key.privateKey).mapError
    fun e => .kemEncapFailed s!"SPKI export: {e}"

def decapsulate (platform : Platform) (key : KemKeyPair) (ciphertext : Bytes) :
    Except PkinitError Bytes := do
  rejectIf (ciphertext.length ≠ key.algorithm.ciphertextLen)
    (.kemCiphertextLengthInvalid key.algorithm.ciphertextLen ciphertext.length)
  (if key.algorithm.isComposite then
    platform.crypto.compositeKemDecapsulate key.privateKey ciphertext
  else
    platform.crypto.mlKemDecapsulate key.privateKey ciphertext).mapError .kemDecapFailed

theorem algorithm_of_generate {platform : Platform} {instant : Instant}
    {algorithm : KemAlgorithm} {key : KemKeyPair}
    (generated : generate platform instant algorithm = .ok key) : key.algorithm = algorithm := by
  simp only [generate, bind_eq_ok, pure_eq_ok, Except.ok.injEq] at generated
  obtain ⟨_, _, rfl⟩ := generated
  rfl

end KemKeyPair

/-- Encapsulate to the client's key: the ciphertext and the shared secret. -/
def encapsulateForClient (platform : Platform) (instant : Instant) (clientSpkiDer : Bytes)
    (algorithm : KemAlgorithm) : Except PkinitError (Bytes × Bytes) := do
  let (ciphertext, sharedSecret) ← (if algorithm.isComposite then
    platform.crypto.compositeKemEncapsulate instant clientSpkiDer
  else
    platform.crypto.mlKemEncapsulate instant clientSpkiDer).mapError
    fun e => .kemEncapFailed s!"encapsulate {algorithm.parameterSetName}: {e}"
  rejectIf (ciphertext.length ≠ algorithm.ciphertextLen)
    (.kemCiphertextLengthInvalid algorithm.ciphertextLen ciphertext.length)
  return (ciphertext, sharedSecret)

end Kurbu5Pkinit

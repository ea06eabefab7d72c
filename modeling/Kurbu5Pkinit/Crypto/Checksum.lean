import Kurbu5Pkinit.Library.Fallible
import Kurbu5Pkinit.Platform

/-!
# Checksums of the request body

The client puts two digests of the encoded request body into the signed part
of its request; the KDC compares those that are present.
-/

set_option autoImplicit false

namespace Kurbu5Pkinit

open Library

structure Checksums where
  sha1 : Bytes
  sha256 : Bytes
  deriving DecidableEq, Repr

def hashForAlgorithm (platform : Platform) (algorithm : String) (data : Bytes) :
    Except PkinitError Bytes :=
  (platform.crypto.hashData algorithm data).mapError fun e => .ossl s!"{algorithm} hash failed: {e}"

def generateChecksums (platform : Platform) (reqBodyDer : Bytes) :
    Except PkinitError Checksums := do
  let sha1 ← (platform.crypto.hashData "sha1" reqBodyDer).mapError
    fun e => .ossl s!"SHA-1 hash failed: {e}"
  let sha256 ← (platform.crypto.hashData "sha256" reqBodyDer).mapError
    fun e => .ossl s!"SHA-256 hash failed: {e}"
  return ⟨sha1, sha256⟩

def verifyChecksum2 (platform : Platform) (reqBodyDer checksumBytes : Bytes) (algorithmOid : Oid) :
    Except PkinitError Unit := do
  let alg ← okOr (platform.crypto.digestOidToName algorithmOid) .checksumFailed
  let expected ← hashForAlgorithm platform alg reqBodyDer
  rejectIf (expected ≠ checksumBytes) .checksumFailed

/-- `paChecksum` is told from its length: 32 bytes are SHA-256, 20 are SHA-1,
anything else fails. -/
def verifyChecksums (platform : Platform) (reqBodyDer paChecksum : Bytes)
    (paChecksum2 : Option (Bytes × Oid)) : Except PkinitError Unit := do
  let computed ← generateChecksums platform reqBodyDer
  match paChecksum.length with
  | 32 => rejectIf (computed.sha256 ≠ paChecksum) .checksumFailed
  | 20 => rejectIf (computed.sha1 ≠ paChecksum) .checksumFailed
  | _ => throw .checksumFailed
  match paChecksum2 with
  | some (checksumBytes, algorithmOid) =>
      verifyChecksum2 platform reqBodyDer checksumBytes algorithmOid
  | none => return ()

end Kurbu5Pkinit

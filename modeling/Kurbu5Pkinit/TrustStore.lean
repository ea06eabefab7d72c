import Kurbu5Pkinit.Library.Fallible
import Kurbu5Pkinit.Platform

/-!
# The trust store

Anchors, intermediate certificates and revocation lists, loaded from files and
directories, and the validation of a presented chain against them.
-/

set_option autoImplicit false

namespace Kurbu5Pkinit

open Library

/-- `str::split_once`: the text before and after the first separator. -/
def splitOnce (separator : Char) (text : String) : Option (String × String) :=
  if separator ∈ text.toList then
    some (String.ofList (text.toList.takeWhile fun c => c ≠ separator),
      String.ofList (text.toList.dropWhile fun c => c ≠ separator).tail)
  else
    none

structure TrustStore where
  anchors : List Bytes := []
  intermediates : List Bytes := []
  crls : List Bytes := []
  deriving DecidableEq, Repr

namespace TrustStore

def addAnchor (store : TrustStore) (certDer : Bytes) : TrustStore :=
  { store with anchors := store.anchors ++ [certDer] }

/-- A labelled block: certificates become anchors, CRLs are kept, anything
else is skipped. -/
def addBlock (store : TrustStore) (block : String × Bytes) : TrustStore :=
  if block.1 = "CERTIFICATE" then
    store.addAnchor block.2
  else if block.1 = "X509 CRL" then
    { store with crls := store.crls ++ [block.2] }
  else
    store

/-- One entry of a directory: a file that does not parse is skipped, one that
cannot be read is an error. -/
def loadEntry (platform : Platform) (instant : Instant) (store : TrustStore)
    (entry : Except String DirEntry) : Except PkinitError TrustStore := do
  let entry ← entry.mapError fun e => .identityLoadFailed s!"dir entry: {e}"
  if entry.isFile then
    let data ← (platform.files.read instant entry.path).mapError
      fun e => .identityLoadFailed s!"reading {entry.path}: {e}"
    match platform.files.readPkiBlocks data with
    | .ok blocks => return blocks.foldl addBlock store
    | .error _ => return store
  else
    return store

def loadFromPath (platform : Platform) (instant : Instant) (store : TrustStore) (uri : String) :
    Except PkinitError TrustStore :=
  let (scheme, path) := (splitOnce ':' uri).getD ("FILE", uri)
  if scheme = "FILE" then do
    let data ← (platform.files.read instant path).mapError
      fun e => .identityLoadFailed s!"reading {path}: {e}"
    let blocks ← (platform.files.readPkiBlocks data).mapError
      fun e => .identityLoadFailed s!"parsing {path}: {e}"
    return blocks.foldl addBlock store
  else if scheme = "DIR" then do
    let entries ← (platform.files.readDir instant path).mapError
      fun e => .identityLoadFailed s!"reading dir {path}: {e}"
    entries.foldlM (loadEntry platform instant) store
  else
    .error (.config s!"unsupported trust store URI scheme: {scheme}")

/-- A certificate of the chain, decoded for the validator. -/
def decodeIntermediate (platform : Platform) (der : Bytes) :
    Except PkinitError VerificationCertificate := do
  let cert ← (platform.synta.certificate.fromDer der).mapError
    fun e => .chainValidationFailed s!"decoding intermediate cert: {e}"
  return ⟨cert, der⟩

def validateChain (platform : Platform) (instant : Instant) (store : TrustStore)
    (certDer : Bytes) (chain : List Bytes) (requireCrl : Bool) : Except PkinitError Unit := do
  (platform.x509.openStore store.anchors).mapError
    fun e => .chainValidationFailed s!"building trust store: {e}"
  let leafCert ← (platform.synta.certificate.fromDer certDer).mapError
    fun e => .chainValidationFailed s!"decoding leaf cert: {e}"
  let intermediates ← (chain ++ store.intermediates).mapM (decodeIntermediate platform)
  let policy := PolicyDefinition.newClient instant.now .permitAll
  rejectIf (requireCrl = true ∧ store.crls = [])
    (.chainValidationFailed "CRL checking required but no CRLs loaded")
  let revocation := if requireCrl then some store.crls else none
  (platform.x509.verify ⟨leafCert, certDer⟩ intermediates policy store.anchors
    { crls := revocation }).mapError .chainValidationFailed

end TrustStore

end Kurbu5Pkinit

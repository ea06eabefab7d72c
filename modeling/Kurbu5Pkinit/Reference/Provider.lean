import Kurbu5Pkinit.Reference.Synta

/-!
# A provider that answers from a recording

Cryptography, path validation and the Kerberos library as a finite record of
what the real ones answered. A question that was not recorded is an error. How
the answers fit together is built in: a signature verifies under the key of
its signer, a secret is the same from both sides, and an encapsulation is
answered only if it opens again.
-/

set_option autoImplicit false

namespace Kurbu5Pkinit.Reference

open Library

/-- The recorded answer to a question. -/
def recalled {κ β : Type} [DecidableEq κ] (table : List (κ × β)) (question : κ) :
    Except String β :=
  match table.find? fun entry => entry.1 = question with
  | some entry => .ok entry.2
  | none => .error "not recorded"

theorem mem_of_recalled {κ β : Type} [DecidableEq κ] {table : List (κ × β)} {question : κ}
    {answer : β} (known : recalled table question = .ok answer) : (question, answer) ∈ table := by
  unfold recalled at known
  cases found : table.find? fun entry => entry.1 = question with
  | none => simp [found] at known
  | some entry =>
      rw [found] at known
      obtain rfl : entry.1 = question := by simpa using List.find?_some found
      cases known
      exact List.mem_of_find?_eq_some found

/-- A key pair: the draw it was generated with, its handle, its public key. -/
structure KeyRecord where
  draw : Nat
  key : PrivateKey
  spki : Bytes

structure Recording where
  /-- Digests, by the hash and its input. -/
  digests : List ((String × Bytes) × Bytes)
  /-- Signing keys with their certificates' public keys. -/
  signers : List (PrivateKey × Bytes)
  /-- ECDSA signatures under SHA-256, by the signer's public key and the message. -/
  signatures : List ((Bytes × Bytes) × Bytes)
  /-- Key pairs on P-256, and the secrets of pairs of public keys. -/
  ecKeys : List KeyRecord
  secrets : List ((Bytes × Bytes) × Bytes)
  /-- ML-KEM key pairs by parameter set, and what was encapsulated to them under
  a draw. -/
  kemKeys : List (String × KeyRecord)
  encapsulations : List ((Nat × Bytes) × (Bytes × Bytes))
  /-- Random strings, by the draw and the length. -/
  random : List ((Nat × Nat) × Bytes)
  /-- The single-step derivation and the two steps of HKDF. -/
  derivations : List ((String × Bytes × Bytes × Nat) × Bytes)
  extractions : List (Bytes × Bytes)
  expansions : List ((Bytes × Bytes × Nat) × Bytes)
  /-- Leaves with the anchors they validate to. -/
  paths : List (Bytes × List Bytes)
  /-- Principals by name, and the principals of encoded names. -/
  principals : List (String × (PrincipalName × Option Bytes))
  sanPrincipals : List (Bytes × String)
  files : List (String × Bytes)
  /-- What the reader of PEM files finds in a text. -/
  blocks : List (Bytes × List (String × Bytes))

namespace Recording

def ECDSA_WITH_SHA256 : Oid := [1, 2, 840, 10045, 4, 3, 2]

def ecdsaWithSha256Der : Bytes :=
  writeAlgorithmIdentifier ⟨ECDSA_WITH_SHA256, none⟩

/-- The hashes with their identifiers. -/
def hashes : List (String × Oid) :=
  [("sha1", [1, 3, 14, 3, 2, 26]), ("sha256", ID_SHA256),
   ("sha384", [2, 16, 840, 1, 101, 3, 4, 2, 2]), ("sha512", [2, 16, 840, 1, 101, 3, 4, 2, 3])]

variable (r : Recording)

def ecPublicKey (key : PrivateKey) : Except String Bytes :=
  match r.ecKeys.find? fun entry => entry.key = key with
  | some entry => .ok entry.spki
  | none => .error "not recorded"

def kemPublicKey (key : PrivateKey) : Except String Bytes :=
  match r.kemKeys.find? fun entry => entry.2.key = key with
  | some entry => .ok entry.2.spki
  | none => .error "not recorded"

/-- The secret of two public keys, in either order. -/
def sharedSecret (left right : Bytes) : Except String Bytes :=
  match r.secrets.find? fun entry => entry.1 = (left, right) ∨ entry.1 = (right, left) with
  | some entry => .ok entry.2
  | none => .error "not recorded"

theorem sharedSecret_comm (left right : Bytes) :
    r.sharedSecret left right = r.sharedSecret right left := by
  simp only [sharedSecret, or_comm]

def decapsulated (spki ciphertext : Bytes) : Except String Bytes :=
  match r.encapsulations.find? fun entry => entry.1.2 = spki ∧ entry.2.1 = ciphertext with
  | some entry => .ok entry.2.2
  | none => .error "not recorded"

def generated (keys : List KeyRecord) (instant : Instant) : Except String PrivateKey :=
  match keys.find? fun entry => entry.draw = instant.draw with
  | some entry => .ok entry.key
  | none => .error "not recorded"

def crypto : Cryptography where
  digestAlgId name := (hashes.find? fun entry => entry.1 = name).map fun entry => ⟨entry.2, none⟩
  digestOidToName oid := (hashes.find? fun entry => entry.2 = oid).map Prod.fst
  hashData name data := recalled r.digests (name, data)
  signatureAlgorithmDer key hash :=
    if hash = "sha256" ∧ key ∈ r.signers.map Prod.fst then
      .ok ecdsaWithSha256Der
    else
      .error "not recorded"
  signTbs _ key hash message :=
    if hash = "sha256" then do
      let spki ← recalled r.signers key
      recalled r.signatures (spki, message)
    else
      .error "not recorded"
  publicKeyFromDer spki :=
    if spki ∈ r.signers.map Prod.snd then .ok ⟨spki⟩ else .error "not recorded"
  verifySignature key message algorithm signature :=
    if algorithm = ecdsaWithSha256Der ∧ ((key.spki, message), signature) ∈ r.signatures then
      .ok ()
    else
      .error "bad signature"
  isCompositeMlDsa _ := false
  randomBytes instant length := recalled r.random (instant.draw, length)
  generateDhx _ _ := .error "not recorded"
  generateEc instant curve :=
    if curve = "P-256" then generated r.ecKeys instant else .error "not recorded"
  publicKeyToDer := r.ecPublicKey
  peerKeyFromDer spki :=
    if spki ∈ r.ecKeys.map KeyRecord.spki then
      .ok ⟨spki, 256, some "prime256v1", none⟩
    else
      .error "not recorded"
  exportFailure _ := none
  derive key peer := do
    let own ← r.ecPublicKey key
    r.sharedSecret own peer.spki
  generateMlKem instant name :=
    generated ((r.kemKeys.filter fun entry => entry.1 = name).map Prod.snd) instant
  generateCompositeKem _ _ := .error "not recorded"
  publicKeySpkiDer := r.kemPublicKey
  mlKemEncapsulate instant spki := do
    let (ciphertext, secret) ← recalled r.encapsulations (instant.draw, spki)
    if r.decapsulated spki ciphertext = .ok secret then
      return (ciphertext, secret)
    else
      throw "not recorded"
  compositeKemEncapsulate _ _ := .error "not recorded"
  mlKemDecapsulate key ciphertext := do
    let own ← r.kemPublicKey key
    r.decapsulated own ciphertext
  compositeKemDecapsulate _ _ := .error "not recorded"
  hkdfExtract hash salt input :=
    if hash = "sha512" ∧ salt = none then recalled r.extractions input else .error "not recorded"
  hkdfExpand hash prk info length :=
    if hash = "sha512" then recalled r.expansions (prk, info, length) else .error "not recorded"
  sskdf digest secret info length := recalled r.derivations (digest, secret, info, length)

/-- The seed and key lengths of the AES encryption types. -/
def aesKeylengths (enctype : Int32) : Except Int (Nat × Nat) :=
  if enctype = 17 ∨ enctype = 19 then
    .ok (16, 16)
  else if enctype = 18 ∨ enctype = 20 then
    .ok (32, 32)
  else
    .error (-1765328196)

def writeGeneralString (text : String) : Bytes :=
  tlv 0x1B (asciiBytes text)

/-- A principal with its realm. -/
def writePrincipal (type : Int) (components : List String) (realm : String) : Bytes :=
  sequence (explicitly 0 (writeGeneralString realm) ++
    explicitly 1 (sequence (explicitly 0 (writeInteger type) ++
      explicitly 1 (sequence (components.flatMap writeGeneralString)))))

def kerberos : Kerberos where
  parsePrincipal name := (recalled r.principals name).toOption
  realmToString := textOfBytes
  asLatin1String := textOfBytes
  encodePrincipalName type components realm := .ok (writePrincipal type components realm)
  decodeKrb5San name := (recalled r.sanPrincipals name).toOption
  unparsePrincipal p :=
    .ok ("/".intercalate (p.components.map textOfBytes) ++ "@" ++ textOfBytes p.realm)
  keylengths := aesKeylengths
  randomToKey _ length bytes :=
    if bytes.length = length then .ok bytes else .error (-1765328194)

def x509 : X509Verification where
  openStore anchors :=
    match anchors.mapM synta.certificate.fromDer with
    | .ok _ => .ok ()
    | .error e => .error e
  verify leaf _ _ anchors _ :=
    if (leaf.der, anchors) ∈ r.paths then .ok () else .error "no path to an anchor"

/-- Files by their paths, and nothing else of the operating system. -/
def fileSystem : Files where
  read _ path := recalled r.files path
  readDir _ _ := .error "not recorded"
  envVar _ _ := .error "environment variable not found"
  readPkiBlocks data := recalled r.blocks data
  pkiFromPkcs12 _ _ := .error (.other "not recorded")
  privateKeyFromPkcs11Uri _ _ := .error "not recorded"
  certsFromPkcs11Uri _ _ := .error "not recorded"

def platform : Platform where
  usizeBits := 64
  synta := synta
  crypto := r.crypto
  x509 := r.x509
  krb5 := r.kerberos
  files := r.fileSystem

end Recording

end Kurbu5Pkinit.Reference

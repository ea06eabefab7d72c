import Kurbu5Pkinit.TrustStore

/-!
# Identities

The certificate, key and chain a party signs with, and the five sources they
are loaded from. A PKCS#12 archive that does not open under the empty password
is the one failure that asks for more input.
-/

set_option autoImplicit false

namespace Kurbu5Pkinit

open Library

structure PkinitIdentity where
  certDer : Bytes
  signingKey : Option PrivateKey
  chain : List Bytes
  deriving DecidableEq, Repr

/-- The identity of an anonymous client. -/
def PkinitIdentity.anonymous : PkinitIdentity where
  certDer := []
  signingKey := none
  chain := []

/-! ## Sources -/

inductive IdentitySource where
  | file (certPath keyPath : String)
  | dir (dirPath : String)
  | pkcs12 (path : String)
  | pkcs11Uri (uri : String)
  | env (certVar keyVar : String)
  deriving DecidableEq, Repr

def IdentitySource.parse (uri : String) : Except PkinitError IdentitySource := do
  let (scheme, rest) ← okOr (splitOnce ':' uri) (.config s!"identity URI missing scheme: {uri}")
  match scheme with
  | "FILE" =>
      let (cert, key) ← okOr (splitOnce ',' rest)
        (.config s!"FILE identity requires cert,key paths: {rest}")
      return .file cert key
  | "DIR" => return .dir rest
  | "PKCS12" => return .pkcs12 rest
  | "PKCS11" => return .pkcs11Uri rest
  | "ENV" =>
      let (certVar, keyVar) ← okOr (splitOnce ',' rest)
        (.config s!"ENV identity requires cert_var,key_var: {rest}")
      return .env certVar keyVar
  | _ => throw (.config s!"unknown identity scheme: {scheme}")

/-! ## Loading -/

/-- The first certificate of the blocks, and the others. -/
def extractCertAndChain (blocks : List (String × Bytes)) :
    Except PkinitError (Bytes × List Bytes) :=
  match (blocks.filter fun block => block.1 = "CERTIFICATE").map Prod.snd with
  | [] => .error (.identityLoadFailed "no certificate found")
  | certDer :: chain => .ok (certDer, chain)

def extractPrivateKey (blocks : List (String × Bytes)) : Except PkinitError Bytes :=
  match blocks.find? fun block => block.1 = "PRIVATE KEY" || block.1 = "RSA PRIVATE KEY" with
  | some (_, der) => .ok der
  | none => .error (.identityLoadFailed "no private key found")

def mapPkcs12Error : Pkcs12Error → PkinitError
  | .decryption _ => .pkcs12PasswordRequired
  | .other text => .identityLoadFailed s!"parsing PKCS#12: {text}"

/-- A PKCS#11 URI without its query, which may hold a PIN. -/
def redactPkcs11Uri (uri : String) : String :=
  match splitOnce '?' uri with
  | some (path, _) => path
  | none => uri

/-- `str::split`, on the characters of a text. -/
def splitChars (separator : Char) : List Char → List (List Char)
  | [] => [[]]
  | c :: rest =>
      if c = separator then
        [] :: splitChars separator rest
      else
        match splitChars separator rest with
        | [] => [[c]]
        | head :: tail => (c :: head) :: tail

theorem splitChars_eq_splitOn (separator : Char) (text : List Char) :
    splitChars separator text = text.splitOn separator := by
  induction text with
  | nil => rfl
  | cons c rest ih =>
      rw [splitChars, ih, List.splitOn_cons_eq_if_modifyHead]
      by_cases same : c = separator
      · simp [same]
      · simp only [same, if_false, beq_iff_eq]
        cases pieces : rest.splitOn separator with
        | nil => exact absurd pieces (List.splitOn_ne_nil separator rest)
        | cons head tail => rfl

/-- `str::split`. -/
def split (separator : Char) (text : String) : List String :=
  (splitChars separator text.toList).map String.ofList

/-- The URI that selects a token's certificates: any `type=` attribute of the
path is replaced by `type=cert`, the query is kept. -/
def pkcs11CertUri (uri : String) : String :=
  let (path, query) := match splitOnce '?' uri with
    | some (path, query) => (path, some query)
    | none => (uri, none)
  let components := (split ';' path).filter fun c => !("type=".toList.isPrefixOf c.toList)
  let out := ";".intercalate (components ++ ["type=cert"])
  match query with
  | some query => out ++ "?" ++ query
  | none => out

namespace PkinitIdentity

def loadFile (platform : Platform) (instant : Instant) (certPath keyPath : String) :
    Except PkinitError PkinitIdentity := do
  let certData ← (platform.files.read instant certPath).mapError
    fun e => .identityLoadFailed s!"reading cert {certPath}: {e}"
  let keyData ← (platform.files.read instant keyPath).mapError
    fun e => .identityLoadFailed s!"reading key {keyPath}: {e}"
  let certBlocks ← (platform.files.readPkiBlocks certData).mapError
    fun e => .identityLoadFailed s!"parsing cert file: {e}"
  let keyBlocks ← (platform.files.readPkiBlocks keyData).mapError
    fun e => .identityLoadFailed s!"parsing key file: {e}"
  let (certDer, chain) ← extractCertAndChain certBlocks
  let keyDer ← extractPrivateKey keyBlocks
  return ⟨certDer, some ⟨keyDer⟩, chain⟩

/-- The blocks of one directory entry; a file that does not parse has none. -/
def entryBlocks (platform : Platform) (instant : Instant) (entry : Except String DirEntry) :
    Except PkinitError (List (String × Bytes)) := do
  let entry ← entry.mapError fun e => .identityLoadFailed s!"reading dir entry: {e}"
  if entry.isFile then
    let data ← (platform.files.read instant entry.path).mapError
      fun e => .identityLoadFailed s!"reading {entry.path}: {e}"
    match platform.files.readPkiBlocks data with
    | .ok blocks => return blocks
    | .error _ => return []
  else
    return []

def loadDir (platform : Platform) (instant : Instant) (dirPath : String) :
    Except PkinitError PkinitIdentity := do
  let entries ← (platform.files.readDir instant dirPath).mapError
    fun e => .identityLoadFailed s!"reading directory {dirPath}: {e}"
  let blocks ← entries.mapM (entryBlocks platform instant)
  let (certDer, chain) ← extractCertAndChain blocks.flatten
  let keyDer ← extractPrivateKey blocks.flatten
  return ⟨certDer, some ⟨keyDer⟩, chain⟩

def loadPkcs12 (platform : Platform) (instant : Instant) (path : String) (password : Bytes) :
    Except PkinitError PkinitIdentity := do
  let data ← (platform.files.read instant path).mapError
    fun e => .identityLoadFailed s!"reading PKCS#12 {path}: {e}"
  let pki ← (platform.files.pkiFromPkcs12 data password).mapError mapPkcs12Error
  let certDer ← okOr pki.certs.head? (.identityLoadFailed "PKCS#12 contains no certificates")
  let keyDer ← okOr pki.keys.head? (.identityLoadFailed "PKCS#12 contains no private keys")
  return ⟨certDer, some ⟨keyDer⟩, pki.certs.tail⟩

def loadPkcs11 (platform : Platform) (instant : Instant) (uri : String) :
    Except PkinitError PkinitIdentity := do
  let signingKey ← (platform.files.privateKeyFromPkcs11Uri instant uri).mapError
    fun e => .identityLoadFailed s!"loading PKCS#11 key from {redactPkcs11Uri uri}: {e}"
  let certUri := pkcs11CertUri uri
  let certs ← (platform.files.certsFromPkcs11Uri instant certUri).mapError
    fun e => .identityLoadFailed
      s!"loading PKCS#11 certificate from {redactPkcs11Uri certUri}: {e}"
  let certDer ← okOr certs.head?
    (.identityLoadFailed s!"PKCS#11 token exposes no certificate for {redactPkcs11Uri uri}")
  return ⟨certDer, some signingKey, certs.tail⟩

def loadEnv (platform : Platform) (instant : Instant) (certVar keyVar : String) :
    Except PkinitError PkinitIdentity := do
  let certPath ← (platform.files.envVar instant certVar).mapError
    fun e => .identityLoadFailed s!"reading env var {certVar}: {e}"
  let keyPath ← (platform.files.envVar instant keyVar).mapError
    fun e => .identityLoadFailed s!"reading env var {keyVar}: {e}"
  loadFile platform instant certPath keyPath

def load (platform : Platform) (instant : Instant) :
    IdentitySource → Except PkinitError PkinitIdentity
  | .file certPath keyPath => loadFile platform instant certPath keyPath
  | .dir dirPath => loadDir platform instant dirPath
  | .pkcs12 path => loadPkcs12 platform instant path []
  | .pkcs11Uri uri => loadPkcs11 platform instant uri
  | .env certVar keyVar => loadEnv platform instant certVar keyVar

end PkinitIdentity

/-! ## What a loaded identity has -/

variable {platform : Platform}

/-- The identity was loaded from this source, at some time, under some
password if it needed one. -/
inductive LoadedFrom (platform : Platform) (identityStr : String) (identity : PkinitIdentity) :
    Prop
  | atOnce {source : IdentitySource} {instant : Instant}
      (parsed : IdentitySource.parse identityStr = .ok source)
      (loads : PkinitIdentity.load platform instant source = .ok identity)
  | withPassword {path : String} {password : Bytes} {instant : Instant}
      (parsed : IdentitySource.parse identityStr = .ok (.pkcs12 path))
      (loads : PkinitIdentity.loadPkcs12 platform instant path password = .ok identity)

/-- Files and tokens hold no empty certificates. -/
structure CertificatesNonempty (files : Files) : Prop where
  blocks : ∀ data blocks, files.readPkiBlocks data = .ok blocks → ("CERTIFICATE", []) ∉ blocks
  pkcs12 : ∀ data password pki, files.pkiFromPkcs12 data password = .ok pki → [] ∉ pki.certs
  pkcs11 : ∀ instant uri certs, files.certsFromPkcs11Uri instant uri = .ok certs → [] ∉ certs

theorem mem_of_extractCertAndChain {blocks : List (String × Bytes)} {certDer : Bytes}
    {chain : List Bytes} (extracted : extractCertAndChain blocks = .ok (certDer, chain)) :
    ("CERTIFICATE", certDer) ∈ blocks := by
  unfold extractCertAndChain at extracted
  split at extracted
  · cases extracted
  · next found =>
      cases extracted
      have member : certDer ∈ (blocks.filter fun block => block.1 = "CERTIFICATE").map Prod.snd :=
        found ▸ List.mem_cons_self
      obtain ⟨⟨label, der⟩, kept, rfl⟩ := List.mem_map.mp member
      obtain ⟨present, labelled⟩ := List.mem_filter.mp kept
      obtain rfl : label = "CERTIFICATE" := by simpa using labelled
      exact present

theorem not_mem_entryBlocks (nonempty : CertificatesNonempty platform.files) {instant : Instant}
    {entry : Except String DirEntry} {blocks : List (String × Bytes)}
    (read : PkinitIdentity.entryBlocks platform instant entry = .ok blocks) :
    ("CERTIFICATE", []) ∉ blocks := by
  simp only [PkinitIdentity.entryBlocks, bind_eq_ok] at read
  obtain ⟨entry, _, read⟩ := read
  split at read
  · simp only [bind_eq_ok] at read
    obtain ⟨data, _, read⟩ := read
    split at read
    · next blocks' parsed =>
        cases read
        exact nonempty.blocks data _ parsed
    · cases read
      exact List.not_mem_nil
  · cases read
    exact List.not_mem_nil

theorem loadFile_certDer_ne_nil (nonempty : CertificatesNonempty platform.files)
    {instant : Instant} {certPath keyPath : String} {identity : PkinitIdentity}
    (loads : PkinitIdentity.loadFile platform instant certPath keyPath = .ok identity) :
    identity.certDer ≠ [] := by
  simp only [PkinitIdentity.loadFile, bind_eq_ok, mapError_eq_ok, pure_eq_ok, Except.ok.injEq]
    at loads
  obtain ⟨data, _, _, _, blocks, parsed, _, _, ⟨certDer, chain⟩, extracted, _, _, rfl⟩ := loads
  rintro rfl
  exact nonempty.blocks data blocks parsed (mem_of_extractCertAndChain extracted)

theorem loadDir_certDer_ne_nil (nonempty : CertificatesNonempty platform.files)
    {instant : Instant} {dirPath : String} {identity : PkinitIdentity}
    (loads : PkinitIdentity.loadDir platform instant dirPath = .ok identity) :
    identity.certDer ≠ [] := by
  simp only [PkinitIdentity.loadDir, bind_eq_ok, mapError_eq_ok, pure_eq_ok, Except.ok.injEq]
    at loads
  obtain ⟨entries, _, blocks, read, ⟨certDer, chain⟩, extracted, _, _, rfl⟩ := loads
  rintro rfl
  obtain ⟨some, ofEntry, member⟩ := List.mem_flatten.mp (mem_of_extractCertAndChain extracted)
  obtain ⟨entry, _, read⟩ := exists_of_mem_mapM read ofEntry
  exact not_mem_entryBlocks nonempty read member

theorem loadPkcs12_certDer_ne_nil (nonempty : CertificatesNonempty platform.files)
    {instant : Instant} {path : String} {password : Bytes} {identity : PkinitIdentity}
    (loads : PkinitIdentity.loadPkcs12 platform instant path password = .ok identity) :
    identity.certDer ≠ [] := by
  simp only [PkinitIdentity.loadPkcs12, bind_eq_ok, mapError_eq_ok, okOr_eq_ok, pure_eq_ok,
    Except.ok.injEq] at loads
  obtain ⟨data, _, pki, opened, certDer, first, _, _, rfl⟩ := loads
  rintro rfl
  exact nonempty.pkcs12 data password pki opened (List.mem_of_head? first)

theorem loadPkcs11_certDer_ne_nil (nonempty : CertificatesNonempty platform.files)
    {instant : Instant} {uri : String} {identity : PkinitIdentity}
    (loads : PkinitIdentity.loadPkcs11 platform instant uri = .ok identity) :
    identity.certDer ≠ [] := by
  simp only [PkinitIdentity.loadPkcs11, bind_eq_ok, mapError_eq_ok, okOr_eq_ok, pure_eq_ok,
    Except.ok.injEq] at loads
  obtain ⟨_, _, certs, listed, certDer, first, rfl⟩ := loads
  rintro rfl
  exact nonempty.pkcs11 instant _ certs listed (List.mem_of_head? first)

theorem LoadedFrom.certDer_ne_nil (nonempty : CertificatesNonempty platform.files)
    {identityStr : String} {identity : PkinitIdentity}
    (loaded : LoadedFrom platform identityStr identity) : identity.certDer ≠ [] := by
  cases loaded with
  | withPassword _ loads => exact loadPkcs12_certDer_ne_nil nonempty loads
  | @atOnce source instant _ loads =>
      cases source with
      | file certPath keyPath => exact loadFile_certDer_ne_nil nonempty loads
      | dir dirPath => exact loadDir_certDer_ne_nil nonempty loads
      | pkcs12 path => exact loadPkcs12_certDer_ne_nil nonempty loads
      | pkcs11Uri uri => exact loadPkcs11_certDer_ne_nil nonempty loads
      | env certVar keyVar =>
          simp only [PkinitIdentity.load, PkinitIdentity.loadEnv, bind_eq_ok, mapError_eq_ok]
            at loads
          obtain ⟨_, _, _, _, loads⟩ := loads
          exact loadFile_certDer_ne_nil nonempty loads

end Kurbu5Pkinit

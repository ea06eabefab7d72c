import Kurbu5Pkinit.Library.Fallible
import Kurbu5Pkinit.TrustProto

/-!
# Exporting the trusted realms

`pkinit-trust-ctl export` turns the realms a broker trusts into permanent
configuration: a PEM file for the CA of each, and a `[realms]` section that
names the files. A realm whose name is not safe as a file name is passed over.

What the command asks the disk to write is logged in order, also when a write
then fails.
-/

set_option autoImplicit false

namespace Kurbu5Pkinit

open Library

/-! ## Names and paths -/

def isSafeChar (c : Char) : Bool :=
  c.isAlphanum || c = '.' || c = '-' || c = '_'

/-- Realm names are conventionally uppercase DNS-like or X.500-like strings;
anything else is not built into a path. -/
def safeFilename (realm : String) : Option String :=
  if realm ≠ "" ∧ realm ≠ "." ∧ realm ≠ ".." ∧ realm.toList.all isSafeChar then
    some realm
  else
    none

/-- `Path::join`. -/
def joinPath (dir name : String) : String :=
  if name.toList.head? = some '/' then
    name
  else if dir.toList.getLast?.all fun c => c = '/' then
    dir ++ name
  else
    dir ++ "/" ++ name

/-! ## PEM -/

/-- `slice::chunks`: pieces of the given length, the last one possibly shorter. -/
def chunksFrom {α : Type} (n : Nat) : List α → List α → List (List α)
  | [], [] => []
  | current, [] => [current]
  | current, x :: rest =>
      if current.length = n then
        current :: chunksFrom n [x] rest
      else
        chunksFrom n (current ++ [x]) rest

def chunks {α : Type} (n : Nat) (xs : List α) : List (List α) :=
  chunksFrom n [] xs

def PEM_BEGIN : String := "-----BEGIN CERTIFICATE-----"
def PEM_END : String := "-----END CERTIFICATE-----"

/-- The encoding is ASCII, so its bytes are its characters. -/
def toPem (base64 : Base64Engine) (der : Bytes) : String :=
  PEM_BEGIN ++ "\n" ++
    String.ofList ((chunks 64 (base64.encode der).toList).flatMap fun chunk => chunk ++ ['\n']) ++
    PEM_END ++ "\n"

/-! ## Export -/

/-- The disk, by which of its operations fail. -/
structure Disk where
  createDirAll : String → Except String Unit
  write : String → String → Except String Unit

/-- The files written so far, with their contents. -/
abbrev Writes : Type := List (String × String)

def realmStanza (realm certPath : String) : String :=
  (" " ++ realm ++ " = \x7b") ++ "\n" ++ ("  pkinit_anchors = FILE:" ++ certPath) ++ "\n" ++
    " \x7d" ++ "\n"

/-- The loop over the realms, with the snippet built so far. -/
def exportRealms (base64 : Base64Engine) (disk : Disk) (anchorsDir : String) :
    List TrustedRealm → String → EStateM String Writes String
  | [], snippet => return snippet
  | r :: rest, snippet =>
      match safeFilename r.realm with
      | none => exportRealms base64 disk anchorsDir rest snippet
      | some filename => do
          let der ← lift (base64.decode r.caDer)
          let certPath := joinPath anchorsDir (filename ++ ".pem")
          modify fun writes => writes ++ [(certPath, toPem base64 der)]
          lift (disk.write certPath (toPem base64 der))
          exportRealms base64 disk anchorsDir rest (snippet ++ realmStanza r.realm certPath)

/-- `export`. -/
def exportTrust (base64 : Base64Engine) (disk : Disk) (store : TrustStoreReply)
    (anchorsDir : String) : EStateM String Writes String := do
  lift (disk.createDirAll anchorsDir)
  exportRealms base64 disk anchorsDir store.realms "[realms]\n"

variable {base64 : Base64Engine}

/-! ## Lines -/

def linesOf (text : String) : List (List Char) :=
  text.toList.splitOn '\n'

/-- Lines that are ended one by one are the lines of the whole. -/
theorem splitOn_flatMap_lines (lines : List (List Char)) (rest : List Char)
    (whole : ∀ line ∈ lines, '\n' ∉ line) :
    ((lines.flatMap fun line => line ++ ['\n']) ++ rest).splitOn '\n' =
      lines ++ rest.splitOn '\n' := by
  induction lines with
  | nil => rfl
  | cons line lines ih =>
      have tail := ih fun line member => whole line (List.mem_cons_of_mem _ member)
      rw [List.flatMap_cons, List.append_assoc, List.append_assoc, List.singleton_append,
        List.splitOn_append_cons_self, tail,
        List.splitOn_eq_singleton (whole line List.mem_cons_self)]
      rfl

theorem length_splitOn (text : List Char) : (text.splitOn '\n').length = text.count '\n' + 1 := by
  induction text with
  | nil => rfl
  | cons c text ih =>
      rw [List.splitOn_cons_eq_if_modifyHead]
      by_cases ends : c = '\n'
      · simp [ends, ih]
      · simp [ends, ih]

/-! ## A certificate in PEM -/

theorem flatten_chunksFrom {α : Type} (n : Nat) (current xs : List α) :
    (chunksFrom n current xs).flatten = current ++ xs := by
  induction xs generalizing current with
  | nil => cases current <;> simp [chunksFrom]
  | cons x rest ih =>
      simp only [chunksFrom]
      split
      · rw [List.flatten_cons, ih, List.singleton_append]
      · rw [ih, List.append_assoc, List.singleton_append]

theorem length_le_of_mem_chunksFrom {α : Type} {n : Nat} (positive : 0 < n)
    {current xs piece : List α} (short : current.length ≤ n)
    (member : piece ∈ chunksFrom n current xs) : piece.length ≤ n := by
  induction xs generalizing current with
  | nil =>
      cases current with
      | nil => cases member
      | cons x current =>
          obtain rfl := List.mem_singleton.mp member
          exact short
  | cons x rest ih =>
      simp only [chunksFrom] at member
      split at member
      · rcases List.mem_cons.mp member with rfl | member
        · exact short
        · refine ih ?_ member
          rw [List.length_singleton]
          omega
      · next unfinished =>
          refine ih ?_ member
          rw [List.length_append, List.length_singleton]
          omega

/-- Between the two boundary lines there are lines of at most 64 characters,
which are the base64 text of the certificate. -/
def HoldsCertificate (base64 : Base64Engine) (text : String) (der : Bytes) : Prop :=
  ∃ body : List (List Char),
    linesOf text = PEM_BEGIN.toList :: body ++ [PEM_END.toList, []] ∧
    (∀ line ∈ body, line.length ≤ 64) ∧
    base64.decode (String.ofList body.flatten) = .ok der

/-- An encoding is one line. -/
theorem Base64Engine.Standard.unbroken (standard : base64.Standard) (der : Bytes) :
    '\n' ∉ (base64.encode der).toList := by
  intro present
  have impossible := standard.alphabet der '\n' present
  revert impossible
  decide

/-- **What `to_pem` writes holds the certificate**, whatever its length. -/
theorem holdsCertificate_toPem (standard : base64.Standard) (der : Bytes) :
    HoldsCertificate base64 (toPem base64 der) der := by
  have whole : (chunks 64 (base64.encode der).toList).flatten = (base64.encode der).toList :=
    flatten_chunksFrom 64 [] _
  refine ⟨chunks 64 (base64.encode der).toList, ?_, ?_, ?_⟩
  · have text : (toPem base64 der).toList =
        ((PEM_BEGIN.toList :: (chunks 64 (base64.encode der).toList) ++
          [PEM_END.toList]).flatMap fun line => line ++ ['\n']) ++ [] := by
      simp [toPem]
    have unbroken : ∀ line ∈ PEM_BEGIN.toList :: (chunks 64 (base64.encode der).toList) ++
        [PEM_END.toList], '\n' ∉ line := by
      intro line member
      simp only [List.cons_append, List.mem_cons, List.mem_append, List.not_mem_nil,
        or_false] at member
      rcases member with rfl | member | rfl
      · decide
      · intro broken
        apply standard.unbroken der
        rw [← whole]
        exact List.mem_flatten.mpr ⟨line, member, broken⟩
      · decide
    rw [linesOf, text, splitOn_flatMap_lines _ _ unbroken]
    simp
  · intro line member
    exact length_le_of_mem_chunksFrom (by decide) (by simp) member
  · rw [whole, String.ofList_toList, standard.roundTrips]

/-! ## Safe names -/

theorem safeFilename_eq_some {realm name : String} (safe : safeFilename realm = some name) :
    name = realm ∧ realm ≠ "" ∧ ∀ c ∈ realm.toList, isSafeChar c = true := by
  unfold safeFilename at safe
  split at safe
  · next allowed =>
      obtain ⟨nonempty, _, _, characters⟩ := allowed
      exact ⟨(Option.some.inj safe).symm, nonempty, List.all_eq_true.mp characters⟩
  · cases safe

/-- A safe name has no character that ends a line, a name or a path. -/
theorem not_mem_of_safe {realm name : String} (safe : safeFilename realm = some name) {c : Char}
    (excluded : isSafeChar c = false) : c ∉ realm.toList := by
  intro member
  have allowed := (safeFilename_eq_some safe).2.2 c member
  rw [excluded] at allowed
  cases allowed

/-- The file of a realm. -/
def pemPath (anchorsDir realm : String) : String :=
  joinPath anchorsDir (realm ++ ".pem")

/-- The directory as the front of a path. -/
def dirPrefix (dir : String) : String :=
  if dir.toList.getLast?.all fun c => c = '/' then dir else dir ++ "/"

/-- A name without a separator, in the directory itself. -/
def DirectlyInside (dir path : String) : Prop :=
  ∃ name, path = dirPrefix dir ++ name ∧ name ≠ "" ∧ name ≠ "." ∧ name ≠ ".." ∧ '/' ∉ name.toList

theorem pemPath_eq {realm name : String} (safe : safeFilename realm = some name)
    (anchorsDir : String) :
    pemPath anchorsDir realm = dirPrefix anchorsDir ++ (realm ++ ".pem") := by
  have relative : (realm ++ ".pem").toList.head? ≠ some '/' := by
    intro absolute
    have member : '/' ∈ (realm ++ ".pem").toList := List.mem_of_mem_head? absolute
    rw [String.toList_append, List.mem_append] at member
    rcases member with member | member
    · exact not_mem_of_safe safe (by decide) member
    · revert member
      decide
  unfold pemPath joinPath dirPrefix
  rw [if_neg relative]
  split <;> simp [String.append_assoc]

theorem directlyInside_pemPath {realm name : String} (safe : safeFilename realm = some name)
    (anchorsDir : String) : DirectlyInside anchorsDir (pemPath anchorsDir realm) := by
  have long : 4 < (realm ++ ".pem").length := by
    have nonempty : 0 < realm.length := by
      rw [Nat.pos_iff_ne_zero]
      intro empty
      exact (safeFilename_eq_some safe).2.1 (String.length_eq_zero_iff.mp empty)
    have suffix : ".pem".length = 4 := by decide
    rw [String.length_append, suffix]
    omega
  refine ⟨realm ++ ".pem", pemPath_eq safe anchorsDir, ?_, ?_, ?_, ?_⟩
  · intro same
    rw [same] at long
    revert long
    decide
  · intro same
    rw [same] at long
    revert long
    decide
  · intro same
    rw [same] at long
    revert long
    decide
  · rw [String.toList_append, List.mem_append, not_or]
    exact ⟨not_mem_of_safe safe (by decide), by decide⟩

/-- Distinct realms have distinct files. -/
theorem pemPath_injective {realm other name name' anchorsDir : String}
    (safe : safeFilename realm = some name) (safe' : safeFilename other = some name')
    (same : pemPath anchorsDir realm = pemPath anchorsDir other) : realm = other := by
  rw [pemPath_eq safe, pemPath_eq safe'] at same
  have lists := congrArg String.toList same
  simp only [String.toList_append, List.append_cancel_left_eq, List.append_cancel_right_eq] at lists
  exact String.toList_injective lists

/-! ## What an export writes -/

/-- The certificate to publish for a listed realm. -/
def IsPublished (base64 : Base64Engine) (r : TrustedRealm) (published : String × Bytes) : Prop :=
  published.1 = r.realm ∧ base64.decode r.caDer = .ok published.2

/-- The file of a published certificate. -/
def pemFile (base64 : Base64Engine) (anchorsDir : String) (published : String × Bytes) :
    String × String :=
  (pemPath anchorsDir published.1, toPem base64 published.2)

def realmLines (anchorsDir : String) (published : String × Bytes) : String :=
  realmStanza published.1 (pemPath anchorsDir published.1)

/-- The listed realms with a safe name. -/
def safeRealms (realms : List TrustedRealm) : List TrustedRealm :=
  realms.filter fun r => (safeFilename r.realm).isSome

/-- The files of the first few of the realms with a safe name; of all of them,
with a stanza each, when nothing failed. -/
structure Exported (base64 : Base64Engine) (anchorsDir : String) (realms : List TrustedRealm)
    (writes : Writes) (snippet : String) (writes' : Writes) (r : Except String String) :
    Prop where
  written : ∃ done published, done <+: safeRealms realms ∧
    List.Forall₂ (IsPublished base64) done published ∧
    writes' = writes ++ published.map (pemFile base64 anchorsDir) ∧
    ∀ snippet', r = .ok snippet' → done = safeRealms realms ∧
      snippet'.toList = snippet.toList ++
        published.flatMap fun p => (realmLines anchorsDir p).toList

theorem count_of_safe {realm name : String} (safe : safeFilename realm = some name) :
    (realm ++ ".pem").toList.count '\n' = 0 := by
  rw [List.count_eq_zero, String.toList_append, List.mem_append, not_or]
  exact ⟨not_mem_of_safe safe (by decide), by decide⟩

theorem count_dirPrefix (dir : String) :
    (dirPrefix dir).toList.count '\n' = dir.toList.count '\n' := by
  unfold dirPrefix
  split
  · rfl
  · simp [String.toList_append]

/-- The line that names the file of a realm. -/
def anchorsLine (anchorsDir realm : String) : String :=
  "  pkinit_anchors = FILE:" ++ pemPath anchorsDir realm

/-- It has the line ends of the directory, and none of the realm. -/
theorem length_linesOf_anchorsLine {realm name : String} (safe : safeFilename realm = some name)
    (anchorsDir : String) :
    (linesOf (anchorsLine anchorsDir realm)).length = (linesOf anchorsDir).length := by
  have label : "  pkinit_anchors = FILE:".toList.count '\n' = 0 := by decide
  have path : (pemPath anchorsDir realm).toList.count '\n' = anchorsDir.toList.count '\n' := by
    rw [pemPath_eq safe, String.toList_append, List.count_append, count_dirPrefix,
      count_of_safe safe, Nat.add_zero]
  have line : (anchorsLine anchorsDir realm).toList.count '\n' = anchorsDir.toList.count '\n' := by
    unfold anchorsLine
    rw [String.toList_append, List.count_append, label, path, Nat.zero_add]
  unfold linesOf
  rw [length_splitOn, length_splitOn, line]

/-- The lines of a stanza. -/
def stanzaLines (anchorsDir realm : String) : List (List Char) :=
  (" " ++ realm ++ " = \x7b").toList :: linesOf (anchorsLine anchorsDir realm) ++ [" \x7d".toList]

/-- The section has the lines of its stanzas. -/
theorem linesOf_snippet {anchorsDir snippet : String} {published : List (String × Bytes)}
    (safe : ∀ p ∈ published, safeFilename p.1 = some p.1)
    (text : snippet.toList = "[realms]\n".toList ++
      published.flatMap fun p => (realmLines anchorsDir p).toList) :
    linesOf snippet = "[realms]".toList ::
      (published.flatMap fun p => stanzaLines anchorsDir p.1) ++ [[]] := by
  have header : "[realms]\n".toList = "[realms]".toList ++ ['\n'] := rfl
  have title : '\n' ∉ "[realms]".toList := by decide
  have stanzas : (published.flatMap fun p => (realmLines anchorsDir p).toList).splitOn '\n' =
      (published.flatMap fun p => stanzaLines anchorsDir p.1) ++ [[]] := by
    clear text
    induction published with
    | nil => rfl
    | cons p published ih =>
        have tail := ih fun p member => safe p (List.mem_cons_of_mem _ member)
        have opening : '\n' ∉ (" " ++ p.1 ++ " = \x7b").toList := by
          simp only [String.toList_append, List.mem_append, not_or]
          exact ⟨⟨by decide, not_mem_of_safe (safe p List.mem_cons_self) (by decide)⟩, by decide⟩
        have closing : '\n' ∉ " \x7d".toList := by decide
        have split : (realmLines anchorsDir p).toList =
            (" " ++ p.1 ++ " = \x7b").toList ++ '\n' :: ((anchorsLine anchorsDir p.1).toList ++
              '\n' :: (" \x7d".toList ++ ['\n'])) := by
          have newline : "\n".toList = ['\n'] := rfl
          unfold realmLines realmStanza anchorsLine
          simp only [String.toList_append, newline, List.append_assoc, List.nil_append,
            List.cons_append]
        rw [List.flatMap_cons, split, List.flatMap_cons, stanzaLines]
        simp only [List.append_assoc, List.cons_append, List.nil_append]
        rw [List.splitOn_append_cons_self, List.splitOn_append_cons_self,
          List.splitOn_append_cons_self, tail, List.splitOn_eq_singleton opening,
          List.splitOn_eq_singleton closing]
        simp [linesOf]
  rw [linesOf, text, header, List.append_assoc, List.singleton_append,
    List.splitOn_append_cons_self, List.splitOn_eq_singleton title, stanzas]
  rfl

theorem exportRealms_outcome (disk : Disk) (anchorsDir : String) (realms : List TrustedRealm)
    (snippet : String) (writes : Writes) :
    Ends (exportRealms base64 disk anchorsDir realms snippet) writes
      (Exported base64 anchorsDir realms writes snippet) := by
  induction realms generalizing snippet writes with
  | nil =>
      refine ⟨[], [], List.nil_prefix, .nil, (List.append_nil writes).symm, ?_⟩
      rintro _ ⟨⟩
      exact ⟨rfl, by simp⟩
  | cons r rest ih =>
      unfold exportRealms
      cases safe : safeFilename r.realm with
      | none =>
          have passed : safeRealms (r :: rest) = safeRealms rest := by simp [safeRealms, safe]
          refine (ih snippet writes).mono fun writes' result exported => ?_
          obtain ⟨done, published, prefixed, files, same, whole⟩ := exported.written
          exact ⟨done, published, passed ▸ prefixed, files, same, by rwa [passed]⟩
      | some filename =>
          have kept : safeRealms (r :: rest) = r :: safeRealms rest := by simp [safeRealms, safe]
          obtain ⟨rfl, _⟩ := safeFilename_eq_some safe
          dsimp only
          refine Ends.bind_lift (fun e _ => ?_) ?_
          · exact ⟨[], [], List.nil_prefix, .nil, by simp, nofun⟩
          · intro der decoded
            refine Ends.bind_modify (Ends.bind_lift (fun e _ => ?_) ?_)
            · refine ⟨[r], [(r.realm, der)], ?_, .cons ⟨rfl, decoded⟩ .nil, rfl, nofun⟩
              rw [kept]
              exact ⟨safeRealms rest, rfl⟩
            · intro _ _
              refine (ih _ _).mono fun writes' result exported => ?_
              obtain ⟨done, published, prefixed, files, same, whole⟩ := exported.written
              refine ⟨r :: done, (r.realm, der) :: published, ?_, .cons ⟨rfl, decoded⟩ files, ?_,
                ?_⟩
              · rw [kept]
                exact List.cons_prefix_cons.mpr ⟨rfl, prefixed⟩
              · rw [same, List.append_assoc]
                rfl
              · intro snippet' succeeded
                obtain ⟨all, text⟩ := whole snippet' succeeded
                refine ⟨by rw [all, kept], ?_⟩
                rw [text, String.toList_append, List.append_assoc]
                rfl

/-- A disk that takes every write, and texts that decode: nothing fails. -/
theorem exportRealms_succeeds {disk : Disk} (writable : ∀ path text, disk.write path text = .ok ())
    (anchorsDir : String) {realms : List TrustedRealm}
    (decodes : ∀ r ∈ realms, ∃ der, base64.decode r.caDer = .ok der) (snippet : String)
    (writes : Writes) :
    Ends (exportRealms base64 disk anchorsDir realms snippet) writes
      fun _ r => ∃ snippet', r = .ok snippet' := by
  induction realms generalizing snippet writes with
  | nil => exact ⟨snippet, rfl⟩
  | cons r rest ih =>
      have others := fun r member => decodes r (List.mem_cons_of_mem _ member)
      unfold exportRealms
      cases safe : safeFilename r.realm with
      | none => exact ih others snippet writes
      | some filename =>
          obtain ⟨der, decoded⟩ := decodes r List.mem_cons_self
          refine Ends.bind_lift_ok decoded ?_
          refine Ends.bind_modify (Ends.bind_lift_ok (writable _ _) ?_)
          exact ih others _ _

end Kurbu5Pkinit

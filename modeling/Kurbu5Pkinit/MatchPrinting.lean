import Kurbu5Pkinit.MatchSplitting
import Kurbu5Pkinit.Reference.Exchange

/-!
# Rules and their texts

A rule that is a disjunction of conjunctions of leaves is written with `||`
between its disjuncts and `&&` between their leaves, each leaf behind its tag
and with any white space around it. A value is plain when nothing in it could
be cut off. The parser reads the rule back from each of its texts, with lists
of one collapsed, and what it reads says of a certificate what the rule does
(`certMatcher_parse_print`).
-/

set_option autoImplicit false

namespace Kurbu5Pkinit

open Library

variable {build : Build} {a : Separator}

/-! ## Numbers -/

theorem toDigit_digitChar {radix digit : Nat} (small : radix ≤ 16) (below : digit < radix) :
    toDigit radix (Nat.digitChar digit) = some digit := by
  have hex : ∀ digit < 16, toDigit 16 (Nat.digitChar digit) = some digit := by decide
  have hexDigit := hex digit (by omega)
  rw [toDigit, Option.filter_eq_some_iff] at hexDigit ⊢
  exact ⟨hexDigit.1, by simpa using below⟩

theorem pushDigit_digitChar {radix bound n digit : Nat} (small : radix ≤ 16) (below : digit < radix)
    (fits : n * radix + digit < bound) :
    pushDigit radix bound n (Nat.digitChar digit) = .ok (n * radix + digit) := by
  rw [pushDigit, toDigit_digitChar small below, okOr_some, ok_bind, rejectIf_of_not (by omega)]
  rfl

theorem foldlM_pushDigit_toDigits {radix bound n : Nat} (some : 1 < radix) (small : radix ≤ 16)
    (fits : n < bound) : (Nat.toDigits radix n).foldlM (pushDigit radix bound) 0 = .ok n := by
  by_cases single : n < radix
  · rw [Nat.toDigits_of_lt_base single, List.foldlM_cons,
      pushDigit_digitChar small single (by omega)]
    simp
  · have split : n / radix * radix + n % radix = n := Nat.div_add_mod' n radix
    have shrinks : n / radix < n := Nat.div_lt_self (by omega) some
    have front := foldlM_pushDigit_toDigits some small (Nat.lt_trans shrinks fits)
    rw [Nat.toDigits_of_base_le some (by omega), List.foldlM_append, front, ok_bind,
      List.foldlM_cons, pushDigit_digitChar small (Nat.mod_lt n (by omega)) (by omega), split]
    rfl
termination_by n

/-- A digit is no sign and no bracket, and nothing that separates. -/
theorem digitChar_plain {radix digit : Nat} (small : radix ≤ 16) (below : digit < radix) :
    Nat.digitChar digit ∉ ['+', '.', '<', '>', '&', '|'] ∧
      isWhitespace (Nat.digitChar digit) = false := by
  have plain : ∀ digit < 16, Nat.digitChar digit ∉ ['+', '.', '<', '>', '&', '|'] ∧
      isWhitespace (Nat.digitChar digit) = false := by decide
  exact plain digit (by omega)

theorem toDigits_plain {radix n : Nat} (some : 1 < radix) (small : radix ≤ 16) :
    ∀ c ∈ Nat.toDigits radix n, c ∉ ['+', '.', '<', '>', '&', '|'] ∧ isWhitespace c = false := by
  by_cases single : n < radix
  · rw [Nat.toDigits_of_lt_base single]
    intro c member
    obtain rfl := List.mem_singleton.mp member
    exact digitChar_plain small single
  · have shrinks : n / radix < n := Nat.div_lt_self (by omega) some
    have front := @toDigits_plain radix (n / radix) some small
    rw [Nat.toDigits_of_base_le some (by omega)]
    intro c member
    rcases List.mem_append.mp member with member | member
    · exact front c member
    · obtain rfl := List.mem_singleton.mp member
      exact digitChar_plain small (Nat.mod_lt n (by omega))
termination_by n

/-- A number is read back from its digits. -/
theorem fromStrRadix_toDigits {radix bound n : Nat} (some : 1 < radix) (small : radix ≤ 16)
    (fits : n < bound) : fromStrRadix radix bound (Nat.toDigits radix n) = .ok n := by
  have digits := foldlM_pushDigit_toDigits some small fits
  obtain ⟨c, rest, written⟩ := List.exists_cons_of_ne_nil
    (Nat.toDigits_ne_nil (n := n) (b := radix))
  have plain := (toDigits_plain some small c (written ▸ List.mem_cons_self)).1
  rw [written] at digits ⊢
  have unsigned : c ≠ '+' := fun sign => plain (sign ▸ List.mem_cons_self)
  unfold fromStrRadix
  split
  · next empty => cases empty
  · next sign => exact absurd (List.cons.inj sign).1 unsigned
  · next sign => exact absurd (List.cons.inj sign).1 unsigned
  · exact digits

/-! ## Leaves -/

/-- What can stand behind a tag: nothing in it is cut off or trimmed. -/
structure Plain (text : List Char) : Prop where
  noBrackets : '<' ∉ text ∧ '>' ∉ text
  noSeparators : ∀ a ∈ ['&', '|'], ¬ [a, a] <:+: text
  noSeparatorEnd : ∀ a ∈ ['&', '|'], text.getLast? ≠ some a
  noSpaceEnd : ∀ c ∈ text.getLast?, isWhitespace c = false

inductive Leaf where
  | subject (value : String) (plain : Plain value.toList)
  | issuer (value : String) (plain : Plain value.toList)
  | san (value : String) (plain : Plain value.toList)
  | eku (oid : List UInt32) (some : oid ≠ [])
  | ku (bits : UInt16)

namespace Leaf

def rule : Leaf → MatchRule
  | subject value _ => .subject value
  | issuer value _ => .issuer value
  | san value _ => .san value
  | eku oid _ => .eku oid
  | ku bits => .ku bits

def tag : Leaf → List Char
  | subject _ _ => ['S', 'U', 'B', 'J', 'E', 'C', 'T']
  | issuer _ _ => ['I', 'S', 'S', 'U', 'E', 'R']
  | san _ _ => ['S', 'A', 'N']
  | eku _ _ => ['E', 'K', 'U']
  | ku _ => ['K', 'U']

/-- The arcs in decimal with dots between them, the bits in hexadecimal. -/
def value : Leaf → List Char
  | subject value _ => value.toList
  | issuer value _ => value.toList
  | san value _ => value.toList
  | eku oid _ => ['.'].intercalate (oid.map fun arc => Nat.toDigits 10 arc.toNat)
  | ku bits => Nat.toDigits 16 bits.toNat

def text (leaf : Leaf) : List Char :=
  '<' :: leaf.tag ++ '>' :: leaf.value

end Leaf

theorem plain_of_forall {text : List Char}
    (plain : ∀ c ∈ text, c ∉ ['<', '>', '&', '|'] ∧ isWhitespace c = false) : Plain text where
  noBrackets := ⟨fun member => (plain _ member).1 (by decide),
    fun member => (plain _ member).1 (by decide)⟩
  noSeparators a two doubled := by
    have member := doubled.subset (List.mem_cons_self)
    exact (plain a member).1 (List.mem_cons_of_mem _ (List.mem_cons_of_mem _ two))
  noSeparatorEnd a two ends :=
    (plain a (List.mem_of_getLast? ends)).1 (List.mem_cons_of_mem _ (List.mem_cons_of_mem _ two))
  noSpaceEnd c ends := (plain c (List.mem_of_getLast? ends)).2

theorem forall_mem_intercalate {p : Char → Prop} {sep : List Char} {pieces : List (List Char)}
    (here : ∀ c ∈ sep, p c) (there : ∀ piece ∈ pieces, ∀ c ∈ piece, p c) :
    ∀ c ∈ sep.intercalate pieces, p c := by
  induction pieces with
  | nil => exact fun c none => absurd none List.not_mem_nil
  | cons piece pieces ih =>
      have rest := ih fun piece member => there piece (List.mem_cons_of_mem _ member)
      cases pieces with
      | nil =>
          rw [List.intercalate_singleton]
          exact there piece List.mem_cons_self
      | cons next pieces =>
          rw [List.intercalate_cons_cons]
          intro c member
          rcases List.mem_append.mp member with member | member
          · rcases List.mem_append.mp member with member | member
            · exact there piece List.mem_cons_self c member
            · exact here c member
          · exact rest c member

namespace Leaf

theorem plain_value (leaf : Leaf) : Plain leaf.value := by
  cases leaf with
  | subject value plain => exact plain
  | issuer value plain => exact plain
  | san value plain => exact plain
  | eku oid some =>
      refine plain_of_forall (forall_mem_intercalate (List.forall_mem_singleton.mpr (by decide))
        fun digits member c digit => ?_)
      obtain ⟨arc, _, rfl⟩ := List.mem_map.mp member
      have plain := @toDigits_plain 10 _ (by decide) (by decide) c digit
      exact ⟨fun member => plain.1 (List.mem_cons_of_mem _ (List.mem_cons_of_mem _ member)),
        plain.2⟩
  | ku bits =>
      refine plain_of_forall fun c digit => ?_
      have plain := @toDigits_plain 16 _ (by decide) (by decide) c digit
      exact ⟨fun member => plain.1 (List.mem_cons_of_mem _ (List.mem_cons_of_mem _ member)),
        plain.2⟩

end Leaf

/-! ## Texts that stay whole -/

variable (build a) in
/-- A text is not cut, and ends outside brackets. -/
def Whole (text : List Char) : Prop :=
  (brackets build a).Quiet (.ok 0) text ∧ (brackets build a).depthAfter (.ok 0) text = .ok 0

theorem Whole.append {text text' : List Char} (whole : Whole build a text)
    (whole' : Whole build a text') : Whole build a (text ++ text') := by
  refine ⟨whole.1.append ?_, ?_⟩
  · rw [whole.2]
    exact whole'.1
  · rw [TopLevel.depthAfter_append, whole.2, whole'.2]

theorem Whole.intercalate {sep : List Char} {pieces : List (List Char)} (whole : Whole build a sep)
    (others : ∀ piece ∈ pieces, Whole build a piece) : Whole build a (sep.intercalate pieces) := by
  induction pieces with
  | nil => exact ⟨trivial, rfl⟩
  | cons piece pieces ih =>
      have here := others piece List.mem_cons_self
      have rest := ih fun piece member => others piece (List.mem_cons_of_mem _ member)
      cases pieces with
      | nil => rwa [List.intercalate_singleton]
      | cons next pieces =>
          rw [List.intercalate_cons_cons]
          exact (here.append whole).append rest

theorem Blank.whole {text : List Char} (blank : Blank text) : Whole build a text :=
  ⟨TopLevel.quiet_of_not_mem (t := brackets build a) blank.not_mem,
    TopLevel.depthAfter_of_flat fun c member => blank.flat c member⟩

/-- Characters other than brackets change no depth. -/
theorem flat_of_not_mem {text : List Char} (plain : '<' ∉ text ∧ '>' ∉ text) :
    ∀ c ∈ text, ∀ depth, bracketStep build depth c = depth := by
  intro c member depth
  cases depth with
  | error e => rfl
  | ok depth =>
      have opens : c ≠ '<' := fun same => plain.1 (same ▸ member)
      have closes : c ≠ '>' := fun same => plain.2 (same ▸ member)
      rw [bracketStep, ok_bind, if_neg opens, if_neg closes]
      rfl

theorem Leaf.whole (leaf : Leaf) (separates : a.char ∈ ['&', '|']) : Whole build a leaf.text := by
  have plain := leaf.plain_value
  have other : a.char ∉ '<' :: leaf.tag ++ ['>'] := by
    rcases List.mem_pair.mp separates with same | same <;> rw [same] <;> cases leaf <;>
      simp [Leaf.tag]
  have closed : (brackets build a).depthAfter (.ok 0) ('<' :: leaf.tag ++ ['>']) = .ok 0 := by
    cases build <;> cases leaf <;> rfl
  have front : Whole build a ('<' :: leaf.tag ++ ['>']) :=
    ⟨TopLevel.quiet_of_not_mem (t := brackets build a) other, closed⟩
  have value : Whole build a leaf.value :=
    ⟨TopLevel.quiet_of_not_infix (t := brackets build a) (plain.noSeparators _ separates)
        (plain.noSeparatorEnd _ separates),
      TopLevel.depthAfter_of_flat (flat_of_not_mem plain.noBrackets)⟩
  have whole := front.append value
  rwa [List.append_assoc] at whole

/-! ## Reading a leaf -/

/-- A text with nothing to trim at its ends. -/
theorem trim_of_solid {text : List Char} (first : ∀ c ∈ text.head?, isWhitespace c = false)
    (last : ∀ c ∈ text.getLast?, isWhitespace c = false) : trim text = text := by
  have kept : ∀ text : List Char, (∀ c ∈ text.head?, isWhitespace c = false) →
      text.dropWhile isWhitespace = text := by
    intro text first
    cases text with
    | nil => rfl
    | cons c text => rw [List.dropWhile_cons_of_neg (by simp [first c rfl])]
  rw [trim, kept text first, kept text.reverse (by rwa [List.head?_reverse]), List.reverse_reverse]

theorem Leaf.trim_text (leaf : Leaf) : trim leaf.text = leaf.text := by
  refine trim_of_solid (fun c first => ?_) fun c last => ?_
  · obtain rfl := Option.some.inj first
    decide
  · rw [Leaf.text, List.getLast?_append] at last
    cases empty : leaf.value.getLast? with
    | none =>
        rw [List.getLast?_eq_none_iff.mp empty] at last
        obtain rfl := Option.some.inj last
        decide
    | some d =>
        have same : ('>' :: leaf.value).getLast? = some d := by
          rw [List.getLast?_cons, empty]
          rfl
        rw [same] at last
        obtain rfl := Option.some.inj last
        exact leaf.plain_value.noSpaceEnd _ empty

theorem parseArcs_intercalate {oid : List UInt32} (some : oid ≠ []) :
    parseArcs (['.'].intercalate (oid.map fun arc => Nat.toDigits 10 arc.toNat)) = .ok oid := by
  have dotless : ∀ digits ∈ oid.map fun arc => Nat.toDigits 10 arc.toNat, '.' ∉ digits := by
    intro digits member dot
    obtain ⟨arc, _, rfl⟩ := List.mem_map.mp member
    exact (toDigits_plain (by decide) (by decide) _ dot).1 (by decide)
  have read : ∀ arc ∈ oid, UInt32.ofNat <$> fromStrRadix 10 (2 ^ 32)
      (Nat.toDigits 10 arc.toNat) = .ok arc := by
    intro arc _
    rw [fromStrRadix_toDigits (by decide) (by decide) arc.toNat_lt]
    exact congrArg Except.ok UInt32.ofNat_toNat
  rw [parseArcs, splitChars_eq_splitOn, List.splitOn_intercalate _ dotless (by simpa using some),
    mapError_eq_ok, mapM_eq_ok, List.forall₂_map_left_iff]
  exact List.forall₂_same.mpr read

/-- **A leaf is read back.** -/
theorem parseLeaf_text (leaf : Leaf) : parseLeaf leaf.text = .ok leaf.rule := by
  have close : '>' ∉ '<' :: leaf.tag := by
    cases leaf <;> simp [Leaf.tag]
  have tag : sliceText leaf.text 1 (byteLength ('<' :: leaf.tag)) = .ok leaf.tag := by
    have slice := sliceBytes_append ['<'] leaf.tag ('>' :: leaf.value)
    have whole : ['<'] ++ leaf.tag ++ '>' :: leaf.value = leaf.text := rfl
    rw [whole] at slice
    exact congrArg (okOr · _) slice
  have value : sliceText leaf.text (byteLength ('<' :: leaf.tag) + 1) (byteLength leaf.text) =
      .ok leaf.value := by
    have slice := sliceBytes_append ('<' :: leaf.tag ++ ['>']) leaf.value []
    have whole : '<' :: leaf.tag ++ ['>'] ++ leaf.value ++ [] = leaf.text := by
      simp [Leaf.text]
    rw [whole, ← byteLength_append, ← List.append_nil (_ ++ leaf.value), whole,
      byteLength_append] at slice
    exact congrArg (okOr · _) slice
  have found : findText ['>'] leaf.text = some (byteLength ('<' :: leaf.tag)) :=
    findText_singleton close leaf.value
  have opens : ¬ leaf.text.head? ≠ some '<' := fun other => other rfl
  simp only [parseLeaf, leaf.trim_text, rejectIf_of_not opens, ok_bind, found, okOr_some, tag,
    value]
  cases leaf with
  | subject value plain => simp [Leaf.tag, Leaf.value, Leaf.rule]
  | issuer value plain => simp [Leaf.tag, Leaf.value, Leaf.rule]
  | san value plain => simp [Leaf.tag, Leaf.value, Leaf.rule]
  | eku oid some => simp [Leaf.tag, Leaf.value, Leaf.rule, parseArcs_intercalate some]
  | ku bits =>
      have bound : bits.toNat < 65536 := bits.toNat_lt
      have read := @fromStrRadix_toDigits 16 65536 bits.toNat (by decide) (by decide) bound
      simp [Leaf.tag, Leaf.value, Leaf.rule, read]

/-! ## Rules and their texts -/

/-- A leaf with white space around it. -/
def PrintsLeaf (leaf : Leaf) (text : List Char) : Prop :=
  ∃ before after, Blank before ∧ Blank after ∧ text = before ++ leaf.text ++ after

/-- One or more parts with a separator between them. -/
def PrintsJoined {α : Type} (sep : List Char) (prints : α → List Char → Prop) (parts : List α)
    (text : List Char) : Prop :=
  parts ≠ [] ∧ ∃ texts, List.Forall₂ prints parts texts ∧ text = sep.intercalate texts

def PrintsAnd : List Leaf → List Char → Prop :=
  PrintsJoined ['&', '&'] PrintsLeaf

def PrintsOr : List (List Leaf) → List Char → Prop :=
  PrintsJoined ['|', '|'] PrintsAnd

def andRule (leaves : List Leaf) : MatchRule :=
  collapse .and (leaves.map Leaf.rule)

def orRule (disjuncts : List (List Leaf)) : MatchRule :=
  collapse .or (disjuncts.map andRule)

def Separator.and : Separator where
  char := '&'
  ascii := by decide
  other := by decide
  solid := by decide

def Separator.or : Separator where
  char := '|'
  ascii := by decide
  other := by decide
  solid := by decide

theorem PrintsLeaf.whole {leaf : Leaf} {text : List Char} (prints : PrintsLeaf leaf text)
    (separates : a.char ∈ ['&', '|']) : Whole build a text := by
  obtain ⟨before, after, blank, blank', rfl⟩ := prints
  exact (blank.whole.append (leaf.whole separates)).append blank'.whole

theorem PrintsLeaf.parse {leaf : Leaf} {text : List Char} (prints : PrintsLeaf leaf text) :
    parseLeaf text = .ok leaf.rule := by
  obtain ⟨before, after, blank, blank', rfl⟩ := prints
  rw [parseLeaf_trims before leaf.text after blank blank', parseLeaf_text]

/-- The other separator does not cut. -/
theorem Separator.whole_doubled {b : Separator} (different : a.char ≠ b.char) :
    Whole build a b.doubled := by
  have only : ∀ c ∈ b.doubled, c = b.char := by
    simp [Separator.doubled]
  refine ⟨TopLevel.quiet_of_not_mem (t := brackets build a) fun member => ?_,
    TopLevel.depthAfter_of_flat fun c member => ?_⟩
  · exact different (only _ member)
  · rw [only c member]
    exact (brackets build b).stays

theorem PrintsAnd.whole {leaves : List Leaf} {text : List Char} (prints : PrintsAnd leaves text) :
    Whole build .or text := by
  obtain ⟨_, texts, parts, rfl⟩ := prints
  refine Whole.intercalate (Separator.whole_doubled (b := .and) (by decide)) fun piece member => ?_
  obtain ⟨leaf, _, printed⟩ := exists_left_of_forall₂ parts member
  exact printed.whole (by decide)

/-- Parts that are not cut are read one by one. -/
theorem parseParts_of_prints {α : Type} {prints : α → List Char → Prop} {rule : α → MatchRule}
    {parsePart : List Char → Except PkinitError MatchRule} {parts : List α} {text : List Char}
    (joined : List MatchRule → MatchRule)
    (whole : ∀ part text, prints part text → Whole build a text)
    (reads : ∀ part text, prints part text → parsePart text = .ok (rule part))
    (printed : PrintsJoined a.doubled prints parts text) :
    parseParts build a.doubled parsePart joined text = .ok (collapse joined (parts.map rule)) := by
  obtain ⟨some, texts, related, rfl⟩ := printed
  have pieces : ∀ piece ∈ texts, Whole build a piece := by
    intro piece member
    obtain ⟨part, _, printed⟩ := exists_left_of_forall₂ related member
    exact whole part piece printed
  have cut : (brackets build a).split (.ok 0) [] (a.doubled.intercalate texts) = texts := by
    refine TopLevel.split_intercalate (fun none => some ?_) pieces
    rw [none] at related
    exact List.forall₂_nil_right_iff.mp related
  have flat : (brackets build a).depthAfter (.ok 0) (a.doubled.intercalate texts) = .ok 0 :=
    TopLevel.depthAfter_intercalate (t := brackets build a) fun piece member =>
      (pieces piece member).2
  have read : texts.mapM parsePart = .ok (parts.map rule) := by
    rw [mapM_eq_ok, List.forall₂_map_right_iff]
    exact (related.imp fun _ _ printed => reads _ _ printed).flip
  rw [parseParts_eq, splitTopLevel_eq, flat, ok_bind, pure_eq_ok, ok_bind, cut, read]
  rfl

theorem parseOr_of_prints {disjuncts : List (List Leaf)} {text : List Char}
    (prints : PrintsOr disjuncts text) : parseOr build text = .ok (orRule disjuncts) := by
  refine parseParts_of_prints (a := .or) .or (fun _ _ printed => printed.whole) ?_ prints
  intro leaves text printed
  exact parseParts_of_prints (a := .and) .and (fun _ _ printed => printed.whole (by decide))
    (fun _ _ printed => printed.parse) printed

theorem certMatcher_parse_of_prints {disjuncts : List (List Leaf)} {ruleStr : String}
    (prints : PrintsOr disjuncts ruleStr.toList) :
    CertMatcher.parse build ruleStr = .ok ⟨orRule disjuncts⟩ := by
  have trims : Trims (parseOr build) :=
    Trims.parseParts (a := .or) (Trims.parseParts (a := .and) parseLeaf_trims .and) .or
  rw [CertMatcher.parse, trims.trim, parseOr_of_prints prints]
  rfl

/-! ## What a rule says of a certificate -/

/-- What the leaves look at. -/
structure CertFields where
  subject : String
  issuer : String
  pkinitSans : List String
  upnSans : List String
  dnsNames : List String
  ekuOids : List Oid
  keyUsage : Nat

/-- All fields of a certificate decode. -/
structure Decodes (platform : Platform) (formatDn : Bytes → String) (certDer : Bytes)
    (fields : CertFields) : Prop where
  subject : extractSubjectDn platform formatDn certDer = .ok fields.subject
  issuer : extractIssuerDn platform formatDn certDer = .ok fields.issuer
  pkinitSans : extractPkinitSans platform certDer = .ok fields.pkinitSans
  upnSans : extractUpnSans platform certDer = .ok fields.upnSans
  dnsNames : extractDnsNames platform certDer = .ok fields.dnsNames
  ekuOids : extractEkuOids platform certDer = .ok fields.ekuOids
  keyUsage : extractKeyUsage platform certDer = .ok fields.keyUsage

def Leaf.Holds (fields : CertFields) : Leaf → Prop
  | .subject value _ => simpleMatch fields.subject value = .ok true
  | .issuer value _ => simpleMatch fields.issuer value = .ok true
  | .san value _ => ∃ name ∈ fields.pkinitSans ++ fields.upnSans ++ fields.dnsNames,
      simpleMatch name value = .ok true
  | .eku oid _ => oid.map UInt32.toNat ∈ fields.ekuOids
  | .ku bits => fields.keyUsage &&& bits.toNat = bits.toNat

/-- An evaluation answers, and yes exactly where something is the case. -/
def Answers (evaluated : Except PkinitError Bool) (holds : Prop) : Prop :=
  ∃ answer, evaluated = .ok answer ∧ (answer = true ↔ holds)

theorem simpleMatch_answers (haystack pattern : String) :
    Answers (simpleMatch haystack pattern) (simpleMatch haystack pattern = .ok true) := by
  obtain ⟨answer, ran, _⟩ := simpleMatch_answered haystack pattern
  exact ⟨answer, ran, by rw [ran, Except.ok.injEq]⟩

theorem anyMatches_answers (pattern : String) (names : List String) :
    Answers (anyMatches pattern names) (∃ name ∈ names, simpleMatch name pattern = .ok true) := by
  induction names with
  | nil => exact ⟨false, rfl, by simp⟩
  | cons name names ih =>
      obtain ⟨here, ran, _⟩ := simpleMatch_answers name pattern
      rw [anyMatches, ran, ok_bind]
      cases here with
      | true => exact ⟨true, rfl, by simp [ran]⟩
      | false => simpa [Answers, ran] using ih

section Evaluate

variable {platform : Platform} {formatDn : Bytes → String} {certDer : Bytes} {fields : CertFields}

theorem evaluate_leaf (decodes : Decodes platform formatDn certDer fields) (leaf : Leaf) :
    Answers (evaluate platform formatDn certDer leaf.rule) (leaf.Holds fields) := by
  cases leaf with
  | subject value plain =>
      rw [Leaf.rule, evaluate, decodes.subject, ok_bind]
      exact simpleMatch_answers fields.subject value
  | issuer value plain =>
      rw [Leaf.rule, evaluate, decodes.issuer, ok_bind]
      exact simpleMatch_answers fields.issuer value
  | san value plain =>
      rw [Leaf.rule, evaluate, decodes.pkinitSans, decodes.upnSans, decodes.dnsNames, ok_bind,
        ok_bind, ok_bind]
      exact anyMatches_answers value _
  | eku oid some =>
      rw [Leaf.rule, evaluate, decodes.ekuOids]
      exact ⟨_, rfl, by simp [Leaf.Holds]⟩
  | ku bits =>
      rw [Leaf.rule, evaluate, decodes.keyUsage]
      exact ⟨_, rfl, by simp [Leaf.Holds]⟩

theorem evaluateAll_answers {α : Type} {rule : α → MatchRule} {holds : α → Prop} {parts : List α}
    (answers : ∀ part ∈ parts,
      Answers (evaluate platform formatDn certDer (rule part)) (holds part)) :
    Answers (evaluateAll platform formatDn certDer (parts.map rule))
      (∀ part ∈ parts, holds part) := by
  induction parts with
  | nil => exact ⟨true, rfl, by simp⟩
  | cons part parts ih =>
      obtain ⟨here, ran, same⟩ := answers part List.mem_cons_self
      have rest := ih fun part member => answers part (List.mem_cons_of_mem _ member)
      rw [List.map_cons, evaluateAll, ran, ok_bind]
      cases here with
      | true => simpa [Answers, same.mp rfl] using rest
      | false => exact ⟨false, rfl, by simp [← same]⟩

theorem evaluateAny_answers {α : Type} {rule : α → MatchRule} {holds : α → Prop} {parts : List α}
    (answers : ∀ part ∈ parts,
      Answers (evaluate platform formatDn certDer (rule part)) (holds part)) :
    Answers (evaluateAny platform formatDn certDer (parts.map rule))
      (∃ part ∈ parts, holds part) := by
  induction parts with
  | nil => exact ⟨false, rfl, by simp⟩
  | cons part parts ih =>
      obtain ⟨here, ran, same⟩ := answers part List.mem_cons_self
      have rest := ih fun part member => answers part (List.mem_cons_of_mem _ member)
      rw [List.map_cons, evaluateAny, ran, ok_bind]
      cases here with
      | true => exact ⟨true, rfl, by simp [same.mp rfl]⟩
      | false => simpa [Answers, ← same] using rest

/-- A list of one rule is worth what the rule is. -/
theorem evaluate_collapse_and (rules : List MatchRule) :
    evaluate platform formatDn certDer (collapse .and rules) =
      evaluateAll platform formatDn certDer rules := by
  match rules with
  | [] => rfl
  | [rule] =>
      rw [collapse, evaluateAll]
      cases evaluate platform formatDn certDer rule with
      | error e => rfl
      | ok answer => cases answer <;> rfl
  | _ :: _ :: _ => rfl

theorem evaluate_collapse_or (rules : List MatchRule) :
    evaluate platform formatDn certDer (collapse .or rules) =
      evaluateAny platform formatDn certDer rules := by
  match rules with
  | [] => rfl
  | [rule] =>
      rw [collapse, evaluateAny]
      cases evaluate platform formatDn certDer rule with
      | error e => rfl
      | ok answer => cases answer <;> rfl
  | _ :: _ :: _ => rfl

/-- And binds stronger than or. -/
theorem evaluate_orRule (decodes : Decodes platform formatDn certDer fields)
    (disjuncts : List (List Leaf)) :
    Answers (evaluate platform formatDn certDer (orRule disjuncts))
      (∃ leaves ∈ disjuncts, ∀ leaf ∈ leaves, leaf.Holds fields) := by
  rw [orRule, evaluate_collapse_or]
  refine evaluateAny_answers fun leaves _ => ?_
  rw [andRule, evaluate_collapse_and]
  exact evaluateAll_answers fun leaf _ => evaluate_leaf decodes leaf

/-- **Parsing inverts printing, and binds stronger than or, and splitting loses
nothing.** A rule is read from each of its texts, however much white space
stands around its leaves; on a certificate whose fields decode it holds where
all leaves of some disjunct do. The pieces of any text, joined, are the text. -/
theorem certMatcher_parse_print (build : Build) (platform : Platform) (formatDn : Bytes → String) :
    (∀ (disjuncts : List (List Leaf)) (ruleStr : String), PrintsOr disjuncts ruleStr.toList →
      ∃ matcher, CertMatcher.parse build ruleStr = .ok matcher ∧ matcher.rule = orRule disjuncts ∧
        ∀ (certDer : Bytes) (fields : CertFields), Decodes platform formatDn certDer fields →
          ∃ answer, matcher.matchesCert platform formatDn certDer = .ok answer ∧
            (answer = true ↔ ∃ leaves ∈ disjuncts, ∀ leaf ∈ leaves, leaf.Holds fields)) ∧
      ∀ (a : Separator) (input : List Char),
        (∃ pieces, splitTopLevel build input a.doubled = .ok pieces ∧
            a.doubled.intercalate pieces = input) ∨
          build = .debug ∧ splitTopLevel build input a.doubled =
            .error (.panicked "attempt to add with overflow") :=
  ⟨fun disjuncts _ prints => ⟨⟨orRule disjuncts⟩, certMatcher_parse_of_prints prints, rfl,
      fun _ _ decodes => evaluate_orRule decodes disjuncts⟩,
    splitTopLevel_joins build⟩

end Evaluate

namespace Reference

/-- The fields of the recorded KDC's certificate, where all names print alike. -/
def kdcFields : CertFields where
  subject := "CN=kdc"
  issuer := "CN=kdc"
  pkinitSans := ["krbtgt/EXAMPLE.COM@EXAMPLE.COM"]
  upnSans := []
  dnsNames := []
  ekuOids := [ID_PKINIT_KPKDC]
  keyUsage := 1

set_option maxRecDepth 16384 in
theorem kdcFields_decode :
    Decodes recorded (fun _ => "CN=kdc") kdcCertDer kdcFields where
  subject := by decide
  issuer := by decide
  pkinitSans := by decide
  upnSans := by decide
  dnsNames := by decide
  ekuOids := by decide
  keyUsage := by decide

end Reference

/-- The second disjunct holds of the recorded KDC's certificate. -/
theorem certMatcher_parse_print_recorded :
    ∃ matcher, CertMatcher.parse .debug " <SUBJECT>CN=a &&<KU>80|| <EKU>1.3.6.1.5.2.3.5" =
        .ok matcher ∧
      matcher.matchesCert Reference.recorded (fun _ => "CN=kdc") Reference.kdcCertDer =
        .ok true := by
  have plain : Plain "CN=a".toList :=
    plain_of_forall (@of_decide_eq_true _ (List.decidableBAll _ _) rfl)
  have prints : PrintsOr [[.subject "CN=a" plain, .ku 0x80],
      [.eku [1, 3, 6, 1, 5, 2, 3, 5] (by decide)]]
      " <SUBJECT>CN=a &&<KU>80|| <EKU>1.3.6.1.5.2.3.5".toList := by
    refine ⟨List.cons_ne_nil _ _,
      [" <SUBJECT>CN=a &&<KU>80".toList, " <EKU>1.3.6.1.5.2.3.5".toList],
      .cons ⟨List.cons_ne_nil _ _, [" <SUBJECT>CN=a ".toList, "<KU>80".toList],
        .cons ⟨[' '], [' '], by decide, by decide, rfl⟩
          (.cons ⟨[], [], by decide, by decide, rfl⟩ .nil), rfl⟩
        (.cons ⟨List.cons_ne_nil _ _, [" <EKU>1.3.6.1.5.2.3.5".toList],
          .cons ⟨[' '], [], by decide, by decide, rfl⟩ .nil, rfl⟩ .nil), rfl⟩
  obtain ⟨matcher, parsed, _, reads⟩ :=
    (certMatcher_parse_print .debug Reference.recorded fun _ => "CN=kdc").1 _ _ prints
  obtain ⟨answer, ran, holds⟩ := reads _ _ Reference.kdcFields_decode
  refine ⟨matcher, parsed, ran.trans ?_⟩
  rw [holds.mpr]
  refine ⟨_, List.mem_cons_of_mem _ List.mem_cons_self, fun leaf member => ?_⟩
  obtain rfl := List.mem_singleton.mp member
  exact List.mem_cons_self

end Kurbu5Pkinit

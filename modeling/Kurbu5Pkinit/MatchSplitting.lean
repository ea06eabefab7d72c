import Kurbu5Pkinit.Library.TopLevel
import Kurbu5Pkinit.MatchRule
import Mathlib.Data.List.TakeWhile

/-!
# Splitting a matching rule

The splitter of the matching rules reads bytes and counts brackets in a `u32`.
It cuts where the characters do: a byte of a separator or of a bracket is never
part of another character. So the pieces, joined with the separator, are the
text again; only a debug build has no pieces, where 2³² brackets are open at
once (`splitTopLevel_joins`).

White space around a text stays with its outer pieces, so a rule is read as
its parts are, which trim it (`Trims.parseParts`).
-/

set_option autoImplicit false

namespace Kurbu5Pkinit

open Library

/-! ## Bytes and characters -/

@[simp] theorem utf8_nil : utf8 [] = [] :=
  rfl

@[simp] theorem utf8_cons (c : Char) (text : List Char) :
    utf8 (c :: text) = String.utf8EncodeChar c ++ utf8 text :=
  List.flatMap_cons

/-- A character of one byte is written as its number. -/
theorem utf8EncodeChar_of_le {c : Char} (ascii : c.val ≤ 127) :
    String.utf8EncodeChar c = [c.val.toUInt8] :=
  String.utf8EncodeChar_eq_singleton (Char.utf8Size_eq_one_iff.mpr ascii)

/-- The bytes of any other character have their high bit set. -/
theorem high_of_mem_utf8EncodeChar {c : Char} (wide : ¬ c.val ≤ 127) {byte : UInt8}
    (member : byte ∈ String.utf8EncodeChar c) : 128 ≤ byte.toNat := by
  have high : ∀ low lead : UInt8, 128 ≤ lead.toNat → 128 ≤ (low ||| lead).toNat := by
    intro low lead set
    rw [UInt8.toNat_or]
    exact Nat.le_trans set Nat.right_le_or
  rw [String.utf8EncodeChar_eq_utf8EncodeCharFast, String.utf8EncodeCharFast, if_neg wide] at member
  split at member
  · simp only [List.mem_cons, List.not_mem_nil, or_false] at member
    rcases member with rfl | rfl <;> exact high _ _ (by decide)
  split at member
  · simp only [List.mem_cons, List.not_mem_nil, or_false] at member
    rcases member with rfl | rfl | rfl <;> exact high _ _ (by decide)
  · simp only [List.mem_cons, List.not_mem_nil, or_false] at member
    rcases member with rfl | rfl | rfl | rfl <;> exact high _ _ (by decide)

/-- A byte below 128 in front is the first character. -/
theorem toUInt8_inj_of_le {c d : Char} (ascii : c.val ≤ 127) (ascii' : d.val ≤ 127) :
    c.val.toUInt8 = d.val.toUInt8 ↔ c = d := by
  have small : c.val.toNat ≤ 127 := ascii
  have small' : d.val.toNat ≤ 127 := ascii'
  constructor
  · intro same
    have same := congrArg UInt8.toNat same
    rw [UInt32.toNat_toUInt8, UInt32.toNat_toUInt8, Nat.mod_eq_of_lt (by omega),
      Nat.mod_eq_of_lt (by omega)] at same
    exact Char.ext (UInt32.toNat_inj.mp same)
  · rintro rfl
    rfl

/-! ## The splitter on characters -/

section Split

variable (build : Build)

/-- The depth after one more character; no depth after an overflow. -/
def bracketStep (state : Except PkinitError Nat) (c : Char) : Except PkinitError Nat := do
  let depth ← state
  if c = '<' then
    build.add 32 depth 1
  else if c = '>' then
    return depth - 1
  else
    return depth

/-- A separator of the rules. -/
structure Separator where
  char : Char
  ascii : char.val ≤ 127
  other : char ≠ '<' ∧ char ≠ '>'
  solid : isWhitespace char = false

/-- The top level of a rule is outside its brackets. -/
def brackets (a : Separator) : TopLevel (Except PkinitError Nat) Char where
  step := bracketStep build
  top := .ok 0
  separator := a.char
  stays depth := by
    cases depth with
    | error e => rfl
    | ok depth =>
        rw [bracketStep, ok_bind, if_neg a.other.1, if_neg a.other.2]
        rfl

variable {build} {a : Separator}

theorem bracketDepth_eq {c : Char} (ascii : c.val ≤ 127) (depth : Nat) :
    bracketDepth build depth c.val.toUInt8 = bracketStep build (.ok depth) c := by
  have opens : c.val.toUInt8 = 0x3C ↔ c = '<' := toUInt8_inj_of_le ascii (d := '<') (by decide)
  have closes : c.val.toUInt8 = 0x3E ↔ c = '>' := toUInt8_inj_of_le ascii (d := '>') (by decide)
  simp only [bracketDepth, bracketStep, opens, closes, ok_bind]
  rfl

theorem bracketDepth_of_high {byte : UInt8} (high : 128 ≤ byte.toNat) (depth : Nat) :
    bracketDepth build depth byte = .ok depth := by
  rw [bracketDepth, if_neg, if_neg]
  · rintro rfl
    exact absurd high (by decide)
  · rintro rfl
    exact absurd high (by decide)

theorem bracketStep_of_wide {c : Char} (wide : ¬ c.val ≤ 127) (depth : Nat) :
    bracketStep build (.ok depth) c = .ok depth := by
  rw [bracketStep, ok_bind, if_neg, if_neg]
  · rfl
  · rintro rfl
    exact wide (by decide)
  · rintro rfl
    exact wide (by decide)

theorem depthAfter_error (e : PkinitError) (text : List Char) :
    (brackets build a).depthAfter (.error e) text = .error e := by
  induction text with
  | nil => rfl
  | cons c text ih => exact ih

/-- The bytes of other characters are passed over. -/
theorem splitTopLevelFrom_append_of_high {high : Bytes} (set : ∀ byte ∈ high, 128 ≤ byte.toNat)
    {sep : UInt8} (low : sep.toNat < 128) (input : List Char) (seps rest : Bytes)
    (i last depth : Nat) :
    splitTopLevelFrom build input (sep :: seps) (high ++ rest) i last depth =
      splitTopLevelFrom build input (sep :: seps) rest (i + high.length) last depth := by
  induction high generalizing i with
  | nil => rfl
  | cons byte high ih =>
      have here := set byte List.mem_cons_self
      have kept : ¬ (depth = 0 ∧ sep :: seps <+: byte :: (high ++ rest)) := by
        rintro ⟨_, front⟩
        obtain ⟨rfl, _⟩ := List.cons_prefix_cons.mp front
        omega
      rw [List.cons_append, splitTopLevelFrom, bracketDepth_of_high here, ok_bind, if_neg kept,
        ih fun byte member => set byte (List.mem_cons_of_mem _ member), List.length_cons,
        Nat.add_right_comm]
      rfl

/-- The first byte is the separator's where the first character is. -/
theorem head?_utf8_eq_iff (text : List Char) :
    (utf8 text).head? = some a.char.val.toUInt8 ↔ text.head? = some a.char := by
  cases text with
  | nil => simp [utf8]
  | cons c text =>
      rw [utf8_cons, List.head?_cons]
      by_cases ascii : c.val ≤ 127
      · rw [utf8EncodeChar_of_le ascii, List.singleton_append, List.head?_cons, Option.some_inj,
          Option.some_inj, toUInt8_inj_of_le ascii a.ascii]
      · constructor
        · intro front
          obtain ⟨byte, bytes, written⟩ := List.exists_cons_of_ne_nil
            (String.utf8EncodeChar_ne_nil (c := c))
          have high := high_of_mem_utf8EncodeChar ascii (written ▸ List.mem_cons_self)
          rw [written] at front
          obtain rfl := Option.some.inj front
          have low : a.char.val.toNat ≤ 127 := a.ascii
          rw [UInt32.toNat_toUInt8, Nat.mod_eq_of_lt (by omega)] at high
          omega
        · intro same
          exact absurd a.ascii (Option.some.inj same ▸ ascii)

def Separator.doubled (a : Separator) : List Char :=
  [a.char, a.char]

theorem Separator.utf8_doubled (a : Separator) :
    utf8 a.doubled = [a.char.val.toUInt8, a.char.val.toUInt8] := by
  rw [doubled, utf8_cons, utf8_cons, utf8EncodeChar_of_le a.ascii]
  rfl

theorem Separator.byteLength_doubled (a : Separator) : byteLength a.doubled = 2 := by
  have single := Char.utf8Size_eq_one_iff.mpr a.ascii
  simp [doubled, single]

theorem doubled_prefix_iff {c : Char} (ascii : c.val ≤ 127) (text : List Char) :
    [a.char.val.toUInt8, a.char.val.toUInt8] <+: c.val.toUInt8 :: utf8 text ↔
      c = a.char ∧ text.head? = some a.char := by
  rw [List.cons_prefix_cons, toUInt8_inj_of_le a.ascii ascii, eq_comm, ← head?_utf8_eq_iff]
  cases utf8 text with
  | nil => simp
  | cons byte bytes => simp [List.cons_prefix_cons, eq_comm]

variable {input rest : List Char} {i last depth : Nat}

/-- The loop goes past a character that does not begin a separator. -/
theorem splitTopLevelFrom_of_kept {c : Char}
    (kept : ¬ (bracketStep build (.ok depth) c = .ok 0 ∧ c = a.char ∧ rest.head? = some a.char)) :
    splitTopLevelFrom build input (utf8 a.doubled) (utf8 (c :: rest)) i last depth = (do
      let depth ← bracketStep build (.ok depth) c
      splitTopLevelFrom build input (utf8 a.doubled) (utf8 rest) (i + c.utf8Size) last depth) := by
  rw [a.utf8_doubled, utf8_cons]
  by_cases ascii : c.val ≤ 127
  · rw [utf8EncodeChar_of_le ascii, Char.utf8Size_eq_one_iff.mpr ascii, List.singleton_append,
      splitTopLevelFrom, bracketDepth_eq ascii]
    cases stepped : bracketStep build (.ok depth) c with
    | error e => rfl
    | ok next =>
        rw [ok_bind, ok_bind, if_neg]
        rintro ⟨rfl, front⟩
        exact kept ⟨stepped, (doubled_prefix_iff ascii rest).mp front⟩
  · have low : a.char.val.toNat ≤ 127 := a.ascii
    rw [splitTopLevelFrom_append_of_high (fun byte => high_of_mem_utf8EncodeChar ascii),
      bracketStep_of_wide ascii, ok_bind, String.length_utf8EncodeChar]
    rw [UInt32.toNat_toUInt8]
    omega

/-- The loop cuts at a separator. -/
theorem splitTopLevelFrom_of_cut :
    splitTopLevelFrom build input (utf8 a.doubled) (utf8 (a.char :: a.char :: rest)) i last 0 = (do
      let part ← sliceText input last i
      let parts ← splitTopLevelFrom build input (utf8 a.doubled) (utf8 rest) (i + 2) (i + 2) 0
      return part :: parts) := by
  have flat : bracketStep build (.ok 0) a.char = .ok 0 := (brackets build a).stays (.ok 0)
  rw [a.utf8_doubled, utf8_cons, utf8EncodeChar_of_le a.ascii, List.singleton_append,
    splitTopLevelFrom, bracketDepth_eq a.ascii, flat, ok_bind,
    if_pos ⟨rfl, (doubled_prefix_iff a.ascii _).mpr ⟨rfl, rfl⟩⟩, utf8_cons,
    utf8EncodeChar_of_le a.ascii]
  rfl

/-- The loop splits as the characters do, unless the depth overflows. -/
theorem splitTopLevelFrom_eq (used piece rest : List Char) (depth : Nat) :
    splitTopLevelFrom build (used ++ piece ++ rest) (utf8 a.doubled) (utf8 rest)
        (byteLength used + byteLength piece) (byteLength used) depth = (do
      let _ ← (brackets build a).depthAfter (.ok depth) rest
      return (brackets build a).split (.ok depth) piece rest) := by
  match rest with
  | [] =>
      have slice := sliceBytes_append used piece []
      rw [List.append_nil] at slice ⊢
      rw [utf8_nil, splitTopLevelFrom, sliceText, byteLength_append, slice]
      simp [TopLevel.split, TopLevel.depthAfter]
  | c :: rest =>
      by_cases cut : bracketStep build (.ok depth) c = .ok 0 ∧ c = a.char ∧
        rest.head? = some a.char
      · obtain ⟨top, rfl, next⟩ := cut
        obtain ⟨rest, rfl⟩ := List.head?_eq_some_iff.mp next
        have flat : ∀ depth, bracketStep build depth a.char = depth := (brackets build a).stays
        obtain rfl : depth = 0 := Except.ok.inj ((flat _).symm.trans top)
        have slice := sliceBytes_append used piece (a.char :: a.char :: rest)
        rw [splitTopLevelFrom_of_cut, sliceText, slice, okOr_some, ok_bind]
        have later := splitTopLevelFrom_eq (used ++ piece ++ a.doubled) [] rest 0
        have whole : used ++ piece ++ a.doubled ++ [] ++ rest =
            used ++ piece ++ a.char :: a.char :: rest := by
          simp [Separator.doubled]
        rw [whole, byteLength_append, byteLength_append, a.byteLength_doubled, byteLength_nil,
          Nat.add_zero] at later
        have after : (brackets build a).depthAfter (.ok 0) (a.char :: a.char :: rest) =
            (brackets build a).depthAfter (.ok 0) rest := by
          rw [TopLevel.depthAfter, List.foldl_cons, List.foldl_cons]
          exact congrArg (rest.foldl _) ((flat _).trans (flat _))
        have cut : (brackets build a).split (.ok 0) piece (a.char :: a.char :: rest) =
            piece :: (brackets build a).split (.ok 0) [] rest := by
          rw [TopLevel.split, if_pos ⟨flat _, rfl, rfl⟩]
          exact congrArg (fun depth => piece :: (brackets build a).split depth [] rest) (flat _)
        rw [later, after, cut]
        cases (brackets build a).depthAfter (.ok 0) rest <;> rfl
      · rw [splitTopLevelFrom_of_kept cut]
        have here : (brackets build a).split (.ok depth) piece (c :: rest) =
            (brackets build a).split (bracketStep build (.ok depth) c) (piece ++ [c]) rest :=
          TopLevel.split_cons_of_not cut
        have after : (brackets build a).depthAfter (.ok depth) (c :: rest) =
            (brackets build a).depthAfter (bracketStep build (.ok depth) c) rest := rfl
        rw [here, after]
        cases stepped : bracketStep build (.ok depth) c with
        | error e =>
            rw [depthAfter_error]
            rfl
        | ok next =>
            have later := splitTopLevelFrom_eq used (piece ++ [c]) rest next
            simpa [Nat.add_assoc] using later
termination_by rest.length

/-- **The splitter on characters.** -/
theorem splitTopLevel_eq (a : Separator) (input : List Char) :
    splitTopLevel build input a.doubled = (do
      let _ ← (brackets build a).depthAfter (.ok 0) input
      return (brackets build a).split (.ok 0) [] input) :=
  splitTopLevelFrom_eq [] [] input 0

/-- The depth overflows in a debug build only. -/
theorem bracketStep_outcome (depth : Nat) (c : Char) :
    (∃ next, bracketStep build (.ok depth) c = .ok next) ∨
      build = .debug ∧
        bracketStep build (.ok depth) c = .error (.panicked "attempt to add with overflow") := by
  rw [bracketStep, ok_bind]
  split
  · cases build with
    | release => exact .inl ⟨_, rfl⟩
    | debug =>
        rw [Build.add]
        split
        · exact .inl ⟨_, rfl⟩
        · exact .inr ⟨rfl, rfl⟩
  · split <;> exact .inl ⟨_, rfl⟩

theorem depthAfter_outcome (depth : Nat) (text : List Char) :
    (∃ last, (brackets build a).depthAfter (.ok depth) text = .ok last) ∨
      build = .debug ∧ (brackets build a).depthAfter (.ok depth) text =
        .error (.panicked "attempt to add with overflow") := by
  induction text generalizing depth with
  | nil => exact .inl ⟨depth, rfl⟩
  | cons c text ih =>
      rw [TopLevel.depthAfter, List.foldl_cons]
      rcases @bracketStep_outcome build depth c with ⟨next, step⟩ | ⟨debug, step⟩
      · rw [show (brackets build a).step (.ok depth) c = .ok next from step]
        exact ih next
      · rw [show (brackets build a).step (.ok depth) c = _ from step]
        exact .inr ⟨debug, depthAfter_error _ text⟩

/-- **The pieces of any text, joined with the separator, are the text.** -/
theorem splitTopLevel_joins (build : Build) (a : Separator) (input : List Char) :
    (∃ pieces, splitTopLevel build input a.doubled = .ok pieces ∧
        a.doubled.intercalate pieces = input) ∨
      build = .debug ∧ splitTopLevel build input a.doubled =
        .error (.panicked "attempt to add with overflow") := by
  rw [splitTopLevel_eq]
  rcases @depthAfter_outcome build a 0 input with ⟨last, after⟩ | ⟨debug, after⟩
  · rw [after]
    exact .inl ⟨_, rfl, TopLevel.intercalate_split (t := brackets build a) (.ok 0) [] input⟩
  · rw [after]
    exact .inr ⟨debug, rfl⟩

end Split

/-! ## White space around a text -/

section WhiteSpace

variable {build : Build} {a : Separator}

def Blank (text : List Char) : Prop :=
  ∀ c ∈ text, isWhitespace c = true

instance (text : List Char) : Decidable (Blank text) :=
  List.decidableBAll (fun c => isWhitespace c = true) text

/-- White space around a text does not change what is read. -/
def Trims {α : Type} (read : List Char → α) : Prop :=
  ∀ before text after, Blank before → Blank after → read (before ++ text ++ after) = read text

theorem dropWhile_append_of_blank {before : List Char} (blank : Blank before) (text : List Char) :
    (before ++ text).dropWhile isWhitespace = text.dropWhile isWhitespace := by
  rw [List.dropWhile_append]
  have gone : before.dropWhile isWhitespace = [] := List.dropWhile_eq_nil_iff.mpr blank
  rw [gone]
  rfl

theorem Blank.reverse {text : List Char} (blank : Blank text) : Blank text.reverse :=
  fun c member => blank c (List.mem_reverse.mp member)

theorem trims_trim : Trims trim := by
  intro before text after blank blank'
  rw [trim, List.append_assoc, dropWhile_append_of_blank blank, List.dropWhile_append]
  split
  · next empty =>
      have gone : text.dropWhile isWhitespace = [] := List.isEmpty_iff.mp empty
      have gone' : after.dropWhile isWhitespace = [] := List.dropWhile_eq_nil_iff.mpr blank'
      rw [trim, gone, gone']
  · rw [List.reverse_append, dropWhile_append_of_blank blank'.reverse, trim]

/-- A text is what trimming leaves, with white space around it. -/
theorem exists_blank_trim (text : List Char) :
    ∃ before after, Blank before ∧ Blank after ∧ text = before ++ trim text ++ after := by
  have cut := List.takeWhile_append_dropWhile (p := isWhitespace) (l := text)
  have cut' := List.takeWhile_append_dropWhile (p := isWhitespace)
    (l := (text.dropWhile isWhitespace).reverse)
  refine ⟨text.takeWhile isWhitespace,
    ((text.dropWhile isWhitespace).reverse.takeWhile isWhitespace).reverse,
    fun c member => List.mem_takeWhile_imp member,
    Blank.reverse fun c member => List.mem_takeWhile_imp member, ?_⟩
  rw [trim, List.append_assoc, ← List.reverse_append, cut', List.reverse_reverse, cut]

theorem Trims.trim {α : Type} {read : List Char → α} (trims : Trims read) (text : List Char) :
    read (Kurbu5Pkinit.trim text) = read text := by
  obtain ⟨before, after, blank, blank', same⟩ := exists_blank_trim text
  conv => rhs; rw [same]
  exact (trims before _ after blank blank').symm

/-- White space has neither brackets nor separators. -/
theorem Blank.flat {text : List Char} (blank : Blank text) :
    ∀ c ∈ text, ∀ depth, bracketStep build depth c = depth := by
  intro c member depth
  have space := blank c member
  have other : c ≠ '<' ∧ c ≠ '>' := by
    constructor <;> rintro rfl <;> exact absurd space (by decide)
  cases depth with
  | error e => rfl
  | ok depth =>
      rw [bracketStep, ok_bind, if_neg other.1, if_neg other.2]
      rfl

/-- A list of one rule is that rule. -/
def collapse (joined : List MatchRule → MatchRule) : List MatchRule → MatchRule
  | [rule] => rule
  | rules => joined rules

theorem parseParts_eq (sep : List Char) (parsePart : List Char → Except PkinitError MatchRule)
    (joined : List MatchRule → MatchRule) (input : List Char) :
    parseParts build sep parsePart joined input = (do
      let parts ← splitTopLevel build input sep
      collapse joined <$> parts.mapM parsePart) := by
  unfold parseParts
  congr 1
  funext parts
  rcases parts with _ | ⟨part, _ | ⟨next, parts⟩⟩
  · rfl
  · simp only [List.mapM_cons, List.mapM_nil]
    cases parsePart part <;> rfl
  · simp only [List.mapM_cons]
    cases parsePart part with
    | error e => rfl
    | ok rule =>
        cases parsePart next with
        | error e => rfl
        | ok rule' => cases parts.mapM parsePart <;> rfl

theorem Blank.not_mem {text : List Char} (blank : Blank text) : a.char ∉ text :=
  fun member => by simpa [a.solid] using blank a.char member

/-- White space in front of a text goes to the first piece, white space after
it to the last. -/
theorem mapM_splitTopLevel_trims {parsePart : List Char → Except PkinitError MatchRule}
    (trims : Trims parsePart) :
    Trims fun text => splitTopLevel build text a.doubled >>= fun parts => parts.mapM parsePart := by
  intro before text after blank blank'
  let t := brackets build a
  have flat : ∀ {space : List Char}, Blank space → ∀ c ∈ space, ∀ depth, t.step depth c = depth :=
    fun blank c member => blank.flat c member
  have cut : t.split (.ok 0) [] (before ++ (text ++ after)) =
      (t.split (.ok 0) [] (text ++ after)).modifyHead (before ++ ·) := by
    rw [TopLevel.split_append_left (blank.not_mem (a := a)) (flat blank),
      ← TopLevel.split_append_piece, List.nil_append, List.append_nil]
  obtain ⟨front, last, split, split'⟩ :=
    TopLevel.split_append_right (blank'.not_mem (a := a)) (.ok 0) [] text (t := t)
  have read : ∀ parts : List (List Char),
      (parts.modifyHead (before ++ ·)).mapM parsePart = parts.mapM parsePart := by
    intro parts
    cases parts with
    | nil => rfl
    | cons part parts =>
        have same := trims before part [] blank (fun _ none => absurd none List.not_mem_nil)
        rw [List.append_nil] at same
        rw [List.modifyHead_cons, List.mapM_cons, List.mapM_cons, same]
  have read' : (front ++ [last ++ after]).mapM parsePart = (front ++ [last]).mapM parsePart := by
    have same := trims [] last after (fun _ none => absurd none List.not_mem_nil) blank'
    rw [List.nil_append] at same
    simp only [List.mapM_append, List.mapM_cons, same]
  simp only [splitTopLevel_eq, List.append_assoc]
  rw [TopLevel.depthAfter_append, TopLevel.depthAfter_of_flat (flat blank),
    TopLevel.depthAfter_append, TopLevel.depthAfter_of_flat (flat blank'), cut, split, split']
  cases (brackets build a).depthAfter (.ok 0) text with
  | error e => rfl
  | ok depth => exact (read _).trans read'

theorem Trims.parseParts {parsePart : List Char → Except PkinitError MatchRule}
    (trims : Trims parsePart) (joined : List MatchRule → MatchRule) :
    Trims (parseParts build a.doubled parsePart joined) := by
  intro before text after blank blank'
  have same := @mapM_splitTopLevel_trims build a _ trims before text after blank blank'
  simp only [parseParts_eq, ← map_bind, same]

theorem parseLeaf_trims : Trims parseLeaf := by
  intro before text after blank blank'
  simp only [parseLeaf, trims_trim before text after blank blank']

end WhiteSpace

end Kurbu5Pkinit

import Kurbu5Pkinit.Crypto.Cms
import Kurbu5Pkinit.Library.LengthField
import Kurbu5Pkinit.Reference.Synta

/-!
# The frames read by hand

The bytes of a hint and of a `kemInfo` are read before anything is
authenticated. The parser of lengths never overflows: it reads four bytes at
most. The sum of a length and its header does, in a `usize` of 32 bits, when
the four bytes are the six greatest; the content would then end before it
begins, and cutting it out panics (`length_fields_safe_iff`).

What a build does about an overflow depends on its profile: a release wraps
and a debug build panics. Neither happens with 64 bits.
-/

set_option autoImplicit false

namespace Kurbu5Pkinit

open Library

variable {usizeBits : Nat}

/-! ## The parser of lengths -/

/-- The loop computes the number its digits write. -/
theorem foldlM_shiftInByte {digits : Bytes} (wide : 8 < usizeBits)
    (fits : 256 ^ digits.length ≤ 2 ^ usizeBits) :
    digits.foldlM (shiftInByte usizeBits) 0 = .ok (ofBigEndian digits) := by
  induction digits using List.reverseRecOn with
  | nil => rfl
  | append_singleton digits last ih =>
      have below := ofBigEndian_lt (digits ++ [last])
      rw [ofBigEndian_concat] at below
      have step := @shiftInByte_eq usizeBits _ last wide (Nat.lt_of_lt_of_le below fits)
      have shorter : 256 ^ digits.length ≤ 2 ^ usizeBits :=
        Nat.le_trans (Nat.pow_le_pow_right (by decide) (by simp)) fits
      rw [List.foldlM_append, ih shorter, ok_bind, List.foldlM_cons, step, ofBigEndian_concat]
      rfl

/-- A byte with its high bit set counts the bytes after it. -/
theorem toNat_of_not_lt {first : UInt8} (long : ¬ first < 0x80) :
    first.toNat = 0x80 + (first &&& 0x7F).toNat := by
  have high : 0x80 ≤ first.toNat := Nat.le_of_not_lt long
  have low : (first &&& 0x7F).toNat = first.toNat % 2 ^ 7 := by
    rw [UInt8.toNat_and]
    exact Nat.and_two_pow_sub_one_eq_mod _ 7
  have bound := first.toNat_lt
  omega

theorem derParseLength_of_long {first : UInt8} {rest : Bytes} (long : ¬ first < 0x80) :
    derParseLength usizeBits (first :: rest) = (do
      let n := (first &&& 0x7F).toNat
      rejectIf (n = 0 ∨ 4 < n ∨ (first :: rest).length < 1 + n)
        (.asn1 "DER length: invalid long form")
      let len ← (rest.take n).foldlM (shiftInByte usizeBits) 0
      return (len, 1 + n)) :=
  if_neg long

/-- Four bytes of length fit a word of 32 bits. -/
theorem pow_256_le {k : Nat} (few : k ≤ 4) (wide : 32 ≤ usizeBits) : 256 ^ k ≤ 2 ^ usizeBits :=
  calc 256 ^ k ≤ 256 ^ 4 := Nat.pow_le_pow_right (by decide) few
    _ = 2 ^ 32 := rfl
    _ ≤ 2 ^ usizeBits := Nat.pow_le_pow_right (by decide) wide

/-- A length field of at most five bytes is read, whatever follows it. -/
theorem derParseLength_of_field (wide : 32 ≤ usizeBits) {header : Bytes} {len : Nat}
    (field : LengthField header len) (few : header.length ≤ 5) (rest : Bytes) :
    derParseLength usizeBits (header ++ rest) = .ok (len, header.length) := by
  cases field with
  | short byte small => exact if_pos small
  | long count digits some counted =>
      have size : 0 < digits.length := List.length_pos_iff.mpr some
      have high : ¬ count < 0x80 := fun low : count.toNat < 0x80 => by omega
      have n : (count &&& 0x7F).toNat = digits.length := by
        have := toNat_of_not_lt high
        omega
      simp only [List.length_cons] at few
      rw [List.cons_append, derParseLength_of_long high]
      simp only [n, List.take_left']
      rw [rejectIf_of_not (by simp only [List.length_cons, List.length_append]; omega), ok_bind,
        foldlM_shiftInByte (by omega) (pow_256_le (by omega) wide), ok_bind, Nat.add_comm 1]
      rfl

/-- **The parser reads a length field of at most five bytes**, and refuses
anything else. -/
theorem derParseLength_outcome (wide : 32 ≤ usizeBits) (data : Bytes) :
    (∃ header rest len, LengthField header len ∧ header.length ≤ 5 ∧ data = header ++ rest ∧
      derParseLength usizeBits data = .ok (len, header.length)) ∨
    ∃ text, derParseLength usizeBits data = .error (.asn1 text) := by
  have reads : ∀ {header : Bytes} {len : Nat} (rest : Bytes), LengthField header len →
      header.length ≤ 5 → header ++ rest = data →
      ∃ header rest len, LengthField header len ∧ header.length ≤ 5 ∧
        data = header ++ rest ∧ derParseLength usizeBits data = .ok (len, header.length) := by
    rintro header len rest field few rfl
    exact ⟨header, rest, len, field, few, rfl, derParseLength_of_field wide field few rest⟩
  cases data with
  | nil => exact .inr ⟨_, rfl⟩
  | cons first rest =>
      by_cases short : first < 0x80
      · exact .inl (reads rest (.short first short) (by simp) rfl)
      have count := toNat_of_not_lt short
      by_cases counted : (first &&& 0x7F).toNat = 0 ∨ 4 < (first &&& 0x7F).toNat ∨
          (first :: rest).length < 1 + (first &&& 0x7F).toNat
      · refine .inr ⟨"DER length: invalid long form", ?_⟩
        rw [derParseLength_of_long short]
        simp only [rejectIf, if_pos counted]
        rfl
      · generalize (first &&& 0x7F).toNat = n at count counted
        simp only [List.length_cons] at counted
        have taken : (rest.take n).length = n := by
          rw [List.length_take]
          omega
        refine .inl (reads (rest.drop n) (.long first (rest.take n)
          (List.ne_nil_of_length_pos (by omega)) (by omega)) ?_ ?_)
        · rw [List.length_cons]
          omega
        · rw [List.cons_append, List.take_append_drop]

/-! ## The two builds -/

/-- A release build wraps a sum around, a debug build panics. -/
inductive Build where
  | release
  | debug
  deriving DecidableEq, Repr

/-- `a + b`, in a build. -/
def Build.add (build : Build) (usizeBits a b : Nat) : Except PkinitError Nat :=
  match build with
  | .release => .ok (usizeAdd usizeBits a b)
  | .debug =>
      if a + b < 2 ^ usizeBits then
        .ok (a + b)
      else
        .error (.panicked "attempt to add with overflow")

theorem Build.add_of_lt {a b : Nat} (fits : a + b < 2 ^ usizeBits) (build : Build) :
    build.add usizeBits a b = .ok (a + b) := by
  cases build with
  | release => exact congrArg Except.ok (usizeAdd_of_lt fits)
  | debug => exact if_pos fits

/-- The content of the frame at the front of `data`, whose tag was checked. -/
def takeFrame (build : Build) (usizeBits : Nat) (truncated : PkinitError) (data : Bytes) :
    Except PkinitError Bytes := do
  let (len, header) ← derParseLength usizeBits data.tail
  let start ← build.add usizeBits 1 header
  let stop ← build.add usizeBits start len
  rejectIf (data.length < stop) truncated
  slice data start stop

def decodeKemRepContentIn (build : Build) (usizeBits : Nat) (paRepDer : Bytes) :
    Except PkinitError Bytes := do
  rejectIf (isKemRep paRepDer = false) (.asn1 "PA-PK-AS-REP: expected kemInfo [2] tag")
  takeFrame build usizeBits (.asn1 "kemInfo: truncated content") paRepDer

def parsePkinitHintIn (synta : Synta) (build : Build) (usizeBits : Nat) (hintDer : Bytes) :
    Except PkinitError (List OfferedAlgorithm) := do
  rejectIf (hintDer.head? ≠ some 0x30) (.asn1 "PA-PK-AS-REQ-Hint: expected SEQUENCE")
  let outerContent ← takeFrame build usizeBits
    (.asn1 "PA-PK-AS-REQ-Hint: truncated outer SEQUENCE") hintDer
  if outerContent.head? ≠ some 0xA0 then
    return []
  let tag0Content ← takeFrame build usizeBits
    (.asn1 "PA-PK-AS-REQ-Hint: truncated [0] content") outerContent
  let algIds ← (synta.algorithmIdentifiers.fromDer tag0Content).mapError
    (asn1Err "decode ephemeralKeyParameters")
  algIds.mapM (offeredAlgorithm synta)

theorem parsePkinitHintIn_release (synta : Synta) :
    parsePkinitHintIn synta .release = parsePkinitHint synta := by
  funext usizeBits hintDer
  simp only [parsePkinitHintIn, takeFrame, Build.add, parsePkinitHint, bind_assoc, ok_bind]

/-! ## One frame -/

/-- `data` begins with a frame of the six greatest lengths. -/
def Overlong (tag : UInt8) (data : Bytes) : Prop :=
  ∃ last rest, data = tag :: 0x84 :: 0xFF :: 0xFF :: 0xFF :: last :: rest ∧ 0xFA ≤ last.toNat

/-- A length that overflows with its header is one of the six greatest. -/
theorem overlong_of_le {tag : UInt8} {header rest : Bytes} {len : Nat}
    (field : LengthField header len) (few : header.length ≤ 5)
    (large : 2 ^ 32 ≤ 1 + header.length + len) : Overlong tag (tag :: (header ++ rest)) := by
  cases field with
  | short byte small =>
      simp only [List.length_cons, List.length_nil] at large
      omega
  | long count digits some counted =>
      have below := ofBigEndian_lt digits
      simp only [List.length_cons] at few large
      have four : digits.length = 4 := by
        by_contra fewer
        have : 256 ^ digits.length ≤ 256 ^ 3 := Nat.pow_le_pow_right (by decide) (by omega)
        omega
      obtain ⟨a, b, c, d, rfl⟩ := List.length_eq_four.mp four
      obtain rfl : count = 0x84 := UInt8.toNat_inj.mp (by rw [counted, four]; rfl)
      have value : ofBigEndian [a, b, c, d] =
          ((a.toNat * 256 + b.toNat) * 256 + c.toNat) * 256 + d.toNat := by
        rw [show [a, b, c, d] = [] ++ [a] ++ [b] ++ [c] ++ [d] from rfl]
        simp only [ofBigEndian_concat, ofBigEndian_nil, Nat.zero_mul, Nat.zero_add]
      have bounds := And.intro a.toNat_lt (And.intro b.toNat_lt (And.intro c.toNat_lt d.toNat_lt))
      obtain rfl : a = 0xFF := UInt8.toNat_inj.mp (show a.toNat = 0xFF by omega)
      obtain rfl : b = 0xFF := UInt8.toNat_inj.mp (show b.toNat = 0xFF by omega)
      obtain rfl : c = 0xFF := UInt8.toNat_inj.mp (show c.toNat = 0xFF by omega)
      have pinned : (0xFF : UInt8).toNat = 0xFF := rfl
      exact ⟨d, rest, rfl, by omega⟩

section Frame

variable {tag : UInt8} {header rest : Bytes} {len : Nat}

/-- A frame whose end fits a `usize`: its content, or the truncation. -/
theorem takeFrame_of_fits (wide : 32 ≤ usizeBits) (field : LengthField header len)
    (few : header.length ≤ 5) (fits : 1 + header.length + len < 2 ^ usizeBits)
    (truncated : PkinitError) (build : Build) :
    takeFrame build usizeBits truncated (tag :: (header ++ rest)) =
      if rest.length < len then .error truncated else .ok (rest.take len) := by
  have start := @Build.add_of_lt usizeBits 1 header.length (by omega) build
  have stop := Build.add_of_lt fits build
  have size : (tag :: (header ++ rest)).length = 1 + header.length + rest.length := by
    simp only [List.length_cons, List.length_append]
    omega
  have content : (tag :: (header ++ rest)).drop (1 + header.length) = rest := by
    rw [Nat.add_comm, List.drop_succ_cons, List.drop_left]
  simp only [takeFrame, List.tail_cons, derParseLength_of_field wide field few, ok_bind, start,
    stop]
  unfold rejectIf
  rw [size]
  by_cases short : rest.length < len
  · rw [if_pos (by omega), if_pos short]
    rfl
  · rw [if_neg (by omega), if_neg short, ok_bind, slice, if_pos (by rw [size]; omega), content]
    congr 2
    omega

/-- **A frame of the six greatest lengths panics**, in either build. -/
theorem takeFrame_overlong {data : Bytes} (overlong : Overlong tag data) (truncated : PkinitError)
    (build : Build) : ∃ text, takeFrame build 32 truncated data = .error (.panicked text) := by
  obtain ⟨last, rest, rfl, large⟩ := overlong
  have bound := last.toNat_lt
  have field : LengthField [0x84, 0xFF, 0xFF, 0xFF, last] (0xFFFFFF00 + last.toNat) := by
    have value : ofBigEndian [0xFF, 0xFF, 0xFF, last] = 0xFFFFFF00 + last.toNat := by
      rw [show [0xFF, 0xFF, 0xFF, last] = [0xFF, 0xFF, 0xFF] ++ [last] from rfl, ofBigEndian_concat]
      rfl
    rw [← value]
    exact .long 0x84 _ (by simp) rfl
  have parsed := derParseLength_of_field (Nat.le_refl 32) field (by simp) rest
  simp only [List.cons_append, List.nil_append, List.length_cons, List.length_nil] at parsed
  have start := @Build.add_of_lt 32 1 5 (by decide) build
  simp only [takeFrame, List.tail_cons, parsed, ok_bind, start]
  cases build with
  | debug =>
      refine ⟨"attempt to add with overflow", ?_⟩
      simp only [Build.add]
      rw [if_neg (by omega)]
      rfl
  | release =>
      refine ⟨"slice index out of range", ?_⟩
      have wrapped : usizeAdd 32 (1 + 5) (0xFFFFFF00 + last.toNat) = last.toNat - 0xFA := by
        unfold usizeAdd
        omega
      simp only [Build.add, ok_bind, wrapped]
      rw [rejectIf_of_not (by simp only [List.length_cons]; omega), ok_bind, slice,
        if_neg (by omega)]

/-- **Every other frame is read or refused**, and both builds do the same. -/
theorem takeFrame_outcome (word : usizeBits = 32 ∨ usizeBits = 64)
    (small : ¬ (usizeBits = 32 ∧ Overlong tag (tag :: rest))) (text : String) :
    (∃ content, Framed 4 tag (tag :: rest) content ∧
      ∀ build, takeFrame build usizeBits (.asn1 text) (tag :: rest) = .ok content) ∨
    ∃ text', ∀ build, takeFrame build usizeBits (.asn1 text) (tag :: rest) =
      .error (.asn1 text') := by
  have wide : 32 ≤ usizeBits := by omega
  rcases derParseLength_outcome wide rest with ⟨header, tail, len, field, few, rfl, _⟩ | refused
  · have fits : 1 + header.length + len < 2 ^ usizeBits := by
      rcases word with rfl | rfl
      · by_contra large
        exact small ⟨rfl, overlong_of_le field few (Nat.le_of_not_lt large)⟩
      · have below : len < 256 ^ 5 :=
          Nat.lt_of_lt_of_le field.lt (Nat.pow_le_pow_right (by decide) few)
        omega
    have taken := @takeFrame_of_fits usizeBits tag header tail len wide field few fits
      (.asn1 text)
    by_cases short : tail.length < len
    · exact .inr ⟨text, fun build => (taken build).trans (if_pos short)⟩
    · refine .inl ⟨tail.take len, ?_, fun build => (taken build).trans (if_neg short)⟩
      refine ⟨header, tail.drop len, ?_, few, ?_⟩
      · rw [List.length_take, Nat.min_eq_left (by omega)]
        exact field
      · rw [List.append_assoc, List.take_append_drop]
  · obtain ⟨text', failed⟩ := refused
    refine .inr ⟨text', fun build => ?_⟩
    simp only [takeFrame, List.tail_cons, failed]
    rfl

end Frame

/-! ## The two readers -/

/-- Neither build panics, and the two end alike. -/
def RunsSafely {α : Type} (run : Build → Except PkinitError α) : Prop :=
  ∀ build, run build = run .release ∧ ∀ text, run build ≠ .error (.panicked text)

theorem runsSafely_of_ok {α : Type} {run : Build → Except PkinitError α} {a : α}
    (ok : ∀ build, run build = .ok a) : RunsSafely run := by
  intro build
  rw [ok build, ok .release]
  refine ⟨rfl, ?_⟩
  intro text panicked
  cases panicked

theorem asn1_ne_panicked (text : String) (text' : String) :
    PkinitError.asn1 text ≠ .panicked text' := by
  intro same
  cases same

theorem runsSafely_of_error {α : Type} {run : Build → Except PkinitError α} {e : PkinitError}
    (failed : ∀ build, run build = .error e) (quiet : ∀ text, e ≠ .panicked text) :
    RunsSafely run := by
  intro build
  rw [failed build, failed .release]
  exact ⟨rfl, fun text panicked => quiet text (Except.error.inj panicked)⟩

/-- Reading the `kemInfo` arm ends, and content is what the frame holds. -/
structure ReadsKemRep (usizeBits : Nat) (paRepDer : Bytes) : Prop where
  runs : RunsSafely fun build => decodeKemRepContentIn build usizeBits paRepDer
  framed : ∀ content, decodeKemRepContent usizeBits paRepDer = .ok content →
    Framed 4 PA_PK_AS_REP_KEM_TAG paRepDer content

/-- What an outer frame offers: what its inner frame holds, or nothing. -/
structure HoldsOffers (synta : Synta) (outerContent : Bytes) (offers : List OfferedAlgorithm) :
    Prop where
  tagged : outerContent.head? = some 0xA0 → ∃ tag0Content algIds,
    Framed 4 0xA0 outerContent tag0Content ∧
      synta.algorithmIdentifiers.fromDer tag0Content = .ok algIds ∧
      algIds.mapM (offeredAlgorithm synta) = .ok offers
  untagged : outerContent.head? ≠ some 0xA0 → offers = []

/-- Reading a hint ends, and offers are what its two frames hold. -/
structure ReadsHint (synta : Synta) (usizeBits : Nat) (hintDer : Bytes) : Prop where
  runs : RunsSafely fun build => parsePkinitHintIn synta build usizeBits hintDer
  framed : ∀ offers, parsePkinitHint synta usizeBits hintDer = .ok offers →
    ∃ outerContent, Framed 4 0x30 hintDer outerContent ∧ HoldsOffers synta outerContent offers

/-- A hint of which the outer frame, or the frame inside it, is of the six
greatest lengths. -/
def OverlongHint (hintDer : Bytes) : Prop :=
  Overlong 0x30 hintDer ∨
    ∃ outerContent, Framed 4 0x30 hintDer outerContent ∧ Overlong 0xA0 outerContent

theorem readsKemRep_iff (word : usizeBits = 32 ∨ usizeBits = 64) (paRepDer : Bytes) :
    ReadsKemRep usizeBits paRepDer ↔
      ¬ (usizeBits = 32 ∧ Overlong PA_PK_AS_REP_KEM_TAG paRepDer) := by
  constructor
  · rintro ⟨runs, _⟩ ⟨rfl, overlong⟩
    obtain ⟨text, panicked⟩ := takeFrame_overlong overlong (.asn1 "kemInfo: truncated content")
      .release
    obtain ⟨last, rest, rfl, _⟩ := overlong
    exact (runs .release).2 text panicked
  · intro small
    by_cases tagged : isKemRep paRepDer = true
    · obtain ⟨rest, rfl⟩ : ∃ rest, paRepDer = PA_PK_AS_REP_KEM_TAG :: rest := by
        have head := of_decide_eq_true tagged
        exact ⟨_, List.eq_cons_of_mem_head? head⟩
      have reads : ∀ build,
          decodeKemRepContentIn build usizeBits (PA_PK_AS_REP_KEM_TAG :: rest) =
            takeFrame build usizeBits (.asn1 "kemInfo: truncated content")
              (PA_PK_AS_REP_KEM_TAG :: rest) := fun _ => rfl
      rcases takeFrame_outcome word small "kemInfo: truncated content" with
        ⟨content, framed, taken⟩ | ⟨text, failed⟩
      · refine ⟨runsSafely_of_ok fun build => (reads build).trans (taken build), ?_⟩
        intro content' decoded
        obtain rfl := Except.ok.inj (((reads .release).trans (taken .release)).symm.trans decoded)
        exact framed
      · refine ⟨runsSafely_of_error (fun build => (reads build).trans (failed build))
          (asn1_ne_panicked _), ?_⟩
        intro content' decoded
        cases ((reads .release).trans (failed .release)).symm.trans decoded
    · have refused : ∀ build, decodeKemRepContentIn build usizeBits paRepDer =
          .error (.asn1 "PA-PK-AS-REP: expected kemInfo [2] tag") := by
        intro build
        simp only [decodeKemRepContentIn, rejectIf, if_pos (Bool.eq_false_of_not_eq_true tagged)]
        rfl
      refine ⟨runsSafely_of_error refused (asn1_ne_panicked _), ?_⟩
      intro content' decoded
      cases (refused .release).symm.trans decoded

/-- What the reader of a hint does with the content of the outer frame. -/
def readOffers (synta : Synta) (build : Build) (usizeBits : Nat) (outerContent : Bytes) :
    Except PkinitError (List OfferedAlgorithm) :=
  if outerContent.head? ≠ some 0xA0 then
    .ok []
  else do
    let tag0Content ← takeFrame build usizeBits
      (.asn1 "PA-PK-AS-REQ-Hint: truncated [0] content") outerContent
    let algIds ← (synta.algorithmIdentifiers.fromDer tag0Content).mapError
      (asn1Err "decode ephemeralKeyParameters")
    algIds.mapM (offeredAlgorithm synta)

theorem parsePkinitHintIn_cons (synta : Synta) (build : Build) (rest : Bytes) :
    parsePkinitHintIn synta build usizeBits (0x30 :: rest) = (do
      let outerContent ← takeFrame build usizeBits
        (.asn1 "PA-PK-AS-REQ-Hint: truncated outer SEQUENCE") (0x30 :: rest)
      readOffers synta build usizeBits outerContent) := by
  simp [parsePkinitHintIn, readOffers, rejectIf]

theorem offeredAlgorithm_eq_error {synta : Synta} {algId : AlgorithmIdentifier} {e : PkinitError}
    (failed : offeredAlgorithm synta algId = .error e) : ∃ text, e = .asn1 text := by
  have encoding : ∃ encoded : Except String (Option Bytes), offeredAlgorithm synta algId =
      (encoded.mapError (asn1Err "encode algorithm parameters") >>= fun params =>
        .ok (algId.algorithm, params)) := ⟨_, rfl⟩
  obtain ⟨encoded, same⟩ := encoding
  rw [same] at failed
  cases encoded with
  | error text => exact ⟨_, (Except.error.inj failed).symm⟩
  | ok params => cases failed

/-- Decoding what the frames hold does not panic. -/
theorem decodeOffers_ne_panicked (synta : Synta) (tag0Content : Bytes) (text : String) :
    ((synta.algorithmIdentifiers.fromDer tag0Content).mapError
        (asn1Err "decode ephemeralKeyParameters") >>= fun algIds =>
      algIds.mapM (offeredAlgorithm synta)) ≠ .error (.panicked text) := by
  intro panicked
  cases decoded : synta.algorithmIdentifiers.fromDer tag0Content with
  | error e =>
      rw [decoded] at panicked
      cases panicked
  | ok algIds =>
      rw [decoded, mapError_ok, ok_bind] at panicked
      obtain ⟨algId, _, failed⟩ := exists_of_mapM_eq_error panicked
      obtain ⟨_, asn1⟩ := offeredAlgorithm_eq_error failed
      cases asn1

/-- The inner frame is read or refused, and its offers are what it holds. -/
theorem readOffers_outcome (synta : Synta) (word : usizeBits = 32 ∨ usizeBits = 64)
    {outerContent : Bytes} (small : ¬ (usizeBits = 32 ∧ Overlong 0xA0 outerContent)) :
    RunsSafely (fun build => readOffers synta build usizeBits outerContent) ∧
      ∀ offers, readOffers synta .release usizeBits outerContent = .ok offers →
        HoldsOffers synta outerContent offers := by
  by_cases tagged : outerContent.head? = some 0xA0
  · obtain ⟨rest, rfl⟩ : ∃ rest, outerContent = 0xA0 :: rest :=
      ⟨_, List.eq_cons_of_mem_head? tagged⟩
    rcases takeFrame_outcome word small "PA-PK-AS-REQ-Hint: truncated [0] content" with
      ⟨content, framed, taken⟩ | ⟨text, failed⟩
    · have reads : ∀ build, readOffers synta build usizeBits (0xA0 :: rest) =
          ((synta.algorithmIdentifiers.fromDer content).mapError
              (asn1Err "decode ephemeralKeyParameters") >>= fun algIds =>
            algIds.mapM (offeredAlgorithm synta)) := by
        intro build
        rw [readOffers, if_neg (not_not_intro tagged), taken build, ok_bind]
      constructor
      · exact fun build => ⟨(reads build).trans (reads .release).symm,
          fun text panicked => decodeOffers_ne_panicked synta content text
            ((reads build).symm.trans panicked)⟩
      · intro offers read
        simp only [reads, bind_eq_ok, mapError_eq_ok] at read
        obtain ⟨algIds, decoded, offered⟩ := read
        exact ⟨fun _ => ⟨content, algIds, framed, decoded, offered⟩,
          fun untagged => absurd tagged untagged⟩
    · have reads : ∀ build, readOffers synta build usizeBits (0xA0 :: rest) =
          .error (.asn1 text) := by
        intro build
        rw [readOffers, if_neg (not_not_intro tagged), failed build]
        rfl
      refine ⟨runsSafely_of_error reads (asn1_ne_panicked _), ?_⟩
      intro offers read
      rw [reads] at read
      cases read
  · have reads : ∀ build, readOffers synta build usizeBits outerContent = .ok [] :=
      fun build => if_pos tagged
    refine ⟨runsSafely_of_ok reads, ?_⟩
    intro offers read
    rw [reads] at read
    exact ⟨fun there => absurd there tagged, fun _ => (Except.ok.inj read).symm⟩

/-- An inner frame of the six greatest lengths panics. -/
theorem readOffers_overlong (synta : Synta) {outerContent : Bytes}
    (overlong : Overlong 0xA0 outerContent) (build : Build) :
    ∃ text, readOffers synta build 32 outerContent = .error (.panicked text) := by
  obtain ⟨text, panicked⟩ := takeFrame_overlong overlong
    (.asn1 "PA-PK-AS-REQ-Hint: truncated [0] content") build
  obtain ⟨last, rest, rfl, _⟩ := overlong
  refine ⟨text, ?_⟩
  rw [readOffers, if_neg (not_not_intro List.head?_cons), panicked]
  rfl

/-- **A hint with such a frame panics**, whichever of the two it is. -/
theorem parsePkinitHintIn_overlong (synta : Synta) {hintDer : Bytes}
    (overlong : OverlongHint hintDer) (build : Build) :
    ∃ text, parsePkinitHintIn synta build 32 hintDer = .error (.panicked text) := by
  have outer : ∀ hintDer, Overlong 0x30 hintDer →
      ∃ text, parsePkinitHintIn synta build 32 hintDer = .error (.panicked text) := by
    intro hintDer overlong
    obtain ⟨text, panicked⟩ := takeFrame_overlong overlong
      (.asn1 "PA-PK-AS-REQ-Hint: truncated outer SEQUENCE") build
    obtain ⟨last, rest, rfl, _⟩ := overlong
    refine ⟨text, ?_⟩
    rw [parsePkinitHintIn_cons, panicked]
    rfl
  rcases overlong with overlong | ⟨outerContent, ⟨header, rest, field, few, rfl⟩, overlong⟩
  · exact outer hintDer overlong
  rw [List.append_assoc]
  by_cases fits : 1 + header.length + outerContent.length < 2 ^ 32
  · have taken := @takeFrame_of_fits 32 0x30 header (outerContent ++ rest) outerContent.length
      (Nat.le_refl 32) field few fits (.asn1 "PA-PK-AS-REQ-Hint: truncated outer SEQUENCE") build
    rw [if_neg (by simp), List.take_left] at taken
    rw [parsePkinitHintIn_cons, taken, ok_bind]
    exact readOffers_overlong synta overlong build
  · exact outer _ (overlong_of_le field few (Nat.le_of_not_lt fits))

theorem readsHint_iff (synta : Synta) (word : usizeBits = 32 ∨ usizeBits = 64) (hintDer : Bytes) :
    ReadsHint synta usizeBits hintDer ↔ ¬ (usizeBits = 32 ∧ OverlongHint hintDer) := by
  have released := congrFun (congrFun (parsePkinitHintIn_release synta) usizeBits) hintDer
  constructor
  · rintro ⟨runs, _⟩ ⟨rfl, overlong⟩
    obtain ⟨text, panicked⟩ := parsePkinitHintIn_overlong synta overlong .release
    exact (runs .release).2 text panicked
  · intro small
    by_cases tagged : hintDer.head? = some 0x30
    · obtain ⟨rest, rfl⟩ : ∃ rest, hintDer = 0x30 :: rest :=
        ⟨_, List.eq_cons_of_mem_head? tagged⟩
      rcases takeFrame_outcome word (fun both => small ⟨both.1, .inl both.2⟩)
          "PA-PK-AS-REQ-Hint: truncated outer SEQUENCE" with
        ⟨outerContent, framed, taken⟩ | ⟨text, failed⟩
      · have reads : ∀ build, parsePkinitHintIn synta build usizeBits (0x30 :: rest) =
            readOffers synta build usizeBits outerContent := by
          intro build
          rw [parsePkinitHintIn_cons, taken build, ok_bind]
        obtain ⟨runs, holds⟩ := readOffers_outcome synta word fun both =>
          small ⟨both.1, .inr ⟨outerContent, framed, both.2⟩⟩
        refine ⟨fun build => ?_, fun offers read => ?_⟩
        · simp only [reads]
          exact runs build
        · rw [← released, reads] at read
          exact ⟨outerContent, framed, holds offers read⟩
      · have reads : ∀ build, parsePkinitHintIn synta build usizeBits (0x30 :: rest) =
            .error (.asn1 text) := by
          intro build
          rw [parsePkinitHintIn_cons, failed build]
          rfl
        refine ⟨runsSafely_of_error reads (asn1_ne_panicked _), fun offers read => ?_⟩
        rw [← released, reads] at read
        cases read
    · have reads : ∀ build, parsePkinitHintIn synta build usizeBits hintDer =
          .error (.asn1 "PA-PK-AS-REQ-Hint: expected SEQUENCE") := by
        intro build
        simp only [parsePkinitHintIn, rejectIf, if_pos tagged]
        rfl
      refine ⟨runsSafely_of_error reads (asn1_ne_panicked _), fun offers read => ?_⟩
      rw [← released, reads] at read
      cases read

/-- **The two readers are safe exactly where no frame they read is of the six
greatest lengths of a 32-bit word.** With 64 bits they are safe on every
input. -/
theorem length_fields_safe_iff (synta : Synta) (word : usizeBits = 32 ∨ usizeBits = 64)
    (der : Bytes) :
    (ReadsKemRep usizeBits der ↔ ¬ (usizeBits = 32 ∧ Overlong PA_PK_AS_REP_KEM_TAG der)) ∧
      (ReadsHint synta usizeBits der ↔ ¬ (usizeBits = 32 ∧ OverlongHint der)) :=
  ⟨readsKemRep_iff word der, readsHint_iff synta word der⟩

/-- With 64 bits, the six bytes that panic with 32 are refused. -/
theorem length_fields_safe_iff_sixtyFour :
    ReadsKemRep 64 [0xA2, 0x84, 0xFF, 0xFF, 0xFF, 0xFF] ∧
      ReadsHint Reference.synta 64 [0x30, 0x84, 0xFF, 0xFF, 0xFF, 0xFF] :=
  ⟨(length_fields_safe_iff Reference.synta (.inr rfl) _).1.mpr fun both =>
      absurd both.1 (by decide),
    (length_fields_safe_iff Reference.synta (.inr rfl) _).2.mpr fun both =>
      absurd both.1 (by decide)⟩

/-- Six bytes make either reader panic where a `usize` has 32 bits. -/
theorem overlong_length_panics :
    decodeKemRepContent 32 [0xA2, 0x84, 0xFF, 0xFF, 0xFF, 0xFF] =
        .error (.panicked "slice index out of range") ∧
      parsePkinitHint Reference.synta 32 [0x30, 0x84, 0xFF, 0xFF, 0xFF, 0xFF] =
        .error (.panicked "slice index out of range") ∧
      decodeKemRepContentIn .debug 32 [0xA2, 0x84, 0xFF, 0xFF, 0xFF, 0xFF] =
        .error (.panicked "attempt to add with overflow") := by
  refine ⟨rfl, rfl, rfl⟩

/-! ## What is written is read back -/

/-- **Below `2 ^ 32` the length written is the least field.** -/
theorem leastLengthField_derEncodeLength_iff {field : Bytes} {n : Nat} (small : n < 2 ^ 32) :
    LeastLengthField field n ↔ field = derEncodeLength n := by
  have below : n < 256 ^ 126 :=
    calc n < 2 ^ 32 := small
      _ = 256 ^ 4 := rfl
      _ ≤ 256 ^ 126 := Nat.pow_le_pow_right (by decide) (by decide)
  rw [leastLengthField_iff below, derEncodeLength_eq_derLength small]

/-- The wrapper's content is read back, whatever follows it. -/
theorem decodeKemRepContent_append {synta : Synta} {kemRepInfo : KemRepInfo} {innerDer : Bytes}
    (inner : synta.kemRepInfo.toDer kemRepInfo = .ok innerDer) (small : innerDer.length < 2 ^ 32) :
    ∃ der, encodeKemRepWrapper synta kemRepInfo = .ok der ∧
      ∀ s, isKemRep (der ++ s) = true ∧ decodeKemRepContent 64 (der ++ s) = .ok innerDer := by
  have field := ((leastLengthField_derEncodeLength_iff small).mpr rfl).1
  have few := derEncodeLength_length_le innerDer.length
  refine ⟨PA_PK_AS_REP_KEM_TAG :: derEncodeLength innerDer.length ++ innerDer, ?_, fun s => ?_⟩
  · rw [encodeKemRepWrapper, inner]
    rfl
  · refine ⟨rfl, ?_⟩
    have taken := @takeFrame_of_fits 64 PA_PK_AS_REP_KEM_TAG _ (innerDer ++ s) innerDer.length
      (by decide) field few (by omega) (.asn1 "kemInfo: truncated content") .release
    rw [if_neg (by simp), List.take_left, ← List.append_assoc] at taken
    exact taken

/-- **The codec of lengths, and the framing built on it.** What is written is
the least field and is read back in a word of either size; a wrapped reply is
recognised and its content read back whatever follows; attributes are retagged
with the least field of their length. -/
theorem der_length_codec :
    (∀ n, n < 2 ^ 32 → (∀ field, LeastLengthField field n ↔ field = derEncodeLength n) ∧
      ∀ usizeBits, usizeBits = 32 ∨ usizeBits = 64 → ∀ s,
        derParseLength usizeBits (derEncodeLength n ++ s) = .ok (n, (derEncodeLength n).length)) ∧
    (∀ (synta : Synta) kemRepInfo innerDer, synta.kemRepInfo.toDer kemRepInfo = .ok innerDer →
      innerDer.length < 2 ^ 32 → ∃ der, encodeKemRepWrapper synta kemRepInfo = .ok der ∧
        ∀ s, isKemRep (der ++ s) = true ∧ decodeKemRepContent 64 (der ++ s) = .ok innerDer) ∧
    ∀ content : Bytes, content.length < 2 ^ 32 → ∃ field, LeastLengthField field content.length ∧
      retagAsSet content = 0x31 :: field ++ content := by
  refine ⟨fun n small => ⟨fun _ => leastLengthField_derEncodeLength_iff small, ?_⟩,
    fun synta kemRepInfo innerDer => decodeKemRepContent_append, fun content small =>
      ⟨_, (leastLengthField_derEncodeLength_iff small).mpr rfl, rfl⟩⟩
  intro usizeBits word s
  have field := ((leastLengthField_derEncodeLength_iff small).mpr rfl).1
  exact derParseLength_of_field (by omega) field (derEncodeLength_length_le n) s

/-- Three hundred takes two digits, of which neither can be spared. -/
theorem der_length_codec_threeHundred :
    LeastLengthField [0x82, 0x01, 0x2C] 300 ∧
      derParseLength 64 [0x82, 0x01, 0x2C, 0x05] = .ok (300, 3) :=
  ⟨((der_length_codec.1 300 (by decide)).1 _).mpr rfl,
    (der_length_codec.1 300 (by decide)).2 64 (.inr rfl) [0x05]⟩

end Kurbu5Pkinit

import Kurbu5Pkinit.Library.DerLength

/-!
# Length fields and frames

A length field may be longer than it has to: the long form allows leading
zeros, and short lengths in it. Among the fields of one length the
distinguished encoding is the only one of least size. A frame is a tag, a
length field and as many bytes as the field says, and whatever follows.
-/

set_option autoImplicit false

namespace Kurbu5Pkinit.Library

/-! ## The number a string of digits writes -/

/-- The number written in base 256, most significant digit first. -/
def ofBigEndian (digits : Bytes) : Nat :=
  Nat.ofDigits 256 (digits.reverse.map UInt8.toNat)

@[simp] theorem ofBigEndian_nil : ofBigEndian [] = 0 :=
  rfl

/-- Shifting in one more digit. -/
theorem ofBigEndian_concat (digits : Bytes) (last : UInt8) :
    ofBigEndian (digits ++ [last]) = ofBigEndian digits * 256 + last.toNat := by
  simp only [ofBigEndian, List.reverse_append, List.reverse_cons, List.reverse_nil, List.nil_append,
    List.cons_append, List.map_cons, Nat.ofDigits_cons]
  omega

theorem ofBigEndian_bigEndian (n : Nat) : ofBigEndian ((bigEndian n).map UInt8.ofNat) = n := by
  have digits : ((Nat.digits 256 n).map UInt8.ofNat).map UInt8.toNat = Nat.digits 256 n := by
    rw [List.map_map]
    refine (List.map_congr_left fun d member => ?_).trans (List.map_id' _)
    exact UInt8.toNat_ofNat_of_lt' (Nat.digits_lt_base (by decide) member)
  rw [ofBigEndian, bigEndian, ← List.map_reverse, List.reverse_reverse, digits,
    Nat.ofDigits_digits]

theorem ofBigEndian_lt (digits : Bytes) : ofBigEndian digits < 256 ^ digits.length := by
  have bounded : ∀ d ∈ digits.reverse.map UInt8.toNat, d < 256 := by
    intro d member
    obtain ⟨byte, _, rfl⟩ := List.mem_map.mp member
    exact byte.toNat_lt
  simpa [ofBigEndian] using Nat.ofDigits_lt_base_pow_length (by decide) bounded

/-- Digits of one number differ in how many zeros lead them only. -/
theorem ofBigEndian_inj {digits digits' : Bytes} (sameLength : digits.length = digits'.length)
    (same : ofBigEndian digits = ofBigEndian digits') : digits = digits' := by
  have bounded : ∀ bytes : Bytes, ∀ d ∈ bytes.reverse.map UInt8.toNat, d < 256 := by
    intro bytes d member
    obtain ⟨byte, _, rfl⟩ := List.mem_map.mp member
    exact byte.toNat_lt
  have reversed := Nat.ofDigits_inj_of_len_eq (by decide) (by simpa using sameLength)
    (bounded digits) (bounded digits') same
  exact List.reverse_injective (List.map_injective_iff.mpr (fun _ _ => UInt8.toNat_inj.mp) reversed)

/-! ## Length fields -/

/-- A field that says `n`: one byte, or a count and that many digits. -/
inductive LengthField : Bytes → Nat → Prop
  | short (byte : UInt8) (small : byte.toNat < 0x80) : LengthField [byte] byte.toNat
  | long (count : UInt8) (digits : Bytes) (some : digits ≠ [])
      (counted : count.toNat = 0x80 + digits.length) : LengthField (count :: digits)
        (ofBigEndian digits)

theorem LengthField.lt {field : Bytes} {n : Nat} (reads : LengthField field n) :
    n < 256 ^ field.length := by
  cases reads with
  | short byte small => exact byte.toNat_lt
  | long count digits _ _ =>
      exact Nat.lt_of_lt_of_le (ofBigEndian_lt digits)
        (Nat.pow_le_pow_right (by decide) (Nat.le_succ _))

/-- The distinguished encoding is a field. -/
theorem lengthField_derLength {n : Nat} (small : n < 256 ^ 126) : LengthField (derLength n) n := by
  by_cases short : n < 0x80
  · have byte : (UInt8.ofNat n).toNat = n := UInt8.toNat_ofNat_of_lt' (show n < 256 by omega)
    have field := LengthField.short (UInt8.ofNat n) (by rw [byte]; exact short)
    rw [byte] at field
    rw [derLength_of_lt short]
    exact field
  · have positive := bigEndian_length_pos (show 0 < n by omega)
    have bound := bigEndian_length_le small
    have count : (UInt8.ofNat (0x80 + (bigEndian n).length)).toNat = 0x80 + (bigEndian n).length :=
      UInt8.toNat_ofNat_of_lt' (show _ < 256 by omega)
    have field := LengthField.long (UInt8.ofNat (0x80 + (bigEndian n).length))
      ((bigEndian n).map UInt8.ofNat) (by simpa using List.ne_nil_of_length_pos positive)
      (by rw [count, List.length_map])
    rw [ofBigEndian_bigEndian] at field
    rw [derLength_of_le (by omega)]
    exact field

/-- **No field of a length is shorter than the distinguished one, and no other
is as short.** -/
theorem LengthField.derLength_least {field : Bytes} {n : Nat} (reads : LengthField field n) :
    (derLength n).length ≤ field.length ∧
      (field.length = (derLength n).length → field = derLength n) := by
  cases reads with
  | short byte small =>
      rw [derLength_of_lt small]
      simp
  | long count digits some counted =>
      have size : 0 < digits.length := List.length_pos_iff.mpr some
      by_cases short : ofBigEndian digits < 0x80
      · rw [derLength_of_lt short]
        simp only [List.length_cons, List.length_nil]
        omega
      · have least := bigEndian_length_le (ofBigEndian_lt digits)
        rw [derLength_of_le (by omega)]
        simp only [List.length_cons, List.length_map]
        refine ⟨by omega, fun same => ?_⟩
        have sizes : digits.length = ((bigEndian (ofBigEndian digits)).map UInt8.ofNat).length := by
          rw [List.length_map]
          omega
        have digitsSame := ofBigEndian_inj sizes (ofBigEndian_bigEndian _).symm
        rw [← digitsSame, ← List.length_map (f := UInt8.ofNat), ← sizes, ← counted,
          UInt8.ofNat_toNat]

/-- A field of least size among those of its length. -/
def LeastLengthField (field : Bytes) (n : Nat) : Prop :=
  LengthField field n ∧ ∀ other, LengthField other n → field.length ≤ other.length

/-- **The distinguished encoding is the least field, and the only one.** -/
theorem leastLengthField_iff {field : Bytes} {n : Nat} (small : n < 256 ^ 126) :
    LeastLengthField field n ↔ field = derLength n := by
  constructor
  · rintro ⟨reads, least⟩
    obtain ⟨atLeast, same⟩ := reads.derLength_least
    exact same (Nat.le_antisymm (least _ (lengthField_derLength small)) atLeast)
  · rintro rfl
    exact ⟨lengthField_derLength small, fun other reads => reads.derLength_least.1⟩

/-! ## Frames -/

/-- `data` begins with a frame of `tag` around `content`, whose length has at
most `digits` digits. -/
def Framed (digits : Nat) (tag : UInt8) (data content : Bytes) : Prop :=
  ∃ header rest, LengthField header content.length ∧ header.length ≤ digits + 1 ∧
    data = tag :: (header ++ content ++ rest)

end Kurbu5Pkinit.Library

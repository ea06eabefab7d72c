import Mathlib.Data.List.Basic

/-!
# Base64

The standard alphabet with padding: three bytes are written as four digits of
six bits, and what is left of a list as a last group filled up with `=`. The
reader is strict: it takes whole groups only, padding at the end only, and no
bits beyond the last byte.
-/

set_option autoImplicit false

namespace Kurbu5Pkinit.Library.Base64

/-! ## Digits -/

def digit (value : Nat) : Char :=
  if value < 26 then
    Char.ofNat (65 + value)
  else if value < 52 then
    Char.ofNat (71 + value)
  else if value < 62 then
    Char.ofNat (value - 4)
  else if value = 62 then
    '+'
  else
    '/'

def digitValue (c : Char) : Option Nat :=
  let code := c.toNat
  if 65 ≤ code ∧ code ≤ 90 then
    some (code - 65)
  else if 97 ≤ code ∧ code ≤ 122 then
    some (code - 71)
  else if 48 ≤ code ∧ code ≤ 57 then
    some (code + 4)
  else if c = '+' then
    some 62
  else if c = '/' then
    some 63
  else
    none

/-- The characters of an encoding. -/
def InAlphabet (c : Char) : Prop :=
  c.isAlphanum = true ∨ c = '+' ∨ c = '/' ∨ c = '='

theorem digit_spec : ∀ value : Fin 64, digitValue (digit value) = some value.val ∧
    digit value ≠ '=' ∧ InAlphabet (digit value) := by
  unfold InAlphabet
  decide

theorem digitValue_digit {value : Nat} (bound : value < 64) :
    digitValue (digit value) = some value :=
  (digit_spec ⟨value, bound⟩).1

theorem digit_ne_padding {value : Nat} (bound : value < 64) : digit value ≠ '=' :=
  (digit_spec ⟨value, bound⟩).2.1

theorem inAlphabet_digit {value : Nat} (bound : value < 64) : InAlphabet (digit value) :=
  (digit_spec ⟨value, bound⟩).2.2

theorem inAlphabet_padding : InAlphabet '=' :=
  .inr (.inr (.inr rfl))

/-! ## Groups -/

def encode : List UInt8 → List Char
  | [] => []
  | [a] => [digit (a.toNat / 4), digit (a.toNat % 4 * 16), '=', '=']
  | [a, b] =>
      [digit (a.toNat / 4), digit (a.toNat % 4 * 16 + b.toNat / 16), digit (b.toNat % 16 * 4), '=']
  | a :: b :: c :: rest =>
      digit (a.toNat / 4) :: digit (a.toNat % 4 * 16 + b.toNat / 16) ::
        digit (b.toNat % 16 * 4 + c.toNat / 64) :: digit (c.toNat % 64) :: encode rest

def decodeOne (c₁ c₂ : Char) : Option (List UInt8) := do
  let x ← digitValue c₁
  let y ← digitValue c₂
  if y % 16 = 0 then some [.ofNat (x * 4 + y / 16)] else none

def decodeTwo (c₁ c₂ c₃ : Char) : Option (List UInt8) := do
  let x ← digitValue c₁
  let y ← digitValue c₂
  let z ← digitValue c₃
  if z % 4 = 0 then
    some [.ofNat (x * 4 + y / 16), .ofNat (y % 16 * 16 + z / 4)]
  else
    none

def decodeThree (c₁ c₂ c₃ c₄ : Char) : Option (List UInt8) := do
  let x ← digitValue c₁
  let y ← digitValue c₂
  let z ← digitValue c₃
  let w ← digitValue c₄
  return [.ofNat (x * 4 + y / 16), .ofNat (y % 16 * 16 + z / 4), .ofNat (z % 4 * 64 + w)]

def decode : List Char → Option (List UInt8)
  | [] => some []
  | c₁ :: c₂ :: c₃ :: c₄ :: rest =>
      if c₄ = '=' then
        if rest ≠ [] then
          none
        else if c₃ = '=' then
          decodeOne c₁ c₂
        else
          decodeTwo c₁ c₂ c₃
      else do
        let group ← decodeThree c₁ c₂ c₃ c₄
        let others ← decode rest
        return group ++ others
  | _ => none

/-! ## Reading back -/

/-- A byte is put together from its two parts. -/
theorem ofNat_of_eq {a : UInt8} {n : Nat} (same : n = a.toNat) : UInt8.ofNat n = a := by
  rw [same, UInt8.ofNat_toNat]

theorem decodeOne_digits (a : UInt8) :
    decodeOne (digit (a.toNat / 4)) (digit (a.toNat % 4 * 16)) = some [a] := by
  have bound := a.toNat_lt
  unfold decodeOne
  rw [digitValue_digit (by omega), digitValue_digit (by omega)]
  simp only [Option.bind_eq_bind, Option.bind_some]
  rw [if_pos (by omega), ofNat_of_eq (a := a) (by omega)]

theorem decodeTwo_digits (a b : UInt8) :
    decodeTwo (digit (a.toNat / 4)) (digit (a.toNat % 4 * 16 + b.toNat / 16))
      (digit (b.toNat % 16 * 4)) = some [a, b] := by
  have boundA := a.toNat_lt
  have boundB := b.toNat_lt
  unfold decodeTwo
  rw [digitValue_digit (by omega), digitValue_digit (by omega), digitValue_digit (by omega)]
  simp only [Option.bind_eq_bind, Option.bind_some]
  rw [if_pos (by omega), ofNat_of_eq (a := a) (by omega), ofNat_of_eq (a := b) (by omega)]

theorem decodeThree_digits (a b c : UInt8) :
    decodeThree (digit (a.toNat / 4)) (digit (a.toNat % 4 * 16 + b.toNat / 16))
      (digit (b.toNat % 16 * 4 + c.toNat / 64)) (digit (c.toNat % 64)) = some [a, b, c] := by
  have boundA := a.toNat_lt
  have boundB := b.toNat_lt
  have boundC := c.toNat_lt
  unfold decodeThree
  rw [digitValue_digit (by omega), digitValue_digit (by omega), digitValue_digit (by omega),
    digitValue_digit (by omega)]
  simp only [Option.bind_eq_bind, Option.bind_some, Option.pure_def]
  rw [ofNat_of_eq (a := a) (by omega), ofNat_of_eq (a := b) (by omega),
    ofNat_of_eq (a := c) (by omega)]

/-- **What was encoded is read back.** -/
theorem decode_encode (bytes : List UInt8) : decode (encode bytes) = some bytes := by
  induction bytes using encode.induct with
  | case1 => rfl
  | case2 a =>
      simp only [encode, decode, if_true, ne_eq, not_true_eq_false, if_false]
      exact decodeOne_digits a
  | case3 a b =>
      have last : digit (b.toNat % 16 * 4) ≠ '=' := by
        have bound := b.toNat_lt
        exact digit_ne_padding (by omega)
      simp only [encode, decode, if_true, ne_eq, not_true_eq_false, if_false, last]
      exact decodeTwo_digits a b
  | case4 a b c rest ih =>
      have last : digit (c.toNat % 64) ≠ '=' := digit_ne_padding (by omega)
      simp only [encode, decode, last, if_false, decodeThree_digits, ih, Option.bind_eq_bind,
        Option.bind_some, Option.pure_def]
      rfl

/-- An encoding has no character outside the alphabet. -/
theorem inAlphabet_of_mem_encode {bytes : List UInt8} {c : Char} (member : c ∈ encode bytes) :
    InAlphabet c := by
  induction bytes using encode.induct with
  | case1 => cases member
  | case2 a =>
      have bound := a.toNat_lt
      simp only [encode, List.mem_cons, List.not_mem_nil, or_false] at member
      rcases member with rfl | rfl | rfl | rfl
      · exact inAlphabet_digit (by omega)
      · exact inAlphabet_digit (by omega)
      · exact inAlphabet_padding
      · exact inAlphabet_padding
  | case3 a b =>
      have boundA := a.toNat_lt
      have boundB := b.toNat_lt
      simp only [encode, List.mem_cons, List.not_mem_nil, or_false] at member
      rcases member with rfl | rfl | rfl | rfl
      · exact inAlphabet_digit (by omega)
      · exact inAlphabet_digit (by omega)
      · exact inAlphabet_digit (by omega)
      · exact inAlphabet_padding
  | case4 a b c rest ih =>
      have boundA := a.toNat_lt
      have boundB := b.toNat_lt
      have boundC := c.toNat_lt
      simp only [encode, List.mem_cons] at member
      rcases member with rfl | rfl | rfl | rfl | member
      · exact inAlphabet_digit (by omega)
      · exact inAlphabet_digit (by omega)
      · exact inAlphabet_digit (by omega)
      · exact inAlphabet_digit (by omega)
      · exact ih member

end Kurbu5Pkinit.Library.Base64

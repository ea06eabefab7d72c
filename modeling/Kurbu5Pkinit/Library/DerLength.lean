import Mathlib.Data.Nat.Digits.Lemmas
import Kurbu5Pkinit.Library.Codecs

/-!
# Definite lengths of the distinguished encoding

A length below 128 is one byte. A longer one is a byte that counts the bytes
after it, with the high bit set, followed by the length in base 256, most
significant digit first and without leading zeros.
-/

set_option autoImplicit false

namespace Kurbu5Pkinit.Library

/-- The base 256 digits of a number, most significant first. -/
def bigEndian (n : Nat) : List Nat :=
  (Nat.digits 256 n).reverse

/-- The definite length encoding of `n`. -/
def derLength (n : Nat) : Bytes :=
  if n < 0x80 then
    [UInt8.ofNat n]
  else
    UInt8.ofNat (0x80 + (bigEndian n).length) :: (bigEndian n).map UInt8.ofNat

@[simp] theorem bigEndian_of_lt {n : Nat} (positive : 0 < n) (small : n < 256) :
    bigEndian n = [n] := by
  simp [bigEndian, Nat.digits_of_lt 256 n (by omega) small]

/-- One more digit: the leading digits of `n`, then its last one. -/
theorem bigEndian_of_le {n : Nat} (large : 256 ≤ n) :
    bigEndian n = bigEndian (n / 256) ++ [n % 256] := by
  simp [bigEndian, Nat.digits_def' (by omega : 1 < 256) (by omega : 0 < n)]

theorem bigEndian_length_pos {n : Nat} (positive : 0 < n) : 0 < (bigEndian n).length := by
  rw [bigEndian, List.length_reverse, List.length_pos_iff, Nat.digits_ne_nil_iff_ne_zero]
  omega

theorem bigEndian_length_le {n k : Nat} (small : n < 256 ^ k) : (bigEndian n).length ≤ k := by
  simpa [bigEndian] using (Nat.digits_length_le_iff (by decide) n).mpr small

/-- A byte keeps the last digit of a number. -/
theorem ofNat_mod_256 (n : Nat) : UInt8.ofNat (n % 256) = UInt8.ofNat n :=
  UInt8.ofNat_mod_size

theorem derLength_of_lt {n : Nat} (short : n < 0x80) : derLength n = [UInt8.ofNat n] :=
  if_pos short

theorem derLength_of_le {n : Nat} (long : 0x80 ≤ n) :
    derLength n =
      UInt8.ofNat (0x80 + (bigEndian n).length) :: (bigEndian n).map UInt8.ofNat :=
  if_neg (by omega)

end Kurbu5Pkinit.Library

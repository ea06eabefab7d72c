import Mathlib.Algebra.Group.Nat.Defs
import Mathlib.Data.List.Basic

/-!
# SHA-1 and the expansion of a hash

The hash function SHA-1 of FIPS 180-4, on lists of bytes. A hash gives as many
bytes as one wants when it is expanded: blocks of one width, numbered from
zero, are written one after the other and cut off at the length.
-/

set_option autoImplicit false

namespace Kurbu5Pkinit.Library

namespace Sha1

/-! ## Words -/

def rotateLeft (x count : UInt32) : UInt32 :=
  x <<< count ||| x >>> (32 - count)

/-- Words of four bytes, the most significant first. -/
def words : List UInt8 → List UInt32
  | a :: b :: c :: d :: rest =>
      (a.toUInt32 <<< 24 ||| b.toUInt32 <<< 16 ||| c.toUInt32 <<< 8 ||| d.toUInt32) :: words rest
  | _ => []

def wordBytes (x : UInt32) : List UInt8 :=
  [(x >>> 24).toUInt8, (x >>> 16).toUInt8, (x >>> 8).toUInt8, x.toUInt8]

/-! ## Padding -/

/-- A one bit, zeros, and the length in bits, up to a multiple of 64 bytes. -/
def pad (message : List UInt8) : List UInt8 :=
  let bits := 8 * message.length
  message ++ 0x80 :: List.replicate ((119 - message.length % 64) % 64) 0 ++
    wordBytes (UInt32.ofNat (bits / 2 ^ 32)) ++ wordBytes (UInt32.ofNat bits)

/-! ## The message schedule -/

/-- The word that follows the last sixteen. -/
def nextWord (window : List UInt32) : UInt32 :=
  rotateLeft (window.getD 13 0 ^^^ window.getD 8 0 ^^^ window.getD 2 0 ^^^ window.getD 0 0) 1

def schedule : Nat → List UInt32 → List UInt32
  | 0, _ => []
  | count + 1, window => window.headD 0 :: schedule count (window.tail ++ [nextWord window])

/-! ## Rounds -/

structure State where
  a : UInt32
  b : UInt32
  c : UInt32
  d : UInt32
  e : UInt32

def initial : State := ⟨0x67452301, 0xEFCDAB89, 0x98BADCFE, 0x10325476, 0xC3D2E1F0⟩

def mix (t : Nat) (b c d : UInt32) : UInt32 :=
  if t < 20 then
    b &&& c ||| ~~~b &&& d
  else if 40 ≤ t ∧ t < 60 then
    b &&& c ||| b &&& d ||| c &&& d
  else
    b ^^^ c ^^^ d

def roundConstant (t : Nat) : UInt32 :=
  if t < 20 then
    0x5A827999
  else if t < 40 then
    0x6ED9EBA1
  else if t < 60 then
    0x8F1BBCDC
  else
    0xCA62C1D6

def round (s : State) (entry : UInt32 × Nat) : State where
  a := rotateLeft s.a 5 + mix entry.2 s.b s.c s.d + s.e + roundConstant entry.2 + entry.1
  b := s.a
  c := rotateLeft s.b 30
  d := s.c
  e := s.d

def compress (s : State) (block : List UInt32) : State :=
  let r := (schedule 80 block).zipIdx.foldl round s
  ⟨s.a + r.a, s.b + r.b, s.c + r.c, s.d + r.d, s.e + r.e⟩

/-- Compress this many blocks of sixteen words. -/
def compressBlocks : Nat → State → List UInt32 → State
  | 0, s, _ => s
  | count + 1, s, message => compressBlocks count (compress s (message.take 16)) (message.drop 16)

def State.bytes (s : State) : List UInt8 :=
  wordBytes s.a ++ wordBytes s.b ++ wordBytes s.c ++ wordBytes s.d ++ wordBytes s.e

def hash (message : List UInt8) : List UInt8 :=
  let padded := words (pad message)
  (compressBlocks (padded.length / 16) initial padded).bytes

theorem length_hash (message : List UInt8) : (hash message).length = 20 := rfl

/-- The hash of `abc`. -/
example : hash [0x61, 0x62, 0x63] =
    [0xA9, 0x99, 0x3E, 0x36, 0x47, 0x06, 0x81, 0x6A, 0xBA, 0x3E, 0x25, 0x71, 0x78, 0x50, 0xC2,
      0x6C, 0x9C, 0xD0, 0xD8, 0x9D] := by
  decide +kernel

end Sha1

/-! ## Expansion -/

section Expansion

variable {α : Type}

/-- The first elements of blocks of one width, written one after the other. -/
def expand (width : Nat) (block : Nat → List α) (length : Nat) : List α :=
  ((List.range (length / width + 1)).flatMap block).take length

variable {width : Nat} {block : Nat → List α}

theorem length_blocks (uniform : ∀ index, (block index).length = width) (count : Nat) :
    ((List.range count).flatMap block).length = count * width := by
  induction count with
  | zero => simp
  | succ count ih =>
      rw [List.range_succ, List.flatMap_append, List.length_append, ih, List.flatMap_singleton,
        uniform, Nat.succ_mul]

/-- A position lies in the block its quotient names, at its remainder. -/
theorem getElem?_blocks (uniform : ∀ index, (block index).length = width) {count i : Nat}
    (within : i < count * width) :
    ((List.range count).flatMap block)[i]? = (block (i / width))[i % width]? := by
  have positive : 0 < width := Nat.pos_of_ne_zero fun none => by simp [none] at within
  induction count with
  | zero => simp at within
  | succ count ih =>
      rw [List.range_succ, List.flatMap_append, List.flatMap_singleton]
      rw [Nat.succ_mul] at within
      by_cases earlier : i < count * width
      · rw [List.getElem?_append_left (by rwa [length_blocks uniform]), ih earlier]
      · have offset : i = i - count * width + width * count := by
          rw [Nat.mul_comm width]
          omega
        have short : i - count * width < width := by omega
        rw [List.getElem?_append_right (by rw [length_blocks uniform]; omega),
          length_blocks uniform]
        rw [offset, Nat.add_mul_div_left _ _ positive, Nat.add_mul_mod_self_left,
          Nat.div_eq_of_lt short, Nat.mod_eq_of_lt short, Nat.zero_add, Nat.mul_comm width,
          Nat.add_sub_cancel]

theorem length_expand (uniform : ∀ index, (block index).length = width) (positive : 0 < width)
    (length : Nat) : (expand width block length).length = length := by
  rw [expand, List.length_take, length_blocks uniform]
  have enough := Nat.lt_div_mul_add (a := length) positive
  rw [Nat.succ_mul]
  omega

theorem getElem?_expand (uniform : ∀ index, (block index).length = width) (positive : 0 < width)
    {length i : Nat} (within : i < length) :
    (expand width block length)[i]? = (block (i / width))[i % width]? := by
  have enough := Nat.lt_div_mul_add (a := length) positive
  rw [expand, List.getElem?_take_of_lt within]
  apply getElem?_blocks uniform
  rw [Nat.succ_mul]
  omega

end Expansion

end Kurbu5Pkinit.Library

import Mathlib.Data.Nat.Bitwise

/-!
# Bits collected in a mask

A loop over indices that sets a bit for each one that passes a test. A bit of
the result says that its index passed; the result is zero when none did, and
not only when there was nothing to test.
-/

set_option autoImplicit false

namespace Kurbu5Pkinit.Library

/-- The indices that pass, as bits on top of those already set. -/
def collectBits (passes : Nat → Bool) (indices : List Nat) (bits : Nat) : Nat :=
  indices.foldl (fun bits i => if passes i then bits ||| (1 <<< i) else bits) bits

variable {passes : Nat → Bool} {indices : List Nat} {bits : Nat}

theorem testBit_or_shiftLeft_one {bit i : Nat} :
    (bits ||| (1 <<< i)).testBit bit = true ↔ bits.testBit bit = true ∨ bit = i := by
  rw [Nat.testBit_or, Nat.one_shiftLeft, Nat.testBit_two_pow, Bool.or_eq_true, decide_eq_true_eq,
    eq_comm (a := i)]

theorem testBit_collectBits {bit : Nat} :
    (collectBits passes indices bits).testBit bit = true ↔
      bits.testBit bit = true ∨ bit ∈ indices ∧ passes bit = true := by
  induction indices generalizing bits with
  | nil => simp [collectBits]
  | cons i indices ih =>
      have step : collectBits passes (i :: indices) bits =
          collectBits passes indices (if passes i then bits ||| (1 <<< i) else bits) := rfl
      rw [step, ih]
      by_cases passed : passes i = true
      · rw [if_pos passed, testBit_or_shiftLeft_one, List.mem_cons]
        constructor
        · rintro ((set | rfl) | ⟨member, own⟩)
          · exact .inl set
          · exact .inr ⟨.inl rfl, passed⟩
          · exact .inr ⟨.inr member, own⟩
        · rintro (set | ⟨rfl | member, own⟩)
          · exact .inl (.inl set)
          · exact .inl (.inr rfl)
          · exact .inr ⟨member, own⟩
      · rw [if_neg passed, List.mem_cons]
        constructor
        · exact Or.imp_right fun ⟨member, own⟩ => ⟨.inr member, own⟩
        · rintro (set | ⟨rfl | member, own⟩)
          · exact .inl set
          · exact absurd own passed
          · exact .inr ⟨member, own⟩

theorem collectBits_zero_eq_zero_iff :
    collectBits passes indices 0 = 0 ↔ ∀ i ∈ indices, passes i = false := by
  constructor
  · intro none i member
    by_contra passed
    have set : (collectBits passes indices 0).testBit i = true :=
      testBit_collectBits.mpr (.inr ⟨member, by simpa using passed⟩)
    rw [none, Nat.zero_testBit] at set
    cases set
  · intro none
    apply Nat.eq_of_testBit_eq
    intro i
    rw [Nat.zero_testBit]
    by_contra set
    rcases testBit_collectBits.mp (Bool.not_eq_false _ ▸ set) with set | ⟨member, passed⟩
    · rw [Nat.zero_testBit] at set
      cases set
    · exact absurd (none i member) (by simp [passed])

theorem and_shiftLeft_one_eq_zero_iff {i : Nat} :
    bits &&& (1 <<< i) = 0 ↔ bits.testBit i = false := by
  rw [Nat.one_shiftLeft, Nat.and_two_pow]
  cases bits.testBit i with
  | false => simp
  | true => simp

end Kurbu5Pkinit.Library

import Mathlib.Algebra.GroupWithZero.Nat
import Mathlib.Data.List.Basic

/-!
# Offsets in a text

A text is a list of characters, and an offset into it counts bytes of UTF-8.
Cutting a text at an offset inside a character, or past its end, has no
result. Searching for a part gives the offset of its first occurrence, which
never lies inside a character.
-/

set_option autoImplicit false

namespace Kurbu5Pkinit.Library

def byteLength (text : List Char) : Nat :=
  (text.map Char.utf8Size).sum

@[simp] theorem byteLength_nil : byteLength [] = 0 :=
  rfl

@[simp] theorem byteLength_cons (c : Char) (text : List Char) :
    byteLength (c :: text) = c.utf8Size + byteLength text :=
  List.sum_cons

@[simp] theorem byteLength_append (text text' : List Char) :
    byteLength (text ++ text') = byteLength text + byteLength text' := by
  rw [byteLength, List.map_append, List.sum_append]
  rfl

@[simp] theorem byteLength_eq_zero_iff {text : List Char} : byteLength text = 0 ↔ text = [] := by
  cases text with
  | nil => simp
  | cons c text =>
      have := c.utf8Size_pos
      simp only [byteLength_cons, List.cons_ne_nil, iff_false]
      omega

/-! ## Cutting -/

/-- What follows the first `offset` bytes. -/
def dropBytes : List Char → Nat → Option (List Char)
  | [], offset => if offset = 0 then some [] else none
  | c :: text, offset =>
      if offset = 0 then
        some (c :: text)
      else if c.utf8Size ≤ offset then
        dropBytes text (offset - c.utf8Size)
      else
        none

/-- The first `offset` bytes. -/
def takeBytes : List Char → Nat → Option (List Char)
  | [], offset => if offset = 0 then some [] else none
  | c :: text, offset =>
      if offset = 0 then
        some []
      else if c.utf8Size ≤ offset then
        (takeBytes text (offset - c.utf8Size)).map (c :: ·)
      else
        none

/-- The text between two offsets. -/
def sliceBytes (text : List Char) (start stop : Nat) : Option (List Char) :=
  if start ≤ stop then
    (dropBytes text start).bind fun rest => takeBytes rest (stop - start)
  else
    none

@[simp] theorem dropBytes_zero (text : List Char) : dropBytes text 0 = some text := by
  cases text <;> rfl

@[simp] theorem takeBytes_zero (text : List Char) : takeBytes text 0 = some [] := by
  cases text <;> rfl

/-- The offset after a part of the text is a boundary. -/
@[simp] theorem dropBytes_append (text rest : List Char) :
    dropBytes (text ++ rest) (byteLength text) = some rest := by
  induction text with
  | nil => exact dropBytes_zero rest
  | cons c text ih =>
      have := c.utf8Size_pos
      rw [List.cons_append, byteLength_cons, dropBytes, if_neg (by omega), if_pos (by omega),
        Nat.add_sub_cancel_left, ih]

@[simp] theorem takeBytes_append (text rest : List Char) :
    takeBytes (text ++ rest) (byteLength text) = some text := by
  induction text with
  | nil => exact takeBytes_zero rest
  | cons c text ih =>
      have := c.utf8Size_pos
      rw [List.cons_append, byteLength_cons, takeBytes, if_neg (by omega), if_pos (by omega),
        Nat.add_sub_cancel_left, ih]
      rfl

/-- Between the offsets around a part of the text is that part. -/
theorem sliceBytes_append (before text after : List Char) :
    sliceBytes (before ++ text ++ after) (byteLength before)
      (byteLength before + byteLength text) = some text := by
  rw [sliceBytes, if_pos (Nat.le_add_right _ _), List.append_assoc, dropBytes_append,
    Option.bind_some, Nat.add_sub_cancel_left, takeBytes_append]

/-! ## Searching -/

/-- The text before and after the first occurrence of a part. -/
def cutFirst {α : Type} [DecidableEq α] (part : List α) : List α → Option (List α × List α)
  | [] => if part = [] then some ([], []) else none
  | x :: text =>
      if part <+: x :: text then
        some ([], (x :: text).drop part.length)
      else
        (cutFirst part text).map fun cut => (x :: cut.1, cut.2)

/-- The offset of the first occurrence of a part. -/
def findText (part text : List Char) : Option Nat :=
  (cutFirst part text).map fun cut => byteLength cut.1

section Cut

variable {α : Type} [DecidableEq α] {part text before after : List α}

/-- The first occurrence is an occurrence, and what follows any other
occurrence also follows it. -/
theorem cutFirst_eq_some (found : cutFirst part text = some (before, after)) :
    text = before ++ part ++ after ∧
      ∀ before' after', text = before' ++ part ++ after' → after' <:+ after := by
  induction text generalizing before after with
  | nil =>
      unfold cutFirst at found
      split at found
      · next empty =>
          obtain ⟨rfl, rfl⟩ := Prod.mk.inj (Option.some.inj found)
          subst empty
          refine ⟨rfl, fun before' after' same => ?_⟩
          simp only [List.append_nil, List.nil_eq, List.append_eq_nil_iff] at same
          exact same.2 ▸ List.suffix_rfl
      · cases found
  | cons x text ih =>
      unfold cutFirst at found
      split at found
      · next there =>
          obtain ⟨rfl, rfl⟩ := Prod.mk.inj (Option.some.inj found)
          obtain ⟨rest, same⟩ := there
          have cut : (x :: text).drop part.length = rest := by
            rw [← same, List.drop_left]
          refine ⟨by rw [List.nil_append, cut, same], fun before' after' same' => ?_⟩
          rw [cut]
          refine List.suffix_of_suffix_length_le ⟨before' ++ part, same'.symm⟩ ⟨part, same⟩ ?_
          have sizes := congrArg List.length (same.trans same')
          simp only [List.length_append] at sizes
          omega
      · next elsewhere =>
          obtain ⟨⟨before₁, after₁⟩, cut, same⟩ := Option.map_eq_some_iff.mp found
          obtain ⟨rfl, rfl⟩ := Prod.mk.inj same
          obtain ⟨split, least⟩ := ih cut
          refine ⟨by rw [split]; rfl, fun before' after' same' => ?_⟩
          cases before' with
          | nil => exact absurd ⟨after', same'.symm⟩ elsewhere
          | cons y before' => exact least before' after' (List.cons.inj same').2

theorem cutFirst_eq_none (missing : cutFirst part text = none) : ¬ part <:+: text := by
  induction text with
  | nil =>
      unfold cutFirst at missing
      split at missing
      · cases missing
      · next some => exact fun occurs => some (List.infix_nil.mp occurs)
  | cons x text ih =>
      unfold cutFirst at missing
      split at missing
      · cases missing
      · next elsewhere =>
          rw [Option.map_eq_none_iff] at missing
          exact fun occurs => (List.infix_cons_iff.mp occurs).elim elsewhere (ih missing)

/-- A part that occurs is found, no later than any occurrence of it. -/
theorem cutFirst_of_occurs (same : text = before ++ part ++ after) :
    ∃ before' after', cutFirst part text = some (before', after') ∧ after <:+ after' := by
  cases found : cutFirst part text with
  | none => exact absurd ⟨before, after, same.symm⟩ (cutFirst_eq_none found)
  | some cut => exact ⟨cut.1, cut.2, rfl, (cutFirst_eq_some found).2 before after same⟩

theorem cutFirst_isSome_iff : (cutFirst part text).isSome = true ↔ part <:+: text := by
  constructor
  · intro found
    obtain ⟨cut, found⟩ := Option.isSome_iff_exists.mp found
    exact ⟨cut.1, cut.2, (cutFirst_eq_some found).1.symm⟩
  · rintro ⟨before, after, same⟩
    obtain ⟨_, _, found, _⟩ := cutFirst_of_occurs same.symm
    rw [found]
    rfl

@[simp] theorem cutFirst_nil_part (text : List α) : cutFirst [] text = some ([], text) := by
  cases text with
  | nil => rfl
  | cons x text => exact if_pos (List.nil_prefix)

/-- The first occurrence is at the front where the text begins with the part. -/
theorem cutFirst_eq_some_nil_iff :
    cutFirst part text = some ([], after) ↔ text = part ++ after := by
  constructor
  · intro found
    exact (cutFirst_eq_some found).1
  · rintro rfl
    cases whole : part ++ after with
    | nil =>
        obtain ⟨rfl, rfl⟩ := List.append_eq_nil_iff.mp whole
        rfl
    | cons x text =>
        unfold cutFirst
        rw [if_pos ⟨after, whole⟩, ← whole, List.drop_left]

/-- One element occurs first where nothing before is it. -/
theorem cutFirst_singleton {x : α} {before : List α} (absent : x ∉ before) (after : List α) :
    cutFirst [x] (before ++ x :: after) = some (before, after) := by
  induction before with
  | nil => exact cutFirst_eq_some_nil_iff.mpr rfl
  | cons y before ih =>
      have other : ¬ [x] <+: y :: (before ++ x :: after) := by
        rw [List.cons_prefix_cons]
        exact fun front => absent (front.1 ▸ List.mem_cons_self)
      rw [List.cons_append, cutFirst, if_neg other,
        ih fun member => absent (List.mem_cons_of_mem y member)]
      rfl

end Cut

theorem findText_singleton {c : Char} {before : List Char} (absent : c ∉ before)
    (after : List Char) : findText [c] (before ++ c :: after) = some (byteLength before) := by
  rw [findText, cutFirst_singleton absent]
  rfl

end Kurbu5Pkinit.Library

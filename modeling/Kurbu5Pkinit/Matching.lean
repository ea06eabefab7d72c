import Kurbu5Pkinit.Certauth
import Kurbu5Pkinit.Identity
import Kurbu5Pkinit.Library.Glob

/-!
# Patterns of the matching rules

A rule of `pkinit_cert_match` compares a name of the certificate with a
pattern. Without a `*` the pattern must occur in the name; with one, the
pieces between the stars are looked up from left to right, the first at the
front of the name and the last at its end.

The last piece is looked up where it occurs first, like the others, so a name
is refused where the piece occurs once more before the end
(`simpleMatch_eq_declared_iff`).
-/

set_option autoImplicit false

namespace Kurbu5Pkinit

open Library

/-! ## The loop over the pieces -/

/-- Look each piece up after the one before, from the piece `i` on: where the
last one ends, or nothing when a piece is missing. -/
def placeParts (haystack : List Char) : Nat → List (List Char) → Nat →
    Except PkinitError (Option Nat)
  | _, [], pos => .ok (some pos)
  | i, part :: parts, pos =>
      if part = [] then
        placeParts haystack (i + 1) parts pos
      else do
        let rest ← okOr (dropBytes haystack pos) (.panicked "byte index is not a char boundary")
        match findText part rest with
        | some found =>
            if i = 0 ∧ found ≠ 0 then
              return none
            else
              placeParts haystack (i + 1) parts (pos + found + byteLength part)
        | none => return none

/-- `str::contains`. -/
def containsText (haystack pattern : List Char) : Bool :=
  (findText pattern haystack).isSome

def simpleMatch (haystack pattern : String) : Except PkinitError Bool :=
  if '*' ∈ pattern.toList then do
    let parts := splitChars '*' pattern.toList
    match ← placeParts haystack.toList 0 parts 0 with
    | none => return false
    | some pos =>
        match parts.getLast? with
        | none => return true
        | some last => return last.isEmpty || pos == byteLength haystack.toList
  else
    return containsText haystack.toList pattern.toList

/-- From the second piece on, the loop is the leftmost placement, and every
offset it cuts at is a boundary. -/
theorem placeParts_succ (used tail : List Char) (i : Nat) (parts : List (List Char)) :
    placeParts (used ++ tail) (i + 1) parts (byteLength used) =
      .ok ((placeAll parts tail).map fun rest => byteLength (used ++ tail) - byteLength rest) := by
  induction parts generalizing used tail i with
  | nil => simp [placeParts, placeAll]
  | cons part parts ih =>
      unfold placeParts
      by_cases empty : part = []
      · subst empty
        rw [if_pos rfl, ih used tail]
        simp [placeAll]
      · rw [if_neg empty, dropBytes_append, okOr_some, ok_bind, placeAll, findText]
        cases found : cutFirst part tail with
        | none => rfl
        | some cut =>
            obtain ⟨rfl, _⟩ := cutFirst_eq_some found
            have next := ih (used ++ (cut.1 ++ part)) cut.2 (i + 1)
            simp only [List.append_assoc, byteLength_append] at next
            simp only [Option.map_some, Option.bind_some, Nat.add_eq_zero_iff, Nat.succ_ne_self,
              and_false, false_and, if_false, List.append_assoc, byteLength_append, Nat.add_assoc]
            exact next

/-- The first piece must be at the front. -/
theorem placeParts_zero (haystack first : List Char) (parts : List (List Char)) :
    (∃ tail, haystack = first ++ tail ∧ placeParts haystack 0 (first :: parts) 0 =
      .ok ((placeAll parts tail).map fun rest => byteLength haystack - byteLength rest)) ∨
    ¬ first <+: haystack ∧ placeParts haystack 0 (first :: parts) 0 = .ok none := by
  unfold placeParts
  by_cases empty : first = []
  · subst empty
    exact .inl ⟨haystack, rfl, placeParts_succ [] haystack 0 parts⟩
  rw [if_neg empty, dropBytes_zero, okOr_some, ok_bind, findText]
  cases found : cutFirst first haystack with
  | none =>
      exact .inr ⟨fun front => cutFirst_eq_none found front.isInfix, rfl⟩
  | some cut =>
      obtain ⟨before, tail⟩ := cut
      cases before with
      | nil =>
          obtain rfl := cutFirst_eq_some_nil_iff.mp found
          refine .inl ⟨tail, rfl, ?_⟩
          simpa using placeParts_succ first tail 0 parts
      | cons c before =>
          refine .inr ⟨?_, ?_⟩
          · rintro ⟨rest, same⟩
            rw [cutFirst_eq_some_nil_iff.mpr same.symm] at found
            cases found
          · have later := c.utf8Size_pos
            simp only [Option.map_some, byteLength_cons]
            rw [if_pos ⟨trivial, by omega⟩]
            rfl

/-! ## The declared language -/

/-- The names a pattern stands for: with the pieces between its stars in
order, any text in each gap; without a star, the names it occurs in. -/
def Declares (pattern haystack : List Char) : Prop :=
  match pattern.splitOn '*' with
  | [] | [_] => pattern <:+: haystack
  | first :: pieces => MatchesPieces first pieces haystack

/-- A pattern ends in a piece, and stands for the name and for a proper prefix
of it. -/
def EndsEarly (pattern haystack : List Char) : Prop :=
  '*' ∈ pattern ∧ pattern.getLast? ≠ some '*' ∧ Declares pattern haystack ∧
    ∃ front more, more ≠ [] ∧ haystack = front ++ more ∧ Declares pattern front

/-- A pattern with a star has a first piece and others. -/
theorem splitOn_of_mem {pattern : List Char} (star : '*' ∈ pattern) :
    ∃ first piece pieces, pattern.splitOn '*' = first :: piece :: pieces := by
  obtain ⟨before, after, rfl, absent⟩ := List.eq_append_cons_of_mem star
  rw [List.splitOn_append_cons_self_of_not_mem absent]
  obtain ⟨piece, pieces, same⟩ := List.exists_cons_of_ne_nil (List.splitOn_ne_nil '*' after)
  exact ⟨before, piece, pieces, by rw [same]⟩

/-- Its last piece is empty where it ends in a star. -/
theorem getLast?_splitOn_eq_nil_iff {pattern : List Char} (star : '*' ∈ pattern) :
    (pattern.splitOn '*').getLast? = some [] ↔ pattern.getLast? = some '*' := by
  obtain ⟨after, before, reversed, absent⟩ :=
    List.eq_append_cons_of_mem (List.mem_reverse.mpr star)
  have split : pattern = before.reverse ++ '*' :: after.reverse := by
    rw [← List.reverse_reverse pattern, reversed]
    simp
  have piece : after.reverse.splitOn '*' = [after.reverse] :=
    List.splitOn_eq_singleton (by simpa using absent)
  have last : (pattern.splitOn '*').getLast? = some after.reverse := by
    rw [split, List.splitOn_append_cons_self, piece, List.getLast?_concat]
  rw [last, split]
  cases after with
  | nil => simp
  | cons c after =>
      have other : c ≠ '*' := fun same => absent (same ▸ List.mem_cons_self)
      have ends : before.reverse ++ '*' :: (c :: after).reverse =
          (before.reverse ++ '*' :: after.reverse) ++ [c] := by simp
      rw [ends, List.getLast?_concat]
      simp [other]

/-- What the function answers, by the leftmost placement. -/
theorem simpleMatch_of_mem {haystack pattern first : List Char} {pieces : List (List Char)}
    (star : '*' ∈ pattern) (split : pattern.splitOn '*' = first :: pieces) :
    ∃ answer, simpleMatch (String.ofList haystack) (String.ofList pattern) = .ok answer ∧
      (answer = true ↔ ∃ tail rest, haystack = first ++ tail ∧ placeAll pieces tail = some rest ∧
        (pattern.getLast? = some '*' ∨ rest = [])) := by
  have last := getLast?_splitOn_eq_nil_iff star
  unfold simpleMatch
  rw [String.toList_ofList, String.toList_ofList, if_pos star, splitChars_eq_splitOn, split]
  rw [split] at last
  simp only
  rcases placeParts_zero haystack first pieces with ⟨tail, rfl, placed⟩ | ⟨elsewhere, placed⟩
  · rw [placed, ok_bind]
    cases all : placeAll pieces tail with
    | none =>
        refine ⟨false, rfl, ?_⟩
        simp [all]
    | some rest =>
        obtain ⟨used, rfl, _⟩ := (placed_of_placeAll all).exists_front
        have ends : byteLength (first ++ (used ++ rest)) - byteLength rest =
            byteLength (first ++ (used ++ rest)) ↔ rest = [] := by
          rw [← byteLength_eq_zero_iff]
          simp only [byteLength_append]
          omega
        have only : ∀ tail' rest', first ++ (used ++ rest) = first ++ tail' →
            placeAll pieces tail' = some rest' → rest' = rest := by
          intro tail' rest' same all'
          rw [← List.append_cancel_left same, all] at all'
          exact (Option.some.inj all').symm
        cases ending : (first :: pieces).getLast? with
        | none => cases List.getLast?_eq_none_iff.mp ending
        | some piece =>
            refine ⟨_, rfl, ?_⟩
            rw [ending, Option.some.injEq] at last
            rw [Bool.or_eq_true, List.isEmpty_iff, last, beq_iff_eq, ends]
            constructor
            · intro fits
              exact ⟨used ++ rest, rest, rfl, all, fits⟩
            · rintro ⟨tail', rest', same, all', fits⟩
              rw [← only tail' rest' same all']
              exact fits
  · rw [placed]
    refine ⟨false, rfl, ?_⟩
    simp only [Bool.false_eq_true, false_iff]
    rintro ⟨tail, _, rfl, _⟩
    exact elsewhere (List.prefix_append first tail)

/-- The pieces of a declared name, one after the other. -/
theorem declares_iff_of_mem {pattern first : List Char} {pieces : List (List Char)}
    (star : '*' ∈ pattern) (split : pattern.splitOn '*' = first :: pieces) (haystack : List Char) :
    Declares pattern haystack ↔ ∃ tail, haystack = first ++ tail ∧ Placed pieces tail [] := by
  obtain ⟨first', piece, pieces', split'⟩ := splitOn_of_mem star
  obtain ⟨rfl, rfl⟩ := List.cons.inj (split.symm.trans split')
  unfold Declares
  rw [split]
  exact matchesPieces_iff

theorem simpleMatch_of_not_mem {haystack pattern : List Char} (plain : '*' ∉ pattern) :
    ∃ answer, simpleMatch (String.ofList haystack) (String.ofList pattern) = .ok answer ∧
      (answer = true ↔ Declares pattern haystack) := by
  refine ⟨containsText haystack pattern, ?_, ?_⟩
  · unfold simpleMatch
    rw [String.toList_ofList, String.toList_ofList, if_neg plain]
    rfl
  · rw [containsText, findText, Option.isSome_map, cutFirst_isSome_iff, Declares,
      List.splitOn_eq_singleton plain]

/-- **A name matches exactly where the pattern declares it and ends in a star,
or declares no proper prefix of it.** -/
theorem simpleMatch_iff {haystack pattern : List Char} (star : '*' ∈ pattern) :
    ∃ answer, simpleMatch (String.ofList haystack) (String.ofList pattern) = .ok answer ∧
      (answer = true ↔ Declares pattern haystack ∧ ¬ EndsEarly pattern haystack) := by
  obtain ⟨first, piece, pieces, split⟩ := splitOn_of_mem star
  obtain ⟨answer, ran, true⟩ := @simpleMatch_of_mem haystack _ _ _ star split
  refine ⟨answer, ran, true.trans ?_⟩
  have declares := declares_iff_of_mem star split
  have last := getLast?_splitOn_eq_nil_iff star
  rw [split, List.getLast?_cons_cons] at last
  by_cases ends : pattern.getLast? = some '*'
  · have late : ¬ EndsEarly pattern haystack := fun early => early.2.1 ends
    rw [and_iff_left late, declares]
    constructor
    · rintro ⟨tail, rest, same, all, _⟩
      refine ⟨tail, same, (placeAll_isSome_iff (last.mpr ends)).mp ?_⟩
      rw [all]
      rfl
    · rintro ⟨tail, same, placed⟩
      obtain ⟨rest, all, _⟩ := placeAll_of_placed placed List.suffix_rfl
      exact ⟨tail, rest, same, all, .inl ends⟩
  · constructor
    · rintro ⟨tail, rest, rfl, all, fits⟩
      obtain rfl := fits.resolve_left ends
      obtain ⟨placed, least⟩ := placeAll_eq_some_nil_iff.mp all
      refine ⟨(declares _).mpr ⟨tail, rfl, placed⟩, ?_⟩
      rintro ⟨_, _, _, front, more, some, same, declared⟩
      obtain ⟨used, rfl, shorter⟩ := (declares front).mp declared
      rw [List.append_assoc] at same
      exact least ⟨used, more, some, List.append_cancel_left same, shorter⟩
    · rintro ⟨declared, late⟩
      obtain ⟨tail, rfl, placed⟩ := (declares _).mp declared
      refine ⟨tail, [], rfl, placeAll_eq_some_nil_iff.mpr ⟨placed, ?_⟩, .inr rfl⟩
      rintro ⟨used, more, some, rfl, shorter⟩
      exact late ⟨star, ends, declared, first ++ used, more, some, by rw [List.append_assoc],
        (declares _).mpr ⟨used, rfl, shorter⟩⟩

/-- What a match answers, with a star in the pattern or without. -/
theorem simpleMatch_answered (haystack pattern : String) :
    ∃ answer, simpleMatch haystack pattern = .ok answer ∧
      (answer = true ↔ Declares pattern.toList haystack.toList ∧
        ¬ EndsEarly pattern.toList haystack.toList) := by
  by_cases star : '*' ∈ pattern.toList
  · have ran := @simpleMatch_iff haystack.toList pattern.toList star
    rwa [String.ofList_toList, String.ofList_toList] at ran
  · have ran := @simpleMatch_of_not_mem haystack.toList pattern.toList star
    rw [String.ofList_toList, String.ofList_toList] at ran
    obtain ⟨answer, ran, declared⟩ := ran
    exact ⟨answer, ran, declared.trans (and_iff_left fun early => star early.1).symm⟩

/-- **A match never panics, and is the declared one exactly where the name does
not end early**: where the pattern has no star or ends in one, or does not
stand for both the name and a proper prefix of it. -/
theorem simpleMatch_eq_declared_iff (haystack pattern : String) :
    (∃ answer, simpleMatch haystack pattern = .ok answer) ∧
      ((simpleMatch haystack pattern = .ok true ↔ Declares pattern.toList haystack.toList) ↔
        ¬ EndsEarly pattern.toList haystack.toList) := by
  obtain ⟨answer, ran, true⟩ := simpleMatch_answered haystack pattern
  refine ⟨⟨answer, ran⟩, ?_⟩
  rw [ran, Except.ok.injEq, true]
  exact ⟨fun same early => (same.mpr early.2.2.1).2 early, fun late => and_iff_left late⟩

/-- The pattern `*a` stands for `aa`, and refuses it. -/
theorem repeated_ending_refused :
    simpleMatch "aa" "*a" = .ok false ∧ Declares "*a".toList "aa".toList := by
  refine ⟨by decide, ?_⟩
  exact ⟨[['a']], rfl, rfl⟩

end Kurbu5Pkinit

import Kurbu5Pkinit.Library.Text

/-!
# Patterns with gaps

A pattern is a first piece and further pieces, with a gap of any length before
each of these. Placing every piece at its first occurrence after the one
before never misses a text that some placement reaches, and leaves the longest
rest of all. So where the text has to end with the last piece, the leftmost
placement is right on the texts of which no proper prefix matches, and only on
these (`placeAll_eq_some_nil_iff`).
-/

set_option autoImplicit false

namespace Kurbu5Pkinit.Library

variable {α : Type}

/-- Gaps and pieces in turn. -/
def interleave : List (List α) → List (List α) → List α
  | gap :: gaps, piece :: pieces => gap ++ piece ++ interleave gaps pieces
  | _, _ => []

/-- The text is the pattern with some text in each gap. -/
def MatchesPieces (first : List α) (pieces : List (List α)) (text : List α) : Prop :=
  ∃ gaps, gaps.length = pieces.length ∧ text = first ++ interleave gaps pieces

/-- The text is the pieces in order, each after a gap, and then `rest`. -/
def Placed : List (List α) → List α → List α → Prop
  | [], text, rest => text = rest
  | piece :: pieces, text, rest =>
      ∃ gap tail, text = gap ++ piece ++ tail ∧ Placed pieces tail rest

theorem placed_nil_iff {pieces : List (List α)} {text : List α} :
    Placed pieces text [] ↔
      ∃ gaps, gaps.length = pieces.length ∧ text = interleave gaps pieces := by
  induction pieces generalizing text with
  | nil =>
      constructor
      · rintro rfl
        exact ⟨[], rfl, rfl⟩
      · rintro ⟨gaps, _, rfl⟩
        cases gaps <;> rfl
  | cons piece pieces ih =>
      constructor
      · rintro ⟨gap, tail, rfl, placed⟩
        obtain ⟨gaps, sizes, rfl⟩ := ih.mp placed
        exact ⟨gap :: gaps, congrArg Nat.succ sizes, rfl⟩
      · rintro ⟨gaps, sizes, rfl⟩
        cases gaps with
        | nil => cases sizes
        | cons gap gaps => exact ⟨gap, _, rfl, ih.mpr ⟨gaps, Nat.succ.inj sizes, rfl⟩⟩

theorem matchesPieces_iff {first : List α} {pieces : List (List α)} {text : List α} :
    MatchesPieces first pieces text ↔ ∃ tail, text = first ++ tail ∧ Placed pieces tail [] := by
  constructor
  · rintro ⟨gaps, sizes, rfl⟩
    exact ⟨_, rfl, placed_nil_iff.mpr ⟨gaps, sizes, rfl⟩⟩
  · rintro ⟨tail, rfl, placed⟩
    obtain ⟨gaps, sizes, rfl⟩ := placed_nil_iff.mp placed
    exact ⟨gaps, sizes, rfl⟩

section Placed

variable {pieces : List (List α)} {text rest : List α}

/-- What is appended comes after the rest. -/
theorem Placed.append (placed : Placed pieces text rest) (more : List α) :
    Placed pieces (text ++ more) (rest ++ more) := by
  induction pieces generalizing text with
  | nil => exact congrArg (· ++ more) placed
  | cons piece pieces ih =>
      obtain ⟨gap, tail, rfl, placed⟩ := placed
      exact ⟨gap, tail ++ more, by rw [List.append_assoc], ih placed⟩

/-- The text in front of the rest is the pieces alone. -/
theorem Placed.exists_front (placed : Placed pieces text rest) :
    ∃ used, text = used ++ rest ∧ Placed pieces used [] := by
  induction pieces generalizing text with
  | nil => exact ⟨[], placed, rfl⟩
  | cons piece pieces ih =>
      obtain ⟨gap, tail, rfl, placed⟩ := placed
      obtain ⟨used, rfl, whole⟩ := ih placed
      exact ⟨gap ++ piece ++ used, by simp only [List.append_assoc], gap, used, rfl, whole⟩

/-- A last piece that is empty fits at the end of the text. -/
theorem Placed.of_getLast?_nil (last : pieces.getLast? = some [])
    (placed : Placed pieces text rest) : Placed pieces text [] := by
  induction pieces generalizing text with
  | nil => cases last
  | cons piece pieces ih =>
      obtain ⟨gap, tail, rfl, placed⟩ := placed
      cases pieces with
      | nil =>
          obtain rfl := Option.some.inj last
          exact ⟨gap ++ tail, [], by simp, rfl⟩
      | cons next pieces =>
          rw [List.getLast?_cons_cons] at last
          exact ⟨gap, tail, rfl, ih last placed⟩

end Placed

/-! ## The leftmost placement -/

variable [DecidableEq α]

/-- Place each piece at its first occurrence; what remains. -/
def placeAll : List (List α) → List α → Option (List α)
  | [], text => some text
  | piece :: pieces, text => (cutFirst piece text).bind fun cut => placeAll pieces cut.2

section PlaceAll

variable {pieces : List (List α)} {text rest : List α}

theorem placed_of_placeAll (placed : placeAll pieces text = some rest) :
    Placed pieces text rest := by
  induction pieces generalizing text with
  | nil => exact Option.some.inj placed
  | cons piece pieces ih =>
      obtain ⟨cut, found, placed⟩ := Option.bind_eq_some_iff.mp placed
      exact ⟨cut.1, cut.2, (cutFirst_eq_some found).1, ih placed⟩

/-- **The leftmost placement leaves the longest rest**, also of a longer
text. -/
theorem placeAll_of_placed {text' : List α} (placed : Placed pieces text rest)
    (longer : text <:+ text') : ∃ rest', placeAll pieces text' = some rest' ∧ rest <:+ rest' := by
  induction pieces generalizing text text' with
  | nil => exact ⟨text', rfl, placed ▸ longer⟩
  | cons piece pieces ih =>
      obtain ⟨gap, tail, rfl, placed⟩ := placed
      obtain ⟨before, rfl⟩ := longer
      obtain ⟨before', tail', found, later⟩ :=
        @cutFirst_of_occurs _ _ piece (before ++ (gap ++ piece ++ tail)) (before ++ gap) tail
          (by simp)
      obtain ⟨rest', all, longer⟩ := ih placed later
      exact ⟨rest', by rw [placeAll, found]; exact all, longer⟩

/-- **It ends with the text exactly where the text matches and no proper
prefix of it does.** -/
theorem placeAll_eq_some_nil_iff :
    placeAll pieces text = some [] ↔
      Placed pieces text [] ∧ ¬ ∃ used more, more ≠ [] ∧ text = used ++ more ∧
        Placed pieces used [] := by
  constructor
  · intro all
    refine ⟨placed_of_placeAll all, ?_⟩
    rintro ⟨used, more, some, rfl, placed⟩
    obtain ⟨rest', all', longer⟩ := placeAll_of_placed (placed.append more) List.suffix_rfl
    obtain rfl := Option.some.inj (all.symm.trans all')
    exact some (List.suffix_nil.mp longer)
  · rintro ⟨placed, least⟩
    obtain ⟨rest', all, _⟩ := placeAll_of_placed placed List.suffix_rfl
    obtain ⟨used, split, whole⟩ := (placed_of_placeAll all).exists_front
    cases rest' with
    | nil => exact all
    | cons x rest' => exact absurd ⟨used, _, List.cons_ne_nil _ _, split, whole⟩ least

/-- Where the last piece is empty, placing all pieces is matching. -/
theorem placeAll_isSome_iff (last : pieces.getLast? = some []) :
    (placeAll pieces text).isSome = true ↔ Placed pieces text [] := by
  constructor
  · intro all
    obtain ⟨rest, all⟩ := Option.isSome_iff_exists.mp all
    exact (placed_of_placeAll all).of_getLast?_nil last
  · intro placed
    obtain ⟨rest', all, _⟩ := placeAll_of_placed placed List.suffix_rfl
    rw [all]
    rfl

end PlaceAll

end Kurbu5Pkinit.Library

import Mathlib.Data.List.TakeWhile

/-!
# Escaped texts

A writer that puts a mark before some elements, each spelled by an element of
its own, so that separators can occur inside a text. A reader that looks for a
separator without regard to the mark still finds one wherever the text had
one; such a reader is `secondPiece`.
-/

set_option autoImplicit false

namespace Kurbu5Pkinit.Library

/-- What precedes an escaped element, and how each one that is escaped is
spelled after it. -/
structure Escaping (α : Type) where
  mark : α
  spelling : α → Option α

namespace Escaping

variable {α : Type} (escaping : Escaping α)

def writeElement (x : α) : List α :=
  match escaping.spelling x with
  | some spelled => [escaping.mark, spelled]
  | none => [x]

def write (text : List α) : List α :=
  text.flatMap escaping.writeElement

/-- No element of the text is escaped. -/
def Plain (text : List α) : Prop :=
  ∀ x ∈ text, escaping.spelling x = none

/-- The separator is escaped, and nothing but itself is spelled with it. -/
structure Guards (separator : α) : Prop where
  escaped : escaping.spelling separator = some separator
  mark : escaping.mark ≠ separator
  only : ∀ x, escaping.spelling x = some separator → x = separator

variable {escaping} {separator : α}

theorem write_cons (x : α) (text : List α) :
    escaping.write (x :: text) = escaping.writeElement x ++ escaping.write text :=
  List.flatMap_cons

theorem length_le_length_write (text : List α) : text.length ≤ (escaping.write text).length := by
  induction text with
  | nil => exact Nat.zero_le _
  | cons x text ih =>
      rw [write_cons, List.length_append, List.length_cons]
      have one : 1 ≤ (escaping.writeElement x).length := by
        unfold writeElement
        cases escaping.spelling x <;> simp
      omega

/-- A text is written as it is when nothing in it is escaped, and only then. -/
theorem write_eq_self_iff {text : List α} : escaping.write text = text ↔ escaping.Plain text := by
  induction text with
  | nil => exact ⟨fun _ x member => absurd member List.not_mem_nil, fun _ => rfl⟩
  | cons x text ih =>
      have head : escaping.Plain (x :: text) ↔
          escaping.spelling x = none ∧ escaping.Plain text := List.forall_mem_cons
      rw [write_cons, head, ← ih]
      unfold writeElement
      cases escaping.spelling x with
      | none => simp
      | some spelled =>
          have longer : text.length ≤ (escaping.write text).length := length_le_length_write text
          refine ⟨fun same => ?_, fun absurd => by simp at absurd⟩
          have lengths := congrArg List.length same
          simp only [List.length_append, List.length_cons, List.length_nil] at lengths
          omega

theorem mem_writeElement_iff (guards : escaping.Guards separator) {x : α} :
    separator ∈ escaping.writeElement x ↔ x = separator := by
  unfold writeElement
  cases spelling : escaping.spelling x with
  | none =>
      simp only [List.mem_singleton]
      exact eq_comm
  | some spelled =>
      simp only [List.mem_cons, List.not_mem_nil, or_false, guards.mark.symm, false_or]
      constructor
      · rintro rfl
        exact guards.only x spelling
      · rintro rfl
        exact Option.some.inj (guards.escaped.symm.trans spelling)

/-- The separator occurs in what is written where it occurs in the text. -/
theorem mem_write_iff (guards : escaping.Guards separator) {text : List α} :
    separator ∈ escaping.write text ↔ separator ∈ text := by
  simp only [write, List.mem_flatMap, mem_writeElement_iff guards, exists_eq_right]

/-- What is written up to its first separator is the text exactly when nothing
in the text is escaped. -/
theorem takeWhile_write_eq_iff [DecidableEq α] (guards : escaping.Guards separator)
    {text : List α} :
    (escaping.write text).takeWhile (fun x => x ≠ separator) = text ↔ escaping.Plain text := by
  constructor
  · intro read
    have absent : separator ∉ text := by
      intro member
      rw [← read] at member
      simpa using List.mem_takeWhile_imp member
    have unwritten : separator ∉ escaping.write text := fun member =>
      absent ((mem_write_iff guards).mp member)
    rw [List.takeWhile_eq_self_iff.mpr (by
      intro x member
      simpa using fun same : x = separator => unwritten (same ▸ member))] at read
    exact write_eq_self_iff.mp read
  · intro plain
    rw [write_eq_self_iff.mpr plain, List.takeWhile_eq_self_iff]
    intro x member
    have other : x ≠ separator := by
      rintro rfl
      exact absurd ((plain x member).symm.trans guards.escaped) nofun
    simpa using other

end Escaping

/-! ## Pieces between separators -/

section Pieces

variable {α : Type} {separator : α} {text rest : List α}

/-- A joined text has an element where one of its parts has it. -/
theorem mem_intercalate_iff {glue : List α} {x : α} (absent : x ∉ glue) {parts : List (List α)} :
    x ∈ glue.intercalate parts ↔ ∃ part ∈ parts, x ∈ part := by
  induction parts with
  | nil => simp
  | cons part parts ih =>
      cases parts with
      | nil => simp
      | cons next parts =>
          rw [List.intercalate_cons_cons, List.mem_append, List.mem_append, ih]
          simp only [absent, or_false, List.mem_cons, or_and_right, exists_or, exists_eq_left]

variable [DecidableEq α]

/-- What stands between the first separator and the next one, or the end. -/
def secondPiece (separator : α) (text : List α) : List α :=
  (text.dropWhile (fun x => x ≠ separator)).tail.takeWhile (fun x => x ≠ separator)

theorem secondPiece_append_cons (absent : separator ∉ text) :
    secondPiece separator (text ++ separator :: rest) =
      rest.takeWhile (fun x => x ≠ separator) := by
  unfold secondPiece
  rw [List.dropWhile_append_of_pos, List.dropWhile_cons_of_neg (by simp), List.tail_cons]
  intro x member
  simpa using fun same : x = separator => absent (same ▸ member)

theorem takeWhile_append_separator :
    (text ++ separator :: rest).takeWhile (fun x => x ≠ separator) =
      text.takeWhile (fun x => x ≠ separator) := by
  induction text with
  | nil => simp
  | cons x text ih =>
      by_cases same : x = separator
      · simp [same]
      · rw [List.cons_append, List.takeWhile_cons_of_pos (by simpa using same), ih,
          List.takeWhile_cons_of_pos (by simpa using same)]

/-- What follows the second piece does not matter. -/
theorem secondPiece_append_of_mem (present : separator ∈ text) :
    secondPiece separator (text ++ separator :: rest) = secondPiece separator text := by
  obtain ⟨before, after, rfl, absent⟩ := List.eq_append_cons_of_mem present
  rw [List.append_assoc, List.cons_append, secondPiece_append_cons absent,
    secondPiece_append_cons absent, takeWhile_append_separator]

theorem head?_splitOn (text : List α) :
    (text.splitOn separator).head? = some (text.takeWhile (fun x => x ≠ separator)) := by
  induction text with
  | nil => rfl
  | cons x text ih =>
      rw [List.splitOn_cons_eq_if_modifyHead]
      by_cases same : x = separator
      · simp [same]
      · simp [same, List.head?_modifyHead, ih]

theorem getElem?_one_splitOn (present : separator ∈ text) :
    (text.splitOn separator)[1]? = some (secondPiece separator text) := by
  obtain ⟨before, after, rfl, absent⟩ := List.eq_append_cons_of_mem present
  rw [secondPiece_append_cons absent, List.splitOn_append_cons_self,
    List.splitOn_eq_singleton absent, List.singleton_append, List.getElem?_cons_succ,
    ← List.head?_eq_getElem?, head?_splitOn]

end Pieces

end Kurbu5Pkinit.Library

import Mathlib.Data.List.Basic

/-!
# The first of a list

An order of preference is a list, and a choice by it is the first entry with a
property. `First` says so without a search; `find?` computes it.
-/

set_option autoImplicit false

namespace Kurbu5Pkinit.Library

variable {α : Type} {P : α → Prop} {xs : List α} {x y : α}

/-- The entry has the property, and none before it does. -/
def First (P : α → Prop) (xs : List α) (x : α) : Prop :=
  ∃ before after, xs = before ++ x :: after ∧ P x ∧ ∀ y ∈ before, ¬ P y

theorem First.mem (first : First P xs x) : x ∈ xs := by
  obtain ⟨before, after, rfl, _⟩ := first
  exact List.mem_append_right before List.mem_cons_self

/-- An entry with the property at the head is the first. -/
theorem First.head (holds : P x) : First P (x :: xs) x :=
  ⟨[], xs, rfl, holds, fun _ member => absurd member List.not_mem_nil⟩

theorem First.cons (lacks : ¬ P y) (first : First P xs x) : First P (y :: xs) x := by
  obtain ⟨before, after, rfl, holds, earlier⟩ := first
  refine ⟨y :: before, after, rfl, holds, ?_⟩
  intro z member
  rcases List.mem_cons.mp member with rfl | member
  · exact lacks
  · exact earlier z member

theorem find?_eq_some_iff_first [DecidablePred P] :
    xs.find? (fun x => decide (P x)) = some x ↔ First P xs x := by
  rw [List.find?_eq_some_iff_append]
  constructor
  · rintro ⟨holds, before, after, split, earlier⟩
    exact ⟨before, after, split, of_decide_eq_true holds, by simpa using earlier⟩
  · rintro ⟨before, after, split, holds, earlier⟩
    exact ⟨decide_eq_true holds, before, after, split, by simpa using earlier⟩

end Kurbu5Pkinit.Library

import Mathlib.Data.List.Basic

/-!
# Splitting at doubled separators outside brackets

A splitter keeps a depth, which each element may change, and cuts where the
depth is the top one and the separator stands twice in a row. Pieces that are
quiet, with no such place and no separator at their end, are given back when
they were joined with the doubled separator.
-/

set_option autoImplicit false

namespace Kurbu5Pkinit.Library

/-- How elements change a depth, the depth of the top level, and the element
that separates when doubled. -/
structure TopLevel (δ α : Type) where
  step : δ → α → δ
  top : δ
  separator : α
  /-- The separator is not a bracket. -/
  stays : ∀ depth, step depth separator = depth

namespace TopLevel

variable {δ α : Type} (t : TopLevel δ α)

def depthAfter (depth : δ) (text : List α) : δ :=
  text.foldl t.step depth

/-- No doubled separator at the top level, and no separator there at the end. -/
def Quiet : δ → List α → Prop
  | _, [] => True
  | depth, x :: rest =>
      ¬ (t.step depth x = t.top ∧ x = t.separator ∧ ∀ y ∈ rest.head?, y = t.separator) ∧
        Quiet (t.step depth x) rest

variable {t} {depth : δ} {text : List α}

theorem Quiet.append {text' : List α} (quiet : t.Quiet depth text)
    (quiet' : t.Quiet (t.depthAfter depth text) text') : t.Quiet depth (text ++ text') := by
  induction text generalizing depth with
  | nil => exact quiet'
  | cons x text ih =>
      refine ⟨?_, ih quiet.2 quiet'⟩
      rintro ⟨top, rfl, next⟩
      refine quiet.1 ⟨top, rfl, ?_⟩
      cases text with
      | nil => exact fun _ none => absurd none (by simp)
      | cons y text => exact next

theorem quiet_of_not_mem (absent : t.separator ∉ text) : t.Quiet depth text := by
  induction text generalizing depth with
  | nil => exact trivial
  | cons x text ih =>
      refine ⟨fun cut => absent (cut.2.1 ▸ List.mem_cons_self), ih fun member => ?_⟩
      exact absent (List.mem_cons_of_mem x member)

/-- Nothing is cut where the separator is neither doubled nor at the end. -/
theorem quiet_of_not_infix (single : ¬ [t.separator, t.separator] <:+: text)
    (ends : text.getLast? ≠ some t.separator) : t.Quiet depth text := by
  induction text generalizing depth with
  | nil => exact trivial
  | cons x text ih =>
      cases text with
      | nil =>
          refine ⟨fun cut => ends ?_, trivial⟩
          rw [cut.2.1]
          rfl
      | cons y text =>
          refine ⟨fun cut => single ?_, ih (fun inside => single ?_) ?_⟩
          · obtain ⟨_, rfl, next⟩ := cut
            obtain rfl := next y rfl
            exact (List.prefix_append _ text).isInfix
          · exact inside.trans (List.suffix_cons x _).isInfix
          · rwa [List.getLast?_cons_cons] at ends

theorem depthAfter_append (text text' : List α) :
    t.depthAfter depth (text ++ text') = t.depthAfter (t.depthAfter depth text) text' :=
  List.foldl_append

/-- Elements that change no depth. -/
theorem depthAfter_of_flat (flat : ∀ x ∈ text, ∀ depth, t.step depth x = depth) :
    t.depthAfter depth text = depth := by
  induction text with
  | nil => rfl
  | cons x text ih =>
      rw [depthAfter, List.foldl_cons, flat x List.mem_cons_self]
      exact ih fun y member => flat y (List.mem_cons_of_mem x member)

/-- Pieces that return to the top, with the separator between them, return to it. -/
theorem depthAfter_intercalate {pieces : List (List α)}
    (returns : ∀ piece ∈ pieces, t.depthAfter t.top piece = t.top) :
    t.depthAfter t.top ([t.separator, t.separator].intercalate pieces) = t.top := by
  induction pieces with
  | nil => rfl
  | cons piece pieces ih =>
      have here := returns piece List.mem_cons_self
      have rest := ih fun piece member => returns piece (List.mem_cons_of_mem _ member)
      cases pieces with
      | nil => rwa [List.intercalate_singleton]
      | cons next pieces =>
          have between : t.depthAfter t.top [t.separator, t.separator] = t.top :=
            (t.stays _).trans (t.stays _)
          rw [List.intercalate_cons_cons, depthAfter_append, depthAfter_append, here, between, rest]

/-! ## Splitting -/

variable [DecidableEq δ] [DecidableEq α]

variable (t) in
/-- The pieces of a text, of which `piece` is already read. -/
def split : δ → List α → List α → List (List α)
  | depth, piece, x :: y :: rest =>
      if t.step depth x = t.top ∧ x = t.separator ∧ y = t.separator then
        piece :: split (t.step depth x) [] rest
      else
        split (t.step depth x) (piece ++ [x]) (y :: rest)
  | _, piece, rest => [piece ++ rest]

variable {piece rest : List α}

theorem split_ne_nil (depth : δ) (piece text : List α) : t.split depth piece text ≠ [] := by
  fun_induction split t depth piece text with
  | case1 => exact List.cons_ne_nil _ _
  | case2 depth piece x y rest _ ih => exact ih
  | case3 => exact List.cons_ne_nil _ _

theorem split_cons_cons_of_not {x y : α}
    (kept : ¬ (t.step depth x = t.top ∧ x = t.separator ∧ y = t.separator)) :
    t.split depth piece (x :: y :: rest) =
      t.split (t.step depth x) (piece ++ [x]) (y :: rest) := by
  rw [split, if_neg kept]

theorem split_cons_of_not {x : α}
    (kept : ¬ (t.step depth x = t.top ∧ x = t.separator ∧ rest.head? = some t.separator)) :
    t.split depth piece (x :: rest) = t.split (t.step depth x) (piece ++ [x]) rest := by
  cases rest with
  | nil => simp [split]
  | cons y rest =>
      exact split_cons_cons_of_not fun cut => kept ⟨cut.1, cut.2.1, congrArg some cut.2.2⟩

/-- **Joining the pieces gives the text back.** -/
theorem intercalate_split (depth : δ) (piece text : List α) :
    [t.separator, t.separator].intercalate (t.split depth piece text) = piece ++ text := by
  fun_induction split t depth piece text with
  | case1 depth piece x y rest cut ih =>
      obtain ⟨_, rfl, rfl⟩ := cut
      obtain ⟨next, others, pieces⟩ := List.exists_cons_of_ne_nil
        (split_ne_nil (t := t) (t.step depth t.separator) [] rest)
      rw [pieces, List.intercalate_cons_cons, ← pieces, ih]
      simp
  | case2 depth piece x y rest _ ih =>
      rw [ih]
      simp
  | case3 => simp

/-- A quiet text is one piece. -/
theorem split_of_quiet (quiet : t.Quiet depth text) :
    t.split depth piece text = [piece ++ text] := by
  induction text generalizing depth piece with
  | nil => rfl
  | cons x text ih =>
      cases text with
      | nil => rfl
      | cons y text =>
          have kept : ¬ (t.step depth x = t.top ∧ x = t.separator ∧ y = t.separator) := by
            rintro ⟨top, separator, next⟩
            exact quiet.1 ⟨top, separator, by simpa using next⟩
          rw [split_cons_cons_of_not kept, ih quiet.2, List.append_assoc]
          rfl

/-- A quiet text that returns to the top is the piece in front of a doubled
separator. -/
theorem split_append_of_quiet (quiet : t.Quiet depth text)
    (returns : t.depthAfter depth text = t.top) :
    t.split depth piece (text ++ t.separator :: t.separator :: rest) =
      (piece ++ text) :: t.split t.top [] rest := by
  induction text generalizing depth piece with
  | nil =>
      have same : t.step depth t.separator = t.top := (t.stays depth).trans returns
      rw [List.nil_append, split, if_pos ⟨same, rfl, rfl⟩, List.append_nil, same]
  | cons x text ih =>
      have next := @ih (t.step depth x) (piece ++ [x]) quiet.2 returns
      have kept : ∀ y, (text ++ t.separator :: t.separator :: rest).head? = some y →
          ¬ (t.step depth x = t.top ∧ x = t.separator ∧ y = t.separator) := by
        rintro y head ⟨top, separator, doubled⟩
        refine quiet.1 ⟨top, separator, ?_⟩
        cases text with
        | nil => exact fun _ none => absurd none (by simp)
        | cons z text =>
            obtain rfl := Option.some.inj head
            simpa using doubled
      rw [List.cons_append]
      cases whole : text ++ t.separator :: t.separator :: rest with
      | nil => simp at whole
      | cons y tail =>
          rw [whole] at next kept
          rw [split_cons_cons_of_not (kept y rfl), next, List.append_assoc]
          rfl

/-- **Quiet pieces are given back when they were joined.** -/
theorem split_intercalate {pieces : List (List α)} (nonempty : pieces ≠ [])
    (quiet : ∀ piece ∈ pieces, t.Quiet t.top piece ∧ t.depthAfter t.top piece = t.top) :
    t.split t.top [] ([t.separator, t.separator].intercalate pieces) = pieces := by
  induction pieces with
  | nil => exact absurd rfl nonempty
  | cons piece pieces ih =>
      obtain ⟨here, returns⟩ := quiet piece List.mem_cons_self
      cases pieces with
      | nil => rw [List.intercalate_singleton, split_of_quiet here, List.nil_append]
      | cons next pieces =>
          rw [List.intercalate_cons_cons, List.append_assoc, List.cons_append, List.cons_append,
            List.nil_append, split_append_of_quiet here returns, List.nil_append,
            ih (List.cons_ne_nil _ _) fun piece member =>
              quiet piece (List.mem_cons_of_mem _ member)]

/-! ## What stands around a text -/

/-- What is already read goes in front of the first piece. -/
theorem split_append_piece (before : List α) (depth : δ) (piece text : List α) :
    t.split depth (before ++ piece) text =
      (t.split depth piece text).modifyHead (before ++ ·) := by
  fun_induction split t depth piece text with
  | case1 depth piece x y rest cut _ => rw [split, if_pos cut, List.modifyHead_cons]
  | case2 depth piece x y rest kept ih =>
      rw [split_cons_cons_of_not kept, List.append_assoc, ih]
  | case3 depth piece text short =>
      rw [split]
      · rw [List.modifyHead_cons, List.append_assoc]
      · exact short

/-- Elements that change no depth and separate nothing belong to the piece. -/
theorem split_append_left {before : List α} (absent : t.separator ∉ before)
    (flat : ∀ x ∈ before, ∀ depth, t.step depth x = depth) :
    t.split depth piece (before ++ text) = t.split depth (piece ++ before) text := by
  induction before generalizing piece with
  | nil => rw [List.nil_append, List.append_nil]
  | cons x before ih =>
      have other : x ≠ t.separator := fun same => absent (same ▸ List.mem_cons_self)
      have next := @ih (piece ++ [x]) (fun member => absent (List.mem_cons_of_mem x member))
        fun y member => flat y (List.mem_cons_of_mem x member)
      rw [List.append_assoc, List.singleton_append] at next
      rw [← next, List.cons_append]
      cases whole : before ++ text with
      | nil => simp [split]
      | cons y tail =>
          rw [split_cons_cons_of_not fun cut => other cut.2.1, flat x List.mem_cons_self]

/-- Elements at the end that separate nothing belong to the last piece. -/
theorem split_append_right {after : List α} (absent : t.separator ∉ after) (depth : δ)
    (piece text : List α) :
    ∃ front last, t.split depth piece text = front ++ [last] ∧
      t.split depth piece (text ++ after) = front ++ [last ++ after] := by
  fun_induction split t depth piece text with
  | case1 depth piece x y rest cut ih =>
      obtain ⟨front, last, split, split'⟩ := ih
      refine ⟨piece :: front, last, by rw [split]; rfl, ?_⟩
      rw [List.cons_append, List.cons_append, TopLevel.split, if_pos cut, split']
      rfl
  | case2 depth piece x y rest kept ih =>
      obtain ⟨front, last, split, split'⟩ := ih
      refine ⟨front, last, split, ?_⟩
      rw [List.cons_append, List.cons_append, split_cons_cons_of_not kept]
      exact split'
  | case3 depth piece text short =>
      refine ⟨[], piece ++ text, rfl, ?_⟩
      have quiet : ∀ depth, t.Quiet depth after := fun depth => quiet_of_not_mem absent
      rcases text with _ | ⟨x, _ | ⟨y, rest⟩⟩
      · rw [List.nil_append, split_of_quiet (quiet depth), List.append_nil]
        rfl
      · cases after with
        | nil => simp [TopLevel.split]
        | cons y after =>
            have other : y ≠ t.separator := fun same => absent (same ▸ List.mem_cons_self)
            rw [List.singleton_append, split_cons_cons_of_not fun cut => other cut.2.2,
              split_of_quiet (quiet _)]
            rfl
      · exact absurd rfl (short x y rest)

end TopLevel

end Kurbu5Pkinit.Library

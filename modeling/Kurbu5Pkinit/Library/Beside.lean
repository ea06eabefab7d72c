import Kurbu5Pkinit.Library.Runs

/-!
# Two machines side by side

Every input is for one of the two, and leaves the other where it is. What one
of them went through is found in the history of both (`lefts`, `rights`), and
is a run of it (`Run.beside`): a fact about each event of a machine on its own
holds whatever the other one does in between.
-/

set_option autoImplicit false

namespace Kurbu5Pkinit.Library

variable {σ ι ο σ' ι' ο' : Type}

/-- An input is for the left machine or for the right one. -/
def Machine.beside (m : Machine σ ι ο) (m' : Machine σ' ι' ο') :
    Machine (σ × σ') (ι ⊕ ι') (ο ⊕ ο')
  | (s, s'), .inl i => (((m s i).1, s'), .inl (m s i).2)
  | (s, s'), .inr i => ((s, (m' s' i).1), .inr (m' s' i).2)

/-- The event of the left machine, if it is one. -/
def Event.left? (e : Event (σ × σ') (ι ⊕ ι') (ο ⊕ ο')) : Option (Event σ ι ο) :=
  match e.input, e.output with
  | .inl i, .inl o => some ⟨e.before.1, i, o, e.after.1⟩
  | _, _ => none

def Event.right? (e : Event (σ × σ') (ι ⊕ ι') (ο ⊕ ο')) : Option (Event σ' ι' ο') :=
  match e.input, e.output with
  | .inr i, .inr o => some ⟨e.before.2, i, o, e.after.2⟩
  | _, _ => none

/-- What the left machine went through. -/
def lefts (history : List (Event (σ × σ') (ι ⊕ ι') (ο ⊕ ο'))) : List (Event σ ι ο) :=
  history.filterMap Event.left?

def rights (history : List (Event (σ × σ') (ι ⊕ ι') (ο ⊕ ο'))) : List (Event σ' ι' ο') :=
  history.filterMap Event.right?

section Beside

variable {m : Machine σ ι ο} {m' : Machine σ' ι' ο'} {start t : σ} {start' t' : σ'}
  {history : List (Event (σ × σ') (ι ⊕ ι') (ο ⊕ ο'))}

@[simp] theorem beside_left? (s : σ × σ') (i : ι) :
    ((m.beside m').event s (.inl i)).left? = some (m.event s.1 i) := rfl

@[simp] theorem beside_left?_inr (s : σ × σ') (i : ι') :
    ((m.beside m').event s (.inr i)).left? = none := rfl

theorem Run.beside (run : Run (m.beside m') (start, start') history (t, t')) :
    Run m start (lefts history) t ∧ Run m' start' (rights history) t' := by
  generalize reached : (t, t') = both at run
  induction run generalizing t t' with
  | start =>
      obtain ⟨rfl, rfl⟩ := Prod.mk.inj reached
      exact ⟨.start, .start⟩
  | @step history both run i ih =>
      obtain ⟨s, s'⟩ := both
      obtain ⟨left, right⟩ := ih rfl
      cases i with
      | inl i =>
          obtain ⟨rfl, rfl⟩ := Prod.mk.inj reached
          exact ⟨.step left i, right⟩
      | inr i =>
          obtain ⟨rfl, rfl⟩ := Prod.mk.inj reached
          exact ⟨left, .step right i⟩

/-- The left machine is fed the inputs that are for it. -/
theorem lefts_exec (s : σ × σ') (inputs : List (ι ⊕ ι')) :
    lefts (exec (m.beside m') (history, s) inputs).1 =
      (exec m (lefts history, s.1) (inputs.filterMap Sum.getLeft?)).1 := by
  induction inputs generalizing history s with
  | nil => rfl
  | cons i inputs ih =>
      cases i with
      | inl i => exact ih _
      | inr i => exact ih _

theorem rights_exec (s : σ × σ') (inputs : List (ι ⊕ ι')) :
    rights (exec (m.beside m') (history, s) inputs).1 =
      (exec m' (rights history, s.2) (inputs.filterMap Sum.getRight?)).1 := by
  induction inputs generalizing history s with
  | nil => rfl
  | cons i inputs ih =>
      cases i with
      | inl i => exact ih _
      | inr i => exact ih _

end Beside

/-- Some events of a history, each with those of them that came before it. -/
theorem each_filterMap {ε δ : Type} {f : ε → Option δ} {P : List δ → δ → Prop}
    {history : List ε} :
    Each P (history.filterMap f) ↔
      Each (fun older e => ∀ d, f e = some d → P (older.filterMap f) d) history := by
  induction history with
  | nil => exact iff_of_true (each_nil _) (each_nil _)
  | cons e history ih =>
      rw [each_cons, ← ih]
      cases taken : f e with
      | none =>
          rw [List.filterMap_cons_none taken]
          exact ⟨fun each => ⟨by rintro d ⟨⟩, each⟩, fun each => each.2⟩
      | some d =>
          rw [List.filterMap_cons_some taken, each_cons]
          refine and_congr_left fun _ => ⟨?_, fun all => all d rfl⟩
          rintro holds _ ⟨⟩
          exact holds

end Kurbu5Pkinit.Library

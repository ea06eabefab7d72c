import Mathlib.Data.List.Forall2
import Mathlib.Tactic.Common

/-!
# Fallible computations

A computation that stops at its first failure is an `Except` value, built from
lookups (`okOr`), guards (`rejectIf`) and renamings of a failure
(`Except.mapError`). The lemmas of the first half invert one step of such a
computation: what it returned tells which branch was taken.

A method reads and writes a state and may fail halfway, leaving behind the
writes it made before failing. It is an `EStateM` program. `Ends act s post`
says that started in `s` the method ends, by a value or by a failure, in a
state the postcondition allows; the rules below follow the program text from
left to right, and a step that only reads or computes is discharged by
`Ends.bind_lift`.
-/

set_option autoImplicit false

namespace Kurbu5Pkinit.Library

section Except

variable {ε ε' α β : Type}

/-- Stop with the given failure when the condition holds. -/
def rejectIf (condition : Prop) [Decidable condition] (failure : ε) : Except ε Unit :=
  if condition then .error failure else .ok ()

/-- The value of an option, or the given failure when there is none. -/
def okOr (value : Option α) (failure : ε) : Except ε α :=
  match value with
  | some a => .ok a
  | none => .error failure

@[simp] theorem bind_eq_ok {x : Except ε α} {f : α → Except ε β} {b : β} :
    (x >>= f) = .ok b ↔ ∃ a, x = .ok a ∧ f a = .ok b := by
  cases x with
  | error e =>
      constructor
      · intro h
        cases h
      · rintro ⟨_, h, _⟩
        cases h
  | ok a =>
      constructor
      · exact fun h => ⟨a, rfl, h⟩
      · rintro ⟨_, h, step⟩
        cases h
        exact step

@[simp] theorem ok_bind (a : α) (f : α → Except ε β) : (Except.ok a >>= f) = f a := rfl

@[simp] theorem error_bind (e : ε) (f : α → Except ε β) :
    (Except.error e >>= f) = .error e := rfl

@[simp] theorem pure_eq_ok {a : α} : (pure a : Except ε α) = .ok a := rfl

@[simp] theorem mapError_eq_ok {x : Except ε α} {f : ε → ε'} {a : α} :
    x.mapError f = .ok a ↔ x = .ok a := by
  cases x <;> simp [Except.mapError]

@[simp] theorem mapError_ok (f : ε → ε') (a : α) : (Except.ok a : Except ε α).mapError f = .ok a :=
  rfl

@[simp] theorem mapError_error (f : ε → ε') (e : ε) :
    (Except.error e : Except ε α).mapError f = .error (f e) := rfl

@[simp] theorem okOr_eq_ok {value : Option α} {failure : ε} {a : α} :
    okOr value failure = .ok a ↔ value = some a := by
  cases value <;> simp [okOr]

@[simp] theorem okOr_some (a : α) (failure : ε) : okOr (some a) failure = .ok a := rfl

@[simp] theorem okOr_none (failure : ε) : okOr (none : Option α) failure = .error failure := rfl

@[simp] theorem rejectIf_eq_ok {condition : Prop} [Decidable condition] {failure : ε} {u : Unit} :
    rejectIf condition failure = .ok u ↔ ¬ condition := by
  unfold rejectIf
  split <;> simp [*]

/-- A fallible map succeeds when each of its steps does, with their values. -/
theorem mapM_eq_ok {f : α → Except ε β} {xs : List α} {ys : List β} :
    xs.mapM f = .ok ys ↔ List.Forall₂ (fun x y => f x = .ok y) xs ys := by
  induction xs generalizing ys with
  | nil =>
      rw [List.mapM_nil, pure_eq_ok, List.forall₂_nil_left_iff, Except.ok.injEq, eq_comm]
  | cons x xs ih =>
      rw [List.mapM_cons, List.forall₂_cons_left_iff]
      simp only [bind_eq_ok, pure_eq_ok, Except.ok.injEq, ih]
      constructor
      · rintro ⟨y, head, ys, tail, rfl⟩
        exact ⟨y, ys, head, tail, rfl⟩
      · rintro ⟨y, ys, head, tail, rfl⟩
        exact ⟨y, head, ys, tail, rfl⟩

/-- Lists related entry by entry: each entry has a partner. -/
theorem exists_left_of_forall₂ {R : α → β → Prop} {xs : List α} {ys : List β} {y : β}
    (related : List.Forall₂ R xs ys) (member : y ∈ ys) : ∃ x ∈ xs, R x y := by
  induction related with
  | nil => cases member
  | @cons x y' xs ys head tail ih =>
      rcases List.mem_cons.mp member with rfl | member
      · exact ⟨x, List.mem_cons_self, head⟩
      · obtain ⟨x', present, same⟩ := ih member
        exact ⟨x', List.mem_cons_of_mem x present, same⟩

theorem exists_right_of_forall₂ {R : α → β → Prop} {xs : List α} {ys : List β} {x : α}
    (related : List.Forall₂ R xs ys) (member : x ∈ xs) : ∃ y ∈ ys, R x y := by
  obtain ⟨y, present, same⟩ := exists_left_of_forall₂ related.flip member
  exact ⟨y, present, same⟩

/-- What a fallible map returned came from its arguments. -/
theorem exists_of_mem_mapM {f : α → Except ε β} {xs : List α} {ys : List β} {y : β}
    (mapped : xs.mapM f = .ok ys) (member : y ∈ ys) : ∃ x ∈ xs, f x = .ok y := by
  have related := mapM_eq_ok.mp mapped
  obtain ⟨x, present, same⟩ := exists_left_of_forall₂ related member
  exact ⟨x, present, same⟩

theorem exists_mem_of_mapM {f : α → Except ε β} {xs : List α} {ys : List β} {x : α}
    (mapped : xs.mapM f = .ok ys) (member : x ∈ xs) : ∃ y ∈ ys, f x = .ok y := by
  have related := mapM_eq_ok.mp mapped
  obtain ⟨y, present, same⟩ := exists_right_of_forall₂ related member
  exact ⟨y, present, same⟩

/-- A fallible map fails with the failure of one of its steps. -/
theorem exists_of_mapM_eq_error {f : α → Except ε β} {xs : List α} {e : ε}
    (failed : xs.mapM f = .error e) : ∃ x ∈ xs, f x = .error e := by
  induction xs with
  | nil => cases failed
  | cons x xs ih =>
      rw [List.mapM_cons] at failed
      cases first : f x with
      | error e' =>
          rw [first] at failed
          cases failed
          exact ⟨x, List.mem_cons_self, first⟩
      | ok y =>
          rw [first, ok_bind] at failed
          cases others : xs.mapM f with
          | error e' =>
              rw [others] at failed
              cases failed
              obtain ⟨x', member, found⟩ := ih others
              exact ⟨x', List.mem_cons_of_mem _ member, found⟩
          | ok ys =>
              rw [others] at failed
              cases failed

theorem rejectIf_of_not {condition : Prop} [Decidable condition] {failure : ε}
    (h : ¬ condition) : rejectIf condition failure = .ok () :=
  rejectIf_eq_ok.mpr h

end Except

/-! ## Methods -/

section Methods

variable {ε σ α β : Type}

/-- Run a computation that touches no state inside a method. -/
def lift (x : Except ε α) : EStateM ε σ α := fun s =>
  match x with
  | .ok a => .ok a s
  | .error e => .error e s

/-- Call a method: the state it leaves and what it returned. -/
def call (act : EStateM ε σ α) (s : σ) : σ × Except ε α :=
  match act s with
  | .ok a s' => (s', .ok a)
  | .error e s' => (s', .error e)

/-- A call by its result; the state is wherever it ended. -/
theorem call_of_result {act : EStateM ε σ α} {s : σ} {r : Except ε α}
    (result : (call act s).2 = r) : call act s = ((call act s).1, r) :=
  Prod.ext rfl result

theorem call_bind_of_ok {act : EStateM ε σ α} {f : α → EStateM ε σ β} {s s' : σ} {a : α}
    (result : act s = .ok a s') : call (act >>= f) s = call (f a) s' := by
  simp only [call, Bind.bind, EStateM.bind, result]

theorem call_bind_of_error {act : EStateM ε σ α} {f : α → EStateM ε σ β} {s s' : σ} {e : ε}
    (result : act s = .error e s') : call (act >>= f) s = (s', .error e) := by
  simp only [call, Bind.bind, EStateM.bind, result]

/-! Calling a method that is made of steps without state. -/

@[simp] theorem call_lift (x : Except ε α) (s : σ) :
    call (lift x : EStateM ε σ α) s = (s, x) := by
  cases x <;> rfl

@[simp] theorem call_get_bind (f : σ → EStateM ε σ β) (s : σ) :
    call (get >>= f) s = call (f s) s := rfl

@[simp] theorem call_set_bind (s s' : σ) (f : PUnit → EStateM ε σ β) :
    call (set s' >>= f) s = call (f ⟨⟩) s' := rfl

theorem call_lift_bind_ok {x : Except ε α} {a : α} (f : α → EStateM ε σ β) {s : σ}
    (value : x = .ok a) : call (lift x >>= f) s = call (f a) s := by
  subst value
  rfl

theorem call_lift_bind_error {x : Except ε α} {e : ε} (f : α → EStateM ε σ β) {s : σ}
    (failure : x = .error e) : call (lift x >>= f) s = (s, .error e) := by
  subst failure
  rfl

/-- Started in `s`, the method ends in a state and with a result that the
postcondition allows. -/
def Ends (act : EStateM ε σ α) (s : σ) (post : σ → Except ε α → Prop) : Prop :=
  post (call act s).1 (call act s).2

namespace Ends

variable {act : EStateM ε σ α} {s : σ} {post post' : σ → Except ε α → Prop}

theorem mono (ends : Ends act s post) (weaker : ∀ s' r, post s' r → post' s' r) :
    Ends act s post' :=
  weaker _ _ ends

theorem of_pure {a : α} (h : post s (.ok a)) : Ends (pure a) s post := h

theorem of_lift {x : Except ε α} (h : post s x) : Ends (lift x) s post := by
  cases x <;> exact h

theorem of_throw {e : ε} (h : post s (.error e)) : Ends (throw e) s post := h

/-- Sequencing: a failure of the first part ends the whole, a value is handed
to the second part in the state the first part left. -/
theorem bind {f : α → EStateM ε σ β} {post : σ → Except ε β → Prop}
    (first : Ends act s fun s' r =>
      match r with
      | .ok a => Ends (f a) s' post
      | .error e => post s' (.error e)) :
    Ends (act >>= f) s post := by
  unfold Ends at first ⊢
  cases result : act s with
  | ok a s' =>
      rw [call_bind_of_ok result]
      simpa [call, result] using first
  | error e s' =>
      rw [call_bind_of_error result]
      simpa [call, result] using first

/-- A step that touches no state: a failure leaves the state as it was, and
the rest of the method may use the value it computed. -/
theorem bind_lift {x : Except ε α} {f : α → EStateM ε σ β} {post : σ → Except ε β → Prop}
    (failed : ∀ e, x = .error e → post s (.error e))
    (continued : ∀ a, x = .ok a → Ends (f a) s post) :
    Ends (lift x >>= f) s post := by
  refine Ends.bind (Ends.of_lift ?_)
  cases x with
  | ok a => exact continued a rfl
  | error e => exact failed e rfl

/-- A step without state that is known to succeed. -/
theorem bind_lift_ok {x : Except ε α} {a : α} {f : α → EStateM ε σ β}
    {post : σ → Except ε β → Prop} (value : x = .ok a) (rest : Ends (f a) s post) :
    Ends (lift x >>= f) s post := by
  rw [Ends, call_lift_bind_ok f value]
  exact rest

theorem bind_get {f : σ → EStateM ε σ β} {post : σ → Except ε β → Prop}
    (rest : Ends (f s) s post) : Ends (get >>= f) s post := rest

theorem bind_set {s' : σ} {f : PUnit → EStateM ε σ β} {post : σ → Except ε β → Prop}
    (rest : Ends (f ⟨⟩) s' post) : Ends (set s' >>= f) s post := rest

theorem bind_modify {g : σ → σ} {f : PUnit → EStateM ε σ β} {post : σ → Except ε β → Prop}
    (rest : Ends (f ⟨⟩) (g s) post) : Ends (modify g >>= f) s post := rest

end Ends

end Methods

end Kurbu5Pkinit.Library

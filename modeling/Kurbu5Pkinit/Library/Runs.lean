import Mathlib.Data.List.Basic

/-!
# Runs of a machine

A machine answers each input from its state. A run of it is recorded as a
history, the most recent event first, so that what an event depends on is the
tail behind it. `answers` is the other view of a machine: what a caller sees of
it, whatever its states are.

`Each` says something of every event together with its past. `Run.rule` is the
one induction over runs: an invariant that relates the history to the state,
kept by every step that an assumption allows, gives what each step establishes
of its own event. `answers_congr` is the induction over two machines at once.
-/

set_option autoImplicit false

namespace Kurbu5Pkinit.Library

section Histories

variable {ε : Type}

/-- Every event of a history satisfies the predicate on its past and itself. -/
def Each (P : List ε → ε → Prop) (history : List ε) : Prop :=
  ∀ newer e older, history = newer ++ e :: older → P older e

@[simp] theorem each_nil (P : List ε → ε → Prop) : Each P [] := by
  intro newer e older split
  simp at split

@[simp] theorem each_cons {P : List ε → ε → Prop} {e : ε} {history : List ε} :
    Each P (e :: history) ↔ P history e ∧ Each P history := by
  constructor
  · intro each
    refine ⟨each [] e history rfl, ?_⟩
    intro newer e' older split
    exact each (e :: newer) e' older (by rw [split, List.cons_append])
  · rintro ⟨head, tail⟩ newer e' older split
    cases newer with
    | nil =>
        obtain ⟨rfl, rfl⟩ := List.cons.inj split
        exact head
    | cons _ newer =>
        obtain ⟨-, rest⟩ := List.cons.inj split
        exact tail newer e' older rest

theorem Each.mono {P Q : List ε → ε → Prop} {history : List ε} (each : Each P history)
    (weaker : ∀ older e, P older e → Q older e) : Each Q history :=
  fun newer e older split => weaker older e (each newer e older split)

/-- A predicate without the past is one on the members. -/
theorem each_iff_forall_mem {P : ε → Prop} {history : List ε} :
    Each (fun _ e => P e) history ↔ ∀ e ∈ history, P e := by
  induction history with
  | nil => simp
  | cons e history ih => simp [ih]

end Histories

variable {σ ι ο : Type}

abbrev Machine (σ ι ο : Type) : Type := σ → ι → σ × ο

structure Event (σ ι ο : Type) where
  before : σ
  input : ι
  output : ο
  after : σ

/-- What the machine does with an input in a state. -/
def Machine.event (m : Machine σ ι ο) (s : σ) (i : ι) : Event σ ι ο :=
  ⟨s, i, (m s i).2, (m s i).1⟩

@[simp] theorem Machine.event_before (m : Machine σ ι ο) (s : σ) (i : ι) :
    (m.event s i).before = s := rfl

@[simp] theorem Machine.event_input (m : Machine σ ι ο) (s : σ) (i : ι) :
    (m.event s i).input = i := rfl

@[simp] theorem Machine.event_output (m : Machine σ ι ο) (s : σ) (i : ι) :
    (m.event s i).output = (m s i).2 := rfl

@[simp] theorem Machine.event_after (m : Machine σ ι ο) (s : σ) (i : ι) :
    (m.event s i).after = (m s i).1 := rfl

/-- From `start`, the history led to the state. -/
inductive Run (m : Machine σ ι ο) (start : σ) : List (Event σ ι ο) → σ → Prop
  | start : Run m start [] start
  | step {history : List (Event σ ι ο)} {s : σ} (run : Run m start history s) (i : ι) :
      Run m start (m.event s i :: history) (m s i).1

/-- Feed the machine a list of inputs, extending a history. -/
def exec (m : Machine σ ι ο) : List (Event σ ι ο) × σ → List ι → List (Event σ ι ο) × σ
  | reached, [] => reached
  | (history, s), i :: rest => exec m (m.event s i :: history, (m s i).1) rest

/-- The state a list of inputs leads to. -/
def Machine.after (m : Machine σ ι ο) : σ → List ι → σ
  | s, [] => s
  | s, i :: rest => m.after (m s i).1 rest

theorem Run.exec {m : Machine σ ι ο} {start s : σ} {history : List (Event σ ι ο)}
    (run : Run m start history s) (inputs : List ι) :
    Run m start (Library.exec m (history, s) inputs).1 (Library.exec m (history, s) inputs).2 := by
  induction inputs generalizing history s with
  | nil => exact run
  | cons i rest ih => exact ih (.step run i)

theorem mem_exec {m : Machine σ ι ο} {e : Event σ ι ο} {inputs : List ι}
    {reached : List (Event σ ι ο) × σ} (member : e ∈ (Library.exec m reached inputs).1) :
    e ∈ reached.1 ∨ e.input ∈ inputs := by
  induction inputs generalizing reached with
  | nil => exact .inl member
  | cons i rest ih =>
      rcases ih member with earlier | later
      · rcases List.mem_cons.mp earlier with rfl | before
        · exact .inr List.mem_cons_self
        · exact .inl before
      · exact .inr (List.mem_cons_of_mem i later)

/-- An execution feeds the machine its inputs and no others. -/
theorem input_mem_of_mem_exec {m : Machine σ ι ο} {start : σ} {e : Event σ ι ο}
    {inputs : List ι} (member : e ∈ (exec m ([], start) inputs).1) : e.input ∈ inputs :=
  (mem_exec member).resolve_left List.not_mem_nil

/-- Executing from the start gives a run. -/
theorem run_exec (m : Machine σ ι ο) (start : σ) (inputs : List ι) :
    Run m start (exec m ([], start) inputs).1 (exec m ([], start) inputs).2 :=
  Run.exec .start inputs

/-- The events of a run are the machine's. -/
theorem Run.event_eq {m : Machine σ ι ο} {start s : σ} {history : List (Event σ ι ο)}
    (run : Run m start history s) {e : Event σ ι ο} (member : e ∈ history) :
    m.event e.before e.input = e := by
  induction run with
  | start => cases member
  | step run i ih =>
      rcases List.mem_cons.mp member with rfl | member
      · rfl
      · exact ih member

/-- **The rule for runs.** `J` relates the history to the state; a step whose
event is allowed keeps it and establishes `P` of the event. -/
theorem Run.rule {m : Machine σ ι ο} {start : σ} {J : List (Event σ ι ο) → σ → Prop}
    {A P : List (Event σ ι ο) → Event σ ι ο → Prop} (initial : J [] start)
    (step : ∀ history s i, J history s → A history (m.event s i) →
      P history (m.event s i) ∧ J (m.event s i :: history) (m s i).1)
    {history : List (Event σ ι ο)} {s : σ} (run : Run m start history s)
    (allowed : Each A history) : Each P history ∧ J history s := by
  induction run with
  | start => exact ⟨each_nil P, initial⟩
  | @step history s run i ih =>
      rw [each_cons] at allowed
      obtain ⟨each, holds⟩ := ih allowed.2
      obtain ⟨here, kept⟩ := step history s i holds allowed.1
      exact ⟨each_cons.mpr ⟨here, each⟩, kept⟩

/-- The rule without the past: an invariant of the state alone. -/
theorem Run.invariant {m : Machine σ ι ο} {start : σ} {I : σ → Prop}
    {A P : Event σ ι ο → Prop} (initial : I start)
    (step : ∀ s i, I s → A (m.event s i) → P (m.event s i) ∧ I (m s i).1)
    {history : List (Event σ ι ο)} {s : σ} (run : Run m start history s)
    (allowed : ∀ e ∈ history, A e) : (∀ e ∈ history, P e) ∧ I s := by
  have ruled := Run.rule (J := fun _ s => I s) (A := fun _ e => A e)
    (P := fun _ e => P e) initial (fun _ s i => step s i) run (each_iff_forall_mem.mpr allowed)
  exact ⟨each_iff_forall_mem.mp ruled.1, ruled.2⟩

/-! ## Answers -/

/-- What the machine answers to a list of inputs. -/
def answers (m : Machine σ ι ο) : σ → List ι → List ο
  | _, [] => []
  | s, i :: rest => (m s i).2 :: answers m (m s i).1 rest

/-- **The rule for two states.** Related states that answer every allowed input
alike, and stay related, answer every list of allowed inputs alike. -/
theorem answers_congr {τ : Type} {m : Machine σ ι ο} {m' : Machine τ ι ο} {R : σ → τ → Prop}
    {A : ι → Prop}
    (step : ∀ s t i, R s t → A i → (m s i).2 = (m' t i).2 ∧ R (m s i).1 (m' t i).1)
    {s : σ} {t : τ} (related : R s t) {inputs : List ι} (allowed : ∀ i ∈ inputs, A i) :
    answers m s inputs = answers m' t inputs := by
  induction inputs generalizing s t with
  | nil => rfl
  | cons i rest ih =>
      obtain ⟨alike, kept⟩ := step s t i related (allowed i List.mem_cons_self)
      have tail := ih kept fun j member => allowed j (List.mem_cons_of_mem i member)
      simp only [answers, alike, tail]

end Kurbu5Pkinit.Library

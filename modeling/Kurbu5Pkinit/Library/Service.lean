import Kurbu5Pkinit.Library.Runs

/-!
# A machine that serves many clients

Clients call one machine over a network. A call is sent, is served at a later
moment, and its answer is received at a moment later still; what happens to the
other calls in between is arbitrary. A call can be lost on either way, so a
client that gives up is one that receives nothing: its call may have been
served all the same.

The calls that were served, in the order in which they were, are a run of the
machine on its own (`Traffic.served_run`), and every answer that is received is
that run's answer to the call (`Traffic.orderly`).
-/

set_option autoImplicit false

namespace Kurbu5Pkinit.Library

variable {σ ι κ ο : Type}

/-- What happens on the network, with the number of the call it happens to. -/
inductive Signal (σ ι κ ο : Type) where
  | sent (id : Nat) (request : κ)
  | served (id : Nat) (event : Event σ ι ο)
  | received (id : Nat) (answer : ο)
  | lost (id : Nat)

namespace Signal

def id : Signal σ ι κ ο → Nat
  | sent id _ | served id _ | received id _ | lost id => id

/-- What the machine did, if it did anything. -/
def event : Signal σ ι κ ο → Option (Event σ ι ο)
  | served _ event => some event
  | _ => none

end Signal

/-- The calls of a history that were served, the latest first. -/
def servedEvents (history : List (Signal σ ι κ ο)) : List (Event σ ι ο) :=
  history.filterMap Signal.event

/-- The machine's state, the calls it has not served, and the answers that have
not arrived. -/
structure Network (σ κ ο : Type) where
  state : σ
  waiting : List (Nat × κ) := []
  answered : List (Nat × ο) := []
  calls : Nat := 0

/-- All entries but those of one call. -/
def dropCall {α : Type} (id : Nat) (entries : List (Nat × α)) : List (Nat × α) :=
  entries.filter fun entry => entry.1 ≠ id

theorem mem_dropCall {α : Type} {id : Nat} {entries : List (Nat × α)} {entry : Nat × α} :
    entry ∈ dropCall id entries ↔ entry ∈ entries ∧ entry.1 ≠ id := by
  simp [dropCall]

/-- What the network does from a start, in any order. The machine is given each
request with what its server adds to it. -/
inductive Traffic (m : Machine σ ι ο) (enters : κ → ι → Prop) (start : σ) :
    List (Signal σ ι κ ο) → Network σ κ ο → Prop
  | quiet : Traffic m enters start [] { state := start }
  | send {history : List (Signal σ ι κ ο)} {n : Network σ κ ο}
      (before : Traffic m enters start history n) (request : κ) :
      Traffic m enters start (.sent n.calls request :: history)
        { n with waiting := (n.calls, request) :: n.waiting, calls := n.calls + 1 }
  | serve {history : List (Signal σ ι κ ο)} {n : Network σ κ ο} {id : Nat} {request : κ} {i : ι}
      (before : Traffic m enters start history n) (waits : (id, request) ∈ n.waiting)
      (enter : enters request i) :
      Traffic m enters start (.served id (m.event n.state i) :: history)
        { n with
          state := (m n.state i).1
          waiting := dropCall id n.waiting
          answered := (id, (m n.state i).2) :: n.answered }
  | receive {history : List (Signal σ ι κ ο)} {n : Network σ κ ο} {id : Nat} {answer : ο}
      (before : Traffic m enters start history n) (arrives : (id, answer) ∈ n.answered) :
      Traffic m enters start (.received id answer :: history)
        { n with answered := dropCall id n.answered }
  | lose {history : List (Signal σ ι κ ο)} {n : Network σ κ ο} {id : Nat}
      (before : Traffic m enters start history n) (known : id < n.calls) :
      Traffic m enters start (.lost id :: history)
        { n with waiting := dropCall id n.waiting, answered := dropCall id n.answered }

/-- What has to have happened before a signal. -/
inductive Orderly (enters : κ → ι → Prop) (older : List (Signal σ ι κ ο)) :
    Signal σ ι κ ο → Prop
  | sent {id : Nat} {request : κ} (fresh : ∀ signal ∈ older, signal.id ≠ id) :
      Orderly enters older (.sent id request)
  | served {id : Nat} {request : κ} {event : Event σ ι ο} (sent : .sent id request ∈ older)
      (enter : enters request event.input) (once : ∀ event, .served id event ∉ older) :
      Orderly enters older (.served id event)
  | received {id : Nat} {event : Event σ ι ο} (served : .served id event ∈ older)
      (once : ∀ answer, .received id answer ∉ older) :
      Orderly enters older (.received id event.output)
  | lost {id : Nat} : Orderly enters older (.lost id)

/-- What is on the network went onto it before. -/
structure Carried (enters : κ → ι → Prop) (history : List (Signal σ ι κ ο))
    (n : Network σ κ ο) : Prop where
  numbered : ∀ signal ∈ history, signal.id < n.calls
  waiting : ∀ id request, (id, request) ∈ n.waiting →
    .sent id request ∈ history ∧ ∀ event, .served id event ∉ history
  answered : ∀ id answer, (id, answer) ∈ n.answered →
    (∃ event, .served id event ∈ history ∧ event.output = answer) ∧
      ∀ answer, .received id answer ∉ history
  /-- A call that is received was served. -/
  settled : ∀ id answer, .received id answer ∈ history → ∃ event, .served id event ∈ history

namespace Carried

variable {enters : κ → ι → Prop} {history : List (Signal σ ι κ ο)} {n : Network σ κ ο}
  {signal : Signal σ ι κ ο} {id : Nat}

theorem waiting_cons (carried : Carried enters history n) {request : κ}
    (waits : (id, request) ∈ n.waiting) (other : ∀ event, .served id event ≠ signal) :
    .sent id request ∈ signal :: history ∧ ∀ event, .served id event ∉ signal :: history := by
  obtain ⟨sent, unserved⟩ := carried.waiting id request waits
  refine ⟨List.mem_cons_of_mem _ sent, ?_⟩
  intro event served
  exact unserved event ((List.mem_cons.mp served).resolve_left (other event))

theorem answered_cons (carried : Carried enters history n) {answer : ο}
    (arrives : (id, answer) ∈ n.answered) (other : ∀ answer, .received id answer ≠ signal) :
    (∃ event, .served id event ∈ signal :: history ∧ event.output = answer) ∧
      ∀ answer, .received id answer ∉ signal :: history := by
  obtain ⟨⟨event, served, output⟩, unreceived⟩ := carried.answered id answer arrives
  refine ⟨⟨event, List.mem_cons_of_mem _ served, output⟩, ?_⟩
  intro answer received
  exact unreceived answer ((List.mem_cons.mp received).resolve_left (other answer))

theorem settled_cons (carried : Carried enters history n)
    (new : ∀ id answer, .received id answer = signal → ∃ event, .served id event ∈ history)
    (id : Nat) (answer : ο) (received : .received id answer ∈ signal :: history) :
    ∃ event, .served id event ∈ signal :: history := by
  rcases List.mem_cons.mp received with same | received
  · obtain ⟨event, served⟩ := new id answer same
    exact ⟨event, List.mem_cons_of_mem _ served⟩
  · obtain ⟨event, served⟩ := carried.settled id answer received
    exact ⟨event, List.mem_cons_of_mem _ served⟩

/-- A call that waits was never received. -/
theorem not_received (carried : Carried enters history n) {request : κ}
    (waits : (id, request) ∈ n.waiting) (answer : ο) : .received id answer ∉ history := by
  intro received
  obtain ⟨event, served⟩ := carried.settled id answer received
  exact (carried.waiting id request waits).2 event served

end Carried

section Traffic

variable {m : Machine σ ι ο} {enters : κ → ι → Prop} {start : σ}
  {history : List (Signal σ ι κ ο)} {n : Network σ κ ο}

/-- **The calls served are a run of the machine on its own.** -/
theorem Traffic.served_run (traffic : Traffic m enters start history n) :
    Run m start (servedEvents history) n.state := by
  induction traffic with
  | quiet => exact Run.start
  | send before request ih => exact ih
  | serve before waits enter ih => exact Run.step ih _
  | receive before arrives ih => exact ih
  | lose before known ih => exact ih

theorem Traffic.carried (traffic : Traffic m enters start history n) :
    Carried enters history n := by
  induction traffic with
  | quiet =>
      exact {
        numbered := fun _ member => absurd member List.not_mem_nil
        waiting := fun _ _ member => absurd member List.not_mem_nil
        answered := fun _ _ member => absurd member List.not_mem_nil
        settled := fun _ _ member => absurd member List.not_mem_nil }
  | @send history n before request ih =>
      have fresh : ∀ event, .served n.calls event ∉ history :=
        fun event served => Nat.lt_irrefl n.calls (ih.numbered _ served)
      exact {
        numbered := List.forall_mem_cons.mpr ⟨Nat.lt_succ_self n.calls,
          fun signal member => Nat.lt_succ_of_lt (ih.numbered signal member)⟩
        waiting := by
          intro id request' waits
          rcases List.mem_cons.mp waits with same | waits
          · obtain ⟨rfl, rfl⟩ := Prod.mk.inj same
            refine ⟨List.mem_cons_self, ?_⟩
            intro event served
            exact fresh event ((List.mem_cons.mp served).resolve_left (by rintro ⟨⟩))
          · exact ih.waiting_cons waits (by rintro _ ⟨⟩)
        answered := fun id answer arrives => ih.answered_cons arrives (by rintro _ ⟨⟩)
        settled := ih.settled_cons (by rintro _ _ ⟨⟩) }
  | @serve history n id request i before waits enter ih =>
      have known : id < n.calls := ih.numbered _ (ih.waiting id request waits).1
      exact {
        numbered := List.forall_mem_cons.mpr ⟨known, ih.numbered⟩
        waiting := by
          intro id' request' waits'
          obtain ⟨waits', other⟩ := mem_dropCall.mp waits'
          exact ih.waiting_cons waits' fun event same => other (Signal.served.inj same).1
        answered := by
          intro id' answer arrives
          rcases List.mem_cons.mp arrives with same | arrives
          · obtain ⟨rfl, rfl⟩ := Prod.mk.inj same
            refine ⟨⟨m.event n.state i, List.mem_cons_self, rfl⟩, ?_⟩
            intro answer received
            exact ih.not_received waits answer
              ((List.mem_cons.mp received).resolve_left (by rintro ⟨⟩))
          · exact ih.answered_cons arrives (by rintro _ ⟨⟩)
        settled := ih.settled_cons (by rintro _ _ ⟨⟩) }
  | @receive history n id answer before arrives ih =>
      obtain ⟨⟨event, served, _⟩, _⟩ := ih.answered id answer arrives
      have known : id < n.calls := ih.numbered _ served
      exact {
        numbered := List.forall_mem_cons.mpr ⟨known, ih.numbered⟩
        waiting := fun id' request waits => ih.waiting_cons waits (by rintro _ ⟨⟩)
        answered := by
          intro id' answer' arrives'
          obtain ⟨arrives', other⟩ := mem_dropCall.mp arrives'
          exact ih.answered_cons arrives' fun answer same => other (Signal.received.inj same).1
        settled := by
          refine ih.settled_cons ?_
          intro id' answer' same
          obtain ⟨rfl, _⟩ := Signal.received.inj same
          exact ⟨event, served⟩ }
  | @lose history n id before known ih =>
      exact {
        numbered := List.forall_mem_cons.mpr ⟨known, ih.numbered⟩
        waiting := fun id' request waits => ih.waiting_cons (mem_dropCall.mp waits).1
          (by rintro _ ⟨⟩)
        answered := fun id' answer arrives => ih.answered_cons (mem_dropCall.mp arrives).1
          (by rintro _ ⟨⟩)
        settled := ih.settled_cons (by rintro _ _ ⟨⟩) }

/-- **Every signal follows from those before it.** -/
theorem Traffic.orderly (traffic : Traffic m enters start history n) :
    Each (Orderly enters) history := by
  induction traffic with
  | quiet => exact each_nil _
  | @send history n before request ih =>
      refine each_cons.mpr ⟨.sent ?_, ih⟩
      intro signal member same
      exact absurd (before.carried.numbered signal member) (by rw [same]; exact Nat.lt_irrefl _)
  | @serve history n id request i before waits enter ih =>
      obtain ⟨sent, unserved⟩ := before.carried.waiting id request waits
      exact each_cons.mpr ⟨.served sent enter unserved, ih⟩
  | @receive history n id answer before arrives ih =>
      obtain ⟨⟨event, served, rfl⟩, unreceived⟩ := before.carried.answered id answer arrives
      exact each_cons.mpr ⟨.received served unreceived, ih⟩
  | lose before known ih => exact each_cons.mpr ⟨.lost, ih⟩

end Traffic

/-- A call that is served and answered, alone on the network. -/
def exchanged (m : Machine σ ι ο) (start : σ) (request : κ) (i : ι) : List (Signal σ ι κ ο) :=
  [.received 0 (m start i).2, .served 0 (m.event start i), .sent 0 request]

/-- A call that is served after its client gave up on it, and a later call. -/
def retried (m : Machine σ ι ο) (start : σ) (first : κ) (i : ι) (second : κ) (i' : ι) :
    List (Signal σ ι κ ο) :=
  [.received 1 (m (m start i).1 i').2,
    .served 1 (m.event (m start i).1 i'),
    .sent 1 second,
    .lost 0,
    .served 0 (m.event start i),
    .sent 0 first]

theorem traffic_retried (m : Machine σ ι ο) {enters : κ → ι → Prop} (start : σ) {first second : κ}
    {i i' : ι} (enter : enters first i) (enter' : enters second i') :
    ∃ n, Traffic m enters start (retried m start first i second i') n :=
  ⟨_, .receive (.serve (.send (.lose (.serve (.send .quiet first) List.mem_cons_self enter)
    Nat.zero_lt_one) second) List.mem_cons_self enter') List.mem_cons_self⟩

theorem received_retried (m : Machine σ ι ο) (start : σ) (first second : κ) (i i' : ι) :
    .received 1 (m (m start i).1 i').2 ∈ retried m start first i second i' :=
  List.mem_cons_self

theorem servedEvents_retried (m : Machine σ ι ο) (start : σ) (first second : κ) (i i' : ι) :
    servedEvents (retried m start first i second i') =
      [m.event (m start i).1 i', m.event start i] :=
  rfl

/-- A machine that hands some of its inputs to another, and does nothing else to
the state, runs as the other does on these. -/
theorem Run.filterMap {ι' ο' : Type} {m : Machine σ ι ο} {m' : Machine σ ι' ο'}
    {f : Event σ ι ο → Option (Event σ ι' ο')}
    (step : ∀ s i, (f (m.event s i) = none ∧ (m s i).1 = s) ∨
      ∃ i', f (m.event s i) = some (m'.event s i') ∧ (m s i).1 = (m' s i').1)
    {start s : σ} {history : List (Event σ ι ο)} (run : Run m start history s) :
    Run m' start (history.filterMap f) s := by
  induction run with
  | start => exact Run.start
  | @step history s run i ih =>
      rcases step s i with ⟨none, same⟩ | ⟨i', some, same⟩
      · rw [List.filterMap_cons_none none, same]
        exact ih
      · rw [List.filterMap_cons_some some, same]
        exact Run.step ih i'

section Orderly

variable {enters : κ → ι → Prop} {newer older history : List (Signal σ ι κ ο)}

/-- A call is sent once. -/
theorem Orderly.sent_unique (each : Each (Orderly enters) history) {id : Nat}
    {request request' : κ} (first : .sent id request ∈ history)
    (second : .sent id request' ∈ history) : request = request' := by
  obtain ⟨newer, older, rfl⟩ := List.append_of_mem first
  have fresh : ∀ signal ∈ older, signal.id ≠ id := by
    cases each newer _ older rfl with
    | sent fresh => exact fresh
  rcases List.mem_append.mp second with later | later
  · obtain ⟨latest, between, rfl⟩ := List.append_of_mem later
    cases each latest (.sent id request') (between ++ .sent id request :: older) (by simp) with
    | sent fresh => exact absurd rfl (fresh (.sent id request) (by simp))
  · rcases List.mem_cons.mp later with same | earlier
    · exact (Signal.sent.inj same).2.symm
    · exact absurd rfl (fresh _ earlier)

end Orderly

end Kurbu5Pkinit.Library

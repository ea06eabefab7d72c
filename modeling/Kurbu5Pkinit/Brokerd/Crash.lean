import Kurbu5Pkinit.Brokerd.Pinning
import Kurbu5Pkinit.Brokerd.Reopen
import Kurbu5Pkinit.Reference.Broker

/-!
# A daemon that crashes

The state file is truncated and written anew for each approval. A full disk
refuses the write, a crash leaves its first bytes, and a restart reads whatever
is there. A restart may come at any point of a history, and a crash in the
middle of an approval is the approval with its write torn, and then a restart.

None of this makes anything trusted: after any history an answer that trusts
follows from a grant of that history, whatever the clock did, and a restart
that is not earlier than what came before it has no live pin that the store
before it did not have (`crashes_only_forget`). Where no write was refused or
torn, it has all of them.
-/

set_option autoImplicit false

namespace Kurbu5Pkinit.Brokerd

open Library

/-! ## The daemon and its file -/

/-- What becomes of a write. -/
inductive WriteFate where
  | completed
  | refused
  | torn (kept : Nat)
  deriving DecidableEq, Repr

/-- What the write leaves at its path. -/
def WriteFate.leaves (file : StateFile) (data : Bytes) : WriteFate → StateFile
  | .completed => .holds data
  | .refused => file
  | .torn kept => .holds (data.take kept)

inductive DaemonCall where
  | decide (call : DecideCall) (fate : WriteFate)
  | trustedRealms (instant : Instant)
  | restart (instant : Instant)

def DaemonCall.now : DaemonCall → Nat
  | .decide call _ => call.instant.now
  | .trustedRealms instant | .restart instant => instant.now

inductive DaemonAnswer where
  | decided (decided : Decided)
  | realms (realms : List TrustedRealm)
  | started (result : Except String Unit)
  | down

/-- A daemon that runs, or does not, and its state file. -/
structure Daemon where
  store : Option PinStore := none
  file : StateFile := .missing

/-- `main` once more: the file is opened, or the daemon ends. -/
def Daemon.restart (serde : SerdeJson) (path : String) (daemon : Daemon) :
    Daemon × DaemonAnswer :=
  match PinStore.openFile serde path daemon.file with
  | .ok store => ({ daemon with store := some store }, .started (.ok ()))
  | .error e => ({ daemon with store := none }, .started (.error e))

/-- The file after a call that wrote these pins, if it wrote any. -/
def StateFile.after (serde : SerdeJson) (file : StateFile) (written : Option (String × Pins))
    (fate : WriteFate) : StateFile :=
  match written with
  | some (_, pins) => fate.leaves file ((serde.toVecPretty pins).getD [])
  | none => file

def daemonMachine (b : BrokerPlatform) (serde : SerdeJson) (path : String) :
    Machine Daemon DaemonCall DaemonAnswer
  | daemon, .restart _ => daemon.restart serde path
  | daemon, .trustedRealms instant =>
      match daemon.store with
      | some store => (daemon, .realms (store.trustedRealms instant.now))
      | none => (daemon, .down)
  | daemon, .decide call fate =>
      match daemon.store with
      | some store =>
          let (store', decided) := store.decide b call
          (⟨some store', daemon.file.after serde decided.persisted fate⟩, .decided decided)
      | none => (daemon, .down)

abbrev DaemonEvent : Type :=
  Event Daemon DaemonCall DaemonAnswer

/-- The decision of a call, if the daemon made one. -/
def DaemonEvent.decision (b : BrokerPlatform) (e : DaemonEvent) : Option BrokerEvent :=
  match e.input with
  | .decide call _ => e.before.store.map fun store => (brokerMachine b).event store call
  | _ => none

def daemonDecisions (b : BrokerPlatform) (history : List DaemonEvent) : List BrokerEvent :=
  history.filterMap (DaemonEvent.decision b)

/-- What a file can hold of the pins that were written to it: all of them, or
nothing that parses. -/
structure SerdeJson.Faithful (serde : SerdeJson) (pins : Pins) : Prop where
  whole : ∀ data restored, serde.toVecPretty pins = some data →
    serde.fromSlice data = some restored → ∀ realm, restored.lookup realm = pins.lookup realm
  torn : ∀ data kept, serde.toVecPretty pins = some data → kept < data.length →
    serde.fromSlice (data.take kept) = none

/-- The pins that the call wrote, or tried to. -/
def DaemonEvent.written (b : BrokerPlatform) (e : DaemonEvent) : Option Pins :=
  (e.decision b).bind fun decision => decision.output.persisted.map Prod.snd

variable {b : BrokerPlatform} {serde : SerdeJson} {path : String} {daemon : Daemon}
  {history : List DaemonEvent}

/-! ## Live pins across a restart -/

/-- From this moment on the live pins of one store are the other's. -/
def LivePinsAmong (now : Nat) (store store' : PinStore) : Prop :=
  ∀ realm later pin, now ≤ later → store.livePin realm later = some pin →
    store'.livePin realm later = some pin

namespace LivePinsAmong

variable {now : Nat} {store store' store'' : PinStore}

theorem refl (now : Nat) (store : PinStore) : LivePinsAmong now store store :=
  fun _ _ _ _ live => live

theorem trans (among : LivePinsAmong now store store') (among' : LivePinsAmong now store' store'') :
    LivePinsAmong now store store'' :=
  fun realm later pin ordered live => among' realm later pin ordered
    (among realm later pin ordered live)

theorem mono {later : Nat} (among : LivePinsAmong now store store') (ordered : now ≤ later) :
    LivePinsAmong later store store' :=
  fun realm moment pin after => among realm moment pin (ordered.trans after)

theorem of_same (same : SameLivePins now store store') : LivePinsAmong now store store' :=
  fun realm later _ ordered live => (same realm later ordered).symm.trans live

theorem of_lookup
    (among : ∀ realm pin,
      store.pins.lookup realm = some pin → store'.pins.lookup realm = some pin) :
    LivePinsAmong now store store' := by
  intro realm later pin _ live
  obtain ⟨present, unlapsed⟩ := PinStore.livePin_eq_some.mp live
  exact PinStore.livePin_eq_some.mpr ⟨among realm pin present, unlapsed⟩

end LivePinsAmong

/-! ## The invariant -/

/-- No call of the history is later than this moment. -/
def PassedBy (history : List DaemonEvent) (now : Nat) : Prop :=
  ∀ e ∈ history, e.input.now ≤ now

/-- The write of this call, if it made one, went through and can be read. -/
def DaemonEvent.WriteCompleted (b : BrokerPlatform) (serde : SerdeJson) (e : DaemonEvent) : Prop :=
  ∀ call fate, e.input = .decide call fate → ∀ pins, e.written b = some pins →
    fate = .completed ∧ serde.RoundTrips pins

/-- The file is behind the store: it never holds a live pin that the store has
not, and holds all where every write went through. -/
structure FileBehind (b : BrokerPlatform) (serde : SerdeJson) (path : String)
    (history : List DaemonEvent) (file : StateFile) (store : PinStore) : Prop where
  placed : store.path = some path
  behind : ∀ reopened, PinStore.openFile serde path file = .ok reopened →
    ∀ now, PassedBy history now → LivePinsAmong now reopened store
  level : (∀ e ∈ history, e.WriteCompleted b serde) → ∀ reopened,
    PinStore.openFile serde path file = .ok reopened →
    ∀ now, PassedBy history now → LivePinsAmong now store reopened

/-- The invariant of a history. -/
structure CrashConsistent (b : BrokerPlatform) (serde : SerdeJson) (path : String)
    (history : List DaemonEvent) (daemon : Daemon) : Prop where
  running : ∀ store, daemon.store = some store →
    PinsGranted b (daemonDecisions b history) store ∧
      FileBehind b serde path history daemon.file store
  filed : ∀ reopened, PinStore.openFile serde path daemon.file = .ok reopened →
    PinsGranted b (daemonDecisions b history) reopened

theorem daemonDecisions_subset (e : DaemonEvent) :
    daemonDecisions b history ⊆ daemonDecisions b (e :: history) := by
  intro decision member
  obtain ⟨e', present, decided⟩ := List.mem_filterMap.mp member
  exact List.mem_filterMap.mpr ⟨e', List.mem_cons_of_mem _ present, decided⟩

theorem PassedBy.of_cons {e : DaemonEvent} {now : Nat} (passed : PassedBy (e :: history) now) :
    PassedBy history now ∧ e.input.now ≤ now :=
  ⟨fun e' member => passed e' (List.mem_cons_of_mem _ member), passed e List.mem_cons_self⟩

/-- A call that leaves the store and the file as they are. -/
theorem FileBehind.of_quiet {file : StateFile} {store : PinStore}
    (behind : FileBehind b serde path history file store) (e : DaemonEvent) :
    FileBehind b serde path (e :: history) file store where
  placed := behind.placed
  behind := fun reopened opens now passed =>
    behind.behind reopened opens now (PassedBy.of_cons passed).1
  level := fun completed reopened opens now passed =>
    behind.level (fun e' member => completed e' (List.mem_cons_of_mem _ member)) reopened opens now
      (PassedBy.of_cons passed).1

/-- A store just opened is level with its file. -/
theorem fileBehind_opened {file : StateFile} {store : PinStore}
    (opens : PinStore.openFile serde path file = .ok store) :
    FileBehind b serde path history file store where
  placed := by
    cases file with
    | unreadable reason => cases opens
    | missing | holds => cases opens; rfl
  behind := by
    intro reopened reopens now _
    obtain rfl := Except.ok.inj (opens.symm.trans reopens)
    exact .refl now store
  level := by
    intro _ reopened reopens now _
    obtain rfl := Except.ok.inj (opens.symm.trans reopens)
    exact .refl now store

/-! ## What is in the file after a write -/

theorem exists_restored {data : Bytes} {reopened : PinStore}
    (opens : PinStore.openFile serde path (.holds data) = .ok reopened) {realm : String} {pin : Pin}
    (present : reopened.pins.lookup realm = some pin) :
    ∃ restored, serde.fromSlice data = some restored ∧ restored.lookup realm = some pin := by
  obtain rfl := Except.ok.inj opens
  cases parsed : serde.fromSlice data with
  | none =>
      simp only [parsed, Option.getD_none, AList.lookup_empty] at present
      cases present
  | some restored => exact ⟨restored, rfl, by simpa only [parsed, Option.getD_some] using present⟩

/-- The bytes written, or the first of them, hold no pin but those written. -/
theorem SerdeJson.Faithful.lookup {pins : Pins} (faithful : serde.Faithful pins)
    (emptyFile : serde.fromSlice [] = none) {kept : Nat} {restored : Pins} {realm : String}
    {pin : Pin}
    (parsed : serde.fromSlice (((serde.toVecPretty pins).getD []).take kept) = some restored)
    (present : restored.lookup realm = some pin) : pins.lookup realm = some pin := by
  cases rendered : serde.toVecPretty pins with
  | none =>
      simp only [rendered, Option.getD_none, List.take_nil, emptyFile] at parsed
      cases parsed
  | some data =>
      simp only [rendered, Option.getD_some] at parsed
      by_cases short : kept < data.length
      · cases (faithful.torn data kept rendered short).symm.trans parsed
      · rw [List.take_of_length_le (not_lt.mp short)] at parsed
        rw [← faithful.whole data restored rendered parsed, present]

/-- The file holds what was there before, or no pin but those written. -/
theorem lookup_of_leaves {pins : Pins} {file : StateFile} {fate : WriteFate} {reopened : PinStore}
    (faithful : serde.Faithful pins) (emptyFile : serde.fromSlice [] = none)
    (opens : PinStore.openFile serde path
      (fate.leaves file ((serde.toVecPretty pins).getD [])) = .ok reopened) :
    PinStore.openFile serde path file = .ok reopened ∨
      ∀ realm pin, reopened.pins.lookup realm = some pin → pins.lookup realm = some pin := by
  cases fate with
  | refused => exact .inl opens
  | torn kept =>
      refine .inr fun realm pin present => ?_
      obtain ⟨restored, parsed, found⟩ := exists_restored opens present
      exact faithful.lookup emptyFile parsed found
  | completed =>
      refine .inr fun realm pin present => ?_
      obtain ⟨restored, parsed, found⟩ := exists_restored opens present
      rw [← List.take_length (l := (serde.toVecPretty pins).getD [])] at parsed
      exact faithful.lookup emptyFile parsed found

/-- A write that went through is read back. -/
theorem lookup_of_completed {pins : Pins} {reopened : PinStore} (file : StateFile)
    (roundTrips : serde.RoundTrips pins)
    (opens : PinStore.openFile serde path
      (WriteFate.completed.leaves file ((serde.toVecPretty pins).getD [])) = .ok reopened)
    (realm : String) : reopened.pins.lookup realm = pins.lookup realm := by
  obtain ⟨data, restored, rendered, parsed, alike⟩ := roundTrips
  obtain rfl := Except.ok.inj opens
  simp only [rendered, Option.getD_some, parsed, alike]

/-! ## One call -/

/-- A call forgets no live pin. -/
theorem DecideOutcome.among {store store' : PinStore} {call : DecideCall} {decided : Decided}
    (outcome : DecideOutcome b store call (store', decided)) :
    LivePinsAmong call.instant.now store store' := by
  intro realm later pin ordered live
  by_cases other : realm = call.realm
  · subst other
    cases outcome with
    | refused | trusted | changed => exact live
    | unknown _ noPin | declined _ noPin | approved _ _ noPin =>
        cases live.symm.trans (PinStore.livePin_eq_none_of_le noPin ordered)
  · obtain ⟨present, unlapsed⟩ := PinStore.livePin_eq_some.mp live
    exact PinStore.livePin_eq_some.mpr ⟨(outcome.lookup_of_ne other).trans present, unlapsed⟩

section Decide

variable {store : PinStore} {call : DecideCall} {fate : WriteFate} {file : StateFile}

/-- The event of a call that a running daemon decides. -/
def decideEvent (b : BrokerPlatform) (serde : SerdeJson) (store : PinStore) (file : StateFile)
    (call : DecideCall) (fate : WriteFate) : DaemonEvent where
  before := ⟨some store, file⟩
  input := .decide call fate
  output := .decided (store.decide b call).2
  after := ⟨some (store.decide b call).1,
    file.after serde (store.decide b call).2.persisted fate⟩

theorem decideEvent_decision : (decideEvent b serde store file call fate).decision b =
    some ((brokerMachine b).event store call) :=
  rfl

theorem decideEvent_written (placed : store.path = some path)
    (persisted : (store.decide b call).2.persisted = (store.decide b call).1.persist) :
    (decideEvent b serde store file call fate).written b = some (store.decide b call).1.pins := by
  have path := (decide_path (b := b) store call).trans placed
  rw [DaemonEvent.written, decideEvent_decision, Option.bind_some, Machine.event_output,
    brokerMachine, persisted, PinStore.persist, path]
  rfl

theorem PinsGranted.decide (granted : PinsGranted b (daemonDecisions b history) store) :
    PinsGranted b (daemonDecisions b (decideEvent b serde store file call fate :: history))
      (store.decide b call).1 := by
  rw [daemonDecisions, List.filterMap_cons_some decideEvent_decision]
  exact granted.step (decide_outcome store call)

/-- What the call left in the file. -/
theorem file_after_decide (placed : store.path = some path)
    (emptyFile : serde.fromSlice [] = none)
    (faithful : ∀ pins, (decideEvent b serde store file call fate).written b = some pins →
      serde.Faithful pins) {reopened : PinStore}
    (opens : PinStore.openFile serde path
      (file.after serde (store.decide b call).2.persisted fate) = .ok reopened) :
    PinStore.openFile serde path file = .ok reopened ∨
      ∀ realm pin, reopened.pins.lookup realm = some pin →
        (store.decide b call).1.pins.lookup realm = some pin := by
  rcases decide_written (b := b) store call with ⟨unwritten, _⟩ | persisted
  · rw [unwritten] at opens
    exact .inl opens
  · have written : (decideEvent b serde store file call fate).written b =
        some (store.decide b call).1.pins := decideEvent_written placed persisted
    have path := (decide_path (b := b) store call).trans placed
    rw [persisted, PinStore.persist, path] at opens
    exact lookup_of_leaves (faithful _ written) emptyFile opens

theorem FileBehind.decide (behind : FileBehind b serde path history file store)
    (emptyFile : serde.fromSlice [] = none)
    (faithful : ∀ pins, (decideEvent b serde store file call fate).written b = some pins →
      serde.Faithful pins) :
    FileBehind b serde path (decideEvent b serde store file call fate :: history)
      (file.after serde (store.decide b call).2.persisted fate) (store.decide b call).1 where
  placed := (decide_path (b := b) store call).trans behind.placed
  behind := by
    intro reopened opens now passed
    obtain ⟨older, ordered⟩ := PassedBy.of_cons passed
    rcases file_after_decide behind.placed emptyFile faithful opens with old | written
    · exact (behind.behind reopened old now older).trans
        ((decide_outcome (b := b) store call).among.mono ordered)
    · exact .of_lookup written
  level := by
    intro completed reopened opens now passed
    obtain ⟨older, ordered⟩ := PassedBy.of_cons passed
    rcases decide_written (b := b) store call with ⟨unwritten, same⟩ | persisted
    · rw [unwritten] at opens
      exact (LivePinsAmong.of_same (same.mono ordered)).trans (behind.level
        (fun e member => completed e (List.mem_cons_of_mem _ member)) reopened opens now older)
    · obtain ⟨rfl, roundTrips⟩ := completed _ List.mem_cons_self call fate rfl _
        (decideEvent_written behind.placed persisted)
      have path := (decide_path (b := b) store call).trans behind.placed
      rw [persisted, PinStore.persist, path] at opens
      refine .of_lookup fun realm pin present => ?_
      rw [lookup_of_completed file roundTrips opens, present]

end Decide

/-! ## Runs -/

/-- An answer that trusts follows from a grant, and a restart only forgets: one
with an earlier clock might find alive what was forgotten as lapsed. -/
structure OnlyForgets (b : BrokerPlatform) (serde : SerdeJson) (older : List DaemonEvent)
    (e : DaemonEvent) : Prop where
  trusted : ∀ decided call fate, e.input = .decide call fate → e.output = .decided decided →
    decided.reply.decision = .trusted → ∃ ca fingerprint, call.LastAnchor b ca ∧
      decided.reply.anchors = [b.base64.encode ca] ∧
      ((∃ decision, e.decision b = some decision ∧ ∃ ttl, Approves b decision ca fingerprint ttl) ∨
        ∃ grant ∈ daemonDecisions b older, ∃ ttl, Approves b grant ca fingerprint ttl ∧
          grant.input.realm = call.realm ∧ ttl.Covers grant.input.instant.now call.instant.now)
  restarted : ∀ instant store store', e.input = .restart instant → PassedBy older instant.now →
    e.before.store = some store → e.after.store = some store' →
    LivePinsAmong instant.now store' store ∧
      ((∀ e ∈ older, e.WriteCompleted b serde) → LivePinsAmong instant.now store store')

theorem crashConsistent_start : CrashConsistent b serde path [] {} where
  running := by rintro store ⟨⟩
  filed := by
    rintro reopened ⟨⟩
    exact pinsGranted_empty (some path)

/-- A call that changes nothing. -/
theorem CrashConsistent.of_quiet (consistent : CrashConsistent b serde path history daemon)
    (e : DaemonEvent) : CrashConsistent b serde path (e :: history) daemon where
  running := by
    intro store present
    obtain ⟨granted, behind⟩ := consistent.running store present
    exact ⟨granted.mono (daemonDecisions_subset e), behind.of_quiet e⟩
  filed := fun reopened opens =>
    (consistent.filed reopened opens).mono (daemonDecisions_subset e)

theorem CrashConsistent.restart (consistent : CrashConsistent b serde path history daemon)
    (instant : Instant) :
    OnlyForgets b serde history ((daemonMachine b serde path).event daemon (.restart instant)) ∧
      CrashConsistent b serde path
        ((daemonMachine b serde path).event daemon (.restart instant) :: history)
        (daemonMachine b serde path daemon (.restart instant)).1 := by
  have filed := fun reopened opens =>
    (consistent.filed reopened opens).mono (daemonDecisions_subset
      ((daemonMachine b serde path).event daemon (.restart instant)))
  cases opens : PinStore.openFile serde path daemon.file with
  | error e =>
      have after : daemonMachine b serde path daemon (.restart instant) =
          ({ daemon with store := none }, .started (.error e)) := by
        simp only [daemonMachine, Daemon.restart, opens]
      refine ⟨⟨?_, ?_⟩, ?_⟩
      · rintro decided call fate ⟨⟩
      · rintro instant' store store' _ _ _ present
        rw [Machine.event_after, after] at present
        cases present
      · rw [after]
        exact ⟨by rintro store ⟨⟩, filed⟩
  | ok opened =>
      have after : daemonMachine b serde path daemon (.restart instant) =
          ({ daemon with store := some opened }, .started (.ok ())) := by
        simp only [daemonMachine, Daemon.restart, opens]
      refine ⟨⟨?_, ?_⟩, ?_⟩
      · rintro decided call fate ⟨⟩
      · rintro instant' store store' ⟨⟩ passed before present
        rw [Machine.event_after, after] at present
        obtain rfl := Option.some.inj present
        have behind := (consistent.running store before).2
        exact ⟨behind.behind opened opens _ passed,
          fun completed => behind.level completed opened opens _ passed⟩
      · rw [after]
        refine ⟨?_, filed⟩
        rintro store ⟨⟩
        exact ⟨filed opened opens, fileBehind_opened opens⟩

theorem CrashConsistent.decide (injective : Sha256Injective b.core)
    (emptyFile : serde.fromSlice [] = none) {store : PinStore} {file : StateFile}
    (consistent : CrashConsistent b serde path history ⟨some store, file⟩) (call : DecideCall)
    (fate : WriteFate)
    (faithful : ∀ pins, (decideEvent b serde store file call fate).written b = some pins →
      serde.Faithful pins) :
    OnlyForgets b serde history (decideEvent b serde store file call fate) ∧
      CrashConsistent b serde path (decideEvent b serde store file call fate :: history)
        (decideEvent b serde store file call fate).after := by
  obtain ⟨granted, behind⟩ := consistent.running store rfl
  refine ⟨⟨?_, ?_⟩, ⟨?_, ?_⟩⟩
  · rintro decided call' fate' ⟨⟩ ⟨⟩ trusted
    obtain ⟨ca, fingerprint, selected, _, anchors, grants⟩ :=
      granted.trusted injective (decide_outcome store call) trusted
    refine ⟨ca, fingerprint, ca_eq_some_iff.mp selected, anchors, grants.imp_left ?_⟩
    rintro ⟨ttl, approves⟩
    exact ⟨_, decideEvent_decision, ttl, approves⟩
  · rintro instant store' store'' ⟨⟩
  · rintro store' ⟨⟩
    exact ⟨granted.decide, behind.decide emptyFile faithful⟩
  · intro reopened opens
    rcases file_after_decide behind.placed emptyFile faithful opens with old | written
    · exact (consistent.filed reopened old).mono (daemonDecisions_subset _)
    · exact fun realm pin present => granted.decide realm pin (written realm pin present)

theorem crashConsistent_step (injective : Sha256Injective b.core)
    (emptyFile : serde.fromSlice [] = none) (i : DaemonCall)
    (consistent : CrashConsistent b serde path history daemon)
    (faithful : ∀ pins, DaemonEvent.written b ((daemonMachine b serde path).event daemon i) =
      some pins → serde.Faithful pins) :
    OnlyForgets b serde history ((daemonMachine b serde path).event daemon i) ∧
      CrashConsistent b serde path ((daemonMachine b serde path).event daemon i :: history)
        (daemonMachine b serde path daemon i).1 := by
  obtain ⟨store, file⟩ := daemon
  cases i with
  | restart instant => exact consistent.restart instant
  | decide call fate =>
      cases store with
      | some store => exact consistent.decide injective emptyFile call fate faithful
      | none =>
          refine ⟨⟨?_, ?_⟩, consistent.of_quiet _⟩
          · rintro decided call' fate' _ ⟨⟩
          · rintro instant store store' ⟨⟩
  | trustedRealms instant =>
      have left : (daemonMachine b serde path ⟨store, file⟩ (.trustedRealms instant)).1 =
          ⟨store, file⟩ := by
        cases store <;> rfl
      rw [left]
      refine ⟨⟨?_, ?_⟩, consistent.of_quiet _⟩
      · rintro decided call' fate' ⟨⟩
      · rintro instant store store' ⟨⟩

/-- **Crashes only forget.** Over every history of calls, refused and torn
writes and restarts, from a daemon without a state file. -/
theorem crashes_only_forget (b : BrokerPlatform) (injective : Sha256Injective b.core)
    (serde : SerdeJson) (emptyFile : serde.fromSlice [] = none) (path : String)
    (history : List DaemonEvent) (daemon : Daemon)
    (run : Run (daemonMachine b serde path) {} history daemon)
    (faithful : ∀ e ∈ history, ∀ pins, DaemonEvent.written b e = some pins →
      serde.Faithful pins) :
    Each (OnlyForgets b serde) history := by
  refine (Run.rule (J := CrashConsistent b serde path) (P := OnlyForgets b serde)
    (A := fun _ e => ∀ pins, DaemonEvent.written b e = some pins → serde.Faithful pins)
    crashConsistent_start ?_ run (each_iff_forall_mem.mpr faithful)).1
  rintro history daemon i consistent faithful
  exact crashConsistent_step injective emptyFile i consistent faithful

/-! ## A machine that dies while it writes -/

/-- It starts, dies when it has begun to write the answer to its first call, and
comes back. -/
def crashInFirstWrite (b : BrokerPlatform) (serde : SerdeJson) (path : String)
    (first second : Instant) (call : DecideCall) : List DaemonEvent × Daemon :=
  exec (daemonMachine b serde path) ([], {})
    [.restart first, .decide call (.torn 0), .restart second]

section CrashInFirstWrite

variable {b : BrokerPlatform} {serde : SerdeJson} {path : String} {first second : Instant}
  {call : DecideCall}

theorem crashInFirstWrite_history
    (persisted : (PinStore.decide b ⟨some path, ∅⟩ call).2.persisted.isSome = true) :
    (crashInFirstWrite b serde path first second call).1 =
      [(daemonMachine b serde path).event
          ⟨some (PinStore.decide b ⟨some path, ∅⟩ call).1, .holds []⟩ (.restart second),
        decideEvent b serde ⟨some path, ∅⟩ .missing call (.torn 0),
        (daemonMachine b serde path).event {} (.restart first)] := by
  obtain ⟨written, wrote⟩ := Option.isSome_iff_exists.mp persisted
  simp only [crashInFirstWrite, exec, Machine.event,
    daemonMachine, Daemon.restart, PinStore.openFile, decideEvent, StateFile.after, wrote,
    WriteFate.leaves, List.take_zero]

theorem crashInFirstWrite_store (emptyFile : serde.fromSlice [] = none)
    (persisted : (PinStore.decide b ⟨some path, ∅⟩ call).2.persisted.isSome = true) :
    (crashInFirstWrite b serde path first second call).2.store = some ⟨some path, ∅⟩ := by
  obtain ⟨written, wrote⟩ := Option.isSome_iff_exists.mp persisted
  simp only [crashInFirstWrite, exec,
    daemonMachine, Daemon.restart, PinStore.openFile, StateFile.after, wrote,
    WriteFate.leaves, List.take_zero, emptyFile, Option.getD_none]

theorem crashInFirstWrite_written
    (persisted : (PinStore.decide b ⟨some path, ∅⟩ call).2.persisted.isSome = true)
    {e : DaemonEvent} (member : e ∈ (crashInFirstWrite b serde path first second call).1)
    {pins : Pins} (written : DaemonEvent.written b e = some pins) :
    pins = (PinStore.decide b ⟨some path, ∅⟩ call).1.pins := by
  rw [crashInFirstWrite_history persisted] at member
  rcases List.mem_cons.mp member with rfl | member
  · cases written
  · rcases List.mem_cons.mp member with rfl | member
    · rcases decide_written (b := b) ⟨some path, ∅⟩ call with ⟨unwritten, _⟩ | wrote
      · rw [unwritten] at persisted
        cases persisted
      · rw [decideEvent_written rfl wrote] at written
        exact (Option.some.inj written).symm
    · obtain rfl := List.mem_singleton.mp member
      cases written

end CrashInFirstWrite

/-! A reader that has seen one file, of these pins. -/

theorem emptyFile_of_one_file {serde : SerdeJson} {pins : Pins} {data : Bytes} (written : data ≠ [])
    (fromSlice : ∀ bytes, serde.fromSlice bytes = if bytes = data then some pins else none) :
    serde.fromSlice [] = none :=
  (fromSlice []).trans (if_neg written.symm)

theorem faithful_of_one_file {serde : SerdeJson} {pins : Pins} {data : Bytes}
    (rendered : serde.toVecPretty pins = some data)
    (fromSlice : ∀ bytes, serde.fromSlice bytes = if bytes = data then some pins else none) :
    serde.Faithful pins where
  whole := by
    intro data' restored rendered' parsed realm
    obtain rfl := Option.some.inj (rendered.symm.trans rendered')
    rw [fromSlice, if_pos rfl] at parsed
    obtain rfl := Option.some.inj parsed
    rfl
  torn := by
    intro data' kept rendered' short
    obtain rfl := Option.some.inj (rendered.symm.trans rendered')
    rw [fromSlice]
    refine if_neg fun whole => ?_
    have length := congrArg List.length whole
    rw [List.length_take, Nat.min_eq_left short.le] at length
    exact short.ne length

end Kurbu5Pkinit.Brokerd

namespace Kurbu5Pkinit.Reference

open Library Brokerd

theorem pinsJson_ne_nil (pins : Pins) : pinsJson pins ≠ [] := by
  intro empty
  have length := congrArg List.length empty
  unfold pinsJson at length
  split at length <;> simp [asciiBytes] at length

theorem serde_emptyFile : serde.fromSlice [] = none :=
  emptyFile_of_one_file (pinsJson_ne_nil approvedStore.pins) fun _ => rfl

theorem serde_faithful : serde.Faithful approvedStore.pins :=
  @faithful_of_one_file serde _ (pinsJson approvedStore.pins) rfl fun _ => rfl

/-- The approval is being written when the machine dies. -/
def crashedRun : List DaemonEvent × Daemon :=
  crashInFirstWrite broker serde "pins.json" ⟨1799999000, 0⟩ ⟨1800000030, 0⟩
    (askBroker 1800000000 true)

end Kurbu5Pkinit.Reference

namespace Kurbu5Pkinit.Brokerd

open Library

/-- The approval was given, and is forgotten. -/
theorem crashes_only_forget_crashed :
    Each (OnlyForgets Reference.broker Reference.serde) Reference.crashedRun.1 ∧
      Reference.crashedRun.2.store = some ⟨some "pins.json", ∅⟩ := by
  have persisted : (PinStore.decide Reference.broker ⟨some "pins.json", ∅⟩
      (Reference.askBroker 1800000000 true)).2.persisted.isSome = true := by decide +kernel
  constructor
  · refine crashes_only_forget Reference.broker Reference.sha256_injective Reference.serde
      Reference.serde_emptyFile "pins.json" _ Reference.crashedRun.2 (run_exec _ _ _) ?_
    intro e member pins written
    have faithful := Reference.serde_faithful
    rw [Reference.approvedStore] at faithful
    rw [crashInFirstWrite_written persisted member written]
    exact faithful
  · exact crashInFirstWrite_store Reference.serde_emptyFile persisted

end Kurbu5Pkinit.Brokerd

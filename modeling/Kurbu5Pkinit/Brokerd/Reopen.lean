import Mathlib.Data.List.Perm.Basic
import Kurbu5Pkinit.Brokerd.Provenance

/-!
# Reopening the state file

Memory and disk are not equal: a lapsed pin is forgotten in memory alone, and
only an approval is written. What they share is the live pins, now and at every
later moment, since a pin that has lapsed stays lapsed. `decide` and
`trustedRealms` see nothing else of a store, so a store opened from the file
answers as the one in memory does.
-/

set_option autoImplicit false

namespace Kurbu5Pkinit.Brokerd

open Library

variable {b : BrokerPlatform} {serde : SerdeJson} {store store' : PinStore}

/-! ## Stores with the same live pins -/

/-- From this moment on the two stores have the same live pins. -/
def SameLivePins (now : Nat) (left right : PinStore) : Prop :=
  ∀ realm later, now ≤ later → left.livePin realm later = right.livePin realm later

namespace SameLivePins

variable {now : Nat} {left right : PinStore}

theorem symm (same : SameLivePins now left right) : SameLivePins now right left :=
  fun realm later ordered => (same realm later ordered).symm

theorem trans {third : PinStore} (same : SameLivePins now left right)
    (same' : SameLivePins now right third) : SameLivePins now left third :=
  fun realm later ordered => (same realm later ordered).trans (same' realm later ordered)

theorem mono {later : Nat} (same : SameLivePins now left right) (ordered : now ≤ later) :
    SameLivePins later left right :=
  fun realm moment after => same realm moment (ordered.trans after)

theorem of_lookup (alike : ∀ realm, left.pins.lookup realm = right.pins.lookup realm) :
    SameLivePins now left right := by
  intro realm later _
  simp only [PinStore.livePin, alike]

end SameLivePins

namespace PinStore

theorem livePin_eq_none_of_le {realm : String} {now later : Nat}
    (noPin : store.livePin realm now = none) (ordered : now ≤ later) :
    store.livePin realm later = none := by
  cases live : store.livePin realm later with
  | none => rfl
  | some pin =>
      obtain ⟨present, unlapsed⟩ := livePin_eq_some.mp live
      have earlier := livePin_eq_some.mpr ⟨present, lapsed_eq_false_of_le ordered unlapsed⟩
      rw [noPin] at earlier
      cases earlier

/-- Forgetting a lapsed pin cannot be told apart from keeping it. -/
theorem sameLivePins_forget {realm : String} {now : Nat}
    (noPin : store.livePin realm now = none) : SameLivePins now (store.forget realm) store := by
  intro other later ordered
  by_cases same : other = realm
  · subst same
    rw [livePin_forget, livePin_eq_none_of_le noPin ordered]
  · exact livePin_forget_ne same later

end PinStore

namespace SameLivePins

variable {now : Nat} {left right : PinStore}

theorem forget (same : SameLivePins now left right) (realm : String) :
    SameLivePins now (left.forget realm) (right.forget realm) := by
  intro other later ordered
  by_cases equal : other = realm
  · subst equal
    rw [PinStore.livePin_forget, PinStore.livePin_forget]
  · rw [PinStore.livePin_forget_ne equal, PinStore.livePin_forget_ne equal]
    exact same other later ordered

theorem pin (same : SameLivePins now left right) (realm : String) (pin : Pin) :
    SameLivePins now (left.pin realm pin) (right.pin realm pin) := by
  intro other later ordered
  by_cases equal : other = realm
  · subst equal
    rw [PinStore.livePin_pin, PinStore.livePin_pin]
  · rw [PinStore.livePin_pin_ne equal, PinStore.livePin_pin_ne equal]
    exact same other later ordered

/-! ## What a caller can see -/

theorem askUser (same : SameLivePins now left right) (call : DecideCall) (ca : Bytes)
    (fingerprint : String) :
    (left.askUser b call ca fingerprint).2.reply = (right.askUser b call ca fingerprint).2.reply ∧
    (left.askUser b call ca fingerprint).2.asked = (right.askUser b call ca fingerprint).2.asked ∧
    SameLivePins now (left.askUser b call ca fingerprint).1
      (right.askUser b call ca fingerprint).1 := by
  unfold PinStore.askUser
  by_cases silent : call.interactive = false
  · simp only [if_pos silent, true_and]
    exact same.forget call.realm
  · simp only [if_neg silent]
    cases call.prompter (PinStore.trustRequest b call ca fingerprint) with
    | none => exact ⟨rfl, rfl, same.forget call.realm⟩
    | some ttl => exact ⟨rfl, rfl, (same.forget call.realm).pin call.realm _⟩

/-- `decide` looks at the live pin of its realm only. -/
theorem decide (same : SameLivePins now left right) {call : DecideCall}
    (ordered : now ≤ call.instant.now) :
    (left.decide b call).2.reply = (right.decide b call).2.reply ∧
    (left.decide b call).2.asked = (right.decide b call).2.asked ∧
    SameLivePins now (left.decide b call).1 (right.decide b call).1 := by
  unfold PinStore.decide
  cases call.ca b with
  | none => exact ⟨rfl, rfl, same⟩
  | some ca =>
      dsimp only
      cases sha256Hex b ca with
      | none => exact ⟨rfl, rfl, same⟩
      | some fingerprint =>
          dsimp only
          rw [same call.realm call.instant.now ordered]
          cases right.livePin call.realm call.instant.now with
          | none => exact same.askUser call ca fingerprint
          | some pin =>
              by_cases known : pin.fingerprint = fingerprint
              · simp only [if_pos known, true_and]
                exact same
              · simp only [if_neg known, true_and]
                exact same

theorem mem_live_iff {store : PinStore} {now : Nat} {entry : Sigma fun _ : String => Pin} :
    (entry ∈ store.pins.entries.filter fun entry => !lapsed entry.2.expiresAt now) ↔
      store.livePin entry.1 now = some entry.2 := by
  obtain ⟨realm, pin⟩ := entry
  rw [List.mem_filter, PinStore.livePin_eq_some, AList.mem_lookup_iff.symm, Option.mem_def]
  simp

theorem trustedRealms (same : SameLivePins now left right) {later : Nat} (ordered : now ≤ later) :
    (left.trustedRealms later : Multiset TrustedRealm) = right.trustedRealms later := by
  have nodup : ∀ store : PinStore,
      (store.pins.entries.filter fun entry => !lapsed entry.2.expiresAt later).Nodup :=
    fun store => (List.NodupKeys.nodup store.pins.nodupKeys).filter _
  have entries : (left.pins.entries.filter fun entry => !lapsed entry.2.expiresAt later).Perm
      (right.pins.entries.filter fun entry => !lapsed entry.2.expiresAt later) := by
    refine (List.perm_ext_iff_of_nodup (nodup left) (nodup right)).mpr ?_
    intro entry
    rw [mem_live_iff, mem_live_iff, same entry.1 later ordered]
  exact Multiset.coe_eq_coe.mpr (entries.map _)

/-- **Stores with the same live pins answer alike, and stay so.** -/
theorem step (same : SameLivePins now left right) {call : StoreCall} (ordered : now ≤ call.now) :
    (storeMachine b left call).2 = (storeMachine b right call).2 ∧
      SameLivePins now (storeMachine b left call).1 (storeMachine b right call).1 := by
  cases call with
  | decide call =>
      obtain ⟨reply, asked, kept⟩ := @SameLivePins.decide b now left right same call ordered
      exact ⟨congrArg₂ StoreAnswer.decided reply asked, kept⟩
  | trustedRealms instant =>
      exact ⟨congrArg StoreAnswer.realms (same.trustedRealms ordered), same⟩

end SameLivePins

/-! ## What one call leaves on disk -/

/-- A call that writes nothing leaves the live pins from then on as they were;
a call that writes, writes the store it leaves. -/
theorem decide_written (store : PinStore) (call : DecideCall) :
    ((store.decide b call).2.persisted = none ∧
      SameLivePins call.instant.now (store.decide b call).1 store) ∨
    (store.decide b call).2.persisted = (store.decide b call).1.persist := by
  have unchanged : SameLivePins call.instant.now store store := fun _ _ _ => rfl
  unfold PinStore.decide
  cases call.ca b with
  | none => exact .inl ⟨rfl, unchanged⟩
  | some ca =>
      dsimp only
      cases sha256Hex b ca with
      | none => exact .inl ⟨rfl, unchanged⟩
      | some fingerprint =>
          dsimp only
          cases noPin : store.livePin call.realm call.instant.now with
          | some pin =>
              by_cases known : pin.fingerprint = fingerprint
              · simp only [if_pos known, true_and]
                exact .inl unchanged
              · simp only [if_neg known, true_and]
                exact .inl unchanged
          | none =>
              have forgotten := PinStore.sameLivePins_forget noPin
              unfold PinStore.askUser
              by_cases silent : call.interactive = false
              · simp only [if_pos silent, true_and]
                exact .inl forgotten
              · simp only [if_neg silent]
                cases call.prompter (PinStore.trustRequest b call ca fingerprint) with
                | none => exact .inl ⟨rfl, forgotten⟩
                | some ttl => exact .inr rfl

/-- Only an interactive call writes, and it writes the store it leaves. -/
theorem pins_of_written {call : DecideCall} {pins : Pins}
    (written : (StoreCall.decide call).written b store = some pins) :
    call.interactive = true ∧ pins = (store.decide b call).1.pins := by
  simp only [StoreCall.written, Option.map_eq_some_iff, Prod.exists, exists_eq_right] at written
  obtain ⟨path, persisted⟩ := written
  constructor
  · have outcome := decide_outcome (b := b) store call
    generalize store.decide b call = ended at outcome persisted
    cases outcome with
    | refused | trusted | changed | unknown | declined => cases persisted
    | approved _ _ _ interactive => exact interactive
  · rcases decide_written (b := b) store call with ⟨unwritten, _⟩ | same
    · rw [unwritten] at persisted
      cases persisted
    · simp only [same, PinStore.persist, Option.map_eq_some_iff, Prod.mk.injEq] at persisted
      obtain ⟨_, _, _, rfl⟩ := persisted
      rfl

theorem decide_path (store : PinStore) (call : DecideCall) :
    (store.decide b call).1.path = store.path := by
  have outcome := decide_outcome (b := b) store call
  generalize store.decide b call = ended at outcome
  cases outcome <;> rfl

/-! ## Runs -/

/-- No call of the history is later than this moment. -/
def LatestBy (history : List DiskEvent) (now : Nat) : Prop :=
  ∀ e ∈ history, e.input.now ≤ now

/-- The invariant of a run: the file opens as a store with the live pins of the
one in memory. -/
structure FileFollows (serde : SerdeJson) (path : String) (history : List DiskEvent)
    (disk : StoreOnDisk) : Prop where
  placed : disk.store.path = some path
  opens : ∃ reopened, PinStore.openFile serde path disk.file = .ok reopened ∧
    ∀ now, LatestBy history now → SameLivePins now reopened disk.store

theorem fileFollows_open {path : String} {file : StateFile} {opened : PinStore}
    (opens : PinStore.openFile serde path file = .ok opened) :
    FileFollows serde path [] ⟨opened, file⟩ where
  placed := by
    cases file with
    | unreadable reason => cases opens
    | missing | holds => cases opens; rfl
  opens := ⟨opened, opens, fun _ _ _ _ _ => rfl⟩

/-- Whatever is in the file, a call keeps up with it. -/
theorem FileFollows.step {path : String} {history : List DiskEvent} {disk : StoreOnDisk}
    (follows : FileFollows serde path history disk) {call : StoreCall}
    (ordered : LatestBy history call.now)
    (roundTrips : ∀ pins, call.written b disk.store = some pins → serde.RoundTrips pins) :
    FileFollows serde path ((diskMachine b serde).event disk call :: history)
      (diskMachine b serde disk call).1 := by
  obtain ⟨reopened, opens, same⟩ := follows.opens
  have older : ∀ now, LatestBy ((diskMachine b serde).event disk call :: history) now →
      LatestBy history now ∧ call.now ≤ now := fun now latest =>
    ⟨fun e member => latest e (List.mem_cons_of_mem _ member),
      latest ((diskMachine b serde).event disk call) List.mem_cons_self⟩
  cases call with
  | trustedRealms instant =>
      exact ⟨follows.placed, reopened, opens, fun now latest => same now (older now latest).1⟩
  | decide call =>
      have placed := (decide_path (b := b) disk.store call).trans follows.placed
      refine ⟨placed, ?_⟩
      rcases decide_written (b := b) disk.store call with ⟨unwritten, kept⟩ | persisted
      · -- The file is as it was, and the pins forgotten had lapsed.
        refine ⟨reopened, by simpa [diskMachine, StoreCall.written, unwritten] using opens, ?_⟩
        intro now latest
        obtain ⟨before, after⟩ := older now latest
        exact (same now before).trans (kept.mono after).symm
      · have written : (StoreCall.decide call).written b disk.store =
            some (disk.store.decide b call).1.pins := by
          simp [StoreCall.written, persisted, PinStore.persist, placed]
        obtain ⟨data, restored, rendered, parsed, entries⟩ := roundTrips _ written
        refine ⟨⟨some path, restored⟩, ?_, fun now _ => SameLivePins.of_lookup entries⟩
        simp [diskMachine, written, rendered, PinStore.openFile, parsed]

/-- **The state file is a faithful copy of the live trust.** After any run of a
store opened on a file, with a clock that does not go back, the file opens at
once as a store that answers every later sequence of calls as the one in memory
does. -/
theorem reopened_store_answers_alike (b : BrokerPlatform) (serde : SerdeJson) (path : String)
    (file : StateFile) (opened : PinStore)
    (opens : PinStore.openFile serde path file = .ok opened)
    (history : List DiskEvent) (disk : StoreOnDisk)
    (run : Run (diskMachine b serde) ⟨opened, file⟩ history disk)
    (clock : Each (fun older e => LatestBy older e.input.now) history)
    (roundTrips : ∀ e ∈ history, ∀ pins, e.input.written b e.before.store = some pins →
      serde.RoundTrips pins)
    (now : Nat) (latest : LatestBy history now) :
    ∃ reopened, PinStore.openFile serde path disk.file = .ok reopened ∧
      ∀ calls : List StoreCall, (∀ call ∈ calls, now ≤ call.now) →
        answers (storeMachine b) reopened calls = answers (storeMachine b) disk.store calls := by
  have follows : FileFollows serde path history disk := by
    refine (Run.rule (P := fun _ _ => True) (J := FileFollows serde path)
      (A := fun older e => LatestBy older e.input.now ∧
        ∀ pins, e.input.written b e.before.store = some pins → serde.RoundTrips pins)
      (fileFollows_open opens) ?_ run ?_).2
    · rintro history disk call follows ⟨ordered, roundTrips⟩
      exact ⟨trivial, follows.step ordered roundTrips⟩
    · intro newer e older split
      exact ⟨clock newer e older split, roundTrips e (by simp [split])⟩
  obtain ⟨reopened, reopens, same⟩ := follows.opens
  refine ⟨reopened, reopens, ?_⟩
  intro calls after
  refine answers_congr (R := SameLivePins now) (A := fun call => now ≤ call.now) ?_
    (same now latest) after
  intro left right call related ordered
  exact related.step ordered

/-- An hour after an approval the file still holds the pin that memory has
forgotten, and neither answers from it. -/
theorem reopened_store_answers_alike_hour :
    Reference.hourOnDisk.2.store.pins.keys = [] ∧
    Reference.approvedStore.pins.keys = ["EXAMPLE.COM"] ∧
    ∃ reopened, PinStore.openFile Reference.serde "pins.json" Reference.hourOnDisk.2.file =
        .ok reopened ∧
      ∀ calls : List StoreCall, (∀ call ∈ calls, 1800003600 ≤ call.now) →
        answers (storeMachine Reference.broker) reopened calls =
          answers (storeMachine Reference.broker) Reference.hourOnDisk.2.store calls := by
  refine ⟨by decide +kernel, by decide +kernel, ?_⟩
  refine reopened_store_answers_alike Reference.broker Reference.serde "pins.json" .missing
    ⟨some "pins.json", ∅⟩ rfl Reference.hourOnDisk.1 Reference.hourOnDisk.2 (run_exec _ _ _) ?_ ?_
    1800003600 ?_
  · simp [Reference.hourOnDisk, exec, LatestBy, Reference.askBroker, StoreCall.now]
  · intro e member pins written
    have approved : e = (diskMachine Reference.broker Reference.serde).event
        ⟨⟨some "pins.json", ∅⟩, .missing⟩ (.decide (Reference.askBroker 1800000000 true)) := by
      simp only [Reference.hourOnDisk, exec, List.mem_cons, List.not_mem_nil, or_false] at member
      rcases member with rfl | rfl | rfl
      · cases (pins_of_written written).1
      · cases (pins_of_written written).1
      · rfl
    rw [approved, Machine.event_input, Machine.event_before] at written
    dsimp only at written
    rw [(pins_of_written written).2]
    -- Unfolded here, since the unifier would evaluate the call instead.
    have known := Reference.serde_roundTrips
    unfold Reference.approvedStore at known
    exact known
  · simp [Reference.hourOnDisk, exec, LatestBy, Reference.askBroker, StoreCall.now]

end Kurbu5Pkinit.Brokerd

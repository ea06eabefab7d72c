import Kurbu5Pkinit.Brokerd.Pinning
import Kurbu5Pkinit.Brokerd.Provenance
import Kurbu5Pkinit.TrustCtl

/-!
# What an export publishes

From a run of the broker to the files and the section that the export of its
listing writes. A live pin is the pin of the latest grant for its realm, so
the certificate that is published for the realm is the one its user approved
last. The listing shows a realm with a CA exactly when the broker, asked about
a chain that selects this CA, trusts it without its user.
-/

set_option autoImplicit false

namespace Kurbu5Pkinit.Brokerd

open Library

variable {b : BrokerPlatform} {store store' : PinStore} {history : List BrokerEvent}

/-! ## The latest grant -/

/-- The pin is that of the latest call in which the user approved a CA for the
realm, and this is the CA. -/
def GrantedLast (b : BrokerPlatform) (history : List BrokerEvent) (realm : String) (pin : Pin)
    (ca : Bytes) : Prop :=
  ∃ newer e older fingerprint ttl, history = newer ++ e :: older ∧
    Approves b e ca fingerprint ttl ∧ e.input.realm = realm ∧
    pin = grantedPin b e ca fingerprint ttl ∧
    ∀ later ∈ newer, later.input.realm = realm →
      ∀ ca fingerprint ttl, ¬ Approves b later ca fingerprint ttl

/-- A call keeps the account of where the pins come from. -/
theorem grantedLast_step {call : DecideCall} {decided : Decided}
    (granted : ∀ realm pin, store.pins.lookup realm = some pin →
      ∃ ca, GrantedLast b history realm pin ca)
    (outcome : DecideOutcome b store call (store', decided)) (realm : String) (pin : Pin)
    (present : store'.pins.lookup realm = some pin) :
    ∃ ca, GrantedLast b (⟨store, call, decided, store'⟩ :: history) realm pin ca := by
  by_cases approved : call.realm = realm ∧ ∃ ca fingerprint ttl,
      Approves b ⟨store, call, decided, store'⟩ ca fingerprint ttl
  · obtain ⟨rfl, ca, fingerprint, ttl, approves⟩ := approved
    have same := Option.some.inj (present.symm.trans (outcome.lookup_of_approves approves))
    exact ⟨ca, [], _, history, fingerprint, ttl, rfl, approves, rfl, same,
      fun _ member => absurd member List.not_mem_nil⟩
  · rcases outcome.lookup present with old | ⟨ca, fingerprint, ttl, approves, same, _⟩
    · obtain ⟨ca, newer, e, older, fingerprint, ttl, split, approves, same, pinned, last⟩ :=
        granted realm pin old
      refine ⟨ca, ⟨store, call, decided, store'⟩ :: newer, e, older, fingerprint, ttl, ?_,
        approves, same, pinned, ?_⟩
      · rw [split, List.cons_append]
      · intro later member sameRealm ca fingerprint ttl approves
        rcases List.mem_cons.mp member with rfl | member
        · exact approved ⟨sameRealm, ca, fingerprint, ttl, approves⟩
        · exact last later member sameRealm ca fingerprint ttl approves
    · exact absurd ⟨same, ca, fingerprint, ttl, approves⟩ approved

/-- Over every run from the empty store, each pin is its realm's latest grant. -/
theorem grantedLast_run {path : Option String}
    (run : Run (brokerMachine b) ⟨path, ∅⟩ history store) {realm : String} {pin : Pin}
    (present : store.pins.lookup realm = some pin) : ∃ ca, GrantedLast b history realm pin ca := by
  have empty : ∀ realm pin, (⟨path, ∅⟩ : PinStore).pins.lookup realm = some pin →
      ∃ ca, GrantedLast b [] realm pin ca := by
    intro realm pin absent
    rw [AList.lookup_empty] at absent
    cases absent
  have ruled := Run.rule
    (J := fun history store => ∀ realm pin, store.pins.lookup realm = some pin →
      ∃ ca, GrantedLast b history realm pin ca)
    (A := fun _ _ => True) (P := fun _ _ => True) empty
    (fun _ store call granted _ =>
      ⟨trivial, grantedLast_step granted (decide_outcome store call)⟩)
    run fun _ _ _ _ => trivial
  exact ruled.2 realm pin present

/-! ## The listing -/

/-- The realm has a live pin, and its user approved this CA last. -/
def LiveTrust (b : BrokerPlatform) (history : List BrokerEvent) (store : PinStore) (now : Nat)
    (realm : String) (ca : Bytes) : Prop :=
  ∃ pin, store.livePin realm now = some pin ∧ GrantedLast b history realm pin ca

theorem GrantedLast.decoded {realm : String} {pin : Pin} {ca : Bytes}
    (granted : GrantedLast b history realm pin ca) (standard : b.base64.Standard) :
    b.base64.decode pin.caB64 = .ok ca := by
  obtain ⟨_, _, _, _, _, _, _, _, rfl, _⟩ := granted
  rw [grantedPin, standard.roundTrips]

theorem mem_trustedRealms {now : Nat} {r : TrustedRealm} :
    r ∈ store.trustedRealms now ↔ ∃ pin, store.livePin r.realm now = some pin ∧
      r = ⟨r.realm, pin.caB64, pin.fingerprint, pin.expiresAt⟩ := by
  simp only [PinStore.trustedRealms, List.mem_map, List.mem_filter, PinStore.livePin_eq_some,
    Bool.not_eq_true', AList.mem_lookup_iff.symm, Option.mem_def]
  constructor
  · rintro ⟨⟨realm, pin⟩, ⟨member, live⟩, rfl⟩
    exact ⟨pin, ⟨member, live⟩, rfl⟩
  · rintro ⟨pin, ⟨present, live⟩, same⟩
    exact ⟨⟨r.realm, pin⟩, ⟨present, live⟩, same.symm⟩

/-- No realm is listed twice. -/
theorem nodup_trustedRealms (store : PinStore) (now : Nat) :
    ((store.trustedRealms now).map TrustedRealm.realm).Nodup := by
  have keys : (store.pins.entries.map Sigma.fst).Nodup := store.pins.nodupKeys
  unfold PinStore.trustedRealms
  rw [List.map_map]
  exact (List.filter_sublist.map Sigma.fst).nodup keys

/-- What is listed for a realm decodes to the CA of its live trust. -/
theorem liveTrust_of_listed {path : Option String} {now : Nat} {r : TrustedRealm} {ca : Bytes}
    (standard : b.base64.Standard) (run : Run (brokerMachine b) ⟨path, ∅⟩ history store)
    (listed : r ∈ store.trustedRealms now) (decoded : b.base64.decode r.caDer = .ok ca) :
    LiveTrust b history store now r.realm ca := by
  obtain ⟨pin, live, same⟩ := mem_trustedRealms.mp listed
  obtain ⟨ca', granted⟩ := grantedLast_run run (PinStore.livePin_eq_some.mp live).1
  rw [same, granted.decoded standard] at decoded
  obtain rfl := Except.ok.inj decoded
  exact ⟨pin, live, granted⟩

theorem listed_of_liveTrust {now : Nat} {realm : String} {ca : Bytes} (standard : b.base64.Standard)
    (trust : LiveTrust b history store now realm ca) :
    ∃ r ∈ store.trustedRealms now, r.realm = realm ∧
      b.base64.decode r.caDer = .ok ca := by
  obtain ⟨pin, live, granted⟩ := trust
  exact ⟨⟨realm, pin.caB64, pin.fingerprint, pin.expiresAt⟩,
    mem_trustedRealms.mpr ⟨pin, live, rfl⟩, rfl, granted.decoded standard⟩

/-- **A realm is listed with a CA exactly when the broker trusts it.** -/
theorem trusted_iff_listed {path : Option String} {call : DecideCall} {ca : Bytes}
    (standard : b.base64.Standard) (injective : Sha256Injective b.core)
    (run : Run (brokerMachine b) ⟨path, ∅⟩ history store) (silent : call.interactive = false)
    (selected : call.ca b = some ca) :
    (store.decide b call).2.reply.decision = .trusted ↔
      ∃ r ∈ store.trustedRealms call.instant.now, r.realm = call.realm ∧
        b.base64.decode r.caDer = .ok ca := by
  constructor
  · intro trusted
    have outcome := decide_outcome (b := b) store call
    generalize store.decide b call = decided at outcome trusted
    cases outcome with
    | refused | changed | unknown | declined => cases trusted
    | approved _ _ _ interactive => exact absurd (silent.symm.trans interactive) (by decide)
    | @trusted ca' pin selected' live same =>
        obtain rfl := Option.some.inj (selected.symm.trans selected')
        obtain ⟨ca', granted⟩ := grantedLast_run run (PinStore.livePin_eq_some.mp live).1
        obtain ⟨_, _, _, _, _, _, approves, _, rfl, _⟩ := granted
        obtain rfl : ca = ca' := sha256Hex_unique injective same approves.hashed
        refine ⟨⟨call.realm, _, _, _⟩, mem_trustedRealms.mpr ⟨_, live, rfl⟩, rfl, ?_⟩
        rw [grantedPin, standard.roundTrips]
  · rintro ⟨r, listed, realm, decoded⟩
    obtain ⟨pin, live, granted⟩ := liveTrust_of_listed standard run listed decoded
    obtain ⟨_, _, _, _, _, _, approves, _, rfl, _⟩ := granted
    rw [realm] at live
    rw [decide_of_pinned live selected approves.hashed]

/-! ## The export -/

/-- The files and the section for these realms and their CAs. -/
structure Publishes (base64 : Base64Engine) (anchorsDir : String)
    (published : List (String × Bytes)) (writes : Writes) (snippet : String) : Prop where
  /-- One file for each realm, with its CA, in this order. -/
  files : List.Forall₂ (fun file p => file.1 = pemPath anchorsDir p.1 ∧
    HoldsCertificate base64 file.2 p.2) writes published
  distinct : (writes.map Prod.fst).Nodup
  inside : ∀ file ∈ writes, DirectlyInside anchorsDir file.1
  /-- One stanza for each realm, in this order, and nothing else. -/
  stanzas : linesOf snippet = "[realms]".toList ::
    (published.flatMap fun p => stanzaLines anchorsDir p.1) ++ [[]]
  /-- The path in a stanza is broken into lines only where the directory is. -/
  unbroken : ∀ p ∈ published,
    (linesOf (anchorsLine anchorsDir p.1)).length = (linesOf anchorsDir).length

variable {anchorsDir : String} {published : List (String × Bytes)}

theorem publishes_of_safe {writes : Writes} {snippet : String} (standard : b.base64.Standard)
    (safe : ∀ p ∈ published, safeFilename p.1 = some p.1)
    (distinct : (published.map Prod.fst).Nodup)
    (written : writes = published.map (pemFile b.base64 anchorsDir))
    (text : snippet.toList = "[realms]\n".toList ++
      published.flatMap fun p => (realmLines anchorsDir p).toList) :
    Publishes b.base64 anchorsDir published writes snippet := by
  subst written
  refine ⟨?_, ?_, ?_, linesOf_snippet safe text, ?_⟩
  · rw [List.forall₂_map_left_iff, List.forall₂_same]
    exact fun p _ => ⟨rfl, holdsCertificate_toPem standard p.2⟩
  · have paths : (published.map (pemFile b.base64 anchorsDir)).map Prod.fst =
        (published.map Prod.fst).map (pemPath anchorsDir) := by
      simp only [List.map_map]
      rfl
    rw [paths]
    refine distinct.map_on ?_
    intro realm member other member' same
    obtain ⟨p, present, rfl⟩ := List.mem_map.mp member
    obtain ⟨p', present', rfl⟩ := List.mem_map.mp member'
    exact pemPath_injective (safe p present) (safe p' present') same
  · intro file member
    obtain ⟨p, present, rfl⟩ := List.mem_map.mp member
    exact directlyInside_pemPath (safe p present) anchorsDir
  · exact fun p member => length_linesOf_anchorsLine (safe p member) anchorsDir

theorem mem_safeRealms {realms : List TrustedRealm} {r : TrustedRealm} :
    r ∈ safeRealms realms ↔ r ∈ realms ∧ safeFilename r.realm = some r.realm := by
  simp only [safeRealms, List.mem_filter]
  refine and_congr_right fun _ => ?_
  constructor
  · intro safe
    obtain ⟨name, named⟩ := Option.isSome_iff_exists.mp safe
    rw [named, (safeFilename_eq_some named).1]
  · intro safe
    rw [safe]
    rfl

/-- The published certificates are those of the live trust under a safe name. -/
theorem mem_published_iff {path : Option String} {now : Nat} {realms : List TrustedRealm}
    (standard : b.base64.Standard) (run : Run (brokerMachine b) ⟨path, ∅⟩ history store)
    (listed : realms.Perm (store.trustedRealms now))
    (related : List.Forall₂ (IsPublished b.base64) (safeRealms realms) published) (realm : String)
    (ca : Bytes) :
    (realm, ca) ∈ published ↔
      safeFilename realm = some realm ∧ LiveTrust b history store now realm ca := by
  constructor
  · intro member
    obtain ⟨r, present, rfl, decoded⟩ := exists_left_of_forall₂ related member
    obtain ⟨member, safe⟩ := mem_safeRealms.mp present
    exact ⟨safe, liveTrust_of_listed standard run (listed.mem_iff.mp member) decoded⟩
  · rintro ⟨safe, trust⟩
    obtain ⟨r, member, rfl, decoded⟩ := listed_of_liveTrust standard trust
    obtain ⟨⟨realm, der⟩, present, same, decoded'⟩ := exists_right_of_forall₂ related
      (mem_safeRealms.mpr ⟨listed.mem_iff.mpr member, safe⟩)
    obtain rfl : realm = r.realm := same
    obtain rfl := Except.ok.inj (decoded'.symm.trans decoded)
    exact present

theorem nodup_published {now : Nat} {realms : List TrustedRealm}
    (listed : realms.Perm (store.trustedRealms now))
    (related : List.Forall₂ (IsPublished b.base64) (safeRealms realms) published) :
    (published.map Prod.fst).Nodup := by
  have names : published.map Prod.fst = (safeRealms realms).map TrustedRealm.realm := by
    clear listed
    generalize safeRealms realms = done at related ⊢
    induction related with
    | nil => rfl
    | cons head _ ih => rw [List.map_cons, List.map_cons, ih, head.1]
  rw [names]
  have all := (listed.map TrustedRealm.realm).nodup_iff.mpr (nodup_trustedRealms store now)
  exact (List.filter_sublist.map TrustedRealm.realm).nodup all

/-- **An export publishes exactly the live trust.** Whatever the run of the
broker and the moment, and in whatever order its realms are listed: an export
that the disk lets through writes one file and one stanza for each realm with
a safe name and a live pin, with the CA that its user approved last, and
nothing else. One that is stopped has written files of such realms only. The
listing itself shows a realm with a CA exactly when the broker trusts this CA
for it without its user. -/
theorem export_publishes_live_trust (b : BrokerPlatform) (standard : b.base64.Standard)
    (injective : Sha256Injective b.core) (path : Option String) (history : List BrokerEvent)
    (store : PinStore) (run : Run (brokerMachine b) ⟨path, ∅⟩ history store) (now : Nat)
    (realms : List TrustedRealm) (listed : realms.Perm (store.trustedRealms now)) :
    (∀ disk anchorsDir, Ends (exportTrust b.base64 disk ⟨realms⟩ anchorsDir) [] fun writes r =>
      (∀ file ∈ writes, ∃ realm ca, safeFilename realm = some realm ∧
        LiveTrust b history store now realm ca ∧ file.1 = pemPath anchorsDir realm ∧
        HoldsCertificate b.base64 file.2 ca) ∧
      (∀ snippet, r = .ok snippet → ∃ published,
        (published.map Prod.fst).Nodup ∧
        (∀ realm ca, (realm, ca) ∈ published ↔
          safeFilename realm = some realm ∧ LiveTrust b history store now realm ca) ∧
        Publishes b.base64 anchorsDir published writes snippet) ∧
      (disk.createDirAll anchorsDir = .ok () → (∀ path text, disk.write path text = .ok ()) →
        ∃ snippet, r = .ok snippet)) ∧
    ∀ call ca, call.instant.now = now → call.interactive = false → call.ca b = some ca →
      ((store.decide b call).2.reply.decision = .trusted ↔
        ∃ r ∈ realms, r.realm = call.realm ∧ b.base64.decode r.caDer = .ok ca) := by
  constructor
  · intro disk anchorsDir
    unfold exportTrust
    cases created : disk.createDirAll anchorsDir with
    | error e =>
        refine ⟨fun _ member => absurd member List.not_mem_nil, nofun, nofun⟩
    | ok _ =>
        refine Ends.bind_lift_ok rfl ?_
        have outcome := @exportRealms_outcome b.base64 disk anchorsDir realms "[realms]\n" []
        have decodes : ∀ r ∈ realms, ∃ der, b.base64.decode r.caDer = .ok der := by
          intro r member
          obtain ⟨pin, live, same⟩ := mem_trustedRealms.mp (listed.mem_iff.mp member)
          obtain ⟨ca, granted⟩ := grantedLast_run run (PinStore.livePin_eq_some.mp live).1
          exact ⟨ca, by rw [same]; exact granted.decoded standard⟩
        obtain ⟨done, published, prefixed, files, written, whole⟩ := outcome.written
        refine ⟨?_, ?_, fun _ writable => exportRealms_succeeds writable anchorsDir decodes _ _⟩
        · intro file member
          rw [written, List.nil_append] at member
          obtain ⟨p, present, rfl⟩ := List.mem_map.mp member
          obtain ⟨r, early, realm, decoded⟩ := exists_left_of_forall₂ files present
          obtain ⟨member, safe⟩ := mem_safeRealms.mp (prefixed.subset early)
          have trust := liveTrust_of_listed standard run (listed.mem_iff.mp member) decoded
          refine ⟨r.realm, p.2, safe, trust, ?_, holdsCertificate_toPem standard p.2⟩
          rw [pemFile, realm]
        · intro snippet succeeded
          obtain ⟨rfl, text⟩ := whole snippet succeeded
          have members := mem_published_iff standard run listed files
          have distinct := nodup_published listed files
          refine ⟨published, distinct, members, publishes_of_safe standard ?_ distinct written text⟩
          exact fun p member => ((members p.1 p.2).mp member).1
  · rintro call ca rfl silent selected
    rw [trusted_iff_listed standard injective run silent selected]
    simp only [listed.mem_iff]

/-- A minute later the listing is exported. -/
theorem export_publishes_live_trust_approved :
    ∃ snippet published,
      (call (exportTrust Reference.broker.base64 Reference.writableDisk
        ⟨Reference.approvedRun.2.trustedRealms 1800000060⟩ "/etc/krb5/anchors") []).2 =
          .ok snippet ∧
      Publishes Reference.broker.base64 "/etc/krb5/anchors" published
        (call (exportTrust Reference.broker.base64 Reference.writableDisk
          ⟨Reference.approvedRun.2.trustedRealms 1800000060⟩ "/etc/krb5/anchors") []).1
        snippet := by
  obtain ⟨exports, _⟩ := export_publishes_live_trust Reference.broker
    Reference.standardBase64_standard
    Reference.sha256_injective none Reference.approvedRun.1 Reference.approvedRun.2
    (run_exec _ _ _) 1800000060 _ (List.Perm.refl _)
  obtain ⟨_, whole, succeeds⟩ := exports Reference.writableDisk "/etc/krb5/anchors"
  obtain ⟨snippet, done⟩ := succeeds rfl fun _ _ => rfl
  obtain ⟨published, _, _, publishes⟩ := whole snippet done
  exact ⟨snippet, published, done, publishes⟩

end Kurbu5Pkinit.Brokerd

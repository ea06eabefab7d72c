import Kurbu5Pkinit.Plugin.ClientOutcomes
import Kurbu5Pkinit.Reference.Crl
import Kurbu5Pkinit.Reference.Plugin

/-!
# What the configured sources reach

A profile names sources of anchors, of intermediate certificates and of
revocation lists. Both plugins load a trust store when they are initialized.
The store is a function of the sources of anchors alone: each block of such a
source is taken in, and no other source is opened.
-/

set_option autoImplicit false

namespace Kurbu5Pkinit

open Library

/-! ## The KDC's start -/

/-- `init_module`, with the profile of the library's context. -/
def PkinitKdc.initModule (platform : Platform) (instant : Instant) (realmnames : List String)
    (profile : Except Krb5Error Profile) : Except Krb5Error PkinitKdc := do
  let realm ← okOr realmnames.head? (.custom EINVAL)
  let profile ← profile
  let config ← (readKdcConfig profile realm).mapError fun _ => .custom EINVAL
  let identityStr ← okOr config.identity .noHandle
  let source ← (IdentitySource.parse identityStr).mapError fun _ => .custom EINVAL
  let identity ← (PkinitIdentity.load platform instant source).mapError fun _ => .custom EINVAL
  let trustStore ← (loadAnchors platform instant config.anchors).mapError fun _ => .custom EINVAL
  (PkinitKdc.new platform identity trustStore config).mapError fun _ => .custom EINVAL

/-! ## What a source holds -/

section Sources

variable (platform : Platform) (instant : Instant)

/-- The blocks of a directory entry: those of a file that parses. -/
def dirEntryBlocks (entry : Except String DirEntry) : Option (List (String × Bytes)) := do
  let entry ← entry.toOption
  if entry.isFile then
    let data ← (platform.files.read instant entry.path).toOption
    return (platform.files.readPkiBlocks data).toOption.getD []
  else
    return []

/-- The labelled blocks of a source, when it can be read. -/
def sourceBlocks (uri : String) : Option (List (String × Bytes)) :=
  let (scheme, path) := (splitOnce ':' uri).getD ("FILE", uri)
  if scheme = "FILE" then do
    let data ← (platform.files.read instant path).toOption
    (platform.files.readPkiBlocks data).toOption
  else if scheme = "DIR" then do
    let entries ← (platform.files.readDir instant path).toOption
    List.flatten <$> entries.mapM (dirEntryBlocks platform instant)
  else
    none

def blocksLabelled (label : String) (blocks : List (String × Bytes)) : List Bytes :=
  (blocks.filter fun block => block.1 = label).map Prod.snd

def certificatesOf (uri : String) : List Bytes :=
  blocksLabelled "CERTIFICATE" ((sourceBlocks platform instant uri).getD [])

def crlsOf (uri : String) : List Bytes :=
  blocksLabelled "X509 CRL" ((sourceBlocks platform instant uri).getD [])

end Sources

/-! ## The sources a profile names -/

/-- The values of `pkinit_anchors`, `pkinit_pool` and `pkinit_revoke`. -/
structure TrustSources where
  anchors : List String := []
  pool : List String := []
  revoke : List String := []
  deriving DecidableEq

/-- What a profile makes of the sources a module had. Anchors that are there
already win over the profile's, the others give way to it. -/
def TrustSources.read (held : TrustSources) (lookup : Lookup) : TrustSources where
  anchors := if held.anchors = [] then (lookup.values "pkinit_anchors").getD [] else held.anchors
  pool := (lookup.values "pkinit_pool").getD held.pool
  revoke := (lookup.values "pkinit_revoke").getD held.revoke

def PkinitKdcConfig.trustSources (config : PkinitKdcConfig) : TrustSources :=
  ⟨config.anchors, config.intermediates, config.crls⟩

def PkinitClientConfig.trustSources (config : PkinitClientConfig) : TrustSources :=
  ⟨config.anchors, config.intermediates, config.crls⟩

/-- The sources of a KDC's realm. -/
def kdcSources (profile : Profile) (realm : String) : TrustSources :=
  TrustSources.read {} { profile := profile, defaults := "kdcdefaults", realm := some realm }

/-- The sources of a client's realm, for a module with this configuration. -/
def clientSources (profile : Profile) (realm : Option String) (config : PkinitClientConfig) :
    TrustSources :=
  config.trustSources.read { profile := profile, defaults := "libdefaults", realm := realm }

/-! ## Every source takes effect, or some do not -/

/-- Every source took effect: the anchors are the certificates of the sources
of anchors, and the store has each certificate of the pool as an intermediate
and each revocation list of the others. -/
structure TakesEffect (platform : Platform) (instant : Instant) (sources : TrustSources)
    (store : TrustStore) : Prop where
  anchors : store.anchors = sources.anchors.flatMap (certificatesOf platform instant)
  pool : ∀ uri ∈ sources.pool, ∀ der ∈ certificatesOf platform instant uri,
    der ∈ store.intermediates
  revoke : ∀ uri ∈ sources.revoke, ∀ crl ∈ crlsOf platform instant uri, crl ∈ store.crls

/-- No source of the pool has a certificate, and each list of the sources of
revocation is also in a source of anchors. -/
structure AnchorsSuffice (platform : Platform) (instant : Instant) (sources : TrustSources) :
    Prop where
  pool : ∀ uri ∈ sources.pool, certificatesOf platform instant uri = []
  revoke : ∀ uri ∈ sources.revoke, ∀ crl ∈ crlsOf platform instant uri,
    ∃ anchor ∈ sources.anchors, crl ∈ crlsOf platform instant anchor

/-! ## Loading -/

section Loading

variable {platform : Platform} {instant : Instant}

theorem foldl_addBlock (blocks : List (String × Bytes)) (store : TrustStore) :
    blocks.foldl TrustStore.addBlock store =
      { store with
        anchors := store.anchors ++ blocksLabelled "CERTIFICATE" blocks
        crls := store.crls ++ blocksLabelled "X509 CRL" blocks } := by
  induction blocks generalizing store with
  | nil => simp [blocksLabelled]
  | cons block blocks ih =>
      rw [List.foldl_cons, ih]
      unfold TrustStore.addBlock
      by_cases certificate : block.1 = "CERTIFICATE"
      · simp [certificate, blocksLabelled, TrustStore.addAnchor]
      · by_cases list : block.1 = "X509 CRL" <;> simp [certificate, list, blocksLabelled]

theorem loadEntry_eq_ok {entry : Except String DirEntry} {store store' : TrustStore}
    (loaded : TrustStore.loadEntry platform instant store entry = .ok store') :
    ∃ blocks, dirEntryBlocks platform instant entry = some blocks ∧
      store' = blocks.foldl TrustStore.addBlock store := by
  simp only [TrustStore.loadEntry, bind_eq_ok, mapError_eq_ok] at loaded
  obtain ⟨entry, rfl, loaded⟩ := loaded
  by_cases isFile : entry.isFile = true
  · simp only [isFile, if_true, bind_eq_ok, mapError_eq_ok] at loaded
    obtain ⟨data, read, loaded⟩ := loaded
    cases parsed : platform.files.readPkiBlocks data with
    | ok blocks =>
        simp only [parsed, pure_eq_ok, Except.ok.injEq] at loaded
        exact ⟨blocks, by simp [dirEntryBlocks, Except.toOption, isFile, read, parsed],
          loaded.symm⟩
    | error e =>
        simp only [parsed, pure_eq_ok, Except.ok.injEq] at loaded
        exact ⟨[], by simp [dirEntryBlocks, Except.toOption, isFile, read, parsed],
          loaded.symm⟩
  · rw [if_neg isFile] at loaded
    exact ⟨[], by simp [dirEntryBlocks, Except.toOption, isFile], (Except.ok.inj loaded).symm⟩

theorem foldlM_loadEntry {entries : List (Except String DirEntry)} {store store' : TrustStore}
    (loaded : entries.foldlM (TrustStore.loadEntry platform instant) store = .ok store') :
    ∃ blocks, entries.mapM (dirEntryBlocks platform instant) = some blocks ∧
      store' = blocks.flatten.foldl TrustStore.addBlock store := by
  induction entries generalizing store with
  | nil => exact ⟨[], rfl, (Except.ok.inj loaded).symm⟩
  | cons entry entries ih =>
      simp only [List.foldlM_cons, bind_eq_ok] at loaded
      obtain ⟨next, first, rest⟩ := loaded
      obtain ⟨head, ofEntry, rfl⟩ := loadEntry_eq_ok first
      obtain ⟨tail, ofEntries, rfl⟩ := ih rest
      refine ⟨head :: tail, by simp [ofEntry, ofEntries], ?_⟩
      rw [List.flatten_cons, List.foldl_append]

/-- A source that loads is read, and its blocks are all that is taken in. -/
theorem loadFromPath_eq_ok {uri : String} {store store' : TrustStore}
    (loaded : TrustStore.loadFromPath platform instant store uri = .ok store') :
    store' =
      { store with
        anchors := store.anchors ++ certificatesOf platform instant uri
        crls := store.crls ++ crlsOf platform instant uri } := by
  have read : ∃ blocks, sourceBlocks platform instant uri = some blocks ∧
      store' = blocks.foldl TrustStore.addBlock store := by
    unfold TrustStore.loadFromPath at loaded
    unfold sourceBlocks
    generalize (splitOnce ':' uri).getD ("FILE", uri) = parts at loaded ⊢
    obtain ⟨scheme, path⟩ := parts
    dsimp only at loaded ⊢
    split at loaded
    · next file =>
        simp only [bind_eq_ok, mapError_eq_ok, pure_eq_ok, Except.ok.injEq] at loaded
        obtain ⟨data, read, blocks, parsed, rfl⟩ := loaded
        exact ⟨blocks, by simp [Except.toOption, file, read, parsed], rfl⟩
    · next notFile =>
        split at loaded
        · next dir =>
            simp only [bind_eq_ok, mapError_eq_ok] at loaded
            obtain ⟨entries, read, loaded⟩ := loaded
            obtain ⟨blocks, ofEntries, rfl⟩ := foldlM_loadEntry loaded
            exact ⟨blocks.flatten, by simp [Except.toOption, dir, read, ofEntries], rfl⟩
        · cases loaded
  obtain ⟨blocks, held, rfl⟩ := read
  rw [foldl_addBlock, certificatesOf, crlsOf, held, Option.getD_some]

/-- **A loaded store is a function of the sources of anchors.** -/
theorem loadAnchors_eq_ok {anchors : List String} {store : TrustStore}
    (loaded : loadAnchors platform instant anchors = .ok store) :
    store =
      { anchors := anchors.flatMap (certificatesOf platform instant)
        crls := anchors.flatMap (crlsOf platform instant) } := by
  have from_ : ∀ (anchors : List String) (start : TrustStore),
      anchors.foldlM (TrustStore.loadFromPath platform instant) start = .ok store →
      store =
        { start with
          anchors := start.anchors ++ anchors.flatMap (certificatesOf platform instant)
          crls := start.crls ++ anchors.flatMap (crlsOf platform instant) } := by
    intro anchors
    induction anchors with
    | nil =>
        intro start loaded
        obtain rfl := Except.ok.inj loaded
        simp
    | cons uri anchors ih =>
        intro start loaded
        simp only [List.foldlM_cons, bind_eq_ok] at loaded
        obtain ⟨next, first, rest⟩ := loaded
        rw [ih next rest, loadFromPath_eq_ok first]
        simp
  exact from_ anchors {} loaded

theorem takesEffect_iff {sources : TrustSources} {store : TrustStore}
    (loaded : loadAnchors platform instant sources.anchors = .ok store) :
    TakesEffect platform instant sources store ↔ AnchorsSuffice platform instant sources := by
  obtain rfl := loadAnchors_eq_ok loaded
  constructor
  · intro effect
    refine ⟨fun uri listed => ?_, fun uri listed crl held => ?_⟩
    · rw [List.eq_nil_iff_forall_not_mem]
      intro der held
      cases effect.pool uri listed der held
    · exact List.mem_flatMap.mp (effect.revoke uri listed crl held)
  · intro suffice
    refine ⟨rfl, fun uri listed der held => ?_, fun uri listed crl held => ?_⟩
    · rw [suffice.pool uri listed] at held
      cases held
    · exact List.mem_flatMap.mpr (suffice.revoke uri listed crl held)

end Loading

/-! ## The configurations that are read -/

theorem kdcReadChecks_trustSources (config : PkinitKdcConfig) (lookup : Lookup) :
    (config.readChecks lookup).trustSources = config.trustSources := by
  unfold PkinitKdcConfig.readChecks
  cases lookup.string "pkinit_eku_checking" with
  | none => rfl
  | some v =>
      dsimp only
      unfold PkinitKdcConfig.applyEkuChecking
      split <;> rfl

theorem readKdcConfig_trustSources {profile : Profile} {realm : String} {config : PkinitKdcConfig}
    (readable : readKdcConfig profile realm = .ok config) :
    config.trustSources = kdcSources profile realm := by
  simp only [readKdcConfig, bind_eq_ok, pure_eq_ok, Except.ok.injEq] at readable
  obtain ⟨pures, _, composites, _, rfl⟩ := readable
  exact kdcReadChecks_trustSources _ _

theorem readChecks_trustSources (config : PkinitClientConfig) (lookup : Lookup) :
    (config.readChecks lookup).trustSources = config.trustSources := by
  unfold PkinitClientConfig.readChecks
  cases lookup.string "pkinit_eku_checking" with
  | none => rfl
  | some v =>
      dsimp only
      unfold PkinitClientConfig.applyEkuChecking
      split <;> rfl

/-- The sources are read before the first relation that may be unusable. -/
theorem readClientConfig_trustSources (profile : Profile) (realm : Option String)
    (config : PkinitClientConfig) :
    (call (readClientConfig profile realm) config).1.trustSources =
      clientSources profile realm config := by
  have ends : Ends (readClientConfig profile realm) config
      fun config' _ => config'.trustSources = clientSources profile realm config := by
    unfold readClientConfig
    refine Ends.bind_modify ?_
    split
    · exact Ends.bind_lift (fun _ _ => readChecks_trustSources _ _)
        fun _ _ => readChecks_trustSources _ _
    · exact readChecks_trustSources _ _
  exact ends

/-! ## The stores of the plugins -/

theorem PkinitKdc.initModule_eq_ok {platform : Platform} {instant : Instant}
    {realmnames : List String} {profile : Profile} {kdc : PkinitKdc}
    (started : initModule platform instant realmnames (.ok profile) = .ok kdc) :
    ∃ realm, realmnames.head? = some realm ∧
      loadAnchors platform instant (kdcSources profile realm).anchors =
        .ok kdc.state.trustStore := by
  simp only [initModule, PkinitKdc.new, bind_eq_ok, mapError_eq_ok, okOr_eq_ok, pure_eq_ok,
    Except.ok.injEq] at started
  obtain ⟨realm, named, _, rfl, config, readable, _, _, _, _, identity, _, store, loaded,
    state, begun, rfl⟩ := started
  refine ⟨realm, named, ?_⟩
  rw [← readKdcConfig_trustSources readable]
  simp only [PkinitKdcState.new, bind_eq_ok, pure_eq_ok, Except.ok.injEq] at begun
  obtain ⟨_, _, _, _, rfl⟩ := begun
  exact loaded

/-- The store of the party a call of `init_etype_info` set up: the waiting
one's, for a named principal whose identity needs a password. -/
def PkinitClient.storeSetUp (client : PkinitClient) (req : EtypeInfoRequest) : Option TrustStore :=
  if req.isAnonymous then
    client.state.map PkinitClientState.trustStore
  else
    match client.pendingPkcs12 with
    | some pending => some pending.trustStore
    | none => client.state.map PkinitClientState.trustStore

theorem buildClient_trustStore (varlink : Varlink) (instant : Instant) (identity : PkinitIdentity)
    (trustStore : TrustStore) (config : PkinitClientConfig) (serverPrincipal : Option String)
    (isAnonymous : Bool) :
    (buildClient varlink instant identity trustStore config serverPrincipal
      isAnonymous).trustStore = trustStore := by
  unfold buildClient
  cases serverPrincipal <;> dsimp only <;> split <;> rfl

/-- A call that sets a party up loads the anchors the profile gives it. -/
theorem PkinitClient.initEtypeInfo_store {platform : Platform} {varlink : Varlink}
    {req : EtypeInfoRequest} {profile : Profile} {client client' : PkinitClient}
    (given : req.profile = .ok profile) (free : client.holdsKeys = false)
    (configured : req.isAnonymous = false → (configRead req client).identity ≠ none)
    (served : call (initEtypeInfo platform varlink req) client = (client', .ok ())) :
    ∃ store, client'.storeSetUp req = some store ∧
      loadAnchors platform req.instant (clientSources profile req.realm client.config).anchors =
        .ok store := by
  have outcome : Ends (initEtypeInfo platform varlink req) client _ :=
    initEtypeInfo_outcome platform varlink req client
  unfold Ends at outcome
  rw [served] at outcome
  have sources : (configRead req client).anchors =
      (clientSources profile req.realm client.config).anchors := by
    rw [← readClientConfig_trustSources, configRead, given]
    rfl
  rw [← sources]
  generalize answer : (Except.ok () : Except Krb5Error Unit) = r at outcome
  cases outcome with
  | kept holds => exact absurd (holds.symm.trans free) Bool.noConfusion
  | failed => cases answer
  | unconfigured named absent => exact absurd absent (configured named)
  | anonymous isAnonymous anchored =>
      refine ⟨_, ?_, anchored⟩
      simp [storeSetUp, isAnonymous, buildClient_trustStore]
  | loaded named _ _ _ anchored =>
      refine ⟨_, ?_, anchored⟩
      simp [storeSetUp, named, buildClient_trustStore]
  | waiting named _ _ _ anchored =>
      refine ⟨_, ?_, anchored⟩
      simp [storeSetUp, named]

/-- A KDC that starts for a realm under a profile. -/
def StartsKdc (platform : Platform) (instant : Instant) (profile : Profile) (realm : String)
    (kdc : PkinitKdc) : Prop :=
  ∃ realmnames, realmnames.head? = some realm ∧
    PkinitKdc.initModule platform instant realmnames (.ok profile) = .ok kdc

/-- A call of `init_etype_info` that sets a party up under a profile. -/
structure SetsUpParty (platform : Platform) (varlink : Varlink) (req : EtypeInfoRequest)
    (profile : Profile) (client client' : PkinitClient) : Prop where
  given : req.profile = .ok profile
  free : client.holdsKeys = false
  configured : req.isAnonymous = false → (PkinitClient.configRead req client).identity ≠ none
  served : call (PkinitClient.initEtypeInfo platform varlink req) client = (client', .ok ())

theorem StartsKdc.loaded {platform : Platform} {instant : Instant} {profile : Profile}
    {realm : String} {kdc : PkinitKdc} (starts : StartsKdc platform instant profile realm kdc) :
    loadAnchors platform instant (kdcSources profile realm).anchors = .ok kdc.state.trustStore := by
  obtain ⟨realmnames, first, started⟩ := starts
  obtain ⟨_, first', loaded⟩ := PkinitKdc.initModule_eq_ok started
  obtain rfl := Option.some.inj (first.symm.trans first')
  exact loaded

/-- **Every source takes effect exactly when those of anchors hold all that
counts**, in every KDC that starts and every party a client sets up. The other
sources make no difference: profiles that name the same sources of anchors
give one store, by which every peer is judged. -/
theorem sources_take_effect_iff (platform : Platform) (varlink : Varlink) :
    (∀ instant profile realm kdc, StartsKdc platform instant profile realm kdc →
      (TakesEffect platform instant (kdcSources profile realm) kdc.state.trustStore ↔
        AnchorsSuffice platform instant (kdcSources profile realm))) ∧
    (∀ req profile client client', SetsUpParty platform varlink req profile client client' →
      ∃ store, client'.storeSetUp req = some store ∧
        (TakesEffect platform req.instant (clientSources profile req.realm client.config) store ↔
          AnchorsSuffice platform req.instant (clientSources profile req.realm client.config))) ∧
    (∀ instant profile profile' realm realm' kdc kdc',
      StartsKdc platform instant profile realm kdc →
      StartsKdc platform instant profile' realm' kdc' →
      (kdcSources profile realm).anchors = (kdcSources profile' realm').anchors →
      kdc.state.trustStore = kdc'.state.trustStore) ∧
    ∀ req req' profile profile' client client' other other',
      SetsUpParty platform varlink req profile client client' →
      SetsUpParty platform varlink req' profile' other other' →
      req.instant = req'.instant →
      (clientSources profile req.realm client.config).anchors =
        (clientSources profile' req'.realm other.config).anchors →
      client'.storeSetUp req = other'.storeSetUp req' := by
  have loads : ∀ {req profile client client'},
      SetsUpParty platform varlink req profile client client' →
      ∃ store, client'.storeSetUp req = some store ∧
        loadAnchors platform req.instant
          (clientSources profile req.realm client.config).anchors = .ok store := fun setsUp =>
    PkinitClient.initEtypeInfo_store setsUp.given setsUp.free setsUp.configured setsUp.served
  refine ⟨?_, ?_, ?_, ?_⟩
  · intro instant profile realm kdc starts
    exact takesEffect_iff starts.loaded
  · intro req profile client client' setsUp
    obtain ⟨store, held, loaded⟩ := loads setsUp
    exact ⟨store, held, takesEffect_iff loaded⟩
  · intro instant profile profile' realm realm' kdc kdc' starts starts' same
    exact Except.ok.inj (starts.loaded.symm.trans ((congrArg _ same).trans starts'.loaded))
  · intro req req' profile profile' client client' other other' setsUp setsUp' atOnce same
    obtain ⟨store, held, loaded⟩ := loads setsUp
    obtain ⟨store', held', loaded'⟩ := loads setsUp'
    rw [atOnce, same, loaded'] at loaded
    rw [held, held', Except.ok.inj loaded]

namespace Reference

def caCertPem : Bytes := writePem "CERTIFICATE" caCertDer
def kdcCertPem : Bytes := writePem "CERTIFICATE" kdcCertDer
def kdcKeyPem : Bytes := writePem "PRIVATE KEY" kdcPrivateKey.handle
def crlPem : Bytes := writePem "X509 CRL" crlDer

/-- The recording with the files of a KDC and of the authority. -/
def sourcesRecorded : Platform :=
  { recording with
    files := recording.files ++ [("/etc/pki/ca.pem", caCertPem), ("/etc/pki/crl.pem", crlPem),
      ("/etc/pki/kdc.pem", kdcCertPem), ("/etc/pki/kdc.key", kdcKeyPem)]
    blocks := recording.blocks ++ [(caCertPem, [("CERTIFICATE", caCertDer)]),
      (crlPem, [("X509 CRL", crlDer)]), (kdcCertPem, [("CERTIFICATE", kdcCertDer)]),
      (kdcKeyPem, [("PRIVATE KEY", kdcPrivateKey.handle)])] : Recording }.platform

/-- `krb5.conf`: the identities of the KDC and of Alice, and these sources. -/
def sourcesProfile (sources : TrustSources) : Profile where
  getStringOpt _ key _ :=
    .ok (if key = "pkinit_identity" then some "FILE:/etc/pki/kdc.pem,/etc/pki/kdc.key"
      else if key = "pkinit_identities" then some aliceSource
      else none)
  getValues path :=
    .ok (if path.tail = ["pkinit_anchors"] then sources.anchors
      else if path.tail = ["pkinit_pool"] then sources.pool
      else if path.tail = ["pkinit_revoke"] then sources.revoke
      else [])
  getBoolean _ _ _ default := .ok default
  getInteger _ _ _ default := .ok default

def startKdc (sources : TrustSources) : Except Krb5Error PkinitKdc :=
  PkinitKdc.initModule sourcesRecorded kdcInstant ["EXAMPLE.COM"] (.ok (sourcesProfile sources))

def initAlice (sources : TrustSources) : EtypeInfoRequest :=
  { initRequest alicePrincipal with profile := .ok (sourcesProfile sources) }

def setUpAlice (sources : TrustSources) : PkinitClient × Except Krb5Error Unit :=
  call (PkinitClient.initEtypeInfo sourcesRecorded silentVarlink (initAlice sources)) {}

/-- Anchors alone. -/
def anchorSources : TrustSources where
  anchors := ["FILE:/etc/pki/ca.pem"]

/-- A certificate to build paths with, and a revocation list. -/
def poolSources : TrustSources where
  anchors := ["FILE:/etc/pki/ca.pem"]
  pool := ["FILE:/etc/pki/kdc.pem"]
  revoke := ["FILE:/etc/pki/crl.pem"]

theorem kdcSources_sourcesProfile (sources : TrustSources) :
    kdcSources (sourcesProfile sources) "EXAMPLE.COM" = sources := by
  obtain ⟨anchors, pool, revoke⟩ := sources
  cases anchors <;> cases pool <;> cases revoke <;> rfl

theorem clientSources_sourcesProfile (sources : TrustSources) :
    clientSources (sourcesProfile sources) (some "EXAMPLE.COM") {} = sources := by
  obtain ⟨anchors, pool, revoke⟩ := sources
  cases anchors <;> cases pool <;> cases revoke <;> rfl

theorem startsKdc_of_startKdc {sources : TrustSources} (starts : (startKdc sources).isOk = true) :
    ∃ kdc, StartsKdc sourcesRecorded kdcInstant (sourcesProfile sources) "EXAMPLE.COM" kdc := by
  cases started : startKdc sources with
  | ok kdc => exact ⟨kdc, ["EXAMPLE.COM"], rfl, started⟩
  | error e => simp [started, Except.isOk, Except.toBool] at starts

theorem setsUpParty_of_setUpAlice {sources : TrustSources}
    (served : (setUpAlice sources).2 = .ok ()) :
    SetsUpParty sourcesRecorded silentVarlink (initAlice sources) (sourcesProfile sources) {}
      (setUpAlice sources).1 where
  given := rfl
  free := rfl
  configured := by
    intro _ absent
    have configured :
        (PkinitClient.configRead (initAlice sources) {}).identity = some aliceSource := rfl
    exact absurd (configured.symm.trans absent) nofun
  served := Prod.ext rfl served

/-- Both start a KDC and set up a party. -/
theorem sources_start : ∀ sources ∈ [anchorSources, poolSources],
    (startKdc sources).isOk = true ∧ (setUpAlice sources).2 = .ok () := by
  decide +kernel

theorem anchorSources_start :
    (startKdc anchorSources).isOk = true ∧ (setUpAlice anchorSources).2 = .ok () :=
  sources_start _ List.mem_cons_self

/-- The files do not change with time. -/
theorem crlsOf_sourcesRecorded (instant : Instant) :
    crlsOf sourcesRecorded instant = crlsOf sourcesRecorded kdcInstant := rfl

theorem certificatesOf_sourcesRecorded (instant : Instant) :
    certificatesOf sourcesRecorded instant = certificatesOf sourcesRecorded kdcInstant := rfl

theorem poolSources_start :
    (startKdc poolSources).isOk = true ∧ (setUpAlice poolSources).2 = .ok () :=
  sources_start _ (List.mem_cons_of_mem _ List.mem_cons_self)

end Reference

/-- With sources of anchors alone every source takes effect, and the pool and
the lists that are ignored change nothing. -/
theorem sources_take_effect_iff_anchorSources :
    (∃ kdc, StartsKdc Reference.sourcesRecorded Reference.kdcInstant
        (Reference.sourcesProfile Reference.anchorSources) "EXAMPLE.COM" kdc ∧
      TakesEffect Reference.sourcesRecorded Reference.kdcInstant Reference.anchorSources
        kdc.state.trustStore ∧
      ∃ kdc', StartsKdc Reference.sourcesRecorded Reference.kdcInstant
          (Reference.sourcesProfile Reference.poolSources) "EXAMPLE.COM" kdc' ∧
        kdc.state.trustStore = kdc'.state.trustStore) ∧
    (∃ store, (Reference.setUpAlice Reference.anchorSources).1.storeSetUp
        (Reference.initAlice Reference.anchorSources) = some store ∧
      TakesEffect Reference.sourcesRecorded Reference.clientInstant Reference.anchorSources store) ∧
    (Reference.setUpAlice Reference.anchorSources).1.storeSetUp
        (Reference.initAlice Reference.anchorSources) =
      (Reference.setUpAlice Reference.poolSources).1.storeSetUp
        (Reference.initAlice Reference.poolSources) := by
  obtain ⟨kdcs, clients, sameKdc, sameClient⟩ :=
    sources_take_effect_iff Reference.sourcesRecorded Reference.silentVarlink
  have suffice : ∀ instant,
      AnchorsSuffice Reference.sourcesRecorded instant Reference.anchorSources :=
    fun _ => ⟨nofun, nofun⟩
  obtain ⟨kdcStarts, clientStarts⟩ := Reference.anchorSources_start
  obtain ⟨kdcStarts', clientStarts'⟩ := Reference.poolSources_start
  obtain ⟨kdc, starts⟩ := Reference.startsKdc_of_startKdc kdcStarts
  obtain ⟨kdc', starts'⟩ := Reference.startsKdc_of_startKdc kdcStarts'
  have setsUp := Reference.setsUpParty_of_setUpAlice clientStarts
  have setsUp' := Reference.setsUpParty_of_setUpAlice clientStarts'
  refine ⟨⟨kdc, starts, ?_, kdc', starts', ?_⟩, ?_, ?_⟩
  · have effect := kdcs _ _ _ _ starts
    rw [Reference.kdcSources_sourcesProfile] at effect
    exact effect.mpr (suffice _)
  · apply sameKdc _ _ _ _ _ _ _ starts starts'
    rw [Reference.kdcSources_sourcesProfile, Reference.kdcSources_sourcesProfile]
    rfl
  · obtain ⟨store, held, effect⟩ := clients _ _ _ _ setsUp
    refine ⟨store, held, ?_⟩
    have sources := Reference.clientSources_sourcesProfile Reference.anchorSources
    exact sources ▸ effect.mpr (sources.symm ▸ suffice _)
  · exact sameClient _ _ _ _ _ _ _ _ setsUp setsUp' rfl rfl

/-- The pool's certificate and the revocation list are in neither store. -/
theorem pool_and_lists_ignored :
    (∃ kdc, StartsKdc Reference.sourcesRecorded Reference.kdcInstant
        (Reference.sourcesProfile Reference.poolSources) "EXAMPLE.COM" kdc ∧
      kdc.state.trustStore = Reference.trustStore ∧
      ¬TakesEffect Reference.sourcesRecorded Reference.kdcInstant
        (kdcSources (Reference.sourcesProfile Reference.poolSources) "EXAMPLE.COM")
        kdc.state.trustStore) ∧
    ∃ client' store, SetsUpParty Reference.sourcesRecorded Reference.silentVarlink
        (Reference.initAlice Reference.poolSources)
        (Reference.sourcesProfile Reference.poolSources) {} client' ∧
      client'.storeSetUp (Reference.initAlice Reference.poolSources) = some store ∧
      store = Reference.trustStore ∧
      ¬TakesEffect Reference.sourcesRecorded Reference.clientInstant
        (clientSources (Reference.sourcesProfile Reference.poolSources) (some "EXAMPLE.COM") {})
        store := by
  obtain ⟨kdcStarts, clientStarts⟩ := Reference.poolSources_start
  have anchored : ∀ instant store, loadAnchors Reference.sourcesRecorded instant
      Reference.poolSources.anchors = .ok store → store = Reference.trustStore := by
    intro instant store loaded
    rw [loadAnchors_eq_ok loaded, Reference.certificatesOf_sourcesRecorded,
      Reference.crlsOf_sourcesRecorded]
    decide +kernel
  have ignored : ∀ instant, ¬TakesEffect Reference.sourcesRecorded instant Reference.poolSources
      Reference.trustStore := by
    intro instant effect
    have listed : Reference.kdcCertDer ∈ certificatesOf Reference.sourcesRecorded instant
        "FILE:/etc/pki/kdc.pem" := by
      rw [Reference.certificatesOf_sourcesRecorded]
      decide +kernel
    cases effect.pool _ List.mem_cons_self _ listed
  constructor
  · obtain ⟨kdc, starts⟩ := Reference.startsKdc_of_startKdc kdcStarts
    have loaded := starts.loaded
    rw [Reference.kdcSources_sourcesProfile] at loaded ⊢
    have held := anchored _ _ loaded
    exact ⟨kdc, starts, held, held ▸ ignored _⟩
  · have setsUp := Reference.setsUpParty_of_setUpAlice clientStarts
    obtain ⟨store, held, loaded⟩ := PkinitClient.initEtypeInfo_store setsUp.given setsUp.free
      setsUp.configured setsUp.served
    have sources := Reference.clientSources_sourcesProfile Reference.poolSources
    obtain rfl := anchored _ store (sources ▸ loaded)
    exact ⟨_, _, setsUp, held, rfl, sources.symm ▸ ignored _⟩

end Kurbu5Pkinit

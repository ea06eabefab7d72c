import Kurbu5Pkinit.Reference.Client

/-!
# Whom a client accepts as its KDC

A certificate is accepted for the principal a ticket is asked for. The KDC of
a realm has a name of its own, and the two coincide only for tickets to the
KDC itself. What a certificate is accepted for is therefore right exactly when
it names both principals or neither, or names the host.
-/

set_option autoImplicit false

namespace Kurbu5Pkinit

open Library

variable {platform : Platform} {certDer : Bytes} {kdcPrincipal realm : String}

/-- The principal of a realm's KDC. -/
def tgsName (realm : String) : String :=
  "krbtgt/" ++ realm ++ "@" ++ realm

/-- The certificate has a PKINIT name equal to the principal. -/
def ListsPrincipal (platform : Platform) (certDer : Bytes) (principal : String) : Prop :=
  ∃ sans, extractPkinitSans platform certDer = .ok sans ∧ principal ∈ sans

/-- The certificate has a DNS name equal to the host up to ASCII case. -/
def ListsHost (platform : Platform) (certDer : Bytes) (host : String) : Prop :=
  ∃ names, extractDnsNames platform certDer = .ok names ∧
    ∃ name ∈ names, eqIgnoreAsciiCase name host = true

/-- The PKINIT names of the certificate can be read. -/
def NamesReadable (platform : Platform) (certDer : Bytes) : Prop :=
  ∃ sans, extractPkinitSans platform certDer = .ok sans

theorem ListsPrincipal.readable {principal : String}
    (lists : ListsPrincipal platform certDer principal) : NamesReadable platform certDer :=
  lists.imp fun _ => And.left

/-- Without a host name, only PKINIT names count. -/
theorem verifyKdcSan_none_eq_ok :
    verifyKdcSan platform certDer kdcPrincipal none = .ok () ↔
      ListsPrincipal platform certDer kdcPrincipal := by
  unfold verifyKdcSan ListsPrincipal
  cases extractPkinitSans platform certDer with
  | error e => simp
  | ok sans =>
      by_cases listed : kdcPrincipal ∈ sans
      · simp [listed]
      · simp [listed]

theorem verifyKdcSan_some_eq_ok {host : String} :
    verifyKdcSan platform certDer kdcPrincipal (some host) = .ok () ↔
      ListsPrincipal platform certDer kdcPrincipal ∨
        NamesReadable platform certDer ∧ ListsHost platform certDer host := by
  unfold verifyKdcSan ListsPrincipal ListsHost NamesReadable
  cases extractPkinitSans platform certDer with
  | error e => simp
  | ok sans =>
      by_cases listed : kdcPrincipal ∈ sans
      · simp [listed]
      · cases extractDnsNames platform certDer with
        | error e => simp [listed]
        | ok names => simp [listed]

/-- Exactly the certificates of the realm's KDC are accepted, and those that
name the host where one is configured. -/
def AcceptsOnlyKdc (platform : Platform) (certDer : Bytes) (kdcPrincipal : String)
    (kdcHostname : Option String) (realm : String) : Prop :=
  verifyKdcSan platform certDer kdcPrincipal kdcHostname = .ok () ↔
    ListsPrincipal platform certDer (tgsName realm) ∨
      ∃ host, kdcHostname = some host ∧ ListsHost platform certDer host

/-- **A certificate is judged as a KDC's exactly when it names the requested
principal and the KDC's alike**, or names the configured host. -/
theorem only_kdc_accepted_iff (platform : Platform) (certDer : Bytes)
    (kdcPrincipal realm : String) :
    (AcceptsOnlyKdc platform certDer kdcPrincipal none realm ↔
      (ListsPrincipal platform certDer kdcPrincipal ↔
        ListsPrincipal platform certDer (tgsName realm))) ∧
    ∀ host, AcceptsOnlyKdc platform certDer kdcPrincipal (some host) realm ↔
      (ListsHost platform certDer host ∧ NamesReadable platform certDer ∨
        ¬ListsHost platform certDer host ∧
          (ListsPrincipal platform certDer kdcPrincipal ↔
            ListsPrincipal platform certDer (tgsName realm))) := by
  constructor
  · simp [AcceptsOnlyKdc, verifyKdcSan_none_eq_ok]
  · intro host
    simp only [AcceptsOnlyKdc, verifyKdcSan_some_eq_ok, Option.some.injEq, exists_eq_left']
    by_cases hosts : ListsHost platform certDer host
    · have readable : ∀ principal, ListsPrincipal platform certDer principal →
          NamesReadable platform certDer := fun _ => ListsPrincipal.readable
      simp only [hosts, and_true, or_true, iff_true, true_and, not_true_eq_false, false_and,
        or_false]
      exact ⟨fun accepted => accepted.elim (readable _) id, .inr⟩
    · simp [hosts]

namespace Reference

/-- `CN=www.example.com`, for the server of that name, issued by the CA. -/
def hostCertDer : Bytes :=
  [0x308201C83082016EA003020102020105300A06082A8648CE3D040302300D310B,
   0x300906035504030C024341301E170D3236313131393036343935395A170D3336,
   0x313131363036343935395A301A3118301606035504030C0F7777772E6578616D,
   0x706C652E636F6D3059301306072A8648CE3D020106082A8648CE3D0301070342,
   0x000425782C8F54B61DCE1F5609B23E6547B24AF8CB4BF856C7A36274BB545BEC,
   0xA8D70002B982FF25428793BF010D09309429EBAE0C3D849BA624707F0A6639B2,
   0x7087A381B13081AE300B0603551D0F04040302078030130603551D25040C300A,
   0x06082B06010505070301304A0603551D1104433041A03F06062B0601050202A0,
   0x353033A00D1B0B4558414D504C452E434F4DA1223020A003020103A11930171B,
   0x04686F73741B0F7777772E6578616D706C652E636F6D301D0603551D0E041604,
   0x147A55AE5F5547C470F39803315A5398CF7263A044301F0603551D2304183016,
   0x8014A8C974AB8FF33F5C01A3A8B904F68E1C7CD9F966300A06082A8648CE3D04,
   0x0302034800304502207258E1616EEB9171650C3F566B20154AD8AC113D0BC4DA,
   0x08A99E5B5DE97CED130221008C2CEF8F85746770353221ACD54E913DB3DFA6BF].flatMap (bytesOfNat 32) ++
  bytesOfNat 12 0x19CCBEC24FC1290AF6C74475

def hostName : String := "host/www.example.com@EXAMPLE.COM"

/-- The recording with the server's certificate. -/
def hostRecorded : Platform :=
  { recording with
    paths := recording.paths ++ [(hostCertDer, [caCertDer])]
    sanPrincipals := recording.sanPrincipals ++
      [(sanOf 3 ["host", "www.example.com"], hostName)] : Recording }.platform

/-- A client that asks for a ticket to the server. -/
def hostClient : PkinitClientState :=
  anonymousClient.setKdcIdentity hostName none

end Reference

/-- The server's own certificate is accepted for its KDC, the KDC's is not. -/
theorem server_accepted_as_kdc :
    ¬AcceptsOnlyKdc Reference.hostRecorded Reference.hostCertDer Reference.hostName none
        "EXAMPLE.COM" ∧
      ¬AcceptsOnlyKdc Reference.hostRecorded Reference.kdcCertDer Reference.hostName none
        "EXAMPLE.COM" ∧
      Reference.hostClient.validateKdcChain Reference.hostRecorded Reference.clientInstant
        Reference.hostCertDer [Reference.hostCertDer] = .ok () ∧
      Reference.hostClient.validateKdcChain Reference.hostRecorded Reference.clientInstant
        Reference.kdcCertDer [Reference.kdcCertDer] =
          .error (.sanMismatch
            "KDC certificate has no SAN matching host/www.example.com@EXAMPLE.COM") := by
  have server : extractPkinitSans Reference.hostRecorded Reference.hostCertDer =
      .ok [Reference.hostName] := by
    decide +kernel
  have kdc : extractPkinitSans Reference.hostRecorded Reference.kdcCertDer =
      .ok [tgsName "EXAMPLE.COM"] := by
    decide +kernel
  have apart : Reference.hostName ≠ tgsName "EXAMPLE.COM" := by
    decide
  refine ⟨?_, ?_, by decide +kernel, by decide +kernel⟩
  · intro onlyKdc
    have listed : ListsPrincipal Reference.hostRecorded Reference.hostCertDer Reference.hostName :=
      ⟨_, server, List.mem_singleton_self _⟩
    rcases onlyKdc.mp (verifyKdcSan_none_eq_ok.mpr listed) with ⟨sans, read, member⟩ | ⟨_, none, _⟩
    · obtain rfl := Except.ok.inj (server.symm.trans read)
      exact apart (List.mem_singleton.mp member).symm
    · cases none
  · intro onlyKdc
    have listed : ListsPrincipal Reference.hostRecorded Reference.kdcCertDer
        (tgsName "EXAMPLE.COM") :=
      ⟨_, kdc, List.mem_singleton_self _⟩
    obtain ⟨sans, read, member⟩ := verifyKdcSan_none_eq_ok.mp (onlyKdc.mpr (.inl listed))
    obtain rfl := Except.ok.inj (kdc.symm.trans read)
    exact apart (List.mem_singleton.mp member)

end Kurbu5Pkinit

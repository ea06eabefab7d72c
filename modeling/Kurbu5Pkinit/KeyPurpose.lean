import Kurbu5Pkinit.Library.Bits
import Kurbu5Pkinit.Certauth
import Kurbu5Pkinit.Reference.Exchange

/-!
# Key purposes

Client and KDC certificates are judged alike: by the purposes they list, and by
whether their holder may sign. `extractKeyUsage` says zero for a certificate
without `KeyUsage`, and the same for one whose `KeyUsage` permits nothing, so
the judgement is right exactly for certificates that are not of the second
kind, or lack the purpose anyway.
-/

set_option autoImplicit false

namespace Kurbu5Pkinit

open Library

/-! ## What a certificate says -/

/-- The purposes it lists, and its `KeyUsage`, if it has one. -/
structure Purposes where
  ekus : List Oid
  keyUsage : Option BitString
  deriving DecidableEq, Repr

/-- The value of an extension. -/
def Certificate.extension (cert : Certificate) (platform : Platform) (name : Oid) : Option Bytes :=
  cert.tbsCertificate.extensions.bind fun extRaw => platform.synta.findExtensionValue extRaw name

/-- The certificate decodes, and so do both extensions where it has them. -/
structure DecodesTo (platform : Platform) (certDer : Bytes) (cert : Certificate)
    (purposes : Purposes) : Prop where
  certificate : platform.synta.certificate.fromDer certDer = .ok cert
  ekus : (cert.extension platform EXTENDED_KEY_USAGE = none ∧ purposes.ekus = []) ∨
    ∃ raw, cert.extension platform EXTENDED_KEY_USAGE = some raw ∧
      platform.synta.extendedKeyUsage.fromDer raw = .ok purposes.ekus
  keyUsage : (cert.extension platform KEY_USAGE = none ∧ purposes.keyUsage = none) ∨
    ∃ raw usage, cert.extension platform KEY_USAGE = some raw ∧
      platform.synta.keyUsage.fromDer raw = .ok usage ∧ purposes.keyUsage = some usage

variable {platform : Platform} {certDer : Bytes} {cert : Certificate} {purposes : Purposes}

theorem DecodesTo.extractEkuOids (decodes : DecodesTo platform certDer cert purposes) :
    extractEkuOids platform certDer = .ok purposes.ekus := by
  have listed := decodes.ekus
  unfold Certificate.extension at listed
  unfold Kurbu5Pkinit.extractEkuOids parseCert
  rw [decodes.certificate, mapError_ok, ok_bind]
  cases extensions : cert.tbsCertificate.extensions with
  | none =>
      simp only [extensions, Option.bind_none, reduceCtorEq, false_and, exists_false, or_false,
        true_and] at listed
      rw [listed]
      rfl
  | some extRaw =>
      simp only [extensions, Option.bind_some] at listed
      rcases listed with ⟨absent, none⟩ | ⟨raw, present, read⟩
      · simp only [absent, none, pure_eq_ok]
      · simp only [present, read, mapError_ok]

/-- A certificate with both extensions. -/
theorem decodesTo_of_extensions (ekuRaw usageRaw : Bytes) (usage : BitString)
    (decoded : (platform.synta.certificate.fromDer certDer).toOption.map (fun cert =>
      (cert.extension platform EXTENDED_KEY_USAGE, cert.extension platform KEY_USAGE)) =
        some (some ekuRaw, some usageRaw))
    (ekus : platform.synta.extendedKeyUsage.fromDer ekuRaw = .ok purposes.ekus)
    (read : platform.synta.keyUsage.fromDer usageRaw = .ok usage)
    (used : purposes.keyUsage = some usage) :
    ∃ cert, DecodesTo platform certDer cert purposes := by
  obtain ⟨cert, ok, extensions⟩ := Option.map_eq_some_iff.mp decoded
  obtain ⟨listed, present⟩ := Prod.mk.inj extensions
  refine ⟨cert, ?_, .inr ⟨ekuRaw, listed, ekus⟩, .inr ⟨usageRaw, usage, present, read, used⟩⟩
  cases certificate : platform.synta.certificate.fromDer certDer with
  | ok decodedCert => simpa [certificate, Except.toOption] using ok
  | error e => simp [certificate, Except.toOption] at ok

/-- The mask of the nine bits, zero when there is no `KeyUsage`. -/
def usageMask (platform : Platform) : Option BitString → Nat
  | some usage => collectBits (platform.synta.keyUsageBit usage) (List.range 9) 0
  | none => 0

theorem DecodesTo.extractKeyUsage (decodes : DecodesTo platform certDer cert purposes) :
    extractKeyUsage platform certDer = .ok (usageMask platform purposes.keyUsage) := by
  have used := decodes.keyUsage
  unfold Certificate.extension at used
  unfold Kurbu5Pkinit.extractKeyUsage parseCert
  rw [decodes.certificate, mapError_ok, ok_bind]
  cases extensions : cert.tbsCertificate.extensions with
  | none =>
      simp only [extensions, Option.bind_none, reduceCtorEq, false_and, exists_false, or_false,
        true_and] at used
      rw [used]
      rfl
  | some extRaw =>
      simp only [extensions, Option.bind_some] at used
      rcases used with ⟨absent, none⟩ | ⟨raw, usage, present, read, some⟩
      · simp only [absent, none, usageMask, pure_eq_ok]
      · simp only [present, read, some, mapError_ok, ok_bind]
        rfl

/-! ## The judgement -/

def ListsClientPurpose (acceptSecondary : Bool) (ekus : List Oid) : Prop :=
  ID_PKINIT_KPCLIENT_AUTH ∈ ekus ∨ acceptSecondary = true ∧ ID_MS_KP_SMARTCARD_LOGON ∈ ekus

def ListsKdcPurpose (ekus : List Oid) : Prop :=
  ID_PKINIT_KPKDC ∈ ekus ∨ ID_KP_SERVER_AUTH ∈ ekus

/-- There is no `KeyUsage`, or it has `digitalSignature`. -/
def MaySign (platform : Platform) (keyUsage : Option BitString) : Prop :=
  ∀ usage, keyUsage = some usage →
    platform.synta.keyUsageBit usage KEY_USAGE_DIGITAL_SIGNATURE = true

/-- There is a `KeyUsage`, and none of its bits is set. -/
def PermitsNothing (platform : Platform) (keyUsage : Option BitString) : Prop :=
  ∃ usage, keyUsage = some usage ∧ ∀ i < 9, platform.synta.keyUsageBit usage i = false

theorem not_maySign_of_permitsNothing {keyUsage : Option BitString}
    (empty : PermitsNothing platform keyUsage) : ¬MaySign platform keyUsage := by
  obtain ⟨usage, present, unset⟩ := empty
  intro signs
  have set := signs usage present
  rw [unset KEY_USAGE_DIGITAL_SIGNATURE (by decide)] at set
  cases set

theorem mayNotSign_iff {ku : Nat} :
    mayNotSign ku = true ↔ ku ≠ 0 ∧ ku.testBit KEY_USAGE_DIGITAL_SIGNATURE = false := by
  simp [mayNotSign, ← and_shiftLeft_one_eq_zero_iff]

theorem usageMask_eq_zero_iff {usage : BitString} :
    usageMask platform (some usage) = 0 ↔
      ∀ i < 9, platform.synta.keyUsageBit usage i = false := by
  simp only [usageMask, collectBits_zero_eq_zero_iff, List.mem_range]

theorem testBit_usageMask {usage : BitString} {i : Nat} (named : i < 9) :
    (usageMask platform (some usage)).testBit i = platform.synta.keyUsageBit usage i := by
  apply Bool.eq_iff_iff.mpr
  rw [usageMask, testBit_collectBits, Nat.zero_testBit, List.mem_range]
  simp only [named, Bool.false_eq_true, true_and, false_or]

/-- The mask does not tell a `KeyUsage` that permits nothing from a missing
one. -/
theorem mayNotSign_usageMask_eq_false {keyUsage : Option BitString} :
    mayNotSign (usageMask platform keyUsage) = false ↔
      MaySign platform keyUsage ∨ PermitsNothing platform keyUsage := by
  rw [← Bool.not_eq_true, mayNotSign_iff, not_and_or, not_not, Bool.not_eq_false]
  cases keyUsage with
  | none => simp [usageMask, MaySign]
  | some usage =>
      rw [testBit_usageMask (by decide), usageMask_eq_zero_iff, or_comm]
      simp only [MaySign, PermitsNothing, Option.some.injEq, forall_eq', exists_eq_left']

theorem verifyClientEku_eq_authorized (decodes : DecodesTo platform certDer cert purposes)
    {acceptSecondary : Bool} :
    verifyClientEku platform certDer acceptSecondary = .ok .authorized ↔
      ListsClientPurpose acceptSecondary purposes.ekus ∧
        (MaySign platform purposes.keyUsage ∨ PermitsNothing platform purposes.keyUsage) := by
  have listed : (!(purposes.ekus.any fun oid => oid = ID_PKINIT_KPCLIENT_AUTH) &&
      !(acceptSecondary && purposes.ekus.any fun oid => oid = ID_MS_KP_SMARTCARD_LOGON)) = false ↔
      ListsClientPurpose acceptSecondary purposes.ekus := by
    simp only [ListsClientPurpose, Bool.and_eq_false_iff, Bool.not_eq_eq_eq_not, Bool.not_false,
      List.any_eq_true, decide_eq_true_eq, exists_eq_right, Bool.and_eq_true]
  unfold verifyClientEku
  rw [decodes.extractEkuOids, decodes.extractKeyUsage, ← listed, ← mayNotSign_usageMask_eq_false,
    ok_bind, ok_bind]
  dsimp only
  generalize (!(purposes.ekus.any fun oid => oid = ID_PKINIT_KPCLIENT_AUTH) &&
    !(acceptSecondary && purposes.ekus.any fun oid => oid = ID_MS_KP_SMARTCARD_LOGON)) = unlisted
  generalize mayNotSign (usageMask platform purposes.keyUsage) = refused
  cases unlisted with
  | true => simp
  | false =>
      cases refused with
      | true => simp
      | false => simp

theorem verifyKdcEku_eq_ok (decodes : DecodesTo platform certDer cert purposes) :
    verifyKdcEku platform certDer = .ok () ↔
      ListsKdcPurpose purposes.ekus ∧
        (MaySign platform purposes.keyUsage ∨ PermitsNothing platform purposes.keyUsage) := by
  have listed : (purposes.ekus.any fun oid => oid = ID_PKINIT_KPKDC || oid = ID_KP_SERVER_AUTH) =
      true ↔ ListsKdcPurpose purposes.ekus := by
    simp only [ListsKdcPurpose, List.any_eq_true, Bool.or_eq_true, decide_eq_true_eq, and_or_left,
      exists_or, exists_eq_right]
  unfold verifyKdcEku
  rw [decodes.extractEkuOids, decodes.extractKeyUsage, ← listed, ← mayNotSign_usageMask_eq_false]
  simp only [ok_bind, bind_eq_ok, rejectIf_eq_ok, Bool.not_eq_true, Bool.not_eq_false, exists_const]

/-- The certificate is accepted exactly when it lists the purpose and its
holder may sign, so that one whose `KeyUsage` lacks `digitalSignature` is
refused whatever else it has. -/
structure JudgesPurpose (platform : Platform) (keyUsage : Option BitString)
    (accepted listed : Prop) : Prop where
  exact : accepted ↔ listed ∧ MaySign platform keyUsage
  refused : ∀ usage, keyUsage = some usage →
    platform.synta.keyUsageBit usage KEY_USAGE_DIGITAL_SIGNATURE = false → ¬accepted

theorem judgesPurpose_iff {keyUsage : Option BitString} {accepted listed : Prop}
    (judged : accepted ↔
      listed ∧ (MaySign platform keyUsage ∨ PermitsNothing platform keyUsage)) :
    JudgesPurpose platform keyUsage accepted listed ↔
      ¬(listed ∧ PermitsNothing platform keyUsage) := by
  constructor
  · rintro judges ⟨purpose, empty⟩
    have accepts := judged.mpr ⟨purpose, .inr empty⟩
    exact not_maySign_of_permitsNothing empty (judges.exact.mp accepts).2
  · intro usable
    have exact : accepted ↔ listed ∧ MaySign platform keyUsage := by
      rw [judged]
      constructor
      · rintro ⟨purpose, signs | empty⟩
        · exact ⟨purpose, signs⟩
        · exact absurd ⟨purpose, empty⟩ usable
      · exact And.imp_right Or.inl
    refine ⟨exact, fun usage present unset accepts => ?_⟩
    have set := (exact.mp accepts).2 usage present
    rw [unset] at set
    cases set

/-- **Certificates are judged by their key purposes**, the client's and the
KDC's, exactly when they do not list the purpose with a `KeyUsage` that permits
nothing. -/
theorem key_purposes_judged_iff (platform : Platform) (certDer : Bytes) (cert : Certificate)
    (purposes : Purposes) (decodes : DecodesTo platform certDer cert purposes) :
    (∀ acceptSecondary, JudgesPurpose platform purposes.keyUsage
        (verifyClientEku platform certDer acceptSecondary = .ok .authorized)
        (ListsClientPurpose acceptSecondary purposes.ekus) ↔
      ¬(ListsClientPurpose acceptSecondary purposes.ekus ∧
        PermitsNothing platform purposes.keyUsage)) ∧
    (JudgesPurpose platform purposes.keyUsage (verifyKdcEku platform certDer = .ok ())
        (ListsKdcPurpose purposes.ekus) ↔
      ¬(ListsKdcPurpose purposes.ekus ∧ PermitsNothing platform purposes.keyUsage)) :=
  ⟨fun _ => judgesPurpose_iff (verifyClientEku_eq_authorized decodes),
    judgesPurpose_iff (verifyKdcEku_eq_ok decodes)⟩

namespace Reference

/-- The recorded KDC's, which may sign. -/
def kdcPurposes : Purposes where
  ekus := [ID_PKINIT_KPKDC]
  keyUsage := some ⟨[0x80], 7⟩

set_option maxRecDepth 16384 in
theorem kdcCert_decodes : ∃ cert, DecodesTo recorded kdcCertDer cert kdcPurposes :=
  decodesTo_of_extensions (sequence (writeOid ID_PKINIT_KPKDC)) (writeBitString ⟨[0x80], 7⟩)
    ⟨[0x80], 7⟩ (by decide) (by decide) (by decide) rfl

end Reference

/-- The recorded KDC's certificate. -/
theorem key_purposes_judged_iff_kdcCert :
    (∀ acceptSecondary, JudgesPurpose Reference.recorded Reference.kdcPurposes.keyUsage
        (verifyClientEku Reference.recorded Reference.kdcCertDer acceptSecondary = .ok .authorized)
        (ListsClientPurpose acceptSecondary Reference.kdcPurposes.ekus) ↔
      ¬(ListsClientPurpose acceptSecondary Reference.kdcPurposes.ekus ∧
        PermitsNothing Reference.recorded Reference.kdcPurposes.keyUsage)) ∧
    (JudgesPurpose Reference.recorded Reference.kdcPurposes.keyUsage
        (verifyKdcEku Reference.recorded Reference.kdcCertDer = .ok ())
        (ListsKdcPurpose Reference.kdcPurposes.ekus) ↔
      ¬(ListsKdcPurpose Reference.kdcPurposes.ekus ∧
        PermitsNothing Reference.recorded Reference.kdcPurposes.keyUsage)) := by
  obtain ⟨cert, decodes⟩ := Reference.kdcCert_decodes
  exact key_purposes_judged_iff _ _ cert _ decodes

namespace Reference

/-! Two more certificates of the CA, for a client and for a KDC, whose
`KeyUsage` is an empty bit string. -/

def idleAliceCertDer : Bytes :=
  [0x308201AB30820152A003020102020106300A06082A8648CE3D040302300D310B,
   0x300906035504030C024341301E170D3236313131393036343935395A170D3336,
   0x313131363036343935395A3010310E300C06035504030C05616C696365305930,
   0x1306072A8648CE3D020106082A8648CE3D030107034200045B9284D584C6F154,
   0xA06297F17530B2E4ED7D5B1F01071B38BEFC1BC25CCB8DC2C9EE72994486FF5C,
   0x3F22B8E29B02536B99BE06E3A875C76141EC279EB9716A11A3819F30819C300A,
   0x0603551D0F040303010030120603551D25040B300906072B060105020304303A,
   0x0603551D1104333031A02F06062B0601050202A0253023A00D1B0B4558414D50,
   0x4C452E434F4DA1123010A003020101A10930071B05616C696365301D0603551D,
   0x0E04160414F1F8C55ED705D4D6C9BC905E1D5D0F4CCE9FF6D9301F0603551D23,
   0x041830168014A8C974AB8FF33F5C01A3A8B904F68E1C7CD9F966300A06082A86,
   0x48CE3D0403020347003044022043C53FCE040F17C4DE6A07812ACCFE622161F9,
   0x931E941401735F54A4D7FED1C802205E92E70CC31E1047CFE70A3BE922D25008].flatMap (bytesOfNat 32) ++
  bytesOfNat 15 0xF1EBF23D968EA652853900A6079B1F

def idleKdcCertDer : Bytes :=
  [0x308201B83082015EA003020102020107300A06082A8648CE3D040302300D310B,
   0x300906035504030C024341301E170D3236313131393036343935395A170D3336,
   0x313131363036343935395A300E310C300A06035504030C034B44433059301306,
   0x072A8648CE3D020106082A8648CE3D030107034200045143FCC9ED44E855BB28,
   0x506CF35AFD9EA11608AEC9150738FFDE172940F2798C63200098DB3914C2D25C,
   0xCFF6E3FDCC2809E28C009AA8073C748A4D04525BAD20A381AD3081AA300A0603,
   0x551D0F040303010030120603551D25040B300906072B06010502030530480603,
   0x551D110441303FA03D06062B0601050202A0333031A00D1B0B4558414D504C45,
   0x2E434F4DA120301EA003020102A11730151B066B72627467741B0B4558414D50,
   0x4C452E434F4D301D0603551D0E04160414B43C3045C31183564833FE9296EB03,
   0x4A9B4C83B4301F0603551D23041830168014A8C974AB8FF33F5C01A3A8B904F6,
   0x8E1C7CD9F966300A06082A8648CE3D040302034800304502201C12E01D249179,
   0x13A896B57131C02A3ADB60CE85CD34EB9233C8B92AAA4D50320221009325CEB6].flatMap (bytesOfNat 32) ++
  bytesOfNat 28 0x8D28EEAF9AD45A2961F16FE7404028D613054585E2E1A65E32B4921A

def noUsage : BitString := ⟨[], 0⟩

set_option maxRecDepth 16384 in
theorem idleCerts_decode :
    (∃ cert, DecodesTo recorded idleAliceCertDer cert
        ⟨[ID_PKINIT_KPCLIENT_AUTH], some noUsage⟩) ∧
      ∃ cert, DecodesTo recorded idleKdcCertDer cert ⟨[ID_PKINIT_KPKDC], some noUsage⟩ :=
  ⟨decodesTo_of_extensions (sequence (writeOid ID_PKINIT_KPCLIENT_AUTH))
      (writeBitString noUsage) noUsage (by decide) (by decide)
      (by decide) rfl,
    decodesTo_of_extensions (sequence (writeOid ID_PKINIT_KPKDC)) (writeBitString noUsage) noUsage
      (by decide) (by decide) (by decide) rfl⟩

end Reference

set_option maxRecDepth 16384 in
/-- Both are accepted. -/
theorem empty_key_usage_accepted :
    (∃ cert, DecodesTo Reference.recorded Reference.idleAliceCertDer cert
        ⟨[ID_PKINIT_KPCLIENT_AUTH], some Reference.noUsage⟩) ∧
      ¬JudgesPurpose Reference.recorded (some Reference.noUsage)
        (verifyClientEku Reference.recorded Reference.idleAliceCertDer false = .ok .authorized)
        (ListsClientPurpose false [ID_PKINIT_KPCLIENT_AUTH]) ∧
      (∃ cert, DecodesTo Reference.recorded Reference.idleKdcCertDer cert
        ⟨[ID_PKINIT_KPKDC], some Reference.noUsage⟩) ∧
      ¬JudgesPurpose Reference.recorded (some Reference.noUsage)
        (verifyKdcEku Reference.recorded Reference.idleKdcCertDer = .ok ())
        (ListsKdcPurpose [ID_PKINIT_KPKDC]) := by
  have unset : Reference.recorded.synta.keyUsageBit Reference.noUsage
      KEY_USAGE_DIGITAL_SIGNATURE = false := rfl
  refine ⟨Reference.idleCerts_decode.1, ?_, Reference.idleCerts_decode.2, ?_⟩
  · intro judges
    exact judges.refused _ rfl unset (by decide)
  · intro judges
    exact judges.refused _ rfl unset (by decide)

end Kurbu5Pkinit

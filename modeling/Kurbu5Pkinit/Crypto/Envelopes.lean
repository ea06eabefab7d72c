import Kurbu5Pkinit.Reference.Laws

/-!
# Signed and unsigned envelopes

Two kinds of envelope, and a reader for each that refuses the other. What was
signed is verified and given back; what was wrapped unsigned is extracted.

The signer takes the attributes out of the `SET` it signed and the verifier
puts them back in, with a length of its own. The two agree below `2 ^ 32`
bytes of attributes and nowhere else (`retagAsSet_eq_iff`).
-/

set_option autoImplicit false

namespace Kurbu5Pkinit

open Library

variable {platform : Platform} {instant : Instant}

/-! ## The length of the attributes -/

/-- From `2 ^ 32` on, the length has more bytes than the four that are
written. -/
theorem derEncodeLength_ne_derLength {len : Nat} (large : 2 ^ 32 ≤ len) (bounded : len < 2 ^ 64) :
    derEncodeLength len ≠ derLength len := by
  have above : 4 < (bigEndian len).length := by
    rw [bigEndian, List.length_reverse, Nat.lt_digits_length_iff (by decide)]
    omega
  have below : (bigEndian len).length ≤ 8 := bigEndian_length_le (by omega)
  intro same
  have first := congrArg List.head? same
  rw [derEncodeLength, if_neg (by omega), if_neg (by omega), if_neg (by omega), if_neg (by omega),
    derLength_of_le (by omega)] at first
  generalize (bigEndian len).length = digits at first above below
  simp only [List.head?_cons, Option.some.injEq] at first
  interval_cases digits <;> exact absurd first (by decide)

/-- **The verifier restores the signed `SET` exactly below `2 ^ 32` bytes.** -/
theorem retagAsSet_eq_iff (codecs : EnvelopeCodecs platform.synta) {contentOid : Oid}
    {digest toSign signedAttrs : Bytes}
    (built : buildSignedAttrs platform contentOid digest = .ok (toSign, signedAttrs))
    (bounded : signedAttrs.length < 2 ^ 64) :
    retagAsSet signedAttrs = toSign ↔ signedAttrs.length < 2 ^ 32 := by
  obtain ⟨rfl, _⟩ := buildSignedAttrs_eq_ok codecs built
  constructor
  · intro same
    by_contra large
    apply derEncodeLength_ne_derLength (by omega) bounded
    rw [retagAsSet, List.cons_append, List.cons_append, List.cons.injEq] at same
    exact List.append_cancel_right same.2
  · intro small
    rw [retagAsSet, derEncodeLength_eq_derLength small]

/-! ## Each kind and its reader -/

theorem extractUnsignedContent_createUnsignedData (codecs : EnvelopeCodecs platform.synta)
    {content der : Bytes} {contentOid : Oid}
    (created : createUnsignedData platform content contentOid = .ok der) :
    extractUnsignedContent platform der = .ok (content, contentOid) ∧
      ∃ e, verifySignedData platform der = .error e := by
  simp only [createUnsignedData, bind_eq_ok, mapError_eq_ok, newOid_eq_ok] at created
  obtain ⟨_, ⟨_, rfl⟩, wrapped⟩ := created
  have unwrapped := unwrapSignedData_wrapSignedData codecs wrapped
  constructor
  · rw [extractUnsignedContent, unwrapped]
    rfl
  · refine ⟨.cmsVerifyFailed "no SignerInfo present", ?_⟩
    rw [verifySignedData, unwrapped]
    rfl

theorem extractUnsignedContent_of_signed (codecs : EnvelopeCodecs platform.synta)
    {signedData : SignedData} {signerInfo : SignerInfo} {der : Bytes}
    (wrapped : wrapSignedData platform signedData = .ok der)
    (signers : signedData.signerInfos = [signerInfo]) :
    ∃ e, extractUnsignedContent platform der = .error e := by
  refine ⟨.cmsVerifyFailed "SignedData has signers; expected unsigned anonymous content", ?_⟩
  rw [extractUnsignedContent, unwrapSignedData_wrapSignedData codecs wrapped, ok_bind, signers]
  rfl

/-- Everything the two envelopes of one content give back. -/
structure GivesBack (platform : Platform) (content : Bytes) (contentOid : Oid) (certDer : Bytes)
    (extraCerts : List Bytes) (signed unsigned : Bytes) : Prop where
  verified : ∃ v, verifySignedData platform signed = .ok v ∧ v.content = content ∧
    v.contentType = contentOid ∧ v.signerCertDer = certDer ∧ v.allCertsDer = certDer :: extraCerts
  notUnsigned : ∃ e, extractUnsignedContent platform signed = .error e
  extracted : extractUnsignedContent platform unsigned = .ok (content, contentOid)
  notSigned : ∃ e, verifySignedData platform unsigned = .error e

/-- **Signed content is verified and unsigned content is extracted**, each by
its own reader, when the attributes are below `2 ^ 32` bytes; and then the
verifier checks the signature over the bytes that were signed. -/
theorem envelopes_give_back (codecs : EnvelopeCodecs platform.synta) {content : Bytes}
    {contentOid : Oid} {key : PrivateKey} {certDer : Bytes} {extraCerts : List Bytes}
    {hash : String} {signed unsigned : Bytes} (pair : SigningPair platform certDer key hash)
    (framed : ∀ extra ∈ extraCerts, platform.synta.rawDer.Frames extra extra)
    (small : ∀ digest toSign signedAttrs, platform.crypto.hashData hash content = .ok digest →
      buildSignedAttrs platform contentOid digest = .ok (toSign, signedAttrs) →
      signedAttrs.length < 2 ^ 32)
    (signing : createSignedData platform instant content contentOid key certDer extraCerts hash =
      .ok signed)
    (wrapping : createUnsignedData platform content contentOid = .ok unsigned) :
    GivesBack platform content contentOid certDer extraCerts signed unsigned ∧
      ∃ digest toSign signedAttrs, platform.crypto.hashData hash content = .ok digest ∧
        buildSignedAttrs platform contentOid digest = .ok (toSign, signedAttrs) ∧
        retagAsSet signedAttrs = toSign := by
  obtain ⟨signedData, signerInfo, signedAttrs, wrapped, envelope⟩ := createSignedData_eq_ok signing
  obtain ⟨digest, hashed, _, toSign, built, _⟩ := envelope.hashed
  have short := small digest toSign signedAttrs hashed built
  obtain ⟨extracted, notSigned⟩ := extractUnsignedContent_createUnsignedData codecs wrapping
  refine ⟨{
    verified := ⟨_, verifySignedData_of_signsEnvelope codecs pair framed short envelope
      (unwrapSignedData_wrapSignedData codecs wrapped), rfl, rfl, rfl, rfl⟩
    notUnsigned := extractUnsignedContent_of_signed codecs wrapped envelope.signers
    extracted := extracted
    notSigned := notSigned }, digest, toSign, signedAttrs, hashed, built, ?_⟩
  exact (retagAsSet_eq_iff codecs built (by omega)).mpr short

namespace Reference

/-- The KDC's key information, signed with its own certificate as the extra
one, and unsigned. -/
def signedTwice : Except PkinitError Bytes :=
  createSignedData recorded kdcInstant kdcDhKeyInfoDer ID_PKINIT_DHKEY_DATA kdcPrivateKey kdcCertDer
    [kdcCertDer] "sha256"

def unsignedInfo : Except PkinitError Bytes :=
  createUnsignedData recorded kdcDhKeyInfoDer ID_PKINIT_DHKEY_DATA

theorem created_envelopes :
    signedTwice.isOk = true ∧ unsignedInfo.isOk = true ∧
      recorded.crypto.hashData "sha256" kdcDhKeyInfoDer = .ok kdcDhKeyInfoDigest ∧
      (buildSignedAttrs recorded ID_PKINIT_DHKEY_DATA kdcDhKeyInfoDigest).map
        (fun attrs => attrs.2.length) = .ok 73 := by
  decide +kernel

end Reference

/-- Two certificates with one issuer and serial number. -/
theorem envelopes_give_back_twice :
    ∃ signed unsigned, Reference.signedTwice = .ok signed ∧ Reference.unsignedInfo = .ok unsigned ∧
      GivesBack Reference.recorded Reference.kdcDhKeyInfoDer ID_PKINIT_DHKEY_DATA
        Reference.kdcCertDer [Reference.kdcCertDer] signed unsigned := by
  obtain ⟨signs, wraps, hashed, length⟩ := Reference.created_envelopes
  have pair := Reference.kdcIdentity_sound.pair Reference.kdcPrivateKey rfl
  change SigningPair Reference.recorded Reference.kdcCertDer Reference.kdcPrivateKey
    (digestForSigner Reference.recorded Reference.kdcCertDer) at pair
  rw [Reference.kdcKey_read.digest] at pair
  cases signing : Reference.signedTwice with
  | error e =>
      rw [signing] at signs
      cases signs
  | ok signed =>
      cases wrapping : Reference.unsignedInfo with
      | error e =>
          rw [wrapping] at wraps
          cases wraps
      | ok unsigned =>
          refine ⟨signed, unsigned, rfl, rfl, ?_⟩
          refine (@envelopes_give_back Reference.recorded Reference.kdcInstant
            Reference.synta_envelopeCodecs _ _ _ _ _ _ _ _ pair ?_ ?_ signing wrapping).1
          · intro extra member
            rw [List.mem_singleton.mp member]
            exact pair.framed
          · intro digest toSign signedAttrs hashed' built
            obtain rfl := Except.ok.inj (hashed.symm.trans hashed')
            rw [built] at length
            have short : signedAttrs.length = 73 := Except.ok.inj length
            omega

/-! ## Attributes too long for four length bytes -/

namespace Reference

/-- A value with a definite length of any size. -/
def longTlv (tag : UInt8) (content : Bytes) : Bytes :=
  tag :: derLength content.length ++ content

/-- An object identifier of any size. -/
def writeLongOid : Oid → Bytes
  | first :: second :: rest => longTlv 0x06 ((40 * first + second) :: rest |>.flatMap arcBytes)
  | _ => []

/-- The content of a `SET`, without its tag and length. -/
def enterLongSet : Bytes → Except String Bytes
  | tag :: first :: rest =>
      if tag = 0x31 then
        .ok (if first < 0x80 then rest else rest.drop (first &&& 0x7F).toNat)
      else
        .error "not a SET"
  | _ => .error "malformed encoding"

/-- The reference encoding, with attributes of any size. -/
def longSynta : Synta :=
  { synta with
    setOfOids := fun oids => .ok (longTlv 0x31 (sorted (oids.map writeLongOid)).flatten)
    cmsAttribute := { synta.cmsAttribute with
      toDer := fun attr => .ok (longTlv 0x30 (writeLongOid attr.attrType ++ attr.attrValues)) }
    setOfRaw := fun elements => .ok (longTlv 0x31 (sorted elements).flatten)
    enterSet := enterLongSet }

def longRecorded : Platform := { recorded with synta := longSynta }

/-- The identifier `1.2.1.1…` with this many arcs after the second. -/
def longOid (arcs : Nat) : Oid := 1 :: 2 :: List.replicate arcs 1

theorem length_longTlv (tag : UInt8) {content : Bytes} (bounded : content.length < 2 ^ 64) :
    content.length < (longTlv tag content).length ∧
      (longTlv tag content).length ≤ content.length + 10 := by
  have header : (derLength content.length).length ≤ 9 := by
    have digits := bigEndian_length_le (show content.length < 256 ^ 8 by omega)
    unfold derLength
    split
    · simp
    · simp only [List.length_cons, List.length_map]
      omega
  simp only [longTlv, List.cons_append, List.length_cons, List.length_append]
  omega

theorem enterLongSet_longTlv {content : Bytes} (bounded : content.length < 2 ^ 64) :
    enterLongSet (longTlv 0x31 content) = .ok content := by
  unfold longTlv
  by_cases short : content.length < 0x80
  · have below : UInt8.ofNat content.length < 0x80 := by
      rw [UInt8.lt_iff_toNat_lt, UInt8.toNat_ofNat_of_lt' (show content.length < 256 by omega)]
      exact short
    rw [derLength_of_lt short]
    simp [enterLongSet, below]
  · have digits := bigEndian_length_le (show content.length < 256 ^ 8 by omega)
    have taken : ((bigEndian content.length).map UInt8.ofNat ++ content).drop
        (bigEndian content.length).length = content :=
      List.drop_left' (List.length_map ..)
    rw [derLength_of_le (by omega), List.cons_append, List.cons_append, enterLongSet]
    generalize (bigEndian content.length).map UInt8.ofNat ++ content = rest at taken ⊢
    generalize (bigEndian content.length).length = count at digits taken ⊢
    have header : ¬ UInt8.ofNat (0x80 + count) < 0x80 ∧
        (UInt8.ofNat (0x80 + count) &&& 0x7F).toNat = count := by
      interval_cases count <;> decide
    rw [if_pos rfl, if_neg header.1, header.2, taken]

theorem length_writeLongOid {arcs : Nat} (bounded : arcs < 2 ^ 63) :
    arcs < (writeLongOid (longOid arcs)).length ∧
      (writeLongOid (longOid arcs)).length ≤ arcs + 11 := by
  have one : arcBytes 1 = [1] := by decide
  have shared : (arcBytes (40 * 1 + 2)).length = 1 := by decide
  have rest : ((List.replicate arcs 1).flatMap arcBytes).length = arcs := by
    simp [List.length_flatMap, one]
  have content : (((40 * 1 + 2) :: List.replicate arcs 1).flatMap arcBytes).length = arcs + 1 := by
    rw [List.flatMap_cons, List.length_append, shared, rest, Nat.add_comm]
  have written := @length_longTlv 0x06 (((40 * 1 + 2) :: List.replicate arcs 1).flatMap arcBytes)
    (by omega)
  change arcs < (longTlv 0x06 _).length ∧ (longTlv 0x06 _).length ≤ arcs + 11
  omega

/-- The signer's `SET` for that content type, and what is inside it. -/
theorem buildSignedAttrs_longOid {arcs : Nat} (bounded : arcs < 2 ^ 62) :
    ∃ signedAttrs, arcs ≤ signedAttrs.length ∧ signedAttrs.length < 2 ^ 64 ∧
      buildSignedAttrs longRecorded (longOid arcs) kdcDhKeyInfoDigest =
        .ok (longTlv 0x31 signedAttrs, signedAttrs) := by
  have typeKnown : longSynta.newOid PKCS9_CONTENT_TYPE = .ok PKCS9_CONTENT_TYPE := by decide
  have digestKnown : longSynta.newOid PKCS9_MESSAGE_DIGEST = .ok PKCS9_MESSAGE_DIGEST := by decide
  have typeName : (writeLongOid PKCS9_CONTENT_TYPE).length = 11 := by decide
  have digestName : (writeLongOid PKCS9_MESSAGE_DIGEST).length = 11 := by decide
  have digestSetOf : longSynta.setOfOctetStrings [kdcDhKeyInfoDigest] =
      .ok (setOf (writeOctets kdcDhKeyInfoDigest)) := by decide
  have digestSet : (setOf (writeOctets kdcDhKeyInfoDigest)).length = 36 := by decide
  obtain ⟨oidAbove, oidBelow⟩ := @length_writeLongOid arcs (by omega)
  have one : (sorted [writeLongOid (longOid arcs)]).flatten = writeLongOid (longOid arcs) := by
    simp [sorted]
  generalize typeSet : longTlv 0x31 (writeLongOid (longOid arcs)) = typeSetDer
  have typeSetSize := @length_longTlv 0x31 (writeLongOid (longOid arcs)) (by omega)
  rw [typeSet] at typeSetSize
  let typeContent := writeLongOid PKCS9_CONTENT_TYPE ++ typeSetDer
  let digestContent := writeLongOid PKCS9_MESSAGE_DIGEST ++ setOf (writeOctets kdcDhKeyInfoDigest)
  have typeSize : typeContent.length = 11 + typeSetDer.length := by
    rw [List.length_append, typeName]
  have digestSize : digestContent.length = 47 := by
    rw [List.length_append, digestName, digestSet]
  have typeDerSize := @length_longTlv 0x30 typeContent (by omega)
  have digestDerSize := @length_longTlv 0x30 digestContent (by omega)
  let signedAttrs := (sorted [longTlv 0x30 typeContent, longTlv 0x30 digestContent]).flatten
  have size : signedAttrs.length =
      (longTlv 0x30 typeContent).length + (longTlv 0x30 digestContent).length := by
    rw [(sorted_perm _).flatten.length_eq]
    simp
  refine ⟨signedAttrs, by omega, by omega, ?_⟩
  have entered := @enterLongSet_longTlv signedAttrs (by omega)
  have typeSetOf : longSynta.setOfOids [longOid arcs] = .ok typeSetDer := by
    rw [← typeSet, ← one]
    rfl
  have typeEncoded : longSynta.cmsAttribute.toDer ⟨PKCS9_CONTENT_TYPE, typeSetDer⟩ =
      .ok (longTlv 0x30 typeContent) := rfl
  have digestEncoded : longSynta.cmsAttribute.toDer
      ⟨PKCS9_MESSAGE_DIGEST, setOf (writeOctets kdcDhKeyInfoDigest)⟩ =
        .ok (longTlv 0x30 digestContent) := rfl
  have collected : longSynta.setOfRaw [longTlv 0x30 typeContent, longTlv 0x30 digestContent] =
      .ok (longTlv 0x31 signedAttrs) := rfl
  have stripped : longSynta.enterSet (longTlv 0x31 signedAttrs) = .ok signedAttrs := entered
  change (buildSignedAttrs { recorded with synta := longSynta } _ _) = _
  simp only [buildSignedAttrs, typeKnown, digestKnown, typeSetOf, digestSetOf, typeEncoded,
    digestEncoded, collected, stripped, mapError_ok, ok_bind, pure_eq_ok]

end Reference

/-- For a content type of more than `2 ^ 32` arcs, the verifier does not check
the signature over the bytes that were signed. -/
theorem long_attributes_retagged :
    ∃ toSign signedAttrs, buildSignedAttrs Reference.longRecorded (Reference.longOid (2 ^ 32))
        Reference.kdcDhKeyInfoDigest = .ok (toSign, signedAttrs) ∧
      toSign = 0x31 :: derLength signedAttrs.length ++ signedAttrs ∧
      retagAsSet signedAttrs ≠ toSign := by
  obtain ⟨signedAttrs, large, bounded, built⟩ :=
    @Reference.buildSignedAttrs_longOid (2 ^ 32) (by norm_num)
  refine ⟨_, signedAttrs, built, rfl, ?_⟩
  intro same
  apply derEncodeLength_ne_derLength large bounded
  rw [retagAsSet, Reference.longTlv, List.cons_append, List.cons_append, List.cons.injEq] at same
  exact List.append_cancel_right same.2

end Kurbu5Pkinit

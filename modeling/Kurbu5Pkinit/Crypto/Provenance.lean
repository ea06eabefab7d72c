import Kurbu5Pkinit.Crypto.CmsRoundTrip
import Kurbu5Pkinit.Laws

/-!
# What a signature was made for

A signature stands under the attributes alone. An attacker who has seen one can
put it into another envelope, with other content, another digest algorithm and
other certificates; what verifies is still only content that has the digest and
the type in the attributes. So a verified envelope over a message that a signer
signed has the content that the signer signed it for, or one that collides with
it (`SignedFor.content`).
-/

set_option autoImplicit false

namespace Kurbu5Pkinit

open Library

variable {platform : Platform}

/-! ## Signed attributes -/

/-- How many bytes of a length follow its first one. -/
def followingBytes (first : UInt8) : Nat :=
  if first < 0x80 then 0 else (first &&& 0x7F).toNat

theorem derEncodeLength_eq_cons (len : Nat) :
    ∃ first rest, derEncodeLength len = first :: rest ∧ rest.length = followingBytes first := by
  have long : 1 = followingBytes 0x81 ∧ 2 = followingBytes 0x82 ∧ 3 = followingBytes 0x83 ∧
      4 = followingBytes 0x84 := by decide
  unfold derEncodeLength
  split
  · next short =>
      have below : UInt8.ofNat len < 0x80 := by
        rw [UInt8.lt_iff_toNat_lt, UInt8.toNat_ofNat_of_lt' (show len < 256 by omega)]
        exact short
      exact ⟨_, [], rfl, (if_pos below).symm⟩
  split
  · exact ⟨_, _, rfl, long.1⟩
  split
  · exact ⟨_, _, rfl, long.2.1⟩
  split
  · exact ⟨_, _, rfl, long.2.2.1⟩
  · exact ⟨_, _, rfl, long.2.2.2⟩

/-- The attributes can be told from the message that is signed. -/
theorem retagAsSet_injective : Function.Injective retagAsSet := by
  intro left right same
  obtain ⟨first, rest, leftLength, count⟩ := derEncodeLength_eq_cons left.length
  obtain ⟨first', rest', rightLength, count'⟩ := derEncodeLength_eq_cons right.length
  rw [retagAsSet, retagAsSet, leftLength, rightLength] at same
  simp only [List.cons_append, List.cons.injEq, true_and] at same
  obtain ⟨rfl, same⟩ := same
  exact (List.append_inj same (count.trans count'.symm)).2

/-- The attributes that were signed for a content are its type and its digest. -/
theorem SignsContent.of_yields {contentOid : Oid} {digest signedAttrs : Bytes} {attr : Attribute}
    (signs : SignsContent platform contentOid digest signedAttrs)
    (yields : platform.synta.attributes.Yields signedAttrs attr) :
    (attr.attrType = PKCS9_CONTENT_TYPE ∧ ∃ inner,
        platform.synta.enterSet attr.attrValues = .ok inner ∧
        platform.synta.objectIdentifier.fromDer inner = .ok contentOid) ∨
      (attr.attrType = PKCS9_MESSAGE_DIGEST ∧ ∃ inner,
        platform.synta.enterSet attr.attrValues = .ok inner ∧
        platform.synta.octetString.fromDer inner = .ok digest) := by
  obtain ⟨typeDer, digestDer, typeAttr, digestAttr, typeFrames, digestFrames, order, isType,
    isDigest, typeRead, digestRead⟩ := signs.ordered
  have one : attr = typeAttr ∨ attr = digestAttr := by
    rcases order with rfl | rfl
    · exact typeFrames.pair digestFrames yields
    · exact (digestFrames.pair typeFrames yields).symm
  rcases one with rfl | rfl
  · exact .inl ⟨isType, typeRead⟩
  · exact .inr ⟨isDigest, digestRead⟩

/-- They carry its digest and no other. -/
theorem SignsContent.digest_unique {contentOid : Oid} {digest digest' signedAttrs : Bytes}
    (signs : SignsContent platform contentOid digest signedAttrs)
    (carries : CarriesOctets platform.synta signedAttrs PKCS9_MESSAGE_DIGEST digest') :
    digest' = digest := by
  obtain ⟨attr, inner, yields, named, entered, read⟩ := carries
  rcases signs.of_yields yields with ⟨isType, _⟩ | ⟨_, inner', entered', read'⟩
  · exact absurd (isType.symm.trans named) (by decide)
  · obtain rfl := Except.ok.inj (entered.symm.trans entered')
    exact Except.ok.inj (read.symm.trans read')

theorem SignsContent.type_unique {contentOid contentOid' : Oid} {digest signedAttrs : Bytes}
    (signs : SignsContent platform contentOid digest signedAttrs)
    (carries : CarriesOid platform.synta signedAttrs PKCS9_CONTENT_TYPE contentOid') :
    contentOid' = contentOid := by
  obtain ⟨attr, inner, yields, named, entered, read⟩ := carries
  rcases signs.of_yields yields with ⟨_, inner', entered', read'⟩ | ⟨isDigest, _⟩
  · obtain rfl := Except.ok.inj (entered.symm.trans entered')
    exact Except.ok.inj (read.symm.trans read')
  · exact absurd (isDigest.symm.trans named) (by decide)

/-! ## Signatures and their contents -/

/-- Two contents with one digest. -/
def Collide (platform : Platform) (content content' : Bytes) : Prop :=
  content ≠ content' ∧ ∃ hash hash' digest, platform.crypto.hashData hash content = .ok digest ∧
    platform.crypto.hashData hash' content' = .ok digest

/-- The message that is signed for a content. -/
def SignedFor (platform : Platform) (hash : String) (content : Bytes) (contentOid : Oid)
    (message : Bytes) : Prop :=
  ∃ digest signedAttrs, platform.crypto.hashData hash content = .ok digest ∧
    signedAttrs.length < 2 ^ 32 ∧
    buildSignedAttrs platform contentOid digest = .ok (message, signedAttrs)

/-- The signature of this envelope verifies over the message, under the key of
the certificate. -/
def SignatureOver (platform : Platform) (certDer envelope message : Bytes) : Prop :=
  ∃ signedData signerInfo cert signedAttrs,
    unwrapSignedData platform envelope = .ok signedData ∧
    signedData.signerInfos.head? = some signerInfo ∧
    platform.synta.certificate.fromDer certDer = .ok cert ∧
    SignatureVerifies platform signerInfo cert signedAttrs ∧ message = retagAsSet signedAttrs

/-- What a verified envelope tells of its content: its digest and its type are
in the attributes under the signature. -/
structure Attested (platform : Platform) (v : VerifiedSignedData) (message : Bytes) : Prop where
  attested : ∃ signedAttrs hash digest, message = retagAsSet signedAttrs ∧
    platform.crypto.hashData hash v.content = .ok digest ∧
    CarriesOctets platform.synta signedAttrs PKCS9_MESSAGE_DIGEST digest ∧
    CarriesOid platform.synta signedAttrs PKCS9_CONTENT_TYPE v.contentType

/-- A verified envelope is attested under its signature. -/
theorem SignatureBinding.attested {envelope : Bytes} {v : VerifiedSignedData}
    {signedData : SignedData} {signerInfo : SignerInfo}
    (unwrapped : unwrapSignedData platform envelope = .ok signedData)
    (binding : SignatureBinding platform signedData signerInfo v) :
    ∃ message, SignatureOver platform v.signerCertDer envelope message ∧
      Attested platform v message := by
  obtain ⟨_, _, cert, signedAttrs, hash, digest, _, _, parsed, _, _, verifies, _, hashed, carries,
    type⟩ := binding.signed
  exact ⟨retagAsSet signedAttrs,
    ⟨signedData, signerInfo, cert, signedAttrs, unwrapped, binding.first, parsed, verifies, rfl⟩,
    ⟨signedAttrs, hash, digest, rfl, hashed, carries, type⟩⟩

/-- **A signature attests the content it was made for**, or one that collides
with it, and its type in any case. -/
theorem SignedFor.content (codecs : EnvelopeCodecs platform.synta) {hash : String}
    {content : Bytes} {contentOid : Oid} {message : Bytes} {v : VerifiedSignedData}
    (signed : SignedFor platform hash content contentOid message)
    (attested : Attested platform v message) :
    v.contentType = contentOid ∧ (v.content = content ∨ Collide platform v.content content) := by
  obtain ⟨digest, signedAttrs, hashed, small, built⟩ := signed
  obtain ⟨signedAttrs', hash', digest', rfl, hashed', carries, type⟩ := attested.attested
  obtain ⟨encoded, signs⟩ := buildSignedAttrs_eq_ok codecs built
  obtain rfl : signedAttrs' = signedAttrs := by
    apply retagAsSet_injective
    rw [encoded, retagAsSet, derEncodeLength_eq_derLength small]
  refine ⟨signs.type_unique type, ?_⟩
  by_cases same : v.content = content
  · exact .inl same
  · refine .inr ⟨same, hash', hash, digest', hashed', ?_⟩
    rw [signs.digest_unique carries]
    exact hashed

/-- The attributes of an envelope are no longer than it. -/
theorem SignsEnvelope.attributes_length_le (codecs : MessageCodecs platform.synta)
    {instant : Instant} {content : Bytes} {contentOid : Oid} {key : PrivateKey} {certDer : Bytes}
    {extraCerts : List Bytes} {hash : String} {signedData : SignedData} {signerInfo : SignerInfo}
    {signedAttrs envelope : Bytes}
    (signs : SignsEnvelope platform instant content contentOid key certDer extraCerts hash
      signedData signerInfo signedAttrs)
    (wrapped : wrapSignedData platform signedData = .ok envelope) :
    signedAttrs.length ≤ envelope.length := by
  simp only [wrapSignedData, bind_eq_ok, mapError_eq_ok] at wrapped
  obtain ⟨sdDer, encoded, explicit0, tagged, _, _, written⟩ := wrapped
  have inSignedData := codecs.signedDataHolds _ _ encoded signerInfo
    (by simp [signs.signers]) signedAttrs signs.attributes
  have inExplicit := codecs.explicitTagHolds _ _ _ tagged
  have inEnvelope := codecs.contentInfoHolds _ _ written
  dsimp only at inEnvelope
  omega

/-- The signature of an envelope is over what its signer signed. -/
theorem SignatureOver.signedFor {instant : Instant} (envelopes : EnvelopeCodecs platform.synta)
    (messages : MessageCodecs platform.synta) {content : Bytes} {contentOid : Oid}
    {key : PrivateKey} {certDer : Bytes} {extraCerts : List Bytes} {hash : String}
    {envelope signer message : Bytes}
    (created : createSignedData platform instant content contentOid key certDer extraCerts hash =
      .ok envelope)
    (small : envelope.length < 2 ^ 32) (stands : SignatureOver platform signer envelope message) :
    SignedFor platform hash content contentOid message := by
  obtain ⟨signedData, signerInfo, signedAttrs, wrapped, signs⟩ := createSignedData_eq_ok created
  obtain ⟨_, _, cert, carried, unwrapped, first, _, verifies, rfl⟩ := stands
  rw [unwrapSignedData_wrapSignedData envelopes wrapped, Except.ok.injEq] at unwrapped
  subst unwrapped
  rw [signs.signers, List.head?_cons, Option.some.injEq] at first
  subst first
  obtain rfl := Option.some.inj (signs.attributes.symm.trans verifies.carried)
  obtain ⟨digest, hashed, _, toSign, built, _⟩ := signs.hashed
  have short := (signs.attributes_length_le messages wrapped).trans_lt small
  refine ⟨digest, signedAttrs, hashed, short, ?_⟩
  rw [retagAsSet, derEncodeLength_eq_derLength short,
    ← (buildSignedAttrs_eq_ok envelopes built).1]
  exact built

end Kurbu5Pkinit

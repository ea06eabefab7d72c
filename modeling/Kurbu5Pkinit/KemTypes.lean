import Kurbu5Pkinit.Library.DerLength
import Kurbu5Pkinit.Library.Fallible
import Kurbu5Pkinit.Platform

/-!
# Nonces, DER lengths and the messages framed by hand

Two messages are framed without the ASN.1 library: the `kemInfo` arm of
`PA-PK-AS-REP` and the hint of `PA-PK-AS-REQ-Hint`. Both read lengths an
attacker chose, in the machine's `usize`: a sum wraps at its width, and a
slice outside its bounds panics.
-/

set_option autoImplicit false

namespace Kurbu5Pkinit

open Library

/-! ## Nonces -/

/-- A nonce is kept as a signed word and sent as an unsigned one. -/
def encodeNonce (nonce : Int32) : Int :=
  nonce.toUInt32.toNat

def decodeNonce (synta : Synta) (value : Int) : Except PkinitError Int32 := do
  let v ← (synta.asI64 value).mapError (asn1Err "nonce")
  if 0 ≤ v ∧ v < 2 ^ 32 then
    return (UInt32.ofNat v.toNat).toInt32
  else
    throw (.asn1 s!"nonce {v} outside 0..4294967295")

theorem encodeNonce_bounds (nonce : Int32) :
    0 ≤ encodeNonce nonce ∧ encodeNonce nonce < 2 ^ 32 := by
  have bound := nonce.toUInt32.toNat_lt
  unfold encodeNonce
  omega

theorem asI64_of_unsigned (synta : Synta) {value : Int} (unsigned : 0 ≤ value ∧ value < 2 ^ 32) :
    synta.asI64 value = .ok value := by
  unfold Synta.asI64
  exact if_pos ⟨by omega, by omega⟩

/-- **Every nonce survives the trip through its unsigned form.** -/
theorem decodeNonce_encodeNonce (synta : Synta) (nonce : Int32) :
    decodeNonce synta (encodeNonce nonce) = .ok nonce := by
  have unsigned := encodeNonce_bounds nonce
  have back : (UInt32.ofNat (encodeNonce nonce).toNat).toInt32 = nonce := by
    unfold encodeNonce
    rw [Int.toNat_natCast, UInt32.ofNat_toNat]
    rfl
  unfold decodeNonce
  rw [asI64_of_unsigned synta unsigned, mapError_ok, ok_bind, if_pos unsigned, back]
  rfl

/-- **A value reads as a nonce only when it is that nonce's unsigned form.** -/
theorem decodeNonce_eq_ok {synta : Synta} {value : Int} {nonce : Int32} :
    decodeNonce synta value = .ok nonce ↔ value = encodeNonce nonce := by
  constructor
  · intro decoded
    simp only [decodeNonce, bind_eq_ok, mapError_eq_ok] at decoded
    obtain ⟨v, read, checked⟩ := decoded
    have same : v = value := by
      unfold Synta.asI64 at read
      split at read
      · exact (Except.ok.inj read).symm
      · cases read
    subst same
    split at checked
    · next unsigned =>
        obtain rfl := Except.ok.inj checked
        have bound : v.toNat < UInt32.size := by
          have := unsigned.2
          unfold UInt32.size
          omega
        unfold encodeNonce
        rw [UInt32.toUInt32_toInt32, UInt32.toNat_ofNat_of_lt' bound]
        exact (Int.toNat_of_nonneg unsigned.1).symm
    · cases checked
  · rintro rfl
    exact decodeNonce_encodeNonce synta nonce

/-! ## Lengths -/

/-- `a + b` in a `usize` of the given width. -/
def usizeAdd (usizeBits a b : Nat) : Nat :=
  (a + b) % 2 ^ usizeBits

theorem usizeAdd_of_lt {usizeBits a b : Nat} (fits : a + b < 2 ^ usizeBits) :
    usizeAdd usizeBits a b = a + b :=
  Nat.mod_eq_of_lt fits

/-- `data[start..stop]`. -/
def slice (data : Bytes) (start stop : Nat) : Except PkinitError Bytes :=
  if start ≤ stop ∧ stop ≤ data.length then
    .ok ((data.drop start).take (stop - start))
  else
    .error (.panicked "slice index out of range")

/-- One turn of the length loop: shift in a byte, with both steps checked. -/
def shiftInByte (usizeBits len : Nat) (byte : UInt8) : Except PkinitError Nat :=
  let shifted := (len <<< 8) % 2 ^ usizeBits
  if 8 < usizeBits ∧ shifted + byte.toNat < 2 ^ usizeBits then
    .ok (shifted + byte.toNat)
  else
    .error (.asn1 "DER length: overflow")

/-- The length at the front of `data`, and the bytes it is written in. -/
def derParseLength (usizeBits : Nat) (data : Bytes) : Except PkinitError (Nat × Nat) :=
  match data with
  | [] => .error (.asn1 "DER length: unexpected end")
  | first :: rest =>
      if first < 0x80 then
        .ok (first.toNat, 1)
      else do
        let n := (first &&& 0x7F).toNat
        rejectIf (n = 0 ∨ 4 < n ∨ (first :: rest).length < 1 + n)
          (.asn1 "DER length: invalid long form")
        let len ← (rest.take n).foldlM (shiftInByte usizeBits) 0
        return (len, 1 + n)

def derEncodeLength (len : Nat) : Bytes :=
  if len < 0x80 then
    [UInt8.ofNat len]
  else if len ≤ 0xFF then
    [0x81, UInt8.ofNat len]
  else if len ≤ 0xFFFF then
    [0x82, UInt8.ofNat (len >>> 8), UInt8.ofNat len]
  else if len ≤ 0xFFFFFF then
    [0x83, UInt8.ofNat (len >>> 16), UInt8.ofNat (len >>> 8), UInt8.ofNat len]
  else
    [0x84, UInt8.ofNat (len >>> 24), UInt8.ofNat (len >>> 16), UInt8.ofNat (len >>> 8),
      UInt8.ofNat len]

/-- **Below `2 ^ 32` the length written is the definite length encoding.** -/
theorem derEncodeLength_eq_derLength {len : Nat} (small : len < 2 ^ 32) :
    derEncodeLength len = derLength len := by
  unfold derEncodeLength
  split
  · next short => rw [derLength_of_lt short]
  · next long =>
      rw [derLength_of_le (by omega)]
      split
      · simp [bigEndian_of_lt (n := len) (by omega) (by omega)]
      · split
        · rw [bigEndian_of_le (by omega), bigEndian_of_lt (by omega) (by omega)]
          simp [Nat.shiftRight_eq_div_pow, ofNat_mod_256]
        · split
          · rw [bigEndian_of_le (by omega), bigEndian_of_le (by omega),
              bigEndian_of_lt (by omega) (by omega)]
            simp [Nat.shiftRight_eq_div_pow, Nat.div_div_eq_div_mul, ofNat_mod_256]
          · rw [bigEndian_of_le (by omega), bigEndian_of_le (by omega),
              bigEndian_of_le (by omega), bigEndian_of_lt (by omega) (by omega)]
            simp [Nat.shiftRight_eq_div_pow, Nat.div_div_eq_div_mul, ofNat_mod_256]

theorem shiftInByte_eq {usizeBits len : Nat} {byte : UInt8} (wide : 8 < usizeBits)
    (fits : len * 256 + byte.toNat < 2 ^ usizeBits) :
    shiftInByte usizeBits len byte = .ok (len * 256 + byte.toNat) := by
  have shifted : (len <<< 8) % 2 ^ usizeBits = len * 256 := by
    have below : len * 256 < 2 ^ usizeBits := Nat.lt_of_le_of_lt (Nat.le_add_right _ _) fits
    rw [Nat.shiftLeft_eq, show (2 : Nat) ^ 8 = 256 from rfl, Nat.mod_eq_of_lt below]
  unfold shiftInByte
  simp only [shifted]
  exact if_pos ⟨wide, fits⟩

/-- The loop reads back the digits it is given. -/
theorem foldlM_shiftInByte_bigEndian {usizeBits n : Nat} (wide : 8 < usizeBits)
    (fits : n < 2 ^ usizeBits) :
    ((bigEndian n).map UInt8.ofNat).foldlM (shiftInByte usizeBits) 0 = .ok n := by
  induction n using Nat.strongRecOn with
  | ind n ih =>
      by_cases zero : n = 0
      · subst zero
        rfl
      by_cases small : n < 256
      · rw [bigEndian_of_lt (by omega) small]
        have byte : (UInt8.ofNat n).toNat = n := UInt8.toNat_ofNat_of_lt' small
        have step := @shiftInByte_eq usizeBits 0 (UInt8.ofNat n) wide (by omega)
        simp [List.foldlM, step, byte]
      · have last : (UInt8.ofNat (n % 256)).toNat = n % 256 :=
          UInt8.toNat_ofNat_of_lt' (Nat.mod_lt _ (by decide))
        have step := @shiftInByte_eq usizeBits (n / 256) (UInt8.ofNat (n % 256)) wide
          (by rw [last]; omega)
        rw [bigEndian_of_le (by omega), List.map_append, List.foldlM_append,
          ih (n / 256) (by omega) (by omega)]
        simp only [List.map_cons, List.map_nil, List.foldlM_cons, List.foldlM_nil, ok_bind, step,
          last, pure_eq_ok]
        congr 1
        omega

/-- A length written is read back, whatever follows it. -/
theorem derParseLength_derEncodeLength {usizeBits len : Nat} (wide : 8 < usizeBits)
    (small : len < 2 ^ 32) (fits : len < 2 ^ usizeBits) (rest : Bytes) :
    derParseLength usizeBits (derEncodeLength len ++ rest) =
      .ok (len, (derEncodeLength len).length) := by
  rw [derEncodeLength_eq_derLength small]
  by_cases short : len < 0x80
  · have byte : (UInt8.ofNat len).toNat = len := UInt8.toNat_ofNat_of_lt' (show len < 256 by omega)
    have below : UInt8.ofNat len < 0x80 := by
      rw [UInt8.lt_iff_toNat_lt, byte]
      exact short
    simp [derLength_of_lt short, derParseLength, below, byte]
  · have count := bigEndian_length_le (k := 4) (by omega : len < 256 ^ 4)
    have positive := bigEndian_length_pos (by omega : 0 < len)
    rw [derLength_of_le (by omega)]
    generalize counted : (bigEndian len).length = k at count positive
    have first : ¬ UInt8.ofNat (0x80 + k) < 0x80 ∧ (UInt8.ofNat (0x80 + k) &&& 0x7F).toNat = k := by
      interval_cases k <;> decide
    have digits : ((bigEndian len).map UInt8.ofNat ++ rest).take k =
        (bigEndian len).map UInt8.ofNat := by
      simp [← counted]
    simp only [List.cons_append, derParseLength, if_neg first.1, first.2, digits,
      foldlM_shiftInByte_bigEndian wide fits]
    simp [rejectIf, counted]
    omega

theorem derEncodeLength_length_le (len : Nat) : (derEncodeLength len).length ≤ 5 := by
  unfold derEncodeLength
  split_ifs <;> simp

/-- **A frame written by hand is read back by hand**: its length is parsed, it
is not found truncated, and the slice is its content. -/
theorem read_frame {usizeBits : Nat} {content : Bytes} (tag : UInt8) (wide : 8 < usizeBits)
    (small : content.length < 2 ^ 32)
    (fits : (tag :: derEncodeLength content.length ++ content).length < 2 ^ usizeBits) :
    ∃ header,
      derParseLength usizeBits (tag :: derEncodeLength content.length ++ content).tail =
        .ok (content.length, header) ∧
      ¬ (tag :: derEncodeLength content.length ++ content).length <
        usizeAdd usizeBits (usizeAdd usizeBits 1 header) content.length ∧
      slice (tag :: derEncodeLength content.length ++ content) (usizeAdd usizeBits 1 header)
        (usizeAdd usizeBits (usizeAdd usizeBits 1 header) content.length) = .ok content := by
  have parsed := fun roomy =>
    @derParseLength_derEncodeLength usizeBits content.length wide small roomy content
  generalize derEncodeLength content.length = header at *
  have size : (tag :: header ++ content).length = 1 + header.length + content.length := by
    simp only [List.cons_append, List.length_cons, List.length_append]
    omega
  rw [size] at fits
  have start := @usizeAdd_of_lt usizeBits 1 header.length (by omega)
  have stop := usizeAdd_of_lt fits
  refine ⟨header.length, ?_, ?_, ?_⟩
  · rw [List.cons_append, List.tail_cons, parsed (by omega)]
  · rw [start, stop, size]
    omega
  · rw [start, stop]
    simp [slice, Nat.add_comm 1]
    omega

/-! ## The KEM arm of the reply -/

/-- The tag byte of `PA-PK-AS-REP.kemInfo`. -/
def PA_PK_AS_REP_KEM_TAG : UInt8 := 0xA2

def isKemRep (paRepDer : Bytes) : Bool :=
  paRepDer.head? = some PA_PK_AS_REP_KEM_TAG

def decodeKemRepContent (usizeBits : Nat) (paRepDer : Bytes) : Except PkinitError Bytes := do
  rejectIf (isKemRep paRepDer = false) (.asn1 "PA-PK-AS-REP: expected kemInfo [2] tag")
  let (len, headerSize) ← derParseLength usizeBits paRepDer.tail
  let valueStart := usizeAdd usizeBits 1 headerSize
  rejectIf (paRepDer.length < usizeAdd usizeBits valueStart len)
    (.asn1 "kemInfo: truncated content")
  slice paRepDer valueStart (usizeAdd usizeBits valueStart len)

def encodeKemRepWrapper (synta : Synta) (kemRepInfo : KemRepInfo) : Except PkinitError Bytes := do
  let innerDer ← (synta.kemRepInfo.toDer kemRepInfo).mapError (asn1Err "encode KEMRepInfo")
  return PA_PK_AS_REP_KEM_TAG :: derEncodeLength innerDer.length ++ innerDer

/-- What the wrapper wrote is recognised by its tag. -/
theorem isKemRep_of_encodeKemRepWrapper {synta : Synta} {kemRepInfo : KemRepInfo} {der : Bytes}
    (encoded : encodeKemRepWrapper synta kemRepInfo = .ok der) : isKemRep der = true := by
  simp only [encodeKemRepWrapper, bind_eq_ok, pure_eq_ok] at encoded
  obtain ⟨innerDer, _, written⟩ := encoded
  cases written
  rfl

/-- **The wrapper's content is read back**, for a message that fits both the
length field and a `usize`. -/
theorem decodeKemRepContent_encodeKemRepWrapper {synta : Synta} {kemRepInfo : KemRepInfo}
    {der innerDer : Bytes} {usizeBits : Nat} (wide : 8 < usizeBits)
    (encoded : encodeKemRepWrapper synta kemRepInfo = .ok der)
    (inner : synta.kemRepInfo.toDer kemRepInfo = .ok innerDer)
    (small : der.length < 2 ^ 32) (fits : der.length < 2 ^ usizeBits) :
    decodeKemRepContent usizeBits der = .ok innerDer := by
  have tagged := isKemRep_of_encodeKemRepWrapper encoded
  simp only [encodeKemRepWrapper, inner, mapError_ok, ok_bind, pure_eq_ok, Except.ok.injEq]
    at encoded
  subst encoded
  have content : innerDer.length ≤
      (PA_PK_AS_REP_KEM_TAG :: derEncodeLength innerDer.length ++ innerDer).length := by
    simp only [List.cons_append, List.length_cons, List.length_append]
    omega
  obtain ⟨header, parsed, whole, taken⟩ := read_frame PA_PK_AS_REP_KEM_TAG wide
    (Nat.lt_of_le_of_lt content small) fits
  unfold decodeKemRepContent
  rw [tagged, rejectIf_of_not (by decide), ok_bind, parsed]
  simp only [ok_bind]
  rw [rejectIf_of_not whole, ok_bind, taken]

/-! ## The hint -/

/-- An offered key exchange: its identifier and, for a group, the encoding of
its domain parameters. -/
abbrev OfferedAlgorithm : Type := Oid × Option Bytes

def offeredAlgorithm (synta : Synta) (algId : AlgorithmIdentifier) :
    Except PkinitError OfferedAlgorithm := do
  let params ← (match algId.parameters with
    | some parameters => some <$> synta.element.toDer parameters
    | none => .ok none).mapError (asn1Err "encode algorithm parameters")
  return (algId.algorithm, params)

def encodePkinitHintAlgIds (synta : Synta) (algIds : List AlgorithmIdentifier) :
    Except PkinitError Bytes := do
  let seqOfDer ← (synta.algorithmIdentifiers.toDer algIds).mapError (asn1Err "encode alg ids")
  let tagged := (0xA0 : UInt8) :: derEncodeLength seqOfDer.length ++ seqOfDer
  return (0x30 : UInt8) :: derEncodeLength tagged.length ++ tagged

/-- The offers of a hint, in the KDC's order of preference; none when the hint
has no `ephemeralKeyParameters`. -/
def parsePkinitHint (synta : Synta) (usizeBits : Nat) (hintDer : Bytes) :
    Except PkinitError (List OfferedAlgorithm) := do
  rejectIf (hintDer.head? ≠ some 0x30) (.asn1 "PA-PK-AS-REQ-Hint: expected SEQUENCE")
  let (outerLen, outerHdr) ← derParseLength usizeBits hintDer.tail
  let outerStart := usizeAdd usizeBits 1 outerHdr
  rejectIf (hintDer.length < usizeAdd usizeBits outerStart outerLen)
    (.asn1 "PA-PK-AS-REQ-Hint: truncated outer SEQUENCE")
  let outerContent ← slice hintDer outerStart (usizeAdd usizeBits outerStart outerLen)
  if outerContent.head? ≠ some 0xA0 then
    return []
  let (tag0Len, tag0Hdr) ← derParseLength usizeBits outerContent.tail
  let tag0Start := usizeAdd usizeBits 1 tag0Hdr
  rejectIf (outerContent.length < usizeAdd usizeBits tag0Start tag0Len)
    (.asn1 "PA-PK-AS-REQ-Hint: truncated [0] content")
  let tag0Content ← slice outerContent tag0Start (usizeAdd usizeBits tag0Start tag0Len)
  let algIds ← (synta.algorithmIdentifiers.fromDer tag0Content).mapError
    (asn1Err "decode ephemeralKeyParameters")
  algIds.mapM (offeredAlgorithm synta)

end Kurbu5Pkinit

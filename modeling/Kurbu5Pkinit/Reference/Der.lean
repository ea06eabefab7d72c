import Kurbu5Pkinit.Crypto.Kdf
import Kurbu5Pkinit.KemTypes
import Kurbu5Pkinit.Library.Base64

/-!
# A reference encoding

The platform leaves the ASN.1 library open. To run the model on messages as
they are on the wire, this module and the next implement the library: values
of the distinguished encoding, readers for them, and codecs whose encoder
writes only what the decoder reads back.

A reader takes a value off the front of its input. The framing law is
`splitTlv_tlv`: a value that was written is split off again, whatever follows.
-/

set_option autoImplicit false

namespace Kurbu5Pkinit.Reference

open Library

/-! ## Values -/

/-- A value: its identifier, its length and its content. -/
def tlv (tag : UInt8) (content : Bytes) : Bytes :=
  tag :: derEncodeLength content.length ++ content

/-- The value at the front of the input, and what follows it. -/
def splitTlv : Bytes → Option ((UInt8 × Bytes) × Bytes)
  | [] => none
  | tag :: input =>
      match derParseLength 64 input with
      | .error _ => none
      | .ok (len, header) =>
          if header + len ≤ input.length then
            some ((tag, (input.drop header).take len), input.drop (header + len))
          else
            none

/-- **A value that was written is split off again.** -/
theorem splitTlv_tlv (tag : UInt8) {content : Bytes} (small : content.length < 2 ^ 32)
    (rest : Bytes) : splitTlv (tlv tag content ++ rest) = some ((tag, content), rest) := by
  have parsed := @derParseLength_derEncodeLength 64 content.length (by decide) small
    (Nat.lt_of_lt_of_le small (by decide)) (content ++ rest)
  unfold tlv splitTlv
  simp only [List.cons_append, List.append_assoc, parsed]
  simp

theorem length_lt_of_splitTlv {input rest : Bytes} {value : UInt8 × Bytes}
    (split : splitTlv input = some (value, rest)) : rest.length < input.length := by
  cases input with
  | nil => cases split
  | cons tag input =>
      simp only [splitTlv] at split
      split at split
      · cases split
      · split at split
        · cases split
          simp only [List.length_drop, List.length_cons]
          omega
        · cases split

theorem length_le_tlv (tag : UInt8) (content : Bytes) :
    content.length ≤ (tlv tag content).length := by
  simp only [tlv, List.cons_append, List.length_cons, List.length_append]
  omega

/-! ## Readers -/

/-- Take something off the front of the input. -/
abbrev Reader (α : Type) : Type := Bytes → Option (α × Bytes)

namespace Reader

variable {α β : Type}

instance : Monad Reader where
  pure x := fun input => some (x, input)
  bind read next := fun input =>
    match read input with
    | some (x, rest) => next x rest
    | none => none

def fail : Reader α := fun _ => none

/-- The content of a value with this identifier. -/
def content (tag : UInt8) : Reader Bytes := fun input =>
  match splitTlv input with
  | some ((found, content), rest) => if found = tag then some (content, rest) else none
  | none => none

/-- One value of any kind, as it was written. -/
def raw : Reader Bytes := fun input =>
  match splitTlv input with
  | some (_, rest) => some (input.take (input.length - rest.length), rest)
  | none => none

/-- Read all of a value's content. -/
def within (tag : UInt8) (inner : Reader α) : Reader α := do
  let bytes ← content tag
  match inner bytes with
  | some (x, []) => return x
  | _ => fail

/-- A value that may be missing, told by its identifier. -/
def optional (tag : UInt8) (inner : Reader α) : Reader (Option α) := fun input =>
  if input.head? = some tag then
    (inner input).map fun (x, rest) => (some x, rest)
  else
    some (none, input)

/-- Something when there is input left. -/
def unlessEnd (inner : Reader α) : Reader (Option α) := fun input =>
  if input.isEmpty then
    some (none, input)
  else
    (inner input).map fun (x, rest) => (some x, rest)

def manyWithin (inner : Reader α) : Nat → Reader (List α)
  | _, [] => some ([], [])
  | 0, _ :: _ => none
  | fuel + 1, byte :: input =>
      match inner (byte :: input) with
      | some (x, rest) => (manyWithin inner fuel rest).map fun (xs, rest) => (x :: xs, rest)
      | none => none

/-- As many as the input holds. -/
def many (inner : Reader α) : Reader (List α) := fun input =>
  manyWithin inner input.length input

/-- Read all of the input. -/
def whole (read : Reader α) (der : Bytes) : Except String α :=
  match read der with
  | some (x, []) => .ok x
  | _ => .error "malformed encoding"

/-! What a reader makes of a value that was written. -/

/-- Reading all of a value's content takes the value off the front. -/
theorem within_tlv {tag : UInt8} {bytes : Bytes} (inner : Reader α)
    (small : bytes.length < 2 ^ 32) (rest : Bytes) :
    within tag inner (tlv tag bytes ++ rest) = (inner.whole bytes).toOption.map (·, rest) := by
  have found : content tag (tlv tag bytes ++ rest) = some (bytes, rest) := by
    simp [content, splitTlv_tlv tag small rest]
  unfold within
  simp only [Bind.bind, found, whole]
  split
  · next read =>
      rw [read]
      rfl
  · rfl

theorem raw_tlv (tag : UInt8) {bytes : Bytes} (small : bytes.length < 2 ^ 32) (rest : Bytes) :
    raw (tlv tag bytes ++ rest) = some (tlv tag bytes, rest) := by
  simp [raw, splitTlv_tlv tag small rest]

theorem whole_eq_ok {read : Reader α} {der : Bytes} {x : α} :
    read.whole der = .ok x ↔ read der = some (x, []) := by
  unfold whole
  split <;> simp_all

theorem whole_within {tag : UInt8} {bytes : Bytes} {inner : Reader α}
    (small : bytes.length < 2 ^ 32) :
    (within tag inner).whole (tlv tag bytes) = inner.whole bytes := by
  have found := @within_tlv _ tag _ inner small []
  rw [List.append_nil] at found
  unfold whole at found ⊢
  rw [found]
  rcases inner bytes with _ | ⟨x, _ | ⟨byte, left⟩⟩ <;> rfl

theorem mapM_eq_some_self {read : α → Option α} {xs : List α} :
    xs.mapM read = some xs ↔ ∀ x ∈ xs, read x = some x := by
  induction xs with
  | nil => simp
  | cons x xs ih => simp [List.mapM_cons, ← ih, Option.bind_eq_some_iff]

/-- **A repetition reads its pieces one by one.** -/
theorem many_flatMap {inner : Reader α} {write : β → Bytes} {read : β → Option α} {xs : List β}
    (pieces : ∀ x ∈ xs, write x ≠ [] ∧
      ∀ rest, inner (write x ++ rest) = (read x).map (·, rest)) :
    many inner (xs.flatMap write) = (xs.mapM read).map (·, []) := by
  suffices fueled : ∀ fuel, (xs.flatMap write).length ≤ fuel →
      manyWithin inner fuel (xs.flatMap write) = (xs.mapM read).map (·, []) from
    fueled _ le_rfl
  induction xs with
  | nil =>
      intro fuel _
      cases fuel <;> rfl
  | cons x xs ih =>
      intro fuel enough
      obtain ⟨nonempty, reads⟩ := pieces x List.mem_cons_self
      rw [List.flatMap_cons] at enough ⊢
      have first := reads (xs.flatMap write)
      cases piece : write x with
      | nil => exact absurd piece nonempty
      | cons byte bytes =>
          rw [piece, List.cons_append] at first enough
          cases fuel with
          | zero => simp at enough
          | succ fuel =>
              have tail := ih (fun y member => pieces y (List.mem_cons_of_mem x member)) fuel (by
                simp only [List.length_cons, List.length_append] at enough
                omega)
              rw [List.cons_append, manyWithin, first]
              cases taken : read x with
              | none => simp [List.mapM_cons, taken]
              | some y =>
                  simp only [Option.map_some, tail, List.mapM_cons, taken]
                  cases xs.mapM read <;> rfl

end Reader

/-! ## Codecs -/

/-- Write what is read back, and no more than lengths can say. -/
def checked {α : Type} [DecidableEq α] (write : α → Bytes) (read : Reader α) : Codec α where
  fromDer := read.whole
  toDer x :=
    if (write x).length < 2 ^ 32 then
      match read.whole (write x) with
      | .ok y => if y = x then .ok (write x) else .error "value has no encoding"
      | .error e => .error e
    else
      .error "encoding too long"

section Checked

variable {α : Type} [DecidableEq α] {write : α → Bytes} {read : Reader α}

theorem checked_toDer_eq_ok {x : α} {der : Bytes}
    (encoded : (checked write read).toDer x = .ok der) :
    der = write x ∧ der.length < 2 ^ 32 ∧ read.whole der = .ok x := by
  simp only [checked] at encoded
  split at encoded
  · next small =>
      split at encoded
      · next y reads =>
          split at encoded
          · next same =>
              cases encoded
              exact ⟨rfl, small, same ▸ reads⟩
          · cases encoded
      · cases encoded
  · cases encoded

theorem checked_toDer_of_reads {x : α} (small : (write x).length < 2 ^ 32)
    (reads : read.whole (write x) = .ok x) : (checked write read).toDer x = .ok (write x) := by
  simp only [checked, if_pos small, reads, if_true]

/-- **A checked codec round trips.** -/
theorem checked_roundTrips : (checked write read).RoundTrips :=
  fun _ _ encoded => (checked_toDer_eq_ok encoded).2.2

end Checked

/-! ## Numbers -/

/-- The last bytes of a number, most significant first. -/
def bytesOfNat (width value : Nat) : Bytes :=
  (List.range width).map fun index => UInt8.ofNat (value >>> (8 * (width - 1 - index)))

def natOfBytes (bytes : Bytes) : Nat :=
  bytes.foldl (fun value byte => value * 256 + byte.toNat) 0

/-- The bytes of a two's complement number, as few as hold it. -/
def integerBytes : Int → Bytes
  | .ofNat n => bytesOfNat ((n.log2 + 1) / 8 + 1) n
  | .negSucc n =>
      let width := (n.log2 + 1) / 8 + 1
      bytesOfNat width (2 ^ (8 * width) - 1 - n)

def integerOfBytes (bytes : Bytes) : Int :=
  match bytes with
  | [] => 0
  | first :: _ =>
      if first < 0x80 then natOfBytes bytes else natOfBytes bytes - 2 ^ (8 * bytes.length)

def writeInteger (value : Int) : Bytes :=
  tlv 0x02 (integerBytes value)

def readInteger : Reader Int :=
  integerOfBytes <$> Reader.content 0x02

/-! ## Object identifiers -/

/-- An arc, seven bits a byte, all but the last marked. -/
def arcBytes (arc : Nat) : Bytes :=
  let width := arc.log2 / 7 + 1
  (List.range width).map fun index =>
    let digit := (arc >>> (7 * (width - 1 - index))) % 128
    UInt8.ofNat (if index + 1 < width then digit + 128 else digit)

/-- The arcs of an identifier's content; `pending` is the arc being read. -/
def arcsOfBytes (pending : Nat) : Bytes → List Nat
  | [] => []
  | byte :: rest =>
      let arc := pending * 128 + byte.toNat % 128
      if byte < 0x80 then arc :: arcsOfBytes 0 rest else arcsOfBytes arc rest

/-- The first two arcs share a number. -/
def writeOid : Oid → Bytes
  | first :: second :: rest => tlv 0x06 ((40 * first + second) :: rest |>.flatMap arcBytes)
  | _ => []

def readOid : Reader Oid := do
  match arcsOfBytes 0 (← Reader.content 0x06) with
  | shared :: rest =>
      let first := min (shared / 40) 2
      return first :: (shared - 40 * first) :: rest
  | [] => Reader.fail

/-- Whether an identifier can be written: arcs of a machine word under one of
the three roots. -/
def isEncodable : Oid → Bool
  | first :: second :: rest =>
      (first ≤ 2 && (first == 2 || second < 40) && second < 2 ^ 32) && rest.all (· < 2 ^ 32)
  | _ => false

/-! ## Strings and times -/

def writeOctets (octets : Bytes) : Bytes :=
  tlv 0x04 octets

def readOctets : Reader Bytes :=
  Reader.content 0x04

def writeBitString (bits : BitString) : Bytes :=
  tlv 0x03 (UInt8.ofNat bits.unusedBits :: bits.bytes)

def readBitString : Reader BitString := do
  match ← Reader.content 0x03 with
  | unused :: bytes => return ⟨bytes, unused.toNat⟩
  | [] => Reader.fail

def textOfBytes (bytes : Bytes) : String :=
  String.ofList (bytes.map fun byte => Char.ofNat byte.toNat)

/-- `count` decimal digits. -/
def digits (count value : Nat) : Bytes :=
  (List.range count).map fun index => UInt8.ofNat (48 + value / 10 ^ (count - 1 - index) % 10)

def numberOfDigits (bytes : Bytes) : Nat :=
  bytes.foldl (fun value byte => value * 10 + (byte.toNat - 48)) 0

/-- Year, month and day of a day count, with years that begin in March and
eras of 400 years. -/
def civilOfDays (days : Nat) : Nat × Nat × Nat :=
  let shifted := days + 719468
  let era := shifted / 146097
  let dayOfEra := shifted % 146097
  let yearOfEra := (dayOfEra - dayOfEra / 1460 + dayOfEra / 36524 - dayOfEra / 146096) / 365
  let dayOfYear := dayOfEra - (365 * yearOfEra + yearOfEra / 4 - yearOfEra / 100)
  let marchMonth := (5 * dayOfYear + 2) / 153
  let day := dayOfYear - (153 * marchMonth + 2) / 5 + 1
  let month := if marchMonth < 10 then marchMonth + 3 else marchMonth - 9
  (yearOfEra + 400 * era + if month ≤ 2 then 1 else 0, month, day)

def daysOfCivil (year month day : Nat) : Nat :=
  let year := if month ≤ 2 then year - 1 else year
  let era := year / 400
  let yearOfEra := year % 400
  let marchMonth := if 2 < month then month - 3 else month + 9
  let dayOfYear := (153 * marchMonth + 2) / 5 + day - 1
  let dayOfEra := yearOfEra * 365 + yearOfEra / 4 - yearOfEra / 100 + dayOfYear
  era * 146097 + dayOfEra - 719468

/-- `YYYYMMDDHHMMSSZ`. -/
def writeTime (time : GeneralizedTime) : Bytes :=
  let seconds := time.unix.toNat
  let (year, month, day) := civilOfDays (seconds / 86400)
  tlv 0x18 (digits 4 year ++ digits 2 month ++ digits 2 day ++ digits 2 (seconds / 3600 % 24) ++
    digits 2 (seconds / 60 % 60) ++ digits 2 (seconds % 60) ++ [90])

def readTime : Reader GeneralizedTime := do
  let text ← Reader.content 0x18
  let field := fun start width => numberOfDigits ((text.drop start).take width)
  if text.length = 15 ∧ text.getLast? = some 90 then
    let days := daysOfCivil (field 0 4) (field 4 2) (field 6 2)
    return ⟨(days * 86400 + field 8 2 * 3600 + field 10 2 * 60 + field 12 2 : Nat)⟩
  else
    Reader.fail

/-! ## Text files -/

def base64 (bytes : Bytes) : Bytes :=
  (Base64.encode bytes).map fun c => UInt8.ofNat c.toNat

/-- Lines of 64 characters. -/
def linesWithin : Nat → Bytes → Bytes
  | _, [] => []
  | 0, _ :: _ => []
  | fuel + 1, c :: text =>
      (c :: text).take 64 ++ 10 :: linesWithin fuel ((c :: text).drop 64)

def writePem (label : String) (der : Bytes) : Bytes :=
  let text := base64 der
  asciiBytes s!"-----BEGIN {label}-----\n" ++ linesWithin text.length text ++
    asciiBytes s!"-----END {label}-----\n"

example : base64 [77, 97, 110, 77] = asciiBytes "TWFuTQ==" := by decide +kernel

example : writeTime ⟨1719600000⟩ = tlv 0x18 (asciiBytes "20240628184000Z") := by decide +kernel

end Kurbu5Pkinit.Reference

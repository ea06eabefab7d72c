import Kurbu5Pkinit.Crypto.Kdf
import Kurbu5Pkinit.Library.Sha1
import Kurbu5Pkinit.Reference.Exchange
import Mathlib.Data.List.GetD

/-!
# The legacy derivation against its specification

A reply key derived without a negotiated function is made from a seed. The
specified seed is the SHA-1 expansion of the secret; the seed in use is the
secret's own first bytes. The two coincide on a secret whose first bytes are
that expansion of it, and only there.
-/

set_option autoImplicit false

namespace Kurbu5Pkinit

open Library

/-! ## The specification -/

/-- The first bytes of `SHA1(0x00 | x) | SHA1(0x01 | x) | …`. -/
def hashedSeed (length : Nat) (secret : Bytes) : Bytes :=
  expand 20 (fun counter => Sha1.hash (UInt8.ofNat counter :: secret)) length

/-- The key of a secret for an encryption type whose seeds have this length. -/
def specifiedKey (o2k : OctetString2Key) (enctype : Int32) (length : Nat) (secret : Bytes) :
    Except PkinitError DerivedKey := do
  let keyData ← o2k.randomToKey enctype (hashedSeed length secret)
  return ⟨enctype, keyData⟩

/-- Each of the secret's first bytes, zeros after its end, is the byte of the
expansion at that place. -/
def PrefixIsHashed (length : Nat) (secret : Bytes) : Prop :=
  ∀ i < length,
    secret.getD i 0 = (Sha1.hash (UInt8.ofNat (i / 20) :: secret)).getD (i % 20) 0

/-- `random_to_key` keeps apart the seeds of an encryption type. -/
def SeedsKept (o2k : OctetString2Key) (enctype : Int32) (length : Nat) : Prop :=
  ∀ seed seed', seed.length = length → seed'.length = length →
    o2k.randomToKey enctype seed = o2k.randomToKey enctype seed' → seed = seed'

/-! ## The seed in use -/

def paddedPrefix (length : Nat) (secret : Bytes) : Bytes :=
  secret.take (min length secret.length) ++
    List.replicate (length - min length secret.length) 0

theorem length_paddedPrefix (length : Nat) (secret : Bytes) :
    (paddedPrefix length secret).length = length := by
  rw [paddedPrefix, List.length_append, List.length_take, List.length_replicate]
  omega

theorem getElem?_paddedPrefix {length i : Nat} (within : i < length) (secret : Bytes) :
    (paddedPrefix length secret)[i]? = some (secret.getD i 0) := by
  unfold paddedPrefix
  by_cases present : i < secret.length
  · rw [List.getElem?_append_left (by rw [List.length_take]; omega),
      List.getElem?_take_of_lt (by omega), List.getElem?_eq_getElem present,
      List.getD_eq_getElem _ _ present]
  · rw [List.getElem?_append_right (by rw [List.length_take]; omega), List.length_take,
      List.getElem?_replicate_of_lt (by omega), List.getD_eq_default _ _ (by omega)]

theorem length_hashedSeed (length : Nat) (secret : Bytes) :
    (hashedSeed length secret).length = length :=
  length_expand (fun _ => Sha1.length_hash _) (by omega) length

theorem getElem?_hashedSeed {length i : Nat} (within : i < length) (secret : Bytes) :
    (hashedSeed length secret)[i]? =
      some ((Sha1.hash (UInt8.ofNat (i / 20) :: secret)).getD (i % 20) 0) := by
  rw [hashedSeed, getElem?_expand (fun _ => Sha1.length_hash _) (by omega) within]
  have inside : i % 20 < (Sha1.hash (UInt8.ofNat (i / 20) :: secret)).length := by
    rw [Sha1.length_hash]
    omega
  rw [List.getElem?_eq_getElem inside, List.getD_eq_getElem _ _ inside]

/-- Lists of one length are equal when they agree at each place. -/
theorem eq_iff_getElem?_of_length {left right : Bytes} {length : Nat}
    (ofLeft : left.length = length) (ofRight : right.length = length) :
    left = right ↔ ∀ i < length, left[i]? = right[i]? := by
  constructor
  · rintro rfl _ _
    rfl
  · intro agree
    apply List.ext_getElem?
    intro i
    by_cases within : i < length
    · exact agree i within
    · rw [List.getElem?_eq_none (by omega), List.getElem?_eq_none (by omega)]

theorem paddedPrefix_eq_hashedSeed_iff {length : Nat} {secret : Bytes} :
    paddedPrefix length secret = hashedSeed length secret ↔ PrefixIsHashed length secret := by
  rw [eq_iff_getElem?_of_length (length_paddedPrefix length secret)
    (length_hashedSeed length secret)]
  unfold PrefixIsHashed
  refine forall₂_congr fun i within => ?_
  rw [getElem?_paddedPrefix within, getElem?_hashedSeed within, Option.some.injEq]

/-- Another byte at a place changes the seed if the place is inside it. -/
theorem paddedPrefix_set_eq_iff {length i : Nat} {secret : Bytes} {byte : UInt8}
    (inside : i < secret.length) (other : byte ≠ secret[i]) :
    paddedPrefix length (secret.set i byte) = paddedPrefix length secret ↔ length ≤ i := by
  rw [eq_iff_getElem?_of_length (length_paddedPrefix length _) (length_paddedPrefix length _)]
  constructor
  · intro agree
    by_contra! within
    have same := agree i within
    rw [getElem?_paddedPrefix within, getElem?_paddedPrefix within, Option.some.injEq,
      List.getD_eq_getElem _ _ (by rwa [List.length_set]), List.getElem_set_self,
      List.getD_eq_getElem _ _ inside] at same
    exact other same
  · intro beyond j within
    have apart : i ≠ j := by omega
    rw [getElem?_paddedPrefix within, getElem?_paddedPrefix within, List.getD_eq_getElem?_getD,
      List.getElem?_set_ne apart, List.getD_eq_getElem?_getD]

/-! ## Keys from seeds -/

section Keys

variable {o2k : OctetString2Key} {enctype : Int32} {length : Nat}

theorem octetstring2key_eq (seedLength : o2k.randomLength enctype = .ok length) (secret : Bytes) :
    octetstring2key o2k secret enctype = (do
      let keyData ← o2k.randomToKey enctype (paddedPrefix length secret)
      return ⟨enctype, keyData⟩) := by
  rw [octetstring2key, seedLength]
  rfl

theorem derived_eq_iff {left right : Except PkinitError Bytes} :
    ((do let keyData ← left; return ⟨enctype, keyData⟩ : Except PkinitError DerivedKey) = do
      let keyData ← right; return ⟨enctype, keyData⟩) ↔ left = right := by
  cases left <;> cases right <;> simp

theorem octetstring2key_eq_specifiedKey (seedLength : o2k.randomLength enctype = .ok length)
    {secret : Bytes} (hashed : PrefixIsHashed length secret) :
    octetstring2key o2k secret enctype = specifiedKey o2k enctype length secret := by
  rw [octetstring2key_eq seedLength, specifiedKey, paddedPrefix_eq_hashedSeed_iff.mpr hashed]

/-- **The legacy derivation meets its specification exactly on the secrets that
begin with their own expansion.** Where seeds are kept apart the condition is
also necessary, and a byte of the secret influences the key exactly when it is
one of the first. -/
theorem octetstring2key_follows_iff (o2k : OctetString2Key) (enctype : Int32) (length : Nat)
    (seedLength : o2k.randomLength enctype = .ok length) :
    (∀ secret, PrefixIsHashed length secret →
      octetstring2key o2k secret enctype = specifiedKey o2k enctype length secret) ∧
    (SeedsKept o2k enctype length → ∀ secret : Bytes,
      (octetstring2key o2k secret enctype = specifiedKey o2k enctype length secret ↔
        PrefixIsHashed length secret) ∧
      ∀ i (inside : i < secret.length) (byte : UInt8), byte ≠ secret[i] →
        (octetstring2key o2k (secret.set i byte) enctype ≠ octetstring2key o2k secret enctype ↔
          i < length)) := by
  refine ⟨fun secret hashed => octetstring2key_eq_specifiedKey seedLength hashed, ?_⟩
  intro kept secret
  refine ⟨⟨fun same => ?_, octetstring2key_eq_specifiedKey seedLength⟩, ?_⟩
  · rw [octetstring2key_eq seedLength, specifiedKey, derived_eq_iff] at same
    exact paddedPrefix_eq_hashedSeed_iff.mp
      (kept _ _ (length_paddedPrefix _ _) (length_hashedSeed _ _) same)
  · intro i inside byte other
    rw [octetstring2key_eq seedLength, octetstring2key_eq seedLength, Ne, derived_eq_iff,
      ← Nat.not_le, ← paddedPrefix_set_eq_iff inside other, not_iff_not]
    exact ⟨kept _ _ (length_paddedPrefix _ _) (length_paddedPrefix _ _), congrArg _⟩

end Keys

namespace Reference

/-- AES keys are their seeds. -/
theorem seedsKept_aes256 : SeedsKept (krb5OctetString2Key recorded) 18 32 := by
  have identity : ∀ seed : Bytes, seed.length = 32 →
      (krb5OctetString2Key recorded).randomToKey 18 seed = .ok seed := by
    intro seed long
    have keylengths : recorded.krb5.keylengths 18 = .ok (32, 32) := rfl
    simp only [krb5OctetString2Key, keylengths, mapError_ok, ok_bind]
    have kept : recorded.krb5.randomToKey 18 32 seed = .ok seed := if_pos long
    rw [kept, mapError_ok]
  intro seed seed' long long' same
  rw [identity seed long, identity seed' long'] at same
  exact Except.ok.inj same

/-- A Diffie-Hellman secret of 64 bytes. -/
def repeatedSecret : Bytes := List.replicate 64 0x42

end Reference

/-- The last byte of a secret of 64 bytes does not influence an AES-256 key. -/
theorem octetstring2key_follows_iff_lastByte :
    ¬octetstring2key (krb5OctetString2Key Reference.recorded)
        (Reference.repeatedSecret.set 63 0) 18 ≠
      octetstring2key (krb5OctetString2Key Reference.recorded) Reference.repeatedSecret 18 := by
  have influences := ((octetstring2key_follows_iff (krb5OctetString2Key Reference.recorded) 18 32
    rfl).2 Reference.seedsKept_aes256 Reference.repeatedSecret).2 63 (by decide) 0 (by decide)
  rw [influences]
  decide

/-- For that secret the key is its first half, and not the hashed seed. -/
theorem legacyKey_not_hashed :
    (krb5OctetString2Key Reference.recorded).randomLength 18 = .ok 32 ∧
      octetstring2key (krb5OctetString2Key Reference.recorded) Reference.repeatedSecret 18 =
        .ok ⟨18, List.replicate 32 0x42⟩ ∧
      specifiedKey (krb5OctetString2Key Reference.recorded) 18 32 Reference.repeatedSecret =
        .ok ⟨18, Reference.bytesOfNat 32
          0xC474008351171508D02B34EE9B64EA54767874B880799D2F5DC4658644E03164⟩ ∧
      octetstring2key (krb5OctetString2Key Reference.recorded) Reference.repeatedSecret 18 ≠
        specifiedKey (krb5OctetString2Key Reference.recorded) 18 32 Reference.repeatedSecret := by
  decide +kernel

end Kurbu5Pkinit

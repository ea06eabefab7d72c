import Kurbu5Pkinit.Framing
import Kurbu5Pkinit.Matching

/-!
# The matching rules

A rule of `pkinit_cert_match` is a disjunction of conjunctions of leaves. It is
split at `||` and each part at `&&`, outside angle brackets; a leaf is a tag in
brackets and the value after it. A rule is evaluated on a certificate from
left to right, and no further than its value is known.
-/

set_option autoImplicit false

namespace Kurbu5Pkinit

open Library

/-! ## Texts -/

/-- `char::is_whitespace`. -/
def isWhitespace (c : Char) : Bool :=
  9 ≤ c.toNat ∧ c.toNat ≤ 13 ∨ 0x2000 ≤ c.toNat ∧ c.toNat ≤ 0x200A ∨
    c.toNat ∈ [0x20, 0x85, 0xA0, 0x1680, 0x2028, 0x2029, 0x202F, 0x205F, 0x3000]

/-- `str::trim`. -/
def trim (text : List Char) : List Char :=
  ((text.dropWhile isWhitespace).reverse.dropWhile isWhitespace).reverse

/-- `str::as_bytes`. -/
def utf8 (text : List Char) : Bytes :=
  text.flatMap String.utf8EncodeChar

/-- `&text[start..stop]`. -/
def sliceText (text : List Char) (start stop : Nat) : Except PkinitError (List Char) :=
  okOr (sliceBytes text start stop) (.panicked "byte index is not a char boundary")

/-- The value of a digit, `char::to_digit`. -/
def toDigit (radix : Nat) (c : Char) : Option Nat :=
  let value :=
    if '0' ≤ c ∧ c ≤ '9' then some (c.toNat - '0'.toNat)
    else if 'a' ≤ c ∧ c ≤ 'z' then some (c.toNat - 'a'.toNat + 10)
    else if 'A' ≤ c ∧ c ≤ 'Z' then some (c.toNat - 'A'.toNat + 10)
    else none
  value.filter fun value => value < radix

/-- One more digit of an unsigned number below `bound`. -/
def pushDigit (radix bound : Nat) (result : Nat) (c : Char) : Except String Nat := do
  let digit ← okOr (toDigit radix c) "invalid digit found in string"
  rejectIf (bound ≤ result * radix + digit) "number too large to fit in target type"
  return result * radix + digit

/-- `from_str_radix` of an unsigned type, whose values are below `bound`. -/
def fromStrRadix (radix bound : Nat) (src : List Char) : Except String Nat :=
  match src with
  | [] => .error "cannot parse integer from empty string"
  | ['+'] => .error "invalid digit found in string"
  | '+' :: digits => digits.foldlM (pushDigit radix bound) 0
  | digits => digits.foldlM (pushDigit radix bound) 0

/-! ## Rules -/

inductive MatchRule where
  | subject (pattern : String)
  | issuer (pattern : String)
  | san (pattern : String)
  | eku (oid : List UInt32)
  | ku (bits : UInt16)
  | and (rules : List MatchRule)
  | or (rules : List MatchRule)

structure CertMatcher where
  rule : MatchRule

section Parse

variable (build : Build)

/-- The depth of angle brackets after one more byte. -/
def bracketDepth (depth : Nat) (byte : UInt8) : Except PkinitError Nat :=
  if byte = 0x3C then
    build.add 32 depth 1
  else if byte = 0x3E then
    .ok (depth - 1)
  else
    .ok depth

/-- The pieces between separators. The loop is at `i`, the last piece started
at `last`, and the bytes `rest` are not read yet. -/
def splitTopLevelFrom (input : List Char) (sep : Bytes) (rest : Bytes) (i last depth : Nat) :
    Except PkinitError (List (List Char)) :=
  match rest with
  | [] => do return [← sliceText input last (byteLength input)]
  | byte :: tail => do
      let depth ← bracketDepth build depth byte
      if depth = 0 ∧ sep <+: byte :: tail then
        let part ← sliceText input last i
        let parts ← splitTopLevelFrom input sep (tail.drop (sep.length - 1)) (i + sep.length)
          (i + sep.length) depth
        return part :: parts
      else
        splitTopLevelFrom input sep tail (i + 1) last depth
termination_by rest.length
decreasing_by all_goals simp only [List.length_cons, List.length_drop]; omega

def splitTopLevel (input sep : List Char) : Except PkinitError (List (List Char)) :=
  splitTopLevelFrom build input (utf8 sep) (utf8 input) 0 0 0

/-- The arcs of an object identifier. -/
def parseArcs (value : List Char) : Except PkinitError (List UInt32) :=
  ((splitChars '.' value).mapM fun arc => UInt32.ofNat <$> fromStrRadix 10 (2 ^ 32) arc).mapError
    fun e => .config s!"invalid EKU OID {String.ofList value}: {e}"

def parseLeaf (input : List Char) : Except PkinitError MatchRule := do
  let input := trim input
  rejectIf (input.head? ≠ some '<')
    (.config s!"match rule must start with <TAG>: {String.ofList input}")
  let close ← okOr (findText ['>'] input)
    (.config s!"match rule missing closing >: {String.ofList input}")
  let tag ← sliceText input 1 close
  let value ← sliceText input (close + 1) (byteLength input)
  match String.ofList tag with
  | "SUBJECT" => return .subject (String.ofList value)
  | "ISSUER" => return .issuer (String.ofList value)
  | "SAN" => return .san (String.ofList value)
  | "EKU" => return .eku (← parseArcs value)
  | "KU" =>
      let bits ← (fromStrRadix 16 (2 ^ 16) value).mapError
        fun e => .config s!"invalid KU hex {String.ofList value}: {e}"
      return .ku (UInt16.ofNat bits)
  | tag => throw (.config s!"unknown match rule tag: {tag}")

/-- Parse the parts between separators; a part on its own is the rule. -/
def parseParts (sep : List Char) (parsePart : List Char → Except PkinitError MatchRule)
    (joined : List MatchRule → MatchRule) (input : List Char) : Except PkinitError MatchRule := do
  match ← splitTopLevel build input sep with
  | [part] => parsePart part
  | parts => joined <$> parts.mapM parsePart

def parseAnd : List Char → Except PkinitError MatchRule :=
  parseParts build ['&', '&'] parseLeaf .and

def parseOr : List Char → Except PkinitError MatchRule :=
  parseParts build ['|', '|'] (parseAnd build) .or

def CertMatcher.parse (ruleStr : String) : Except PkinitError CertMatcher :=
  CertMatcher.mk <$> parseOr build (trim ruleStr.toList)

end Parse

/-! ## Evaluation -/

section Evaluate

variable (platform : Platform) (formatDn : Bytes → String) (certDer : Bytes)

def extractSubjectDn : Except PkinitError String := do
  let cert ← (platform.synta.certificate.fromDer certDer).mapError (asn1Err "decoding cert")
  return formatDn cert.tbsCertificate.subject

def extractIssuerDn : Except PkinitError String := do
  let cert ← (platform.synta.certificate.fromDer certDer).mapError (asn1Err "decoding cert")
  return formatDn cert.tbsCertificate.issuer

/-- Whether some name matches, up to the first that does. -/
def anyMatches (pattern : String) : List String → Except PkinitError Bool
  | [] => .ok false
  | name :: names => do
      if ← simpleMatch name pattern then
        return true
      else
        anyMatches pattern names

mutual
def evaluate : MatchRule → Except PkinitError Bool
  | .subject pattern => do
      let dn ← extractSubjectDn platform formatDn certDer
      simpleMatch dn pattern
  | .issuer pattern => do
      let dn ← extractIssuerDn platform formatDn certDer
      simpleMatch dn pattern
  | .san pattern => do
      let pkinitSans ← extractPkinitSans platform certDer
      let upnSans ← extractUpnSans platform certDer
      let dnsNames ← extractDnsNames platform certDer
      anyMatches pattern (pkinitSans ++ upnSans ++ dnsNames)
  | .eku oid => do
      let ekus ← extractEkuOids platform certDer
      return ekus.any fun e => e = oid.map UInt32.toNat
  | .ku bits => do
      let ku ← extractKeyUsage platform certDer
      return ku &&& bits.toNat = bits.toNat
  | .and rules => evaluateAll rules
  | .or rules => evaluateAny rules

def evaluateAll : List MatchRule → Except PkinitError Bool
  | [] => .ok true
  | rule :: rules => do
      if ← evaluate rule then
        evaluateAll rules
      else
        return false

def evaluateAny : List MatchRule → Except PkinitError Bool
  | [] => .ok false
  | rule :: rules => do
      if ← evaluate rule then
        return true
      else
        evaluateAny rules
end

def CertMatcher.matchesCert (matcher : CertMatcher) : Except PkinitError Bool :=
  evaluate platform formatDn certDer matcher.rule

end Evaluate

end Kurbu5Pkinit

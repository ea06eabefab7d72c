import Kurbu5Pkinit.Identity
import Kurbu5Pkinit.Library.Escaping

/-!
# The URI of a token's certificates

The identity of a token is a PKCS#11 URI: attributes in any order, and a query.
The certificates are looked up under the same URI with `type=cert` in place of
whatever type it selected. The type is recognised among the pieces between
semicolons, and the first of these has the scheme in front of it, so a type
that comes first stays, beside the one that is added (`pkcs11CertUri_selects_iff`).
-/

set_option autoImplicit false

namespace Kurbu5Pkinit

open Library

/-! ## URIs -/

/-- Whether an attribute of the path selects the type of object. -/
def isTypeAttribute (a : String) : Bool :=
  "type=".toList.isPrefixOf a.toList

/-- Attributes under the scheme, and the query. -/
def pkcs11UriText (attributes : List String) (query : Option String) : String :=
  "pkcs11:" ++ ";".intercalate attributes ++ (match query with
    | some query => "?" ++ query
    | none => "")

/-- A PKCS#11 URI: attributes that are not empty and hold no separator. -/
structure Pkcs11Uri where
  attributes : List String
  query : Option String
  separate : ∀ a ∈ attributes, a ≠ "" ∧ ';' ∉ a.toList ∧ '?' ∉ a.toList

def Pkcs11Uri.text (uri : Pkcs11Uri) : String :=
  pkcs11UriText uri.attributes uri.query

/-- The text of a URI that selects certificates as `uri` does objects: the
other attributes and the query are the same, and the only type is `type=cert`. -/
def SelectsCertificates (uri : Pkcs11Uri) (text : String) : Prop :=
  ∃ uri' : Pkcs11Uri, text = uri'.text ∧ uri'.query = uri.query ∧
    (uri'.attributes.filter fun a => !isTypeAttribute a) =
      (uri.attributes.filter fun a => !isTypeAttribute a) ∧
    uri'.attributes.filter isTypeAttribute = ["type=cert"]

/-! ## The derived URI -/

/-- What becomes of the attributes: those between semicolons lose their types,
the one after the scheme does not. -/
def certAttributes (attributes : List String) : List String :=
  attributes.headD "" :: (attributes.tail.filter fun a => !isTypeAttribute a) ++ ["type=cert"]

theorem splitOnce_of_not_mem {separator : Char} {text : String} (absent : separator ∉ text.toList) :
    splitOnce separator text = none :=
  if_neg absent

theorem splitOnce_append {separator : Char} {text rest : String}
    (absent : separator ∉ text.toList) :
    splitOnce separator (text ++ String.singleton separator ++ rest) = some (text, rest) := by
  have others : ∀ c ∈ text.toList, decide (c ≠ separator) = true := by
    intro c member
    simpa using fun same : c = separator => absent (same ▸ member)
  have chars : (text ++ String.singleton separator ++ rest).toList =
      text.toList ++ separator :: rest.toList := by
    simp
  unfold splitOnce
  rw [chars, if_pos (by simp), List.takeWhile_append_of_pos others,
    List.dropWhile_append_of_pos others, List.takeWhile_cons_of_neg (by simp),
    List.dropWhile_cons_of_neg (by simp)]
  simp

/-- Splitting undoes joining. -/
theorem split_intercalate {separator : Char} {pieces : List String} (nonempty : pieces ≠ [])
    (absent : ∀ piece ∈ pieces, separator ∉ piece.toList) :
    split separator ((String.singleton separator).intercalate pieces) = pieces := by
  unfold split
  rw [splitChars_eq_splitOn, String.toList_intercalate, String.toList_singleton,
    List.splitOn_intercalate separator (by simpa using absent) (by simpa using nonempty)]
  simp

/-- No attribute holds a separator of the URI. -/
def Separate (attributes : List String) : Prop :=
  ∀ a ∈ attributes, ';' ∉ a.toList ∧ '?' ∉ a.toList

theorem Separate.headD {attributes : List String} (separate : Separate attributes) :
    ';' ∉ (attributes.headD "").toList ∧ '?' ∉ (attributes.headD "").toList := by
  cases attributes with
  | nil => exact ⟨List.not_mem_nil, List.not_mem_nil⟩
  | cons a rest => exact separate a List.mem_cons_self

theorem separate_certAttributes {attributes : List String} (separate : Separate attributes) :
    Separate (certAttributes attributes) := by
  intro a member
  simp only [certAttributes, List.cons_append, List.mem_cons, List.mem_append, List.mem_filter,
    List.not_mem_nil, or_false] at member
  rcases member with rfl | ⟨member, _⟩ | rfl
  · exact separate.headD
  · exact separate a (List.mem_of_mem_tail member)
  · exact ⟨by decide, by decide⟩

/-- The scheme and the attributes, piece by piece. -/
theorem scheme_append_intercalate (attributes : List String) :
    "pkcs11:" ++ ";".intercalate attributes =
      ";".intercalate (("pkcs11:" ++ attributes.headD "") :: attributes.tail) := by
  cases attributes with
  | nil => rfl
  | cons a rest => rw [String.intercalate_cons_append]; rfl

/-- The path of a URI, in pieces. -/
theorem split_path {attributes : List String} (separate : Separate attributes) :
    split ';' ("pkcs11:" ++ ";".intercalate attributes) =
      ("pkcs11:" ++ attributes.headD "") :: attributes.tail := by
  rw [scheme_append_intercalate]
  refine split_intercalate (List.cons_ne_nil _ _) ?_
  intro piece member
  rcases List.mem_cons.mp member with rfl | member
  · rw [String.toList_append, List.mem_append, not_or]
    exact ⟨by decide, separate.headD.1⟩
  · exact (separate piece (List.mem_of_mem_tail member)).1

theorem mark_not_mem_path {attributes : List String} (separate : Separate attributes) :
    '?' ∉ ("pkcs11:" ++ ";".intercalate attributes).toList := by
  rw [String.toList_append, List.mem_append, not_or, String.toList_intercalate,
    mem_intercalate_iff (by decide)]
  refine ⟨by decide, ?_⟩
  rintro ⟨piece, member, present⟩
  obtain ⟨a, there, rfl⟩ := List.mem_map.mp member
  exact (separate a there).2 present

/-- The piece that starts with the scheme is not taken for a type. -/
theorem filter_pieces (attributes : List String) :
    ((("pkcs11:" ++ attributes.headD "") :: attributes.tail).filter
        fun c => !("type=".toList.isPrefixOf c.toList)) =
      ("pkcs11:" ++ attributes.headD "") ::
        (attributes.tail.filter fun a => !isTypeAttribute a) := by
  refine List.filter_cons_of_pos ?_
  rw [String.toList_append]
  rfl

/-- The path and the query of a URI. -/
theorem splitOnce_text {attributes : List String} (separate : Separate attributes)
    (query : Option String) :
    splitOnce '?' (pkcs11UriText attributes query) =
      query.map fun query => ("pkcs11:" ++ ";".intercalate attributes, query) := by
  have absent := mark_not_mem_path separate
  cases query with
  | none =>
      rw [pkcs11UriText, String.append_empty]
      exact splitOnce_of_not_mem absent
  | some query =>
      rw [pkcs11UriText, ← String.append_assoc]
      exact splitOnce_append absent

/-- **The derived URI has the attributes of `certAttributes`**, and the
query. -/
theorem pkcs11CertUri_text {attributes : List String} (separate : Separate attributes)
    (query : Option String) :
    pkcs11CertUri (pkcs11UriText attributes query) =
      pkcs11UriText (certAttributes attributes) query := by
  have joined : ";".intercalate (("pkcs11:" ++ attributes.headD "") ::
      (attributes.tail.filter fun a => !isTypeAttribute a) ++ ["type=cert"]) =
        "pkcs11:" ++ ";".intercalate (certAttributes attributes) := by
    rw [List.cons_append, String.intercalate_cons_append]
    rfl
  unfold pkcs11CertUri
  rw [splitOnce_text separate]
  cases query with
  | none =>
      simp only [Option.map_none, pkcs11UriText, String.append_empty, split_path separate,
        filter_pieces, joined]
  | some query =>
      simp only [Option.map_some, pkcs11UriText, split_path separate, filter_pieces, joined,
        String.append_assoc]

theorem certAttributes_certAttributes (attributes : List String) :
    certAttributes (certAttributes attributes) = certAttributes attributes := by
  have cert : isTypeAttribute "type=cert" = true := by decide
  simp [certAttributes, cert]

/-- Deriving a URI again changes nothing. -/
theorem pkcs11CertUri_pkcs11CertUri {attributes : List String} (separate : Separate attributes)
    (query : Option String) :
    pkcs11CertUri (pkcs11CertUri (pkcs11UriText attributes query)) =
      pkcs11CertUri (pkcs11UriText attributes query) := by
  rw [pkcs11CertUri_text separate, pkcs11CertUri_text (separate_certAttributes separate),
    certAttributes_certAttributes]

/-- A text is of one list of attributes at most, where no list and the list of
one empty attribute are the same. -/
theorem pkcs11UriText_inj {attributes attributes' : List String} {query query' : Option String}
    (separate : Separate attributes) (separate' : Separate attributes')
    (same : pkcs11UriText attributes query = pkcs11UriText attributes' query') :
    attributes.headD "" = attributes'.headD "" ∧ attributes.tail = attributes'.tail ∧
      query = query' := by
  have parts := congrArg (splitOnce '?') same
  rw [splitOnce_text separate, splitOnce_text separate'] at parts
  have paths : "pkcs11:" ++ ";".intercalate attributes =
      "pkcs11:" ++ ";".intercalate attributes' ∧ query = query' := by
    cases query with
    | none =>
        cases query' with
        | none =>
            simp only [pkcs11UriText, String.append_empty] at same
            exact ⟨same, rfl⟩
        | some query' => cases parts
    | some query =>
        cases query' with
        | none => cases parts
        | some query' =>
            obtain ⟨path, rfl⟩ := Prod.mk.inj (Option.some.inj parts)
            exact ⟨path, rfl⟩
  have pieces := congrArg (split ';') paths.1
  rw [split_path separate, split_path separate'] at pieces
  obtain ⟨head, tail⟩ := List.cons.inj pieces
  exact ⟨(String.append_right_inj _).mp head, tail, paths.2⟩

/-! ## Which URIs it is right on -/

theorem Pkcs11Uri.separated (uri : Pkcs11Uri) : Separate uri.attributes :=
  fun a member => (uri.separate a member).2

theorem filter_type_certAttributes (a : String) (rest : List String) :
    (certAttributes (a :: rest)).filter isTypeAttribute =
      ([a].filter isTypeAttribute) ++ ["type=cert"] := by
  have cert : isTypeAttribute "type=cert" = true := by decide
  have none : (rest.filter fun a => !isTypeAttribute a).filter isTypeAttribute = [] := by
    rw [List.filter_filter, List.filter_eq_nil_iff]
    simp
  rw [certAttributes, List.headD_cons, List.tail_cons, List.filter_append, List.filter_cons, none]
  by_cases selector : isTypeAttribute a = true <;> simp [selector, cert]

theorem filter_others_certAttributes (a : String) (rest : List String) :
    ((certAttributes (a :: rest)).filter fun a => !isTypeAttribute a) =
      ((a :: rest).filter fun a => !isTypeAttribute a) := by
  have cert : isTypeAttribute "type=cert" = true := by decide
  by_cases selector : isTypeAttribute a = true <;> simp [certAttributes, cert, selector]

theorem selectsCertificates_pkcs11CertUri_iff (uri : Pkcs11Uri) :
    SelectsCertificates uri (pkcs11CertUri uri.text) ↔
      ∃ a rest, uri.attributes = a :: rest ∧ isTypeAttribute a = false := by
  have derived := pkcs11CertUri_text uri.separated uri.query
  constructor
  · rintro ⟨uri', text, _, _, types⟩
    have same := pkcs11UriText_inj (separate_certAttributes uri.separated) uri'.separated
      (derived.symm.trans text)
    have more : uri'.attributes.tail ≠ [] := by
      rw [← same.2.1]
      simp [certAttributes]
    obtain ⟨a', rest', attributes'⟩ := List.exists_cons_of_ne_nil
      fun empty : uri'.attributes = [] => more (congrArg List.tail empty)
    rw [attributes', List.headD_cons, List.tail_cons] at same
    cases attributes : uri.attributes with
    | nil =>
        rw [attributes] at same
        exact absurd same.1.symm (uri'.separate a' (attributes' ▸ List.mem_cons_self)).1
    | cons a rest =>
        refine ⟨a, rest, rfl, ?_⟩
        have whole : uri'.attributes = certAttributes (a :: rest) := by
          rw [attributes', ← same.1, ← same.2.1, attributes]
          rfl
        rw [whole, filter_type_certAttributes] at types
        by_contra selector
        rw [List.filter_cons_of_pos (by simpa using selector)] at types
        cases types
  · rintro ⟨a, rest, attributes, other⟩
    refine ⟨⟨certAttributes uri.attributes, uri.query, ?_⟩, derived, rfl, ?_, ?_⟩
    · intro b member
      refine ⟨?_, separate_certAttributes uri.separated b member⟩
      simp only [attributes, certAttributes, List.headD_cons, List.tail_cons, List.cons_append,
        List.mem_cons, List.mem_append, List.mem_filter, List.not_mem_nil, or_false] at member
      rcases member with rfl | ⟨member, _⟩ | rfl
      · exact (uri.separate b (attributes ▸ List.mem_cons_self)).1
      · exact (uri.separate b (attributes ▸ List.mem_cons_of_mem a member)).1
      · decide
    · simp only [attributes, filter_others_certAttributes]
    · simp [attributes, filter_type_certAttributes, other]

/-- **The derived URI selects certificates exactly where an attribute other
than the type comes first.** Deriving it again never changes it. -/
theorem pkcs11CertUri_selects_iff (uri : Pkcs11Uri) :
    (SelectsCertificates uri (pkcs11CertUri uri.text) ∧
      pkcs11CertUri (pkcs11CertUri uri.text) = pkcs11CertUri uri.text) ↔
      ∃ a rest, uri.attributes = a :: rest ∧ isTypeAttribute a = false := by
  rw [← selectsCertificates_pkcs11CertUri_iff]
  exact and_iff_left (pkcs11CertUri_pkcs11CertUri uri.separated uri.query)

/-- A type that comes first stays, in front of the one that is added. -/
theorem leading_type_kept :
    ∃ uri : Pkcs11Uri, uri.text = "pkcs11:type=private;token=MyToken" ∧
      pkcs11CertUri uri.text = "pkcs11:type=private;token=MyToken;type=cert" ∧
      ¬ SelectsCertificates uri (pkcs11CertUri uri.text) := by
  refine ⟨⟨["type=private", "token=MyToken"], none, by decide⟩, rfl, by decide, ?_⟩
  rw [selectsCertificates_pkcs11CertUri_iff]
  rintro ⟨a, rest, attributes, other⟩
  obtain ⟨rfl, _⟩ := List.cons.inj attributes
  exact absurd other (by decide)

end Kurbu5Pkinit

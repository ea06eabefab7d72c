import Mathlib.Tactic.Common
import Mathlib.Data.List.Nodup

/-!
# Codecs and stream decoders

A wire format is used through two entry points, a decoder from bytes and an
encoder to bytes, each of which may refuse. `Codec.RoundTrips` is the one law
a faithful exchange needs of them: what was encoded decodes to the value it
came from.

A stream decoder takes one value off the front of its input. Its structure
carries the progress law, so the two loops built from it, `drain` (collect
every value) and `scan` (look at each value until one settles the search),
terminate on every input. Both are defined by recursion on the input's length
and used through the unfolding equations below, which do not mention it.
-/

set_option autoImplicit false

namespace Kurbu5Pkinit.Library

/-- A byte string. -/
abbrev Bytes : Type := List UInt8

/-! ## Codecs -/

/-- The decoder and the encoder of one wire type. A refusal is the error's
text. -/
structure Codec (α : Type) where
  fromDer : Bytes → Except String α
  toDer : α → Except String Bytes

namespace Codec

variable {α : Type}

/-- What was encoded decodes to the value it came from. -/
def RoundTrips (codec : Codec α) : Prop :=
  ∀ x der, codec.toDer x = .ok der → codec.fromDer der = .ok x

/-- Two values with one encoding are the same value. -/
theorem RoundTrips.injective {codec : Codec α} (trips : codec.RoundTrips) {x y : α} {der : Bytes}
    (left : codec.toDer x = .ok der) (right : codec.toDer y = .ok der) : x = y := by
  have decoded := trips x der left
  rw [trips y der right] at decoded
  exact (Except.ok.inj decoded).symm

/-- The codec writes these bytes again when it has read them. -/
def Canonical (codec : Codec α) (der : Bytes) : Prop :=
  ∀ x, codec.fromDer der = .ok x → codec.toDer x = .ok der

end Codec

/-! ## Stream decoders -/

/-- A decoder that takes one value off the front of its input and never stands
still. -/
structure StreamDecoder (α : Type) where
  decode : Bytes → Except String (α × Bytes)
  consumes : ∀ {input : Bytes} {value : α} {rest : Bytes},
    decode input = .ok (value, rest) → rest.length < input.length

namespace StreamDecoder

variable {α β ε : Type}

/-- The decoder yields the value somewhere along the input. -/
inductive Yields (decoder : StreamDecoder α) : Bytes → α → Prop
  | here {input rest : Bytes} {value : α} (head : decoder.decode input = .ok (value, rest)) :
      Yields decoder input value
  | later {input rest : Bytes} {skipped value : α}
      (head : decoder.decode input = .ok (skipped, rest)) (tail : Yields decoder rest value) :
      Yields decoder input value

/-- Decode until the input is empty, collecting every value. -/
def drainWithin (decoder : StreamDecoder α) (failed : String → ε) :
    Nat → Bytes → Except ε (List α)
  | _, [] => .ok []
  | 0, _ :: _ => .ok []
  | fuel + 1, byte :: input => do
      let (value, rest) ← (decoder.decode (byte :: input)).mapError failed
      let values ← drainWithin decoder failed fuel rest
      return value :: values

/-- Decode the whole input. -/
def drain (decoder : StreamDecoder α) (failed : String → ε) (input : Bytes) :
    Except ε (List α) :=
  drainWithin decoder failed input.length input

/-- Decode values until `visit` settles the search, with the given outcome
when the input ends first. -/
def scanWithin (decoder : StreamDecoder α) (failed : String → ε)
    (visit : α → Except ε (Option β)) (atEnd : Except ε β) : Nat → Bytes → Except ε β
  | _, [] => atEnd
  | 0, _ :: _ => atEnd
  | fuel + 1, byte :: input => do
      let (value, rest) ← (decoder.decode (byte :: input)).mapError failed
      match ← visit value with
      | some found => return found
      | none => scanWithin decoder failed visit atEnd fuel rest

/-- Search the whole input. -/
def scan (decoder : StreamDecoder α) (failed : String → ε)
    (visit : α → Except ε (Option β)) (atEnd : Except ε β) (input : Bytes) : Except ε β :=
  scanWithin decoder failed visit atEnd input.length input

variable {decoder : StreamDecoder α} {failed : String → ε}
  {visit : α → Except ε (Option β)} {atEnd : Except ε β}

/-! More fuel than the input has bytes changes nothing: every value decoded
takes at least one of them. -/

theorem drainWithin_of_length_le {fuel : Nat} {input : Bytes} (enough : input.length ≤ fuel) :
    drainWithin decoder failed fuel input = drain decoder failed input := by
  unfold drain
  induction fuel using Nat.strongRecOn generalizing input with
  | ind fuel ih =>
      cases input with
      | nil => simp [drainWithin]
      | cons byte input =>
          cases fuel with
          | zero => simp at enough
          | succ fuel =>
              simp only [drainWithin, List.length_cons]
              cases head : decoder.decode (byte :: input) with
              | error e => rfl
              | ok taken =>
                  have shorter := @StreamDecoder.consumes _ decoder _ _ taken.2 head
                  simp only [List.length_cons] at shorter enough
                  have left := @ih fuel (by omega) taken.2 (by omega)
                  have right := @ih input.length (by omega) taken.2 (by omega)
                  simp [Except.mapError, Bind.bind, Except.bind, left, right]

theorem scanWithin_of_length_le {fuel : Nat} {input : Bytes} (enough : input.length ≤ fuel) :
    scanWithin decoder failed visit atEnd fuel input =
      scan decoder failed visit atEnd input := by
  unfold scan
  induction fuel using Nat.strongRecOn generalizing input with
  | ind fuel ih =>
      cases input with
      | nil => simp [scanWithin]
      | cons byte input =>
          cases fuel with
          | zero => simp at enough
          | succ fuel =>
              simp only [scanWithin, List.length_cons]
              cases head : decoder.decode (byte :: input) with
              | error e => rfl
              | ok taken =>
                  have shorter := @StreamDecoder.consumes _ decoder _ _ taken.2 head
                  simp only [List.length_cons] at shorter enough
                  have left := @ih fuel (by omega) taken.2 (by omega)
                  have right := @ih input.length (by omega) taken.2 (by omega)
                  simp only [Except.mapError, Bind.bind, Except.bind, left, right]

/-- One turn of the collecting loop. -/
theorem drain_of_ne_nil {input : Bytes} (nonempty : input ≠ []) :
    drain decoder failed input = (do
      let (value, rest) ← (decoder.decode input).mapError failed
      let values ← drain decoder failed rest
      return value :: values) := by
  cases input with
  | nil => exact absurd rfl nonempty
  | cons byte input =>
      conv_lhs => unfold drain
      simp only [drainWithin, List.length_cons]
      cases head : decoder.decode (byte :: input) with
      | error e => rfl
      | ok taken =>
          have shorter := @StreamDecoder.consumes _ decoder _ _ taken.2 head
          simp only [List.length_cons] at shorter
          simp [Except.mapError, Bind.bind, Except.bind,
            drainWithin_of_length_le (Nat.lt_succ_iff.mp shorter)]

/-- One turn of the searching loop. -/
theorem scan_of_ne_nil {input : Bytes} (nonempty : input ≠ []) :
    scan decoder failed visit atEnd input = (do
      let (value, rest) ← (decoder.decode input).mapError failed
      match ← visit value with
      | some found => return found
      | none => scan decoder failed visit atEnd rest) := by
  cases input with
  | nil => exact absurd rfl nonempty
  | cons byte input =>
      conv_lhs => unfold scan
      simp only [scanWithin, List.length_cons]
      cases head : decoder.decode (byte :: input) with
      | error e => rfl
      | ok taken =>
          have shorter := @StreamDecoder.consumes _ decoder _ _ taken.2 head
          simp only [List.length_cons] at shorter
          simp only [Except.mapError, Bind.bind, Except.bind,
            scanWithin_of_length_le (Nat.lt_succ_iff.mp shorter)]

/-- **A search that returned a value was settled by a value the decoder
yielded, unless the outcome at the end is that value.** -/
theorem scan_settled {input : Bytes} {found : β}
    (result : scan decoder failed visit atEnd input = .ok found) :
    atEnd = .ok found ∨ ∃ value, Yields decoder input value ∧ visit value = .ok (some found) := by
  induction hlen : input.length using Nat.strongRecOn generalizing input with
  | ind n ih =>
      by_cases nonempty : input = []
      · subst nonempty
        exact .inl result
      · rw [scan_of_ne_nil nonempty] at result
        cases head : decoder.decode input with
        | error e => simp [head, Except.mapError, Bind.bind, Except.bind] at result
        | ok taken =>
            simp only [head, Except.mapError, Bind.bind, Except.bind] at result
            cases visited : visit taken.1 with
            | error e => simp [visited] at result
            | ok outcome =>
                cases outcome with
                | some settled =>
                    simp only [visited] at result
                    have same : settled = found := Except.ok.inj result
                    exact .inr ⟨taken.1, .here head, same ▸ visited⟩
                | none =>
                    simp only [visited] at result
                    have shorter := @StreamDecoder.consumes _ decoder _ _ taken.2 head
                    rcases ih taken.2.length (by omega) result rfl with
                      ended | ⟨value, yields, settles⟩
                    · exact .inl ended
                    · exact .inr ⟨value, .later head yields, settles⟩

/-! A piece that the decoder takes off the front of any input is one turn of
either loop. -/

/-- The piece is one value, whatever follows it. -/
def Frames (decoder : StreamDecoder α) (piece : Bytes) (value : α) : Prop :=
  ∀ rest, decoder.decode (piece ++ rest) = .ok (value, rest)

theorem Frames.ne_nil {piece : Bytes} {value : α} (frames : decoder.Frames piece value)
    (rest : Bytes) : piece ++ rest ≠ [] := by
  intro empty
  have shorter := decoder.consumes (frames rest)
  rw [empty] at shorter
  exact absurd shorter (Nat.not_lt_zero _)

theorem Frames.drain {piece rest : Bytes} {value : α} {values : List α}
    (frames : decoder.Frames piece value) (tail : drain decoder failed rest = .ok values) :
    drain decoder failed (piece ++ rest) = .ok (value :: values) := by
  rw [drain_of_ne_nil (frames.ne_nil rest), frames rest]
  simp only [Except.mapError, Bind.bind, Except.bind, tail]
  rfl

theorem Frames.scan_settles {piece rest : Bytes} {value : α} {found : β}
    (frames : decoder.Frames piece value) (visited : visit value = .ok (some found)) :
    scan decoder failed visit atEnd (piece ++ rest) = .ok found := by
  rw [scan_of_ne_nil (frames.ne_nil rest), frames rest]
  simp only [Except.mapError, Bind.bind, Except.bind, visited]
  rfl

theorem Frames.scan_skips {piece rest : Bytes} {value : α}
    (frames : decoder.Frames piece value) (visited : visit value = .ok none) :
    scan decoder failed visit atEnd (piece ++ rest) = scan decoder failed visit atEnd rest := by
  rw [scan_of_ne_nil (frames.ne_nil rest), frames rest]
  simp only [Except.mapError, Bind.bind, Except.bind, visited]

/-- **Pieces put end to end are taken apart again.** -/
theorem drain_flatten {decoder : StreamDecoder Bytes} {pieces : List Bytes}
    (frames : ∀ piece ∈ pieces, decoder.Frames piece piece) :
    drain decoder failed pieces.flatten = .ok pieces := by
  induction pieces with
  | nil => rfl
  | cons piece pieces ih =>
      rw [List.flatten_cons]
      exact (frames piece List.mem_cons_self).drain
        (ih fun other member => frames other (List.mem_cons_of_mem piece member))

theorem not_yields_nil {value : α} : ¬ Yields decoder [] value := by
  intro yields
  cases yields with
  | here head | later head _ => exact Nat.not_lt_zero _ (decoder.consumes head)

/-- A stream that starts with a piece yields its value, and what follows. -/
theorem Frames.of_yields {piece rest : Bytes} {value other : α}
    (frames : decoder.Frames piece value) (yields : Yields decoder (piece ++ rest) other) :
    other = value ∨ Yields decoder rest other := by
  cases yields with
  | here head =>
      cases (frames rest).symm.trans head
      exact .inl rfl
  | later head tail =>
      cases (frames rest).symm.trans head
      exact .inr tail

/-- A stream of two pieces yields nothing else. -/
theorem Frames.pair {first second : Bytes} {value value' other : α}
    (frames : decoder.Frames first value) (frames' : decoder.Frames second value')
    (yields : Yields decoder (first ++ second) other) : other = value ∨ other = value' := by
  rcases frames.of_yields yields with same | rest
  · exact .inl same
  · rw [← List.append_nil second] at rest
    rcases frames'.of_yields rest with same | none
    · exact .inr same
    · exact absurd none not_yields_nil

end StreamDecoder

end Kurbu5Pkinit.Library

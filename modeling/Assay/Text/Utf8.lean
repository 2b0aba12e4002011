/-! # Text and bytes

Captured streams are bytes; everything shown to a reader is text.  This module
holds the two directions between them.

* `utf8` encodes a text.
* `lossy` decodes any bytes: a byte string that is not valid UTF-8 still has a
  text, in which each *maximal invalid subpart* is one replacement character.
  The decoder is a small automaton (`Partial`): it remembers how many
  continuation bytes are still due and which values the next one may take, and
  refuses at the first byte that rules the sequence out.  The refused byte is
  read again from the start state.
-/

namespace Assay.Text

/-- A byte string. -/
abbrev Bytes := List UInt8

/-- The UTF-8 encoding of a text. -/
def utf8 (s : String) : Bytes := s.toList.flatMap String.utf8EncodeChar

theorem utf8_append (s t : String) : utf8 (s ++ t) = utf8 s ++ utf8 t := by
  simp [utf8]

theorem utf8_eq_nil_iff {s : String} : utf8 s = [] ↔ s = "" := by
  rw [utf8, List.flatMap_eq_nil_iff, ← String.toList_eq_nil_iff, List.eq_nil_iff_forall_not_mem]
  exact forall₂_congr fun c _ => by simp

/-- The character that stands for bytes that cannot be decoded. -/
def replacement : Char := Char.ofNat 0xFFFD

/-- A multi-byte sequence that has begun: `due` continuation bytes are missing,
the next one lies between `low` and `high`, and `value` holds the bits read so
far. -/
structure Partial where
  due : Nat
  low : Nat
  high : Nat
  value : Nat
  deriving Repr, DecidableEq

/-- What the first byte of a sequence leads to: characters that are complete
already, and the sequence it opens, if any.  The bounds on the second byte rule
out overlong forms, surrogates and values above U+10FFFF. -/
def openSequence (b : UInt8) : List Char × Option Partial :=
  let n := b.toNat
  if n < 0x80 then ([Char.ofNat n], none)
  else if n < 0xC2 then ([replacement], none)
  else if n < 0xE0 then ([], some ⟨1, 0x80, 0xBF, n - 0xC0⟩)
  else if n = 0xE0 then ([], some ⟨2, 0xA0, 0xBF, 0⟩)
  else if n = 0xED then ([], some ⟨2, 0x80, 0x9F, 0xD⟩)
  else if n < 0xF0 then ([], some ⟨2, 0x80, 0xBF, n - 0xE0⟩)
  else if n = 0xF0 then ([], some ⟨3, 0x90, 0xBF, 0⟩)
  else if n < 0xF4 then ([], some ⟨3, 0x80, 0xBF, n - 0xF0⟩)
  else if n = 0xF4 then ([], some ⟨3, 0x80, 0x8F, 4⟩)
  else ([replacement], none)

/-- One byte read inside a sequence.  A byte outside the bounds ends the
sequence with a replacement character and is read afresh. -/
def Partial.advance (p : Partial) (b : UInt8) : List Char × Option Partial :=
  let n := b.toNat
  if p.low ≤ n ∧ n ≤ p.high then
    let value := p.value * 64 + (n - 0x80)
    if p.due ≤ 1 then ([Char.ofNat value], none)
    else ([], some ⟨p.due - 1, 0x80, 0xBF, value⟩)
  else
    let (chars, next) := openSequence b
    (replacement :: chars, next)

/-- The characters of a byte string read from a given state of the automaton. -/
def lossyFrom : Option Partial → Bytes → List Char
  | none, [] => []
  | some _, [] => [replacement]
  | none, b :: bs => (openSequence b).1 ++ lossyFrom (openSequence b).2 bs
  | some p, b :: bs => (p.advance b).1 ++ lossyFrom (p.advance b).2 bs

/-- The text of any byte string: valid UTF-8 is decoded, and each maximal
invalid subpart becomes one replacement character. -/
def lossy (bs : Bytes) : String := String.ofList (lossyFrom none bs)

end Assay.Text

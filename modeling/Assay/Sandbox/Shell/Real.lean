import Assay.Number.Decimal
import Assay.Sandbox.Octets

/-! # Real numbers in formatted output

Numbers with a fraction, as they are read from a text and laid out with a given
number of digits.
-/

namespace Assay.Sandbox.Shell.Real

open Number

/-- The exponent after one of the given letters; nothing if none follows. -/
def exponent (letters : List Char) (cs : List Char) : Int × List Char :=
  match cs with
  | c :: rest =>
    if letters.contains c then
      let (negative, digits) := Digits.sign rest
      let (ds, after) := Digits.split 10 digits.length digits
      if ds.isEmpty then (0, cs)
      else (Digits.signed negative (min (Digits.number 10 ds) 100000), after)
    else (0, cs)
  | [] => (0, [])

/-- Digits to a base with a point among them: the number that all of them stand
for, how many come after the point, and the rest; nothing without a digit. -/
def mantissa (base : Nat) (cs : List Char) : Option (Nat × Nat × List Char) :=
  let (whole, rest) := Digits.split base cs.length cs
  let (fraction, rest) := match rest with
    | '.' :: after =>
      let (ds, after') := Digits.split base after.length after
      if whole.isEmpty && ds.isEmpty then ([], rest) else (ds, after')
    | rest => ([], rest)
  if whole.isEmpty && fraction.isEmpty then none
  else some (Digits.number base (whole ++ fraction), fraction.length, rest)

/-- The number `n · base ^ e`, and whether it is beyond what a double can hold. -/
def scale (negative : Bool) (n base : Nat) (e : Int) : Binary64 × Bool :=
  if n = 0 then (.finite negative .zero, false)
  else if 6000 < e then (.infinite negative, true)
  else if e < -200000 then (.finite negative .zero, true)
  else
    let x := Binary64.ofRatio negative (n * Nat.pow base e.toNat) (Nat.pow base (-e).toNat)
    match x with
    | .finite _ m => (x, m.significand < Nat.pow 2 52 && m.units * Nat.pow base (-e).toNat ≠
        n * Nat.pow base e.toNat * unitsPerOne)
    | x => (x, true)

/-- The text starts with a word, in letters of any case. -/
def startsWith (word : String) (cs : List Char) : Bool :=
  word.toList.isPrefixOf (cs.map Char.toLower)

/-- A number at the start of a text: its value, whether it is out of range, and
the rest; nothing if there is none. -/
def read (text : List Char) : Option (Binary64 × Bool × List Char) :=
  let (negative, cs) := Digits.sign (text.dropWhile Digits.isSpace)
  if startsWith "infinity" cs then some (.infinite negative, false, cs.drop 8)
  else if startsWith "inf" cs then some (.infinite negative, false, cs.drop 3)
  else if startsWith "nan" cs then
    let rest := cs.drop 3
    let rest := match rest with
      | '(' :: inner =>
        match inner.dropWhile fun c => c.isAlphanum || c == '_' with
        | ')' :: after => after
        | _ => rest
      | _ => rest
    some (.nan, false, rest)
  else
    let hexadecimal := if startsWith "0x" cs then mantissa 16 (cs.drop 2) else none
    match hexadecimal with
    | some (n, places, rest) =>
      let (e, rest) := exponent ['p', 'P'] rest
      let (x, out) := scale negative n 2 (e - 4 * places)
      some (x, out, rest)
    | none =>
      (mantissa 10 cs).map fun (n, places, rest) =>
        let (e, rest) := exponent ['e', 'E'] rest
        let (x, out) := scale negative n 10 (e - places)
        (x, out, rest)

/-- Drop zeros at the end of a fraction, and a point that nothing follows. -/
def trimmed (text : String) : String :=
  if text.toList.contains '.' then
    let cs := text.toList.reverse.dropWhile (· == '0')
    String.ofList (match cs with
      | '.' :: rest => rest.reverse
      | cs => cs.reverse)
  else text

/-- The value with so many digits after the point; `pointed` keeps the point. -/
def positional (m : Magnitude) (places : Nat) (pointed : Bool) : String :=
  let text := m.fixed places
  if places = 0 && !pointed then String.ofList (text.toList.takeWhile (· != '.')) else text

/-- The decimal digits of a value, `count` of them, and its exponent. -/
def leading (m : Magnitude) (count : Nat) : List Char × Int :=
  if m.significand = 0 then (List.replicate count '0', 0)
  else
    let e := floorLog10 m.units unitsPerOne
    let shift : Int := count - 1 - e
    let n := roundDiv (m.units * Nat.pow 10 shift.toNat) (unitsPerOne * Nat.pow 10 (-shift).toNat)
    let digits := Nat.toDigits 10 n
    if digits.length = count then (digits, e) else (digits.take count, e + 1)

/-- An exponent of at least so many digits. -/
def exponentText (letter : Char) (width : Nat) (e : Int) : String :=
  let digits := toString e.natAbs
  let zeros := String.ofList (List.replicate (width - digits.length) '0')
  String.ofList [letter, if e < 0 then '-' else '+'] ++ zeros ++ digits

/-- One digit, so many after the point, and an exponent. -/
def scientific (m : Magnitude) (places : Nat) (pointed trimming : Bool) : String :=
  let (digits, e) := leading m (places + 1)
  let point := if places = 0 && !pointed then [] else ['.']
  let text := String.ofList (digits.take 1 ++ point ++ digits.drop 1)
  (if trimming then trimmed text else text) ++ exponentText 'e' 2 e

/-- The shorter of the two ways, with so many digits in all. -/
def general (m : Magnitude) (digits : Nat) (pointed : Bool) : String :=
  let count := max digits 1
  let (_, e) := leading m count
  if e < -4 || (count : Int) ≤ e then scientific m (count - 1) pointed (!pointed)
  else
    let text := positional m ((count : Int) - 1 - e).toNat pointed
    if pointed then text else trimmed text

/-- A value to the base sixteen with an exponent to the base two. -/
def hexadecimal (m : Magnitude) (places : Option Nat) (pointed : Bool) : String :=
  let (whole, fraction, e) : Nat × Nat × Int :=
    if m.significand = 0 then (0, 0, 0)
    else if m.significand < Nat.pow 2 52 then (0, m.significand, -1022)
    else (1, m.significand - Nat.pow 2 52, (m.shift : Int) - 1022)
  let fixedTo (places : Nat) : Nat × List Char :=
    let unit := Nat.pow 16 (13 - places)
    let n := if places < 13 then roundDiv (whole * Nat.pow 2 52 + fraction) unit
      else (whole * Nat.pow 2 52 + fraction) * Nat.pow 16 (places - 13)
    let size := Nat.pow 16 places
    let digits := if places = 0 then [] else Nat.toDigits 16 (n % size)
    (n / size, List.replicate (places - digits.length) '0' ++ digits)
  let (whole, digits) := match places with
    | some p => fixedTo p
    | none =>
      let (w, ds) := fixedTo 13
      (w, (ds.reverse.dropWhile (· == '0')).reverse)
  let point := if digits.isEmpty && !pointed then [] else ['.']
  toString whole ++ String.ofList (point ++ digits) ++ exponentText 'p' 1 e

end Assay.Sandbox.Shell.Real

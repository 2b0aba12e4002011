import Assay.Number.Binary64
import Assay.Text.Shown

/-! # Decimal text of doubles

Two ways to write a double in decimal.

* `Magnitude.shortest` finds the fewest digits that read back as the same
  double.  A decimal reads back as a double exactly if it lies in the interval
  of numbers that round to it; for one digit, two digits, and so on, the two
  neighbours of the value on that decimal grid are tried, and the nearer of
  those inside the interval wins.  Formats differ on which of two equally near
  ones that is.
* `Magnitude.fixed` rounds the exact value to a given number of places, a tie to
  the even digit.

A `Style` holds what one output format decides on its own: for which exponents
it writes digits positionally, whether a positive exponent has a sign, and which
way a tie goes.
-/

namespace Assay.Number

/-- Decimal digits `d₀d₁d₂…` standing for `d₀.d₁d₂… · 10 ^ exponent`. -/
structure Decimal where
  digits : List Char
  exponent : Int
  deriving Repr, DecidableEq

/-- The largest `k` with `10 ^ k ≤ n / d`, for positive `n` and `d`. -/
def floorLog10 (n d : Nat) : Int :=
  if d ≤ n then ((Nat.toDigits 10 (n / d)).length : Int) - 1
  else
    let width := (Nat.toDigits 10 (d / n)).length
    if d ≤ n * Nat.pow 10 (width - 1) then 1 - (width : Int) else -(width : Int)

namespace Magnitude

/-- A decimal of `count` digits that reads back as `m`, if there is one.  Values
are compared in quarters of a smallest double, where the ends of the interval
around `m` are whole; the ends belong to it when the significand is even.  Of two
equally near decimals the even or the larger one is taken. -/
def readBack? (m : Magnitude) (evenTies : Bool) (exponent : Int) (count : Nat) : Option Decimal :=
  let value := 4 * m.units
  let high := value + 2 * Nat.pow 2 m.shift
  let low := if m.significand = Nat.pow 2 52 ∧ 0 < m.shift then value - Nat.pow 2 m.shift
    else value - 2 * Nat.pow 2 m.shift
  let place : Int := exponent - count + 1
  let scale := Nat.pow 10 (-place).toNat
  let unit := 4 * unitsPerOne * Nat.pow 10 place.toNat
  let inside := fun c : Nat =>
    if m.significand % 2 = 0 then low * scale ≤ c * unit && c * unit ≤ high * scale
    else low * scale < c * unit && c * unit < high * scale
  let below := value * scale / unit
  let above := below + 1
  let toBelow := value * scale - below * unit
  let toAbove := above * unit - value * scale
  let nearer := toBelow < toAbove || (toBelow == toAbove && evenTies && below % 2 == 0)
  let pick : Option Nat :=
    if inside below && (nearer || !inside above) then some below
    else if inside above then some above
    else none
  pick.map fun c =>
    let digits := Nat.toDigits 10 c
    ⟨(digits.reverse.dropWhile (· == '0')).reverse, exponent + (digits.length - count : Int)⟩

/-- The fewest digits that read back as `m`; zero is the digit `0`. -/
def shortest (m : Magnitude) (evenTies : Bool) : Decimal :=
  if m.significand = 0 then ⟨['0'], 0⟩
  else
    let exponent := floorLog10 m.units unitsPerOne
    ((List.range 17).findSome? fun n => m.readBack? evenTies exponent (n + 1)).getD ⟨['0'], 0⟩

/-- The exact value rounded to `places` decimal places, a tie to the even
digit. -/
def fixed (m : Magnitude) (places : Nat) : String :=
  let scaled := roundDiv (m.units * Nat.pow 10 places) unitsPerOne
  let digits := Nat.toDigits 10 scaled
  let padded := List.replicate (places + 1 - digits.length) '0' ++ digits
  let whole := padded.take (padded.length - places)
  let fraction := padded.drop (padded.length - places)
  String.ofList whole ++ "." ++ String.ofList fraction

end Magnitude

/-- The decisions of one output format: digits are written positionally when the
exponent is at least `least` and below `limit`, `plus` says whether a positive
exponent is written with its sign, and `evenTies` whether the even or the larger
of two equally near decimals is written. -/
structure Style where
  least : Int
  limit : Int
  plus : Bool
  evenTies : Bool
  deriving Repr, DecidableEq

namespace Decimal

/-- Digits written out around a decimal point, with at least one digit on each
side. -/
def positional (d : Decimal) : String :=
  let n := d.digits.length
  if d.exponent < 0 then
    "0." ++ String.ofList (List.replicate (d.exponent.natAbs - 1) '0' ++ d.digits)
  else
    let whole := d.exponent.toNat + 1
    if n ≤ whole then
      String.ofList (d.digits ++ List.replicate (whole - n) '0') ++ ".0"
    else String.ofList (d.digits.take whole) ++ "." ++ String.ofList (d.digits.drop whole)

/-- One digit before the point and an exponent after the digits. -/
def scientific (d : Decimal) (plus : Bool) : String :=
  let mantissa := match d.digits with
    | [] => "0"
    | [c] => c.toString
    | c :: rest => c.toString ++ "." ++ String.ofList rest
  let mark := if d.exponent < 0 then "e-" else if plus then "e+" else "e"
  mantissa ++ mark ++ Nat.repr d.exponent.natAbs

def write (d : Decimal) (style : Style) : String :=
  if style.least ≤ d.exponent ∧ d.exponent < style.limit then d.positional
  else d.scientific style.plus

end Decimal

namespace Binary64

/-- The text of a double in a given style. -/
def write (style : Style) : Binary64 → String
  | .nan => "NaN"
  | .infinite negative => if negative then "-inf" else "inf"
  | .finite negative m => (if negative then "-" else "") ++ (m.shortest style.evenTies).write style

/-- Doubles in descriptions are positional from `0.0001` up to below `1e16`. -/
def shownStyle : Style := ⟨-4, 16, false, false⟩

instance : Text.Shown Binary64 := ⟨write shownStyle⟩

end Binary64

end Assay.Number

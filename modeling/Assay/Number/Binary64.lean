/-! # Double-precision numbers

Doubles as exact numbers.  A finite magnitude is `significand · 2 ^ shift` units
of `2 ^ -1074`, the smallest positive double; the significand has at most 53
bits, and exactly 53 unless the shift is zero.  Rounding is stated on naturals:
`Magnitude.nearest?` takes a quotient in those units to the nearest magnitude,
and a tie to the one with the even significand.
-/

namespace Assay.Number

/-- The quotient of `n` by `d` rounded to the nearest natural number, a tie to
the even one. -/
def roundDiv (n d : Nat) : Nat :=
  let q := n / d
  let r := n % d
  if 2 * r < d then q
  else if d < 2 * r then q + 1
  else if q % 2 = 0 then q else q + 1

/-- How many smallest doubles make up one: `2 ^ 1074`. -/
def unitsPerOne : Nat := Nat.pow 2 1074

/-- A finite magnitude: `significand · 2 ^ shift` smallest doubles. -/
structure Magnitude where
  significand : Nat
  shift : Nat
  deriving Repr, DecidableEq

namespace Magnitude

def zero : Magnitude := ⟨0, 0⟩

/-- The magnitude counted in smallest doubles. -/
def units (m : Magnitude) : Nat := m.significand * Nat.pow 2 m.shift

/-- The magnitude nearest to `n / d` smallest doubles, or `none` if that is
beyond the largest one. -/
def nearest? (n d : Nat) : Option Magnitude :=
  let shift := (n / d).log2 + 1 - 53
  let significand := roundDiv n (d * Nat.pow 2 shift)
  let m : Magnitude :=
    if significand = Nat.pow 2 53 then ⟨Nat.pow 2 52, shift + 1⟩ else ⟨significand, shift⟩
  if 2045 < m.shift then none else some m

end Magnitude

/-- A double: not a number, an infinity, or a signed finite magnitude. -/
inductive Binary64 where
  | nan
  | infinite (negative : Bool)
  | finite (negative : Bool) (magnitude : Magnitude)
  deriving Repr, DecidableEq

namespace Binary64

/-- The double nearest to `n / d`, with the given sign. -/
def ofRatio (negative : Bool) (n d : Nat) : Binary64 :=
  match Magnitude.nearest? (n * unitsPerOne) d with
  | some m => .finite negative m
  | none => .infinite negative

/-- The double nearest to `mantissa · 10 ^ -places`. -/
def ofDecimal (mantissa : Int) (places : Nat) : Binary64 :=
  ofRatio (mantissa < 0) mantissa.natAbs (Nat.pow 10 places)

/-- The sum of two non-negative doubles, rounded. -/
def addMagnitudes : Binary64 → Binary64 → Binary64
  | .finite _ a, .finite _ b =>
    match Magnitude.nearest? (a.units + b.units) 1 with
    | some m => .finite false m
    | none => .infinite false
  | .nan, _ => .nan
  | _, .nan => .nan
  | _, _ => .infinite false

/-- Equality as numbers: nothing equals a value that is not a number, and the
two zeros are equal. -/
def same : Binary64 → Binary64 → Bool
  | .nan, _ => false
  | _, .nan => false
  | .infinite a, .infinite b => a == b
  | .finite s a, .finite t b => a == b && (s == t || a.significand == 0)
  | _, _ => false

instance : BEq Binary64 := ⟨same⟩

end Binary64

end Assay.Number

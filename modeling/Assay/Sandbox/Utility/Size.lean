import Assay.Sandbox.Octets
import Assay.Sandbox.Utility.Quote

/-! # Sizes

Numbers with a letter for a unit after them, such as `3k`. -/

namespace Assay.Sandbox.Utility

open UtilityM

/-- The greatest size. -/
def sizeLimit : Nat := Digits.modulus - 1

/-- Why a text is no size. -/
inductive SizeFault where
  | invalid
  | tooLarge
  deriving Repr, DecidableEq

/-- The unit that the text after a number stands for. -/
def unit? (suffix : String) : Option Nat :=
  let scales : List (Char × Nat) :=
    [('k', 1), ('K', 1), ('m', 2), ('M', 2), ('G', 3), ('T', 4), ('P', 5), ('E', 6), ('Z', 7), ('Y', 8)]
  match suffix.toList with
  | [] => some 1
  | ['b'] => some 512
  | [c] => (scales.lookup c).map fun k => Nat.pow 1024 k
  | [c, 'B'] => (scales.lookup c).map fun k => Nat.pow 1000 k
  | [c, 'i', 'B'] => (scales.lookup c).map fun k => Nat.pow 1024 k
  | _ => none

/-- The size that a text stands for. -/
def size (text : String) : Except SizeFault Nat :=
  let cs := text.toList.dropWhile Digits.isSpace
  let cs := match cs with
    | '+' :: rest => rest
    | cs => cs
  let (digits, rest) := Digits.split 10 cs.length cs
  let suffix := String.ofList rest
  let number : Option Nat :=
    if !digits.isEmpty then some (Digits.number 10 digits)
    else if rest.isEmpty || text.toList.head? == some '+' then none
    else some 1
  match number, unit? suffix with
  | some n, some u => if sizeLimit < n * u then .error .tooLarge else .ok (n * u)
  | _, _ => .error .invalid

/-- The size that a text stands for, or a message that begins with `what`. -/
def demandSize (what text : String) : UtilityM Nat := do
  match size text with
  | .ok n => return n
  | .error .invalid => fail (what ++ ": " ++ (← marked text))
  | .error .tooLarge =>
    fail (what ++ ": " ++ (← marked text) ++ ": " ++ IoError.describe 75)

end Assay.Sandbox.Utility

import Assay.Text.Extender
import Assay.Text.Printable

/-! # Shown values

The text by which a value appears in the description of a comparison.  A text is
shown in double quotes, written so that every character can be told apart: the
quote and the backslash are escaped, the usual controls have their letter, and
what a reader could not see, or would see merged with its neighbour, is written
by its code point.
-/

namespace Assay.Text

/-! ## Quoted text -/

/-- Lower-case hexadecimal digits of a number, without leading zeros. -/
def hex (n : Nat) : String := String.ofList (Nat.toDigits 16 n)

/-- One character inside double quotes. -/
def quotedChar (c : Char) : String :=
  if c = '\x00' then "\\0"
  else if c = '\t' then "\\t"
  else if c = '\r' then "\\r"
  else if c = '\n' then "\\n"
  else if c = '"' then "\\\""
  else if c = '\\' then "\\\\"
  else if isExtender c || !isPrintable c then "\\u\x7b" ++ hex c.toNat ++ "\x7d"
  else c.toString

/-- A text between double quotes, with everything ambiguous escaped. -/
def quoted (s : String) : String := "\"" ++ String.join (s.toList.map quotedChar) ++ "\""

/-! ## Values -/

/-- A type whose values have an unambiguous text. -/
class Shown (α : Type) where
  shown : α → String

export Shown (shown)

instance : Shown Int where
  shown n := if n < 0 then "-" ++ Nat.repr n.natAbs else Nat.repr n.natAbs

instance : Shown Bool where
  shown b := if b then "true" else "false"

instance : Shown String where
  shown := quoted

/-- A list between brackets, its elements separated by a comma and a space. -/
instance {α : Type} [Shown α] : Shown (List α) where
  shown xs := "[" ++ ", ".intercalate (xs.map shown) ++ "]"

instance {α : Type} [Shown α] : Shown (Option α) where
  shown
    | none => "None"
    | some a => "Some(" ++ shown a ++ ")"

end Assay.Text

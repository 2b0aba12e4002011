/-! # Color

Color is a pair of escape sequences around a text.  `strip` deletes such
sequences again: an escape character, an opening bracket, digits and semicolons,
and the letter `m`.
-/

namespace Assay.Paint

/-- The character that opens an escape sequence. -/
def escape : Char := '\x1b'

/-- `text` between the sequence for `code` and the one that ends all colors; the
plain text when there is no color. -/
def paint (color : Bool) (code text : String) : String :=
  if color then "\x1b[" ++ code ++ "m" ++ text ++ "\x1b[0m" else text

/-- A character that may stand between the bracket and the `m`. -/
def isParameter (c : Char) : Bool := c.isDigit || c == ';'

/-- What follows an escape sequence at the head of the text, if one stands
there. -/
def afterSequence? : List Char → Option (List Char)
  | c :: '[' :: rest =>
    if c = escape then
      match rest.dropWhile isParameter with
      | 'm' :: tail => some tail
      | _ => none
    else none
  | _ => none

/-- Delete escape sequences; `skip` characters of one are still to be passed
over. -/
def stripFrom : (skip : Nat) → List Char → List Char
  | _, [] => []
  | skip + 1, _ :: cs => stripFrom skip cs
  | 0, c :: cs =>
    match afterSequence? (c :: cs) with
    | some tail => stripFrom (cs.length - tail.length) cs
    | none => c :: stripFrom 0 cs

/-- The text without color sequences. -/
def strip (text : String) : String := String.ofList (stripFrom 0 text.toList)

end Assay.Paint

/-! # Lines, blanks and substrings

How a text is cut into lines, and which texts count as blank.  A line ends at a
line feed, and a carriage return right before that line feed belongs to the
ending; a last line without a line feed keeps all its characters.

`occurs p s` decides whether `p` stands somewhere in `s` as one contiguous
piece.  It is used on characters, for the filters a reader writes, and can be
asked of bytes as well.
-/

namespace Assay.Text

/-- The content of a line read up to a line feed, given last character first: a
carriage return before the line feed is not part of it. -/
def closeLine : List Char → List Char
  | '\r' :: rest => rest.reverse
  | line => line.reverse

/-- The lines of a text, where `line` holds the characters of the current line
read so far, last one first. -/
def linesFrom (line : List Char) : List Char → List (List Char)
  | [] => if line.isEmpty then [] else [line.reverse]
  | c :: cs => if c = '\n' then closeLine line :: linesFrom [] cs else linesFrom (c :: line) cs

/-- The lines of a text.  The empty text has none, and a final line feed opens
no further line. -/
def lines (s : String) : List String := (linesFrom [] s.toList).map String.ofList

/-- The white space of Unicode: the characters with property `White_Space`. -/
def isBlank (c : Char) : Bool :=
  let n := c.toNat
  (9 ≤ n && n ≤ 13) || n == 0x20 || n == 0x85 || n == 0xA0 || n == 0x1680 ||
  (0x2000 ≤ n && n ≤ 0x200A) || n == 0x2028 || n == 0x2029 || n == 0x202F ||
  n == 0x205F || n == 0x3000

/-- A text of white space only, the empty text included. -/
def blank (s : String) : Bool := s.toList.all isBlank

/-- One line of output: the text and a line feed. -/
def line (s : String) : String := s ++ "\n"

/-- Each line of `text`, set in by `indent` and ended by a line feed. -/
def indented (indent text : String) : String :=
  String.join ((lines text).map fun l => line (indent ++ l))

/-- `p` occurs in the list as a contiguous piece; the empty list occurs
everywhere. -/
def occurs {α : Type} [BEq α] (p : List α) : List α → Bool
  | [] => p.isEmpty
  | a :: s => p.isPrefixOf (a :: s) || occurs p s

/-- `pattern` is a substring of `text`. -/
def contains (text pattern : String) : Bool := occurs pattern.toList text.toList

end Assay.Text

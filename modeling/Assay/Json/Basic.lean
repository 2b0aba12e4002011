/-! # JSON documents

A document and its two written forms: `compact` puts everything on one line, and
`pretty` sets every element and field on a line of its own, two spaces deeper
than what holds it.  Numbers are kept as the token that is written, so a
document never rounds; fields keep their order.

Inside a text only the quote, the backslash and the characters below U+0020 are
escaped.
-/

namespace Assay

/-- A JSON document. -/
inductive Json where
  | null
  | bool (b : Bool)
  | number (token : String)
  | text (s : String)
  | array (items : List Json)
  | object (fields : List (String × Json))

namespace Json

def int (n : Int) : Json :=
  .number (if n < 0 then "-" ++ Nat.repr n.natAbs else Nat.repr n.natAbs)

def nat (n : Nat) : Json := .number (Nat.repr n)

def texts (xs : List String) : Json := .array (xs.map .text)

def ofOption {α : Type} (f : α → Json) : Option α → Json
  | none => .null
  | some a => f a

/-- A hexadecimal digit in lower case. -/
def hexDigit (n : Nat) : Char := Nat.digitChar n

/-- One character of a text.  Controls without a letter of their own are written
with four hexadecimal digits. -/
def escapeChar (c : Char) : List Char :=
  if c = '"' then ['\\', '"']
  else if c = '\\' then ['\\', '\\']
  else if c = '\n' then ['\\', 'n']
  else if c = '\r' then ['\\', 'r']
  else if c = '\t' then ['\\', 't']
  else if c = '\x08' then ['\\', 'b']
  else if c = '\x0c' then ['\\', 'f']
  else if c.toNat < 0x20 then
    ['\\', 'u', '0', '0', hexDigit (c.toNat / 16), hexDigit (c.toNat % 16)]
  else [c]

/-- A text between quotes. -/
def escape (s : String) : String :=
  "\"" ++ String.ofList (s.toList.flatMap escapeChar) ++ "\""

mutual

/-- The document on one line, without blanks. -/
def compact : Json → String
  | .null => "null"
  | .bool b => if b then "true" else "false"
  | .number token => token
  | .text s => escape s
  | .array items => "[" ++ ",".intercalate (compactItems items) ++ "]"
  | .object fields => "\x7b" ++ ",".intercalate (compactFields fields) ++ "\x7d"

def compactItems : List Json → List String
  | [] => []
  | j :: js => j.compact :: compactItems js

def compactFields : List (String × Json) → List String
  | [] => []
  | (name, j) :: rest => (escape name ++ ":" ++ j.compact) :: compactFields rest

end

/-- The pieces of an array or object, each on a line two spaces deeper than the
brackets; without pieces the brackets stand together. -/
def block (opening closing indent : String) (pieces : List String) : String :=
  if pieces.isEmpty then opening ++ closing
  else opening ++ "\n" ++ ",\n".intercalate (pieces.map fun p => indent ++ "  " ++ p) ++
    "\n" ++ indent ++ closing

mutual

/-- The document with one element or field a line; `indent` is what stands
before the line that closes it. -/
def prettyAt (indent : String) : Json → String
  | .null => "null"
  | .bool b => if b then "true" else "false"
  | .number token => token
  | .text s => escape s
  | .array items => block "[" "]" indent (prettyItems (indent ++ "  ") items)
  | .object fields => block "\x7b" "\x7d" indent (prettyFields (indent ++ "  ") fields)

def prettyItems (indent : String) : List Json → List String
  | [] => []
  | j :: js => j.prettyAt indent :: prettyItems indent js

def prettyFields (indent : String) : List (String × Json) → List String
  | [] => []
  | (name, j) :: rest => (escape name ++ ": " ++ j.prettyAt indent) :: prettyFields indent rest

end

/-- The document set out over several lines. -/
def pretty (j : Json) : String := j.prettyAt ""

end Json

end Assay

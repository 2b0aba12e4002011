import Assay.Sandbox.Octets
import Assay.Sandbox.Utility.Session

/-! # Names in messages

How utilities show names.  A name is shown in quotation marks, or as a shell
would read it, always or only where that is needed.
-/

namespace Assay.Sandbox.Quote

/-- One character of a name: its bytes, and whether it can be shown. -/
structure Symbol where
  bytes : List Char
  printable : Bool
  deriving Repr, DecidableEq

/-- The character can be shown. -/
def isPrintable (n : Nat) : Bool :=
  (0x20 ≤ n && n < 0x7f) || (0xa0 ≤ n && n ≠ 0x2028 && n ≠ 0x2029 && n % 0x10000 < 0xfffe)

/-- The length of the character that begins with a byte, by that byte. -/
def lengthOf (lead : Nat) : Nat :=
  if lead < 0x80 then 1 else if lead < 0xc2 then 0 else if lead < 0xe0 then 2
  else if lead < 0xf0 then 3 else if lead < 0xf5 then 4 else 0

/-- The number of a character, from its bytes. -/
def codePoint : List Nat → Option Nat
  | [a] => if a < 0x80 then some a else none
  | lead :: rest =>
    if rest.all fun b => 0x80 ≤ b && b < 0xc0 then
      let start := if rest.length = 1 then lead - 0xc0 else if rest.length = 2 then lead - 0xe0 else lead - 0xf0
      let n := rest.foldl (fun n b => n * 64 + (b - 0x80)) start
      let least := if rest.length = 1 then 0x80 else if rest.length = 2 then 0x800 else 0x10000
      if n < least || 0x10ffff < n || (0xd800 ≤ n && n < 0xe000) then none else some n
    else none
  | [] => none

/-- The characters of a name. -/
def symbols (utf8 : Bool) : (fuel : Nat) → List Char → List Symbol
  | 0, _ => []
  | _, [] => []
  | fuel + 1, c :: cs =>
    let n := c.toNat
    let single : Symbol := ⟨[c], 0x20 ≤ n && n < 0x7f⟩
    if !utf8 || n < 0x80 then single :: symbols utf8 fuel cs
    else
      let size := lengthOf n
      let bytes := (c :: cs).take size
      match if bytes.length = size then codePoint (bytes.map Char.toNat) else none with
      | some p => ⟨bytes, isPrintable p⟩ :: symbols utf8 fuel ((c :: cs).drop size)
      | none => single :: symbols utf8 fuel cs

/-- A byte in three octal digits after a backslash. -/
def octal (c : Char) : List Char :=
  let n := c.toNat
  let digit (k : Nat) : Char := Char.ofNat ('0'.toNat + k % 8)
  ['\\', digit (n / 64), digit (n / 8), digit n]

/-- The letter of a control character after a backslash. -/
def letter? (c : Char) : Option Char :=
  match c with
  | '\x07' => some 'a'
  | '\x08' => some 'b'
  | '\x0c' => some 'f'
  | '\n' => some 'n'
  | '\r' => some 'r'
  | '\t' => some 't'
  | '\x0b' => some 'v'
  | _ => none

/-- A character that cannot be shown, after a backslash. -/
def escaped (s : Symbol) : List Char :=
  match s.bytes with
  | [c] =>
    match letter? c with
    | some l => ['\\', l]
    | none => octal c
  | bytes => bytes.flatMap octal

/-- A name between quotation marks. -/
def marked (utf8 : Bool) (name : String) : String :=
  let opening := if utf8 then Octets.encode "‘" else "'"
  let closing := if utf8 then Octets.encode "’" else "'"
  let body := (symbols utf8 (name.length + 1) name.toList).flatMap fun s =>
    if s.bytes = ['\\'] then ['\\', '\\']
    else if s.bytes = closing.toList then '\\' :: s.bytes
    else if s.printable then s.bytes
    else escaped s
  opening ++ String.ofList body ++ closing

/-- Characters that have a meaning to a shell. -/
def shellChars : List Char := "?\\ !\"$&()*;<=>[^`|'".toList

/-- Characters that keep their meaning in single as well as in double quotes. -/
def isHarmless (s : Symbol) : Bool :=
  match s.bytes with
  | [c] =>
    if c.toNat < 0x80 then c == ' ' || c == '\'' || c.isAlphanum || "%+,-./:]_@".toList.contains c
    else s.printable
  | _ => s.printable

/-- A name that has apostrophes, and nothing else that double quotes would not
keep as it is. -/
def suitsDoubleQuotes (utf8 : Bool) (name : String) : Bool :=
  let all := symbols utf8 (name.length + 1) name.toList
  name.toList.contains '\'' && all.zipIdx.all fun (s, i) =>
    isHarmless s || (i = 0 && (s.bytes = ['#'] || s.bytes = ['~'])) ||
      (all.length = 1 && (s.bytes = ['\x7b'] || s.bytes = ['\x7d']))

/-- A name quoted for a shell. -/
def shell (utf8 : Bool) (name : String) : String :=
  if suitsDoubleQuotes utf8 name then "\"" ++ name ++ "\""
  else
    /- Inside of `$'…'` or not, and the text so far. -/
    let step (state : Bool × List Char) (s : Symbol) : Bool × List Char :=
      let (inside, text) := state
      if !s.printable then
        let text := if inside then text else text ++ "'$'".toList
        (true, text ++ escaped s)
      else
        let text := if inside then text ++ "''".toList else text
        if s.bytes = ['\''] then (false, text ++ "'\\''".toList)
        else (false, text ++ s.bytes)
    let (_, text) := (symbols utf8 (name.length + 1) name.toList).foldl step (false, [])
    "'" ++ String.ofList text ++ "'"

/-- A name quoted for a shell, with all its characters as they are. -/
def shellPlain (utf8 : Bool) (name : String) : String :=
  if suitsDoubleQuotes utf8 name then "\"" ++ name ++ "\""
  else "'" ++ String.ofList (name.toList.flatMap fun c =>
    if c == '\'' then "'\\''".toList else [c]) ++ "'"

/-- The name means something else to a shell without quotes; `extra` are characters
that need them too. -/
def needsQuotes (utf8 : Bool) (extra : List Char) (name : String) : Bool :=
  let all := symbols utf8 (name.length + 1) name.toList
  name.isEmpty || all.zipIdx.any fun (s, i) =>
    (s.bytes.any fun c => shellChars.contains c || extra.contains c) ||
      (i = 0 && (s.bytes = ['#'] || s.bytes = ['~'])) ||
      (all.length = 1 && (s.bytes = ['\x7b'] || s.bytes = ['\x7d']))

/-- A name quoted for a shell where that is needed, with all its characters as they
are. -/
def plainAsNeeded (utf8 : Bool) (extra : List Char) (name : String) : String :=
  if needsQuotes utf8 (['\n', '\r', '\t'] ++ extra) name then shellPlain utf8 name else name

/-- A name quoted for a shell where that is needed; `extra` are characters that
need it too. -/
def asNeeded (utf8 : Bool) (extra : List Char) (name : String) : String :=
  let hidden := (symbols utf8 (name.length + 1) name.toList).any fun s => !s.printable
  if hidden || needsQuotes utf8 extra name then shell utf8 name else name

/-- A name with backslashes before what has to be escaped; `extra` are characters
that have to be. -/
def escapedName (utf8 : Bool) (extra : List Char) (name : String) : String :=
  String.ofList ((symbols utf8 (name.length + 1) name.toList).flatMap fun s =>
    if s.bytes = ['\\'] || s.bytes.any extra.contains then '\\' :: s.bytes
    else if s.printable then s.bytes
    else escaped s)

/-- A name with question marks in place of what cannot be shown. -/
def masked (utf8 : Bool) (name : String) : String :=
  String.ofList ((symbols utf8 (name.length + 1) name.toList).flatMap fun s =>
    if s.printable then s.bytes else ['?'])

end Quote

namespace UtilityM

/-- A name between quotation marks. -/
def marked (name : String) : UtilityM String := return Quote.marked (← get).isUtf8 name

/-- A name quoted for a shell. -/
def quoted (name : String) : UtilityM String := return Quote.shell (← get).isUtf8 name

/-- A name at the start of a message, quoted where that is needed. -/
def named (name : String) : UtilityM String := return Quote.asNeeded (← get).isUtf8 [':'] name

end UtilityM

end Assay.Sandbox

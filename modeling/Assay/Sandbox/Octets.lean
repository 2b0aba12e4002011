import Assay.Host.Path

/-! # Texts of octets

Programs of the sandbox pass on bytes that need not be the encoding of any text.
An octet text is a `String` in which every character stands for one byte, so all
functions on strings apply to it.  `encode` and `decode` lead to it from ordinary
text and back, `ofBytes` and `toBytes` from bytes and paths.

Numbers in such texts are read digit by digit.
-/

namespace Assay.Sandbox

namespace Octets

open Text (Bytes)

def ofBytes (data : Bytes) : String := String.ofList (data.map fun b => Char.ofNat b.toNat)

def toBytes (text : String) : Bytes := text.toList.map fun c => UInt8.ofNat c.toNat

/-- The bytes of a text, one character for each. -/
def encode (text : String) : String := ofBytes (Text.utf8 text)

/-- The text that bytes stand for; what stands for none is replaced. -/
def decode (octets : String) : String := Text.lossy (toBytes octets)

/-! ## Paths -/

def isAbsolute (path : String) : Bool := Path.isAbsolute (toBytes path)

def endsWithSlash (path : String) : Bool := Path.endsWithSlash (toBytes path)

/-- The path without the slashes at its end. -/
def withoutSlashes (path : String) : String := ofBytes (Path.withoutSlashes (toBytes path))

/-- The location by the names on the way to it. -/
def ofLocation (names : List Path) : String := "/".intercalate (names.map ofBytes)

end Octets

namespace Digits

/-- The value of a digit in bases up to sixteen. -/
def value? (c : Char) : Option Nat :=
  if c.isDigit then some (c.toNat - '0'.toNat)
  else if 'a' ≤ c && c ≤ 'f' then some (c.toNat - 'a'.toNat + 10)
  else if 'A' ≤ c && c ≤ 'F' then some (c.toNat - 'A'.toNat + 10)
  else none

/-- The character is a digit to the base. -/
def isDigit (base : Nat) (c : Char) : Bool := (value? c).any (· < base)

/-- The number that digits stand for. -/
def number (base : Nat) (digits : List Char) : Nat :=
  digits.foldl (fun n c => n * base + (value? c).getD 0) 0

/-- The digits at the start of a text, at most `limit` of them, and the rest. -/
def split (base limit : Nat) (cs : List Char) : List Char × List Char :=
  let digits := (cs.take limit).takeWhile (isDigit base)
  (digits, cs.drop digits.length)

/-- The number that a text of digits stands for. -/
def number? (base : Nat) (digits : List Char) : Option Nat :=
  if digits.isEmpty || !digits.all (isDigit base) then none else some (number base digits)

/-- The base that the start of a numeral tells, and its digits: hexadecimal after
`0x` and octal after a zero. -/
def base (cs : List Char) : Nat × List Char :=
  match cs with
  | '0' :: 'x' :: rest | '0' :: 'X' :: rest => (16, rest)
  | '0' :: rest => (8, '0' :: rest)
  | cs => (10, cs)

/-- A sign, if there is one, and what follows it. -/
def sign (cs : List Char) : Bool × List Char :=
  match cs with
  | '-' :: rest => (true, rest)
  | '+' :: rest => (false, rest)
  | cs => (false, cs)

/-- A number with its sign. -/
def signed (negative : Bool) (n : Nat) : Int := if negative then -(n : Int) else n

/-- How many numbers there are of 64 bits. -/
def modulus : Nat := Nat.pow 2 64

/-- A number as 64 bits without a sign. -/
def bits (n : Int) : Nat := (n % modulus).toNat

/-- A blank, or a control character that counts as one. -/
def isSpace (c : Char) : Bool := c == ' ' || (9 ≤ c.toNat && c.toNat ≤ 13)

end Digits

end Assay.Sandbox

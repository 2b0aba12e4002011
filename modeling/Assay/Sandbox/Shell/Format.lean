import Assay.Sandbox.Shell.Real

/-! # Formatted output

The escapes of `echo`, and the formats of `printf`.  A format is used again as
long as there are arguments.
-/

namespace Assay.Sandbox.Shell.Format

/-- The character that stands for what follows a backslash, and the rest.  A
backslash before anything else stands for itself. -/
def escape : List Char → Char × List Char
  | 'a' :: cs => ('\x07', cs)
  | 'b' :: cs => ('\x08', cs)
  | 'e' :: cs => ('\x1b', cs)
  | 'f' :: cs => ('\x0c', cs)
  | 'n' :: cs => ('\n', cs)
  | 'r' :: cs => ('\r', cs)
  | 't' :: cs => ('\t', cs)
  | 'v' :: cs => ('\x0b', cs)
  | '\\' :: cs => ('\\', cs)
  | cs =>
    let (digits, rest) := Digits.split 8 3 cs
    if digits.isEmpty then ('\\', cs) else (Char.ofNat (Digits.number 8 digits % 256), rest)

/-- A text with its escapes resolved, and whether `\c` has ended all output.  The
result so far is given, last character first. -/
def unescape : (fuel : Nat) → List Char → List Char → List Char × Bool
  | 0, _, sofar => (sofar.reverse, false)
  | _, [], sofar => (sofar.reverse, false)
  | fuel + 1, '\\' :: cs, sofar =>
    match cs with
    | 'c' :: _ => (sofar.reverse, true)
    | cs =>
      let cs := match cs with
        | '0' :: d :: rest => if Digits.isDigit 8 d then d :: rest else cs
        | cs => cs
      let (c, rest) := escape cs
      unescape fuel rest (c :: sofar)
  | fuel + 1, c :: cs, sofar => unescape fuel cs (c :: sofar)

def unescapeText (text : String) : String × Bool :=
  let (cs, stopped) := unescape (text.length + 1) text.toList []
  (String.ofList cs, stopped)

/-- How a value is laid out. -/
structure Layout where
  flags : List Char := []
  width : Nat := 0
  precision : Option Nat := none
  deriving Repr, DecidableEq

namespace Layout

def has (l : Layout) (flag : Char) : Bool := l.flags.contains flag

/-- Bring a text to the width. -/
def pad (l : Layout) (text : String) : String :=
  let blanks := String.ofList (List.replicate (l.width - text.length) ' ')
  if l.has '-' then text ++ blanks else blanks ++ text

/-- A text of at most as many characters as the precision says. -/
def text (l : Layout) (s : String) : String :=
  l.pad (match l.precision with
    | some n => String.ofList (s.toList.take n)
    | none => s)

def sign (l : Layout) (negative : Bool) : String :=
  if negative then "-" else if l.has '+' then "+" else if l.has ' ' then " " else ""

/-- A number by what comes before its digits, filled up with zeros if `zeros`. -/
def number (l : Layout) (zeros : Bool) (lead digits : String) : String :=
  if zeros && l.has '0' && !l.has '-' then
    lead ++ String.ofList (List.replicate (l.width - lead.length - digits.length) '0') ++ digits
  else l.pad (lead ++ digits)

/-- The digits of a whole number, at least as many as the precision says. -/
def whole (l : Layout) (base n : Nat) (upper : Bool) : String :=
  let ds := if l.precision = some 0 && n = 0 then [] else Nat.toDigits base n
  let ds := List.replicate (l.precision.getD 0 - ds.length) '0' ++ ds
  String.ofList (if upper then ds.map Char.toUpper else ds)

/-- A whole number with a sign. -/
def signed (l : Layout) (n : Int) : String :=
  l.number l.precision.isNone (l.sign (n < 0)) (l.whole 10 n.natAbs false)

/-- A whole number without a sign. -/
def unsigned (l : Layout) (letter : Char) (n : Nat) : String :=
  match letter with
  | 'o' =>
    let digits := l.whole 8 n false
    let digits := if l.has '#' && digits.toList.head? != some '0' then "0" ++ digits else digits
    l.number l.precision.isNone "" digits
  | 'x' | 'X' =>
    let upper := letter == 'X'
    let lead := if l.has '#' && n ≠ 0 then (if upper then "0X" else "0x") else ""
    l.number l.precision.isNone lead (l.whole 16 n upper)
  | _ => l.number l.precision.isNone "" (l.whole 10 n false)

/-- A real number. -/
def real (l : Layout) (letter : Char) (x : Number.Binary64) : String :=
  let pointed := l.has '#'
  let text := match x with
    | .nan => l.number false (l.sign false) "nan"
    | .infinite negative => l.number false (l.sign negative) "inf"
    | .finite negative m =>
      let places := l.precision.getD 6
      match letter.toLower with
      | 'f' => l.number true (l.sign negative) (Real.positional m places pointed)
      | 'e' => l.number true (l.sign negative) (Real.scientific m places pointed false)
      | 'g' => l.number true (l.sign negative) (Real.general m places pointed)
      | _ => l.number true (l.sign negative ++ "0x") (Real.hexadecimal m l.precision pointed)
  if letter.isUpper then String.ofList (text.toList.map Char.toUpper) else text

end Layout

/-- Output so far, the latest piece first, with messages. -/
structure Result where
  output : List String := []
  /-- Messages about arguments, the latest one first. -/
  messages : List String := []
  stopped : Bool := false
  /-- What is wrong with the format. -/
  fault : Option String := none
  deriving Repr, DecidableEq

def Result.put (r : Result) (text : String) : Result := { r with output := text :: r.output }

def Result.complain (r : Result) (message : Option String) : Result :=
  { r with messages := message.toList ++ r.messages }

/-- What is said of an argument of which `rest` is not part of the number. -/
def complaint (text : String) (read : Bool) (rest : List Char) (outOfRange : Bool) : Option String :=
  if !rest.isEmpty then
    some (text ++ if read then ": not completely converted" else ": expected numeric value")
  else if outOfRange then some (text ++ ": Numerical result out of range")
  else none

/-- The number that a text after a quotation mark stands for: its character. -/
def quoted? (text : String) : Option Nat :=
  match text.toList with
  | q :: rest => if q == '\'' || q == '"' then some ((rest.head?.map Char.toNat).getD 0) else none
  | [] => none

/-- The whole number that an argument stands for, with or without a sign, and what
is said of it. -/
def wholeArgument (isSigned : Bool) (text : String) : Int × Option String :=
  match quoted? text with
  | some n => (n, none)
  | none =>
    let (negative, cs) := Digits.sign (text.toList.dropWhile Digits.isSpace)
    let (base, body) : Nat × List Char := match cs with
      | '0' :: x :: d :: rest =>
        if (x == 'x' || x == 'X') && Digits.isDigit 16 d then (16, d :: rest) else (8, cs)
      | '0' :: _ => (8, cs)
      | cs => (10, cs)
    let (digits, rest) := Digits.split base body.length body
    let magnitude := Digits.number base digits
    let n := Digits.signed negative magnitude
    let half := Nat.pow 2 63
    if digits.isEmpty then (0, complaint text false text.toList false)
    else if isSigned then
      let out := (half : Int) ≤ n || n < -(half : Int)
      let n := if (half : Int) ≤ n then (half : Int) - 1 else if n < -(half : Int) then -(half : Int) else n
      (n, complaint text true rest out)
    else
      let out := Digits.modulus ≤ magnitude
      let n := if out then (Digits.modulus : Int) - 1 else (Digits.bits n : Int)
      (n, complaint text true rest out)

/-- The real number that an argument stands for. -/
def realArgument (text : String) : Number.Binary64 × Option String :=
  match quoted? text with
  | some n => (.ofRatio false n 1, none)
  | none =>
    match Real.read text.toList with
    | none => (.finite false .zero, complaint text false text.toList false)
    | some (x, out, rest) => (x, complaint text true rest out)

/-- The letters of real numbers. -/
def realLetters : List Char := "aAeEfFgG".toList

/-- One conversion on an argument that may be missing; `directive` is its text. -/
def convert (l : Layout) (letter : Char) (directive : String) (arg : Option String) (r : Result) :
    Result :=
  let text := arg.getD ""
  match letter with
  | 's' => r.put (l.text text)
  | 'c' => r.put (l.pad (String.ofList [text.toList.headD '\x00']))
  | 'b' =>
    let (s, stopped) := unescapeText text
    { r.put (l.text s) with stopped := stopped }
  | 'd' | 'i' =>
    let (n, message) := wholeArgument true text
    (r.put (l.signed n)).complain message
  | 'u' | 'o' | 'x' | 'X' =>
    let (n, message) := wholeArgument false text
    (r.put (l.unsigned letter n.toNat)).complain message
  | c =>
    if realLetters.contains c then
      let (x, message) := realArgument text
      (r.put (l.real c x)).complain message
    else { r with fault := some (directive ++ ": invalid directive"), stopped := true }

def isFlag (c : Char) : Bool := "#-+ 0".toList.contains c

/-- A number of a directive: digits, or a star for an argument.  The result is the
number, its text, and what follows, with the arguments left. -/
def readSize (cs : List Char) (args : List String) (r : Result) :
    Int × List Char × List Char × List String × Result :=
  match cs with
  | '*' :: rest =>
    let (n, message) := match args.head? with
      | some text => wholeArgument true text
      | none => (0, none)
    (Int.bmod n (Nat.pow 2 32), ['*'], rest, args.tail, r.complain message)
  | cs =>
    let (digits, rest) := Digits.split 10 cs.length cs
    (Digits.number 10 digits, digits, rest, args, r)

/-- Go through a format once. -/
def once : (fuel : Nat) → List Char → List String → Result → Result × List String
  | 0, _, args, r => (r, args)
  | _, [], args, r => (r, args)
  | fuel + 1, '\\' :: cs, args, r =>
    let (c, rest) := escape cs
    once fuel rest args (r.put c.toString)
  | fuel + 1, '%' :: '%' :: cs, args, r => once fuel cs args (r.put "%")
  | fuel + 1, '%' :: cs, args, r =>
    let flags := cs.takeWhile isFlag
    let (width, widthText, cs, args, r) := readSize (cs.drop flags.length) args r
    let (precision, precisionText, cs, args, r) :
        Option Int × List Char × List Char × List String × Result := match cs with
      | '.' :: cs =>
        let (n, text, cs, args, r) := readSize cs args r
        (some n, '.' :: text, cs, args, r)
      | cs => (none, [], cs, args, r)
    match cs with
    | [] => ({ r with fault := some "missing format character", stopped := true }, args)
    | letter :: cs =>
      let directive := String.ofList ('%' :: flags ++ widthText ++ precisionText ++ [letter])
      let flags := if width < 0 then '-' :: flags else flags
      let precision := (precision.filter fun n => 0 ≤ n).map Int.toNat
      let layout : Layout := { flags, width := width.natAbs, precision }
      let r := convert layout letter directive args.head? r
      if r.stopped then (r, args.tail) else once fuel cs args.tail r
  | fuel + 1, c :: cs, args, r => once fuel cs args (r.put c.toString)

/-- Go through a format as often as there are arguments for it. -/
def all (format : List Char) : (fuel : Nat) → List String → Result → Result
  | 0, _, r => r
  | fuel + 1, args, r =>
    let (r, rest) := once (format.length + 1) format args r
    if r.stopped || rest.isEmpty || rest.length = args.length then r else all format fuel rest r

def printf (format : String) (args : List String) : Result :=
  all format.toList (args.length + 1) args {}

end Assay.Sandbox.Shell.Format

import Assay.Sandbox.Octets
import Assay.Sandbox.Utility.Options

/-! # Comparing files byte by byte -/

namespace Assay.Sandbox.Utility

open UtilityM
open Text (Bytes)

/-- What is shown of differences. -/
inductive Shown where
  | first
  | all
  /-- Nothing but the exit code. -/
  | status
  deriving Repr, DecidableEq

/-- How files are compared. -/
structure CompareStyle where
  shown : Option Shown := none
  /-- Bytes are shown as characters too. -/
  chars : Bool := false
  /-- How many bytes are left out at the start of each file. -/
  skips : Nat × Nat := (0, 0)
  /-- How many bytes are compared at most. -/
  limit : Option Nat := none

/-- The units of numbers. -/
def compareUnit? (suffix : List Char) : Option Nat :=
  let scales : List (Char × Nat) :=
    [('k', 1), ('K', 1), ('M', 2), ('G', 3), ('T', 4), ('P', 5), ('E', 6), ('Z', 7), ('Y', 8)]
  match suffix with
  | [] => some 1
  | [c] => (scales.lookup c).map fun k => Nat.pow 1024 k
  | [c, 'B'] | [c, 'D'] => (scales.lookup c).map fun k => Nat.pow 1000 k
  | [c, 'i', 'B'] => (scales.lookup c).map fun k => Nat.pow 1024 k
  | _ => none

/-- The number that a text stands for, octal after a zero and hexadecimal after
`0x`. -/
def compareNumber? (text : List Char) : Option Nat :=
  let cs := text.dropWhile Digits.isSpace
  let (negative, cs) := Digits.sign cs
  if negative then none
  else
    let (base, digits) := Digits.base cs
    let (found, rest) := Digits.split base digits.length digits
    let number :=
      if !found.isEmpty then some (Digits.number base found, rest)
      else if base = 16 then some (0, cs.drop 1)
      else if cs.isEmpty || cs.length < text.length then none
      else some (1, rest)
    match number with
    | none => none
    | some (n, suffix) =>
      match compareUnit? suffix with
      | some u => if n * u < Digits.modulus then some (n * u) else none
      | none => none

/-- Refuse an argument. -/
def refuseValue {α : Type} (what text : String) : UtilityM α := do
  report ("invalid --" ++ what ++ " value '" ++ text ++ "'")
  refuse

/-- How many bytes are left out. -/
def skipCount (text : String) (part : List Char) : UtilityM Nat := do
  match compareNumber? part with
  | some n => if n < Nat.pow 2 63 then return n else refuseValue "ignore-initial" text
  | none => refuseValue "ignore-initial" text

/-- Say what is shown, once. -/
def CompareStyle.showing (style : CompareStyle) (s : Shown) : UtilityM CompareStyle := do
  match style.shown with
  | some s' =>
    if s ≠ s' then
      report "options -l and -s are incompatible"
      refuse
    return style
  | none => return { style with shown := some s }

def compareSpec : OptionSpec where
  letters := OptionSpec.ofLetters "bclsv" "in"
  names := [("print-bytes", .none, "b"), ("print-chars", .none, "c"), ("ignore-initial", .required, "i"),
    ("verbose", .none, "l"), ("bytes", .required, "n"), ("silent", .none, "s"), ("quiet", .none, "s")]

/-- Take note of an option. -/
def compareOption (style : CompareStyle) (key : String) (value : Option String) :
    UtilityM CompareStyle := do
  let text := value.getD ""
  match key with
  | "b" | "c" => return { style with chars := true }
  | "l" => style.showing .all
  | "s" => style.showing .status
  | "n" =>
    match compareNumber? text.toList with
    | some n => return { style with limit := some (min n (style.limit.getD n)) }
    | none => refuseValue "bytes" text
  | "i" =>
    let first := text.toList.takeWhile (· != ':')
    let (a, b) := style.skips
    let n ← skipCount text first
    match text.toList.drop first.length with
    | [] => return { style with skips := (max a n, max b (max a n)) }
    | _ :: second =>
      return { style with skips := (max a n, max b (← skipCount (String.ofList second) second)) }
  | _ => return style

/-- A byte as a character. -/
def byteLabel (b : UInt8) : String :=
  let n := b.toNat
  let (mark, n) := if 128 ≤ n then ("M-", n - 128) else ("", n)
  let (mark, n) := if n < 32 then (mark ++ "^", n + 64) else if n = 127 then (mark ++ "^", 63) else (mark, n)
  mark ++ String.ofList [Char.ofNat n]

/-- A text with blanks before it up to a width. -/
def padLeft (width : Nat) (text : String) : String :=
  String.ofList (List.replicate (width - text.length) ' ') ++ text

/-- A text with blanks after it up to a width. -/
def padRight (width : Nat) (text : String) : String :=
  text ++ String.ofList (List.replicate (width - text.length) ' ')

/-- A byte in octal digits. -/
def octalByte (b : UInt8) : String := padLeft 3 (String.ofList (Nat.toDigits 8 b.toNat))

/-- A file that is compared. -/
structure Compared where
  name : String
  fd : Nat
  entry : Entry
  /-- Where the comparison begins; `none` if the file has to be read from its
  start. -/
  position : Option Nat

/-- What has been found out so far. -/
structure Comparison where
  /-- The numbers of the byte and the line that come next. -/
  byte : Nat := 1
  line : Nat := 1
  atLineStart : Bool := false
  differing : Bool := false

/-- How many bytes are read at once. -/
def compareBlock : Nat := 4096

/-- Read so many bytes, unless the file ends before. -/
def readBlock (file : Compared) : (rounds : Nat) → (size : Nat) → Bytes → UtilityM Bytes
  | 0, _, sofar => return sofar
  | rounds + 1, size, sofar => do
    match ← Proc.read file.fd size with
    | .error e => fail (file.name ++ ": " ++ plainError e)
    | .ok [] => return sofar
    | .ok data =>
      if data.length = size then return sofar ++ data
      readBlock file rounds (size - data.length) (sofar ++ data)

/-- Read and drop so many bytes. -/
def dropBytes (file : Compared) : (rounds : Nat) → (size : Nat) → UtilityM Unit
  | 0, _ => pure ()
  | rounds + 1, size => do
    if size = 0 then return
    let want := min size compareBlock
    let data ← readBlock file want want []
    if data.length = want then dropBytes file rounds (size - want)

/-- The length of the common start of two texts. -/
def commonStart : Bytes → Bytes → Nat → Nat
  | x :: xs, y :: ys, n => if x = y then commonStart xs ys (n + 1) else n
  | _, _, n => n

/-- Lines about all bytes that differ, from the given number on. -/
def differenceLines (style : CompareStyle) (width : Nat) : Bytes → Bytes → Nat → List String
  | x :: xs, y :: ys, n =>
    let rest := differenceLines style width xs ys (n + 1)
    if x = y then rest
    else
      let number := padLeft width (toString n)
      let line :=
        if style.chars then
          number ++ " " ++ octalByte x ++ " " ++ padRight 4 (byteLabel x) ++ " " ++ octalByte y ++ " " ++
            byteLabel y
        else number ++ " " ++ octalByte x ++ " " ++ octalByte y
      (line ++ "\n") :: rest
  | _, _, _ => []

/-- Messages speak of bytes and not of characters. -/
def speaksOfBytes : UtilityM Bool := do
  let s ← get
  let chosen := ["LC_ALL", "LC_MESSAGES", "LANG"].findSome? fun name =>
    (s.setting name).filter fun v => !v.isEmpty
  match chosen with
  | some name => return name ≠ "C" && name ≠ "POSIX" && Session.isUtf8 { s with env := ["LC_ALL=" ++ name] }
  | none => return false

/-- Show the first difference. -/
def showDifference (style : CompareStyle) (a b : Compared) (c : Comparison) (x y : UInt8) :
    UtilityM Unit := do
  let unit := if style.chars || (← speaksOfBytes) then "byte" else "char"
  let bytes := if style.chars then
      " is " ++ octalByte x ++ " " ++ byteLabel x ++ " " ++ octalByte y ++ " " ++ byteLabel y
    else ""
  print (a.name ++ " " ++ b.name ++ " differ: " ++ unit ++ " " ++ toString c.byte ++ ", line " ++
    toString c.line ++ bytes ++ "\n")

/-- Say that a file has come to its end before the other one. -/
def reportEnd (shown : Shown) (name : String) (c : Comparison) : UtilityM Unit := do
  let message :=
    if c.byte = 1 then name ++ " which is empty"
    else
      let after := name ++ " after byte " ++ toString (c.byte - 1)
      if shown = .first then
        if c.atLineStart then after ++ ", line " ++ toString (c.line - 1)
        else after ++ ", in line " ++ toString c.line
      else after
  complain ("cmp: EOF on " ++ message)

/-- Compare block by block; the exit code. -/
def compareBlocks (style : CompareStyle) (shown : Shown) (quiet : Bool) (width : Nat) (a b : Compared) :
    (rounds : Nat) → (left : Option Nat) → Comparison → UtilityM Nat
  | 0, _, _ => return 2
  | rounds + 1, left, c => do
    let want := min compareBlock (left.getD compareBlock)
    let left := left.map (· - want)
    let xs ← readBlock a compareBlock want []
    let ys ← readBlock b compareBlock want []
    let smaller := min xs.length ys.length
    let first := commonStart xs ys 0
    let common := xs.take first
    let c := { c with
      byte := c.byte + first
      line := c.line + common.count 10
      atLineStart := if first = 0 then c.atLineStart else common.getLast? == some 10 }
    let more : UtilityM Nat := do
      if xs.length = compareBlock then compareBlocks style shown quiet width a b rounds left c
      else return if c.differing then 1 else 0
    if first < smaller then
      if quiet then return 1
      match shown with
      | .status => return 1
      | .first =>
        match xs[first]?, ys[first]? with
        | some x, some y => showDifference style a b c x y
        | _, _ => pure ()
        return 1
      | .all =>
        (differenceLines style width (xs.drop first) (ys.drop first) c.byte).forM print
        let c := { c with byte := c.byte + (smaller - first), differing := true }
        if xs.length ≠ ys.length then
          reportEnd shown (if ys.length < xs.length then b.name else a.name) c
          return 1
        if xs.length = compareBlock then compareBlocks style shown quiet width a b rounds left c
        else return 1
    else if xs.length ≠ ys.length then
      if shown ≠ .status then reportEnd shown (if ys.length < xs.length then b.name else a.name) c
      return 1
    else more

/-- Open a file to be compared. -/
def openCompared (style : CompareStyle) (name : String) (skip : Nat) : UtilityM Compared := do
  let opened ← if name = "-" then pure (.ok 0) else Proc.openInput name
  match opened with
  | .error e =>
    if style.shown = some .status then throw 2
    fail (name ++ ": " ++ plainError e)
  | .ok fd =>
    match ← Proc.entryOf fd with
    | none => fail (name ++ ": " ++ plainError .badDescriptor)
    | some entry =>
      let position ← Proc.perform fun pid s =>
        match s.file? pid fd with
        | some (index, f) =>
          match f.channel with
          | .file _ => (some (f.position + skip), s.seek index (f.position + skip))
          | .device _ => (some 0, s)
          | _ => (none, s)
        | none => (none, s)
      return { name, fd, entry, position }

/-- Compare two files that are open. -/
def compareFiles (style : CompareStyle) (a b : Compared) : UtilityM Nat := do
  let shown := style.shown.getD .first
  let discards ← Proc.ask fun pid s =>
    (s.file? pid 1).any fun f => f.2.channel = .device .null
  if a.entry.node = b.entry.node && a.position = b.position then return 0
  let left (f : Compared) : Nat := f.entry.data.length - f.position.getD 0
  let bothFiles := a.entry.isFile && b.entry.isFile
  if shown = .status && bothFiles then
    let least := min (left a) (left b)
    if left a ≠ left b && style.limit.all (fun n => decide (least < n)) then return 1
  let bound := [a, b].foldl (fun n f => if f.entry.isFile then min n (left f) else n)
    (min (style.limit.getD (Nat.pow 2 63 - 1)) (Nat.pow 2 63 - 1))
  let width := (toString bound).length
  if a.position.isNone then dropBytes a Proc.pieceBound style.skips.1
  if b.position.isNone then dropBytes b Proc.pieceBound style.skips.2
  /- What would be lost is not shown at all. -/
  let quiet := discards && shown ≠ .status
  compareBlocks style (if quiet then .all else shown) quiet width a b Proc.pieceBound style.limit {}

/-- Compare two files byte by byte. -/
def cmp : Utility := fun args => do
  fillStandard
  let (style, operands) ← options compareSpec args ({} : CompareStyle) compareOption
  match operands with
  | [] =>
    report ("missing operand after '" ++ (args.getLast?.getD (← get).name) ++ "'")
    refuse
  | first :: rest =>
    let second := rest.headD "-"
    let (a, b) := style.skips
    let a ← match rest[1]? with
      | some text => pure (max a (← skipCount text text.toList))
      | none => pure a
    let b ← match rest[2]? with
      | some text => pure (max b (← skipCount text text.toList))
      | none => pure b
    match rest[3]? with
    | some extra =>
      report ("extra operand '" ++ extra ++ "'")
      refuse
    | none => pure ()
    let style := { style with skips := (a, b) }
    let same := a = b && first = second
    if second = "-" then
      let y ← openCompared style second b
      if same then return 0
      let x ← openCompared style first a
      compareFiles style x y
    else
      let x ← openCompared style first a
      if same then return 0
      let y ← openCompared style second b
      compareFiles style x y

end Assay.Sandbox.Utility

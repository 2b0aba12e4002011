import Assay.Sandbox.Utility.Options
import Assay.Text.Width

/-! # Counting lines, words and bytes -/

namespace Assay.Sandbox.Utility

open UtilityM
open Text (Bytes)

/-- What can be counted, in the order in which it is shown. -/
inductive Measure where
  | lines
  | words
  | chars
  | bytes
  | longest
  deriving Repr, DecidableEq

def Measure.all : List Measure := [.lines, .words, .chars, .bytes, .longest]

/-- What has been counted. -/
structure Counts where
  lines : Nat := 0
  words : Nat := 0
  chars : Nat := 0
  bytes : Nat := 0
  longest : Nat := 0
  deriving Repr, DecidableEq

namespace Counts

def get (c : Counts) : Measure → Nat
  | .lines => c.lines
  | .words => c.words
  | .chars => c.chars
  | .bytes => c.bytes
  | .longest => c.longest

/-- Counts of two files together; the longest line is that of either. -/
def add (a b : Counts) : Counts :=
  { lines := a.lines + b.lines, words := a.words + b.words, chars := a.chars + b.chars,
    bytes := a.bytes + b.bytes, longest := max a.longest b.longest }

end Counts

/-- Counting in progress. -/
structure Counting where
  counts : Counts := {}
  inWord : Bool := false
  /-- The width of the current line so far. -/
  column : Nat := 0

/-- Blanks between words, other than those of a single byte. -/
def isWideBlank (posix : Bool) (n : Nat) : Bool :=
  n = 0x1680 || (0x2000 ≤ n && n ≤ 0x2006) || (0x2008 ≤ n && n ≤ 0x200a) || n = 0x205f || n = 0x3000 ||
    (!posix && (n = 0xa0 || n = 0x2007 || n = 0x202f || n = 0x2060))

namespace Counting

def endWord (k : Counting) : Counting :=
  if k.inWord then { k with inWord := false, counts := { k.counts with words := k.counts.words + 1 } }
  else k

/-- A line comes to its end, or starts anew. -/
def endLine (k : Counting) : Counting :=
  { k with column := 0, counts := { k.counts with longest := max k.counts.longest k.column } }

/-- Count a character; nothing stands for a byte that belongs to none. -/
def step (posix : Bool) (k : Counting) (s : Quote.Symbol) : Counting :=
  let points := s.bytes.map Char.toNat
  let point : Option Nat := match points with
    | [a] => if a < 128 then some a else none
    | bs => Quote.codePoint bs
  let valid := point.isSome
  let counts := { k.counts with
    bytes := k.counts.bytes + s.bytes.length
    chars := k.counts.chars + if valid then 1 else 0 }
  let k := { k with counts := counts }
  match point with
  | none => k
  | some 10 =>
    let k := k.endLine.endWord
    { k with counts := { k.counts with lines := k.counts.lines + 1 } }
  | some 13 | some 12 => k.endLine.endWord
  | some 9 => { k with column := k.column + (8 - k.column % 8) }.endWord
  | some 32 => { k with column := k.column + 1 }.endWord
  | some 11 => k.endWord
  | some n =>
    if !s.printable then k
    else
      let k := { k with column := k.column + Text.width (Char.ofNat n) }
      if isWideBlank posix n then k.endWord else { k with inWord := true }

end Counting

/-- Count what bytes hold. -/
def count (utf8 posix : Bool) (data : Bytes) : Counts :=
  let text := Octets.ofBytes data
  let k := (Quote.symbols utf8 (text.length + 1) text.toList).foldl (Counting.step posix) {}
  let c := k.endLine.endWord.counts
  if utf8 then c else { c with chars := c.bytes }

/-- A line of counts. -/
def countLine (measures : List Measure) (width : Nat) (c : Counts) (name : Option String) : String :=
  let numbers := measures.map fun m =>
    let digits := toString (c.get m)
    String.ofList (List.replicate (width - digits.length) ' ') ++ digits
  " ".intercalate (numbers ++ name.toList) ++ "\n"

/-- What is known of an operand before it is read. -/
def operandEntry (name : Option String) : UtilityM (Option Entry) := do
  match name with
  | none | some "-" => Proc.entryOf 0
  | some path =>
    match ← Proc.stat path with
    | .ok (.special (.descriptor n) _) => Proc.entryOf n
    | .ok e => return some e
    | .error _ => return none

/-- How many places a number takes. -/
def countWidth (measures : List Measure) (names : List (Option String)) : UtilityM Nat := do
  if names.length = 1 && measures.length = 1 then return 1
  let entries ← names.mapM operandEntry
  let known := entries.filterMap id
  let total := (known.map fun
    | .file data _ => data.length
    | _ => 0).foldl (· + ·) 0
  let least := if known.all Entry.isFile then 1 else 7
  return max least (toString total).length

/-- Why an operand cannot be a file; `list` is the file that names it, in the place
`index`. -/
def operandFault (list : Option String) (index : Nat) (name : Option String) :
    UtilityM (Option String) := do
  match list, name with
  | none, some "" => return some "invalid zero-length file name"
  | some l, some "" =>
    return some ((← named l) ++ ":" ++ toString index ++ ": invalid zero-length file name")
  | some "-", some "-" =>
    return some ("when reading file names from stdin, no file name of " ++ (← quoted "-") ++ " allowed")
  | _, _ => return none

/-- Count each operand; the counts of all together. -/
def countOperands (list : Option String) (measures : List Measure) (width : Nat) :
    (index : Nat) → List (Option String) → Counts → UtilityM Counts
  | _, [], total => return total
  | index, name :: rest, total => do
    match ← operandFault list index name with
    | some fault =>
      warn fault
      return ← countOperands list measures width (index + 1) rest total
    | none => pure ()
    let s ← get
    let isInput := name.isNone || name = some "-"
    let shown := name.getD "standard input"
    let opened ← if isInput then pure (.ok 0) else Proc.openInput shown
    match opened with
    | .error e =>
      warn ((← named shown) ++ ": " ++ plainError e)
      countOperands list measures width (index + 1) rest total
    | .ok fd =>
      let data ← match ← Proc.readToEnd fd with
        | .ok data => pure data
        | .error e =>
          warn ((← named shown) ++ ": " ++ plainError e)
          pure []
      if !isInput then Proc.close fd
      let c := count s.isUtf8 s.isPosix data
      let label ← match name with
        | some n => if n.toList.contains '\n' then some <$> named n else pure (some n)
        | none => pure none
      print (countLine measures width c label)
      flush
      countOperands list measures width (index + 1) rest (total.add c)

def countSpec : OptionSpec where
  letters := OptionSpec.ofLetters "clLmw" ""
  names := [("bytes", .none, "c"), ("chars", .none, "m"), ("lines", .none, "l"), ("words", .none, "w"),
    ("files0-from", .required, "files"), ("max-line-length", .none, "L")]

/-- The operands that a file lists, each with a zero byte after it. -/
def listedOperands (path : String) : UtilityM (List String) := do
  let opened ← if path = "-" then pure (.ok 0) else Proc.openInput path
  match opened with
  | .error e => fail ("cannot open " ++ (← quoted path) ++ " for reading: " ++ plainError e)
  | .ok fd =>
    match ← Proc.readToEnd fd with
    | .error e => fail ((← named path) ++ ": read error: " ++ plainError e)
    | .ok data =>
      let names := (Octets.ofBytes data).splitOn "\x00"
      return if names.getLast? = some "" then names.dropLast else names

/-- Count what files hold. -/
def wc : Utility := fun args => do
  let ((chosen, list), operands) ← options countSpec args (([] : List Measure), (none : Option String))
    fun (chosen, list) key value =>
      return match key with
        | "c" => (.bytes :: chosen, list)
        | "m" => (.chars :: chosen, list)
        | "l" => (.lines :: chosen, list)
        | "w" => (.words :: chosen, list)
        | "L" => (.longest :: chosen, list)
        | _ => (chosen, value)
  let measures := if chosen.isEmpty then [.lines, .words, .bytes]
    else Measure.all.filter chosen.contains
  let names ← match list with
    | none => pure (if operands.isEmpty then [none] else operands.map some)
    | some path =>
      match operands with
      | extra :: _ =>
        report ("extra operand " ++ (← quoted extra))
        complain "file operands cannot be combined with --files0-from"
        refuse
      | [] => pure ((← listedOperands path).map some)
  let width ← countWidth measures names
  let total ← countOperands list measures width 1 names {}
  if 1 < names.length then
    print (countLine measures width total (some "total"))
    flush
  closeInput "-" (names.map fun n => n.getD "-")
  outcome

end Assay.Sandbox.Utility

import Assay.Sandbox.Difference
import Assay.Sandbox.Utility.DiffStyle
import Std.Data.HashMap

/-! # Texts whose lines are compared

The lines of two texts, which of them count as the same, and the changes that
lead from one text to the other.
-/

namespace Assay.Sandbox.Utility

open Difference (Change)

/-- A text that is compared. -/
structure DiffSide where
  lines : Array String
  /-- The last line has its line end. -/
  complete : Bool := true

namespace DiffSide

/-- The lines of a text. -/
def ofText (s : DiffStyle) (text : List Char) : DiffSide :=
  let complete := text.isEmpty || text.getLast? == some '\n'
  let lines := (String.ofList text).splitOn "\n"
  let lines := if complete then lines.dropLast else lines
  let bare (l : String) : String :=
    if s.stripReturns && l.toList.getLast? == some '\r' then String.ofList l.toList.dropLast else l
  ⟨(lines.map bare).toArray, complete || !s.shape.isRobust⟩

def line (d : DiffSide) (i : Nat) : String := d.lines.getD i ""

/-- The line with this number has its line end. -/
def isComplete (d : DiffSide) (i : Nat) : Bool := d.complete || i + 1 < d.lines.size

/-- The lines from `a` up to `b` with their numbers. -/
def between (d : DiffSide) (a b : Nat) : List (Nat × String) :=
  (List.range (b - a)).map fun k => (a + k, d.line (a + k))

end DiffSide

/-! ## Which lines are the same -/

/-- Tabs as blanks, from a column on. -/
def withoutTabs (tab : Nat) : (column : Nat) → List Char → List Char
  | _, [] => []
  | column, '\t' :: cs =>
    let n := tab - column % tab
    List.replicate n ' ' ++ withoutTabs tab (column + n) cs
  | column, c :: cs => c :: withoutTabs tab (column + 1) cs

/-- Each run of blanks as one. -/
def withSingleBlanks : (blank : Bool) → List Char → List Char
  | _, [] => []
  | blank, c :: cs =>
    if Digits.isSpace c then
      if blank then withSingleBlanks true cs else ' ' :: withSingleBlanks true cs
    else c :: withSingleBlanks false cs

/-- What counts of a line. -/
def lineKey (s : DiffStyle) (line : String) : String :=
  let cs := line.toList
  let cs := if s.ignoreCase then cs.map Char.toLower else cs
  let trimmed (cs : List Char) : List Char := (cs.reverse.dropWhile Digits.isSpace).reverse
  let w := s.white
  String.ofList <|
    if w.all then cs.filter fun c => !Digits.isSpace c
    else if w.amount then trimmed (withSingleBlanks false cs)
    else
      let cs := if w.trailing then trimmed cs else cs
      if w.tabs then withoutTabs s.tabSize 0 cs else cs

/-- Numbers for keys: the same key has the same number. -/
def numberKeys (keys : List String) (known : Std.HashMap String Nat) : Array Nat × Std.HashMap String Nat :=
  keys.foldl (fun (numbers, known) k =>
    match known[k]? with
    | some n => (numbers.push n, known)
    | none => (numbers.push known.size, known.insert k known.size)) (#[], known)

/-- How many lines are the same in both texts from the start, within a bound;
`index` says which line of each comes next. -/
def commonLines (a b : DiffSide) (index : Nat → Nat × Nat) : (fuel : Nat) → (n : Nat) → Nat
  | 0, n => n
  | fuel + 1, n =>
    let (i, j) := index n
    if a.line i = b.line j && a.isComplete i = b.isComplete j then commonLines a b index fuel (n + 1)
    else n

/-- The changes that lead from one text to the other.  Lines at both ends that are
the same are left out, all but those around changes. -/
def diffChanges (s : DiffStyle) (a b : DiffSide) : List Change :=
  let m := a.lines.size
  let n := b.lines.size
  let start := commonLines a b (fun k => (k, k)) (min m n) 0 - s.horizon
  let ending := if a.complete ≠ b.complete then 0
    else commonLines a b (fun k => (m - 1 - k, n - 1 - k)) (min m n - start) 0 - s.horizon
  let keys (d : DiffSide) (size : Nat) : List String :=
    (d.between start (size - ending)).map fun (i, l) =>
      (if d.isComplete i || s.white.endless then "" else "\n") ++ lineKey s l
  let (xs, known) := numberKeys (keys a m) {}
  let (ys, known) := numberKeys (keys b n) known
  (Difference.changes s.minimal known.size xs ys).map fun c =>
    { c with old := c.old + start, new := c.new + start }

/-! ## Which changes count -/

/-- One of the expressions fits a part of a line. -/
def fits (s : DiffStyle) (expressions : List Regex) (line : String) : Bool :=
  !expressions.isEmpty &&
    let cs := (if s.utf8 then Octets.decode line else line).toList
    expressions.any fun r => r.occurs cs

/-- A line whose change does not count. -/
def isIgnorable (s : DiffStyle) (line : String) : Bool :=
  (s.ignoreBlank && (line.isEmpty || (s.white.endless && line.toList.all Digits.isSpace))) ||
    fits s s.ignored line

/-- None of the changes counts. -/
def areIgnorable (s : DiffStyle) (a b : DiffSide) (cs : List Change) : Bool :=
  s.ignoresChanges && cs.all fun c =>
    (a.between c.old (c.old + c.deleted)).all (fun (_, l) => isIgnorable s l) &&
    (b.between c.new (c.new + c.inserted)).all (fun (_, l) => isIgnorable s l)

/-- The lines that changes concern: from `start` up to `stop` in each text. -/
structure Stretch where
  old : Nat × Nat
  new : Nat × Nat
  deletes : Bool
  inserts : Bool

/-- The lines that changes concern; nothing if the changes do not count. -/
def stretchOf (s : DiffStyle) (a b : DiffSide) (cs : List Change) : Option Stretch :=
  if areIgnorable s a b cs then none
  else match cs.head?, cs.getLast? with
    | some first, some last => some
      { old := (first.old, last.old + last.deleted), new := (first.new, last.new + last.inserted)
        deletes := cs.any fun c => 0 < c.deleted, inserts := cs.any fun c => 0 < c.inserted }
    | _, _ => none

/-- The texts differ. -/
def hasChanges (s : DiffStyle) (a b : DiffSide) (cs : List Change) : Bool :=
  cs.any fun c => !areIgnorable s a b [c]

/-! ## Lines as they are shown -/

/-- The characters of a line with tabs as blanks; `flag` is shown again after a
carriage return. -/
def expanded (tab : Nat) (flag : List Char) : (column : Nat) → List Char → List Char
  | _, [] => []
  | column, c :: cs =>
    match c with
    | '\t' =>
      let n := tab - column % tab
      List.replicate n ' ' ++ expanded tab flag (column + n) cs
    | '\r' => c :: (if cs.isEmpty then [] else flag) ++ expanded tab flag 0 cs
    | '\x08' => if column = 0 then expanded tab flag 0 cs else c :: expanded tab flag (column - 1) cs
    | c => c :: expanded tab flag (column + if 0x20 ≤ c.toNat && c.toNat < 0x7f then 1 else 0) cs

/-- The characters of a line. -/
def lineBody (s : DiffStyle) (flag line : String) : String :=
  if s.expandTabs then String.ofList (expanded s.tabSize flag.toList 0 line.toList) else line

/-- How a text is painted. -/
inductive Paint where
  | plain
  | heading
  | place
  | deleted
  | added
  deriving Repr, DecidableEq

/-- A painted text. -/
def painted (s : DiffStyle) (p : Paint) (text : String) : String :=
  let code := match p with
    | .plain => ""
    | .heading => "1"
    | .place => "36"
    | .deleted => "31"
    | .added => "32"
  if s.colour && p ≠ .plain then "\x1b[" ++ code ++ "m" ++ text ++ "\x1b[0m" else text

/-- What is shown of a line after its characters. -/
def lineEnding (complete : Bool) : String := if complete then "\n" else "\n\\ No newline at end of file\n"

/-- A line after a flag. -/
def flaggedLine (s : DiffStyle) (p : Paint) (flag : String) (d : DiffSide) (i : Nat) : String :=
  let line := d.line i
  let full := flag ++ (if s.initialTab then "\t" else " ")
  let lead := if s.suppressBlank && line.isEmpty then (if flag = " " then "" else flag) else full
  painted s p (lead ++ lineBody s full line) ++ lineEnding (d.isComplete i)

/-- A line by itself. -/
def bareLine (s : DiffStyle) (d : DiffSide) (i : Nat) : String :=
  lineBody s "" (d.line i) ++ (if d.isComplete i then "\n" else "")

end Assay.Sandbox.Utility

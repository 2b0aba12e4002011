import Assay.Sandbox.Utility.DiffText

/-! # Differences in groups

All lines of two texts in groups of lines that are the same, that only one of
them has, or that differ.  Each kind of group and of line has a format, in which
some signs after a percent sign stand for lines, numbers or characters.
-/

namespace Assay.Sandbox.Utility

open Difference (Change)

/-- A group: a range of lines in each text. -/
structure Group where
  old : Nat × Nat
  new : Nat × Nat

/-- The number that a letter stands for; capital letters are for the second
text. -/
def Group.number? (g : Group) (letter : Char) : Option Nat :=
  let (start, stop) := if letter.isUpper then g.new else g.old
  match letter.toLower with
  | 'e' => some start
  | 'f' => some (start + 1)
  | 'l' => some stop
  | 'm' => some (stop + 1)
  | 'n' => some (stop - start)
  | _ => none

/-- A number in a base, as flags, a width and a number of digits ask. -/
def formattedNumber (flags : List Char) (width : Nat) (places : Option Nat) (letter : Char) (n : Nat) :
    List Char :=
  let digits := match letter with
    | 'o' => Nat.toDigits 8 n
    | 'x' => Nat.toDigits 16 n
    | 'X' => (Nat.toDigits 16 n).map Char.toUpper
    | _ => Nat.toDigits 10 n
  let digits := if n = 0 && places = some 0 then [] else digits
  let digits := List.replicate (places.getD 1 - digits.length) '0' ++ digits
  let gap := width - digits.length
  if flags.contains '-' then digits ++ List.replicate gap ' '
  else if flags.contains '0' && places.isNone then List.replicate gap '0' ++ digits
  else List.replicate gap ' ' ++ digits

/-- A character between apostrophes, and what follows it. -/
def literalChar? (cs : List Char) : Option (Char × List Char) :=
  match cs with
  | '\\' :: rest =>
    let digits := (rest.takeWhile (Digits.isDigit 8)).take 3
    match rest.drop digits.length, digits with
    | _, [] => none
    | '\'' :: rest, digits => some (Char.ofNat (Digits.number 8 digits % 256), rest)
    | _, _ => none
  | c :: '\'' :: rest => if c == '\'' then none else some (c, rest)
  | _ => none

/-- What a specification of a number or a character stands for, after the percent
sign, and what follows it. -/
def specification? (value : Char → Option Nat) (cs : List Char) : Option (List Char × List Char) :=
  let isFlag (c : Char) : Bool := c == '-' || c == '\'' || c == '0'
  let flags := cs.takeWhile isFlag
  let cs := cs.drop flags.length
  let width := cs.takeWhile Char.isDigit
  let cs := cs.drop width.length
  let (places, cs) := match cs with
    | '.' :: rest =>
      let digits := rest.takeWhile Char.isDigit
      (some (Digits.number 10 digits), rest.drop digits.length)
    | cs => (none, cs)
  match cs with
  | 'c' :: '\'' :: rest => (literalChar? rest).map fun (c, rest) => ([c], rest)
  | letter :: name :: rest =>
    if "doxX".toList.contains letter then
      (value name).map fun n =>
        (formattedNumber flags (Digits.number 10 width) places letter n, rest)
    else none
  | _ => none

/-- A line in a format. -/
def formatLine (s : DiffStyle) (d : DiffSide) (i : Nat) : (fuel : Nat) → List Char → List Char
  | 0, _ => []
  | _, [] => []
  | fuel + 1, '%' :: cs =>
    let body := (lineBody s "" (d.line i)).toList
    match cs with
    | '%' :: rest => '%' :: formatLine s d i fuel rest
    | 'l' :: rest => body ++ formatLine s d i fuel rest
    | 'L' :: rest => body ++ (if d.isComplete i then ['\n'] else []) ++ formatLine s d i fuel rest
    | cs =>
      match specification? (fun c => if c == 'n' then some (i + 1) else none) cs with
      | some (text, rest) => text ++ formatLine s d i fuel rest
      | none => '%' :: formatLine s d i fuel cs
  | fuel + 1, c :: cs => c :: formatLine s d i fuel cs

/-- The lines of a range in a format. -/
def formatLines (s : DiffStyle) (d : DiffSide) (format : String) (range : Nat × Nat) : List Char :=
  (List.range (range.2 - range.1)).flatMap fun k =>
    formatLine s d (range.1 + k) (format.length + 1) format.toList

/-- The two texts and their formats. -/
structure Grouping where
  style : DiffStyle
  a : DiffSide
  b : DiffSide
  /-- The formats of lines that are the same, old or new. -/
  lines : List String

/-- A number of a condition, and what follows it. -/
def conditionNumber? (g : Group) (cs : List Char) : Option (Nat × List Char) :=
  match cs with
  | c :: rest =>
    if c.isDigit then
      let digits := cs.takeWhile Char.isDigit
      some (Digits.number 10 digits, cs.drop digits.length)
    else (g.number? c).map (·, rest)
  | [] => none

/-- The comparison of a condition, and what follows it. -/
def condition? (g : Group) (cs : List Char) : Option (Bool × List Char) :=
  match conditionNumber? g cs with
  | some (x, '=' :: rest) =>
    match conditionNumber? g rest with
    | some (y, '?' :: rest) => some (x == y, rest)
    | _ => none
  | _ => none

/-- A group in a format, up to the character `stop`; what is shown, and what
follows in the format. -/
def formatGroup (t : Grouping) (g : Group) : (fuel : Nat) → (stop : Option Char) → List Char →
    List Char × List Char
  | 0, _, cs => ([], cs)
  | _, _, [] => ([], [])
  | fuel + 1, stop, c :: cs =>
    let after (text : List Char) (rest : List Char) : List Char × List Char :=
      let (more, left) := formatGroup t g fuel stop rest
      (text ++ more, left)
    let lines (d : DiffSide) (index : Nat) (range : Nat × Nat) : List Char :=
      formatLines t.style d (t.lines[index]?.getD "") range
    if some c = stop then ([], c :: cs)
    else if c != '%' then after [c] cs
    else match cs with
      | '%' :: rest => after ['%'] rest
      | '<' :: rest => after (lines t.a 1 g.old) rest
      | '=' :: rest => after (lines t.a 0 g.old) rest
      | '>' :: rest => after (lines t.b 2 g.new) rest
      | '(' :: rest =>
        match condition? g rest with
        | none => after ['%'] cs
        | some (holds, rest) =>
          let (yes, rest) := formatGroup t g fuel (some ':') rest
          let (no, rest) := if rest.isEmpty then ([], []) else formatGroup t g fuel (some ')') rest.tail
          after (if holds then yes else no) rest.tail
      | cs =>
        match specification? g.number? cs with
        | some (text, rest) => after text rest
        | none => after ['%'] cs

/-- A group in a format. -/
def shownGroup (t : Grouping) (format : String) (g : Group) : String :=
  String.ofList (formatGroup t g (format.length + 1) none format.toList).1

/-- The groups of the texts from the given lines on, each with the number of its
format. -/
def groupsFrom (s : DiffStyle) (a b : DiffSide) : (i j : Nat) → List Change → List (Nat × Group)
  | i, j, [] =>
    if i < a.lines.size || j < b.lines.size then [(0, ⟨(i, a.lines.size), (j, b.lines.size)⟩)] else []
  | i, j, c :: rest =>
    if areIgnorable s a b [c] then groupsFrom s a b i j rest
    else
      let group : Group := ⟨(c.old, c.old + c.deleted), (c.new, c.new + c.inserted)⟩
      let kind := if c.deleted = 0 then 2 else if c.inserted = 0 then 1 else 3
      (if i < c.old || j < c.new then [(0, ⟨(i, c.old), (j, c.new)⟩)] else []) ++
        (kind, group) :: groupsFrom s a b group.old.2 group.new.2 rest

/-- The two texts in groups. -/
def inGroups (s : DiffStyle) (a b : DiffSide) (cs : List Change) : List String :=
  let (groups, lines) := s.formats.complete
  let t : Grouping := ⟨s, a, b, lines⟩
  (groupsFrom s a b 0 0 cs).map fun (kind, g) => shownGroup t (groups[kind]?.getD "") g

end Assay.Sandbox.Utility

import Assay.Sandbox.Utility.DiffText

/-! # Forms of differences

Changes as commands that make them, or as lines with some lines around them.
Each form gives the pieces of text that are shown.
-/

namespace Assay.Sandbox.Utility

open Difference (Change)

/-- Numbers of lines from `start` up to `stop`, the first and the last one; of an
empty range, the number of the line before it. -/
def numberRange (separator : String) (range : Nat × Nat) : String :=
  let (start, stop) := range
  if start + 1 < stop then toString (start + 1) ++ separator ++ toString stop else toString stop

/-- The letter of a command. -/
def commandLetter (r : Stretch) : String :=
  if r.deletes then if r.inserts then "c" else "d" else "a"

/-- The lines of a range. -/
def lineNumbers (range : Nat × Nat) : List Nat := (List.range (range.2 - range.1)).map (range.1 + ·)

/-- A change with its lines before and after it. -/
def normalChange (s : DiffStyle) (a b : DiffSide) (r : Stretch) : List String :=
  [painted s .place (numberRange "," r.old ++ commandLetter r ++ numberRange "," r.new) ++ "\n"] ++
    (if r.deletes then (lineNumbers r.old).map (flaggedLine s .deleted "<" a) else []) ++
    (if r.deletes && r.inserts then ["---\n"] else []) ++
    (if r.inserts then (lineNumbers r.new).map (flaggedLine s .added ">" b) else [])

/-- New lines for an editor, which takes a line with only a dot for their end. -/
def editorLines (s : DiffStyle) (b : DiffSide) : (inserting : Bool) → List Nat → List String
  | inserting, [] => if inserting then [".\n"] else []
  | inserting, i :: rest =>
    let lead := if inserting then "" else "a\n"
    if b.line i = "." then (lead ++ "..\n.\ns/.//\n") :: editorLines s b false rest
    else (lead ++ bareLine s b i) :: editorLines s b true rest

/-- The command of an editor that makes a change. -/
def editorChange (s : DiffStyle) (b : DiffSide) (r : Stretch) : List String :=
  (numberRange "," r.old ++ commandLetter r ++ "\n") ::
    (if r.inserts then editorLines s b true (lineNumbers r.new) else [])

/-- The command with its letter first. -/
def forwardChange (s : DiffStyle) (b : DiffSide) (r : Stretch) : List String :=
  (commandLetter r ++ numberRange " " r.old ++ "\n") ::
    (if r.inserts then (lineNumbers r.new).map (bareLine s b) ++ [".\n"] else [])

/-- Commands that count the lines they concern. -/
def countedChange (s : DiffStyle) (b : DiffSide) (r : Stretch) : List String :=
  (if r.deletes then
    ["d" ++ toString (r.old.1 + 1) ++ " " ++ toString (r.old.2 - r.old.1) ++ "\n"] else []) ++
  (if r.inserts then
    ("a" ++ toString r.old.2 ++ " " ++ toString (r.new.2 - r.new.1) ++ "\n") ::
      (lineNumbers r.new).map (bareLine s b) else [])

/-! ## Lines around changes -/

/-- Take changes that stand so close to each other that they are shown together;
the first one has been taken. -/
def hunkFrom (s : DiffStyle) (ignorable : Change → Bool) : Change → List Change → List Change × List Change
  | _, [] => ([], [])
  | last, c :: rest =>
    let limit := if ignorable last || ignorable c then s.around else 2 * s.around + 1
    if c.old - (last.old + last.deleted) < limit then
      let (more, left) := hunkFrom s ignorable c rest
      (c :: more, left)
    else ([], c :: rest)

/-- Changes that are shown together. -/
def hunks (s : DiffStyle) (ignorable : Change → Bool) : (fuel : Nat) → List Change → List (List Change)
  | 0, _ => []
  | _, [] => []
  | fuel + 1, c :: rest =>
    let (more, left) := hunkFrom s ignorable c rest
    (c :: more) :: hunks s ignorable fuel left

/-- A range with the lines around it. -/
def widened (s : DiffStyle) (d : DiffSide) (range : Nat × Nat) : Nat × Nat :=
  (range.1 - s.around, min (range.2 + s.around) d.lines.size)

/-- The last line before `i` that fits one of the expressions, after a blank and
in a few characters. -/
def functionLine (s : DiffStyle) (d : DiffSide) : (i : Nat) → String
  | 0 => ""
  | i + 1 =>
    if fits s s.functions (d.line i) then
      let text := ((d.line i).toList.dropWhile Digits.isSpace).take 40
      " " ++ String.ofList (text.reverse.dropWhile Digits.isSpace).reverse
    else functionLine s d i

/-- The function that a range is in. -/
def functionOf (s : DiffStyle) (d : DiffSide) (range : Nat × Nat) : String :=
  if s.functions.isEmpty then "" else functionLine s d range.1

/-- The flag of a line: one that a change takes away or brings, one that is
changed, or one around changes. -/
def contextFlag (own : Change → Nat × Nat) (others : Change → Nat) (flag : String) (cs : List Change)
    (i : Nat) : String :=
  match cs.find? fun c => (own c).1 ≤ i && i < (own c).1 + (own c).2 with
  | some c => if 0 < others c then "!" else flag
  | none => " "

/-- Changes with the lines around them, first the old ones and then the new
ones. -/
def contextHunk (s : DiffStyle) (a b : DiffSide) (cs : List Change) (r : Stretch) : List String :=
  let old := widened s a r.old
  let new := widened s b r.new
  let flagOld := contextFlag (fun c => (c.old, c.deleted)) (·.inserted) "-" cs
  let flagNew := contextFlag (fun c => (c.new, c.inserted)) (·.deleted) "+" cs
  ["***************" ++ functionOf s a old ++ "\n" ++
      painted s .place ("*** " ++ numberRange "," old ++ " ****") ++ "\n"] ++
    (if r.deletes then (lineNumbers old).map fun i => flaggedLine s .deleted (flagOld i) a i else []) ++
    [painted s .place ("--- " ++ numberRange "," new ++ " ----") ++ "\n"] ++
    (if r.inserts then (lineNumbers new).map fun i => flaggedLine s .added (flagNew i) b i else [])

/-- The start and the length of a range. -/
def lengthRange (range : Nat × Nat) : String :=
  let (start, stop) := range
  if stop ≤ start then toString stop ++ ",0"
  else if stop = start + 1 then toString stop
  else toString (start + 1) ++ "," ++ toString (stop - start)

/-- A line after a sign. -/
def signedLine (s : DiffStyle) (sign : String) (d : DiffSide) (i : Nat) : String :=
  let line := d.line i
  let empty := s.suppressBlank && line.isEmpty
  let lead :=
    if sign = " " then if empty then "" else if s.initialTab then "\t" else " "
    else if s.initialTab && !empty then sign ++ "\t" else sign
  let paint := if sign = "-" then Paint.deleted else if sign = "+" then .added else .plain
  painted s paint (lead ++ lineBody s "" line) ++ lineEnding (d.isComplete i)

/-- Lines around changes and the changes between them, from line `i` of the first
text up to line `stop`. -/
def unifiedLines (s : DiffStyle) (a b : DiffSide) (stop : Nat) : (i : Nat) → List Change → List String
  | i, [] => (lineNumbers (i, stop)).map (signedLine s " " a)
  | i, c :: rest =>
    (lineNumbers (i, c.old)).map (signedLine s " " a) ++
      (lineNumbers (c.old, c.old + c.deleted)).map (signedLine s "-" a) ++
      (lineNumbers (c.new, c.new + c.inserted)).map (signedLine s "+" b) ++
      unifiedLines s a b stop (c.old + c.deleted) rest

/-- Changes with the lines around them, old and new ones together. -/
def unifiedHunk (s : DiffStyle) (a b : DiffSide) (cs : List Change) (r : Stretch) : List String :=
  let old := widened s a r.old
  let new := widened s b r.new
  (painted s .place ("@@ -" ++ lengthRange old ++ " +" ++ lengthRange new ++ " @@") ++
    functionOf s a old ++ "\n") ::
    unifiedLines s a b old.2 old.1 cs

end Assay.Sandbox.Utility

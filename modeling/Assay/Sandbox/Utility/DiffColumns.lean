import Assay.Sandbox.Utility.DiffText
import Assay.Text.Width

/-! # Differences side by side

Two texts in two columns, with a sign between lines that differ.
-/

namespace Assay.Sandbox.Utility

open Difference (Change)

/-- The width of a column and where the second one begins. -/
structure Halves where
  width : Nat
  second : Nat
  tab : Nat
  expandTabs : Bool
  utf8 : Bool

/-- The columns of a style. -/
def Halves.ofStyle (s : DiffStyle) : Halves :=
  let total : Int := s.width.getD 130
  let unit : Int := if s.expandTabs then 1 else s.tabSize
  let middle := (total + unit + 3) / 2
  let middle := middle - middle % unit
  let width := (max 0 (min (middle - 3) (total - middle))).toNat
  ⟨width, if width = 0 then total.toNat else middle.toNat, s.tabSize, s.expandTabs, s.utf8⟩

/-- Tabs and blanks that lead from one column to another. -/
def columnGap (h : Halves) (start stop : Nat) : List Char :=
  if h.expandTabs then List.replicate (stop - start) ' '
  else
    let tabs := stop / h.tab - start / h.tab
    if tabs = 0 then List.replicate (stop - start) ' '
    else List.replicate tabs '\t' ++ List.replicate (stop % h.tab) ' '

/-- The character at the start of a text and its width. -/
def leadingSymbol (h : Halves) (c : Char) (cs : List Char) : List Char × Nat :=
  let n := c.toNat
  if n = 0 || (0x20 ≤ n && n < 0x7f) then ([c], 1)
  else if n < 0x80 then ([c], 0)
  else if !h.utf8 then ([c], 0)
  else
    let size := Quote.lengthOf n
    let bytes := (c :: cs).take size
    match if bytes.length = size then Quote.codePoint (bytes.map Char.toNat) else none with
    | some p => (bytes, if Quote.isPrintable p then Text.width (Char.ofNat p) else 0)
    | none => ([c], 1)

/-- The part of a line that has room in a column; `indent` is where the column
begins.  `input` and `output` are the columns reached in the line and in what is
shown. -/
def halfLine (h : Halves) (indent : Nat) : (fuel : Nat) → (input output : Nat) → List Char →
    List Char × Nat
  | 0, _, output, _ => ([], output)
  | _, _, output, [] => ([], output)
  | fuel + 1, input, output, c :: cs =>
    let go (text : List Char) (input output : Nat) (rest : List Char) : List Char × Nat :=
      let (more, column) := halfLine h indent fuel input output rest
      (text ++ more, column)
    match c with
    | '\t' =>
      let next := input + (h.tab - input % h.tab)
      if input ≠ output then go [] next output cs
      else if h.expandTabs then
        let stop := max output (min next h.width)
        go (List.replicate (stop - output) ' ') next stop cs
      else if next < h.width then go [c] next next cs
      else go [] next output cs
    | '\r' => go (c :: columnGap h 0 indent) 0 0 cs
    | '\x08' =>
      if input = 0 then go [] 0 output cs
      else
        let input := input - 1
        if h.width ≤ input then go [] input output cs
        else if output ≤ input then go (List.replicate (input - output) ' ') input input cs
        else go [c] input input cs
    | '\x0b' | '\x0c' => go (if input < h.width then [c] else []) input output cs
    | c =>
      let (bytes, width) := leadingSymbol h c cs
      let next := input + width
      let rest := (c :: cs).drop bytes.length
      if next ≤ h.width then go bytes next next rest else go [] next output rest

/-- A line of the two columns. -/
def columnsLine (h : Halves) (a b : DiffSide) (left : Option Nat) (sign : Char) (right : Option Nat) :
    String :=
  let half (d : DiffSide) (i : Nat) (indent : Nat) : List Char × Nat :=
    let cs := (d.line i).toList
    halfLine h indent (cs.length + 1) 0 0 cs
  let ends (d : DiffSide) (i : Option Nat) : Bool := (i.map d.isComplete).getD false
  let (text, column) := match left with
    | some i => half a i 0
    | none => ([], 0)
  let sign :=
    if sign == '|' && ends a left != ends b right then if ends a left then '/' else '\\' else sign
  let place := (h.width + h.second - 1) / 2
  let (middle, column) :=
    if sign == ' ' then ([], column) else (columnGap h column place ++ [sign], max column place + 1)
  let rest := match right with
    | some j =>
      if (b.line j).isEmpty && b.isComplete j then []
      else columnGap h column h.second ++ (half b j (max column h.second)).1
    | none => []
  String.ofList (text ++ middle ++ rest) ++ (if ends a left || ends b right then "\n" else "")

/-- Lines that are the same in both texts. -/
def commonColumns (s : DiffStyle) (h : Halves) (a b : DiffSide) (old new : Nat × Nat) : List String :=
  let m := old.2 - old.1
  let n := new.2 - new.1
  if s.suppressCommon || (m = 0 && n = 0) then []
  else
    let line := columnsLine h a b
    (if s.counts then ["i" ++ toString m ++ "," ++ toString n ++ "\n"] else []) ++
      if s.leftColumn then (List.range m).map fun k => line (some (old.1 + k)) '(' none
      else (List.range (min m n)).map (fun k => line (some (old.1 + k)) ' ' (some (new.1 + k))) ++
        (List.range (n - m)).map (fun k => line none ')' (some (new.1 + m + k))) ++
        (List.range (m - n)).map (fun k => line (some (old.1 + n + k)) '(' none)

/-- The texts from the given lines on. -/
def columnsFrom (s : DiffStyle) (h : Halves) (a b : DiffSide) : (i j : Nat) → List Change → List String
  | i, j, [] => commonColumns s h a b (i, a.lines.size) (j, b.lines.size)
  | i, j, c :: rest =>
    if areIgnorable s a b [c] then columnsFrom s h a b i j rest
    else
      let line := columnsLine h a b
      let both := min c.deleted c.inserted
      commonColumns s h a b (i, c.old) (j, c.new) ++
        (if s.counts then ["c" ++ toString c.deleted ++ "," ++ toString c.inserted ++ "\n"] else []) ++
        (List.range both).map (fun k => line (some (c.old + k)) '|' (some (c.new + k))) ++
        (List.range (c.inserted - both)).map (fun k =>
          painted s .added (line none '>' (some (c.new + both + k)))) ++
        (List.range (c.deleted - both)).map (fun k =>
          painted s .deleted (line (some (c.old + both + k)) '<' none)) ++
        columnsFrom s h a b (c.old + c.deleted) (c.new + c.inserted) rest

/-- Two texts side by side. -/
def sideBySide (s : DiffStyle) (a b : DiffSide) (cs : List Change) : List String :=
  columnsFrom s (Halves.ofStyle s) a b 0 0 cs

end Assay.Sandbox.Utility

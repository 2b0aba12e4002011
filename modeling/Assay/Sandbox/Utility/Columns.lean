/-! # Names in columns

Names are set in as many columns as a line has room for, each as wide as its
widest name and two blanks.
-/

namespace Assay.Sandbox.Columns

/-- The least width of a column. -/
def leastWidth : Nat := 3

/-- The column of a name if there are so many columns, filled one after the other
or line by line. -/
def columnOf (down : Bool) (count columns index : Nat) : Nat :=
  if down then index / ((count + columns - 1) / columns) else index % columns

/-- The widths of so many columns; the last one needs no blanks after it. -/
def widths (down : Bool) (names : List Nat) (columns : Nat) : List Nat :=
  let count := names.length
  let start := Array.replicate columns leastWidth
  let filled := names.zipIdx.foldl (fun (ws : Array Nat) (width, index) =>
    let column := columnOf down count columns index
    let width := if column = columns - 1 then width else width + 2
    ws.modify column (max width)) start
  filled.toList

/-- The greatest number of columns from `columns` down that fit into a line. -/
def fit (down : Bool) (line : Nat) (names : List Nat) : (columns : Nat) → List Nat
  | 0 => [leastWidth]
  | 1 => widths down names 1
  | columns + 1 =>
    let ws := widths down names (columns + 1)
    if ws.all (· = leastWidth) || ws.sum < line then ws else fit down line names columns

/-- The widths of the columns for names of the given widths. -/
def layout (down : Bool) (line : Nat) (names : List Nat) : List Nat :=
  let most := line / leastWidth + (if line % leastWidth = 0 then 0 else 1)
  fit down line names (max 1 (min most names.length))

/-- Blanks from one position to another; tabs where they reach. -/
def indent (tab : Nat) : (fuel : Nat) → (start stop : Nat) → List Char
  | 0, _, _ => []
  | fuel + 1, start, stop =>
    if stop ≤ start then []
    else if tab ≠ 0 && (start + 1) / tab < stop / tab then
      '\t' :: indent tab fuel (start + tab - start % tab) stop
    else ' ' :: indent tab fuel (start + 1) stop

/-- One line of names with their widths, in columns from `position` on. -/
def row (tab : Nat) : (position : Nat) → List Nat → List (String × Nat) → String
  | _, _, [] => ""
  | _, _, [(text, _)] => text
  | position, widths, (text, width) :: rest =>
    let column := widths.headD 0
    text ++ String.ofList (indent tab column (position + width) (position + column)) ++
      row tab (position + column) widths.tail rest

/-- Lines of names with their widths. -/
def rows (down : Bool) (line tab : Nat) (names : List (String × Nat)) : List String :=
  let widths := layout down line (names.map Prod.snd)
  let columns := widths.length
  let height := (names.length + columns - 1) / columns
  (List.range height).map fun r =>
    let members :=
      if down then names.zipIdx.filterMap fun (x, i) => if i % height = r then some x else none
      else (names.drop (r * columns)).take columns
    row tab 0 widths members

/-- Names with a separator between them, in lines that are not too long; no limit
is zero. -/
def separated (separator lineEnd : Char) (line : Nat) : (position : Nat) → (first : Bool) →
    List (String × Nat) → List Char
  | _, _, [] => [lineEnd]
  | position, first, (text, width) :: rest =>
    let width := if line = 0 then 0 else width
    if first then text.toList ++ separated separator lineEnd line (position + width) false rest
    else if line = 0 || position + width + 2 < line then
      separator :: ' ' :: text.toList ++ separated separator lineEnd line (position + 2 + width) false rest
    else separator :: lineEnd :: text.toList ++ separated separator lineEnd line width false rest

end Assay.Sandbox.Columns

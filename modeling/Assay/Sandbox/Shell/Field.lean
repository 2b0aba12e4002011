import Assay.Sandbox.Shell.Pattern
import Assay.Sandbox.Shell.Syntax

/-! # Fields

Expanding a word gives glyphs: characters, of which some stand for themselves
whatever they are, and the quotation marks of the word.  Some regions of them
came from outside the script: there, and only there, separators cut the glyphs
into fields.
-/

namespace Assay.Sandbox.Shell

/-- A character of an expanded word. -/
inductive Glyph where
  | plain (c : Char)
  /-- A character without its meaning in patterns. -/
  | escaped (c : Char)
  /-- A quotation mark. -/
  | mark
  deriving Repr, DecidableEq, Inhabited

/-- A part of an expanded word that is cut into fields. -/
structure Region where
  start : Nat
  stop : Nat
  /-- Only the separator between arguments cuts here. -/
  arguments : Bool
  deriving Repr, DecidableEq

namespace Glyph

/-- The character of a glyph; a mark has none. -/
def char? : Glyph → Option Char
  | .plain c | .escaped c => some c
  | .mark => none

/-- Characters that lose a meaning between quotation marks. -/
def guardedChars : List Char := "!*?[=~:/-]\\".toList

/-- A character of a text, quoted or not. -/
def of (quoted : Bool) (c : Char) : Glyph :=
  if quoted && guardedChars.contains c then .escaped c else .plain c

/-- The text of glyphs. -/
def text (gs : List Glyph) : String := String.ofList (gs.filterMap char?)

/-- The pattern that glyphs stand for; what has no meaning follows a backslash.
A plain backslash takes the meaning from what follows it, unless one before has
done so to it: `free` tells that none has. -/
def patternFrom : (quoted free : Bool) → List Glyph → List Char
  | _, _, [] => []
  | quoted, free, .mark :: rest => patternFrom (!quoted) free rest
  | quoted, free, .plain '\\' :: rest => '\\' :: patternFrom quoted (!free) rest
  | quoted, _, .plain c :: rest => c :: patternFrom quoted true rest
  | quoted, free, .escaped c :: rest =>
    let before := if free then ['\\'] else if quoted then ['\\', '\\'] else []
    before ++ c :: patternFrom quoted true rest

/-- The pattern that glyphs stand for. -/
def pattern (gs : List Glyph) : List Char := patternFrom false true gs

end Glyph

/-- Cutting glyphs into fields. -/
structure Cutting where
  /-- Where the current field starts. -/
  start : Nat := 0
  fields : List (Nat × Nat) := []
  /-- A blank separator has been passed. -/
  afterBlank : Bool := false
  /-- How many fields may still be cut; without a limit any number. -/
  left : Option Nat
  /-- Where the glyphs start that do not belong to the last field. -/
  tail : Option Nat := none
  /-- The latest region was one of arguments. -/
  arguments : Bool := false

namespace Cutting

/-- The separator between arguments. -/
def separator : Char := '\x00'

def isBlank (c : Char) : Bool := c == separator || c == ' ' || c == '\t' || c == '\n'

/-- Pass the glyph at an index of a region. -/
def step (separators : List Char) (afterArguments arguments : Bool) (k : Cutting) (index : Nat)
    (g : Glyph) : Cutting :=
  let c := g.char?
  let separates := c.any fun c => c == separator || (!arguments && separators.contains c)
  let blank := separates && c.any isBlank
  if k.left = some 0 then
    if blank then { k with tail := some (k.tail.getD index) }
    else
      let tail := if separates && k.afterBlank then k.tail else none
      { k with tail := tail, afterBlank := false }
  else
    let (index', k, passed) :=
      if k.afterBlank then
        let q := if separates then index + 1 else index
        (q, { k with start := q }, true)
      else (index, k, false)
    if passed && blank then k
    else if separates && !passed then
      let k := if afterArguments || arguments then k else { k with afterBlank := blank }
      if index' = k.start && k.afterBlank then { k with start := index + 1, afterBlank := false }
      else if k.left = some 1 then { k with left := some 0, tail := some index' }
      else
        { k with
          fields := (k.start, index') :: k.fields
          start := index + 1
          left := k.left.map (· - 1) }
    else { k with afterBlank := false }

/-- Pass the glyphs of a region. -/
def region (separators : List Char) (glyphs : Array Glyph) (k : Cutting) (r : Region) : Cutting :=
  let k' := { k with afterBlank := false, arguments := r.arguments }
  (List.range (r.stop - r.start)).foldl (fun k' i =>
    step separators k.arguments r.arguments k' (r.start + i) (glyphs[r.start + i]?.getD .mark)) k'

end Cutting

/-- Cut glyphs into fields, at most `limit` of them. -/
def cutFields (separators : String) (glyphs : Array Glyph) (regions : List Region)
    (limit : Option Nat) : List (List Glyph) :=
  let k := regions.foldl (Cutting.region separators.toList glyphs) { left := limit }
  let stop := if k.arguments then glyphs.size else k.tail.getD glyphs.size
  let last :=
    if k.arguments || (k.start < stop && glyphs[k.start]? != some (.plain Cutting.separator)) then
      [(k.start, stop)]
    else []
  (k.fields.reverse ++ last).map fun (a, b) => (glyphs.extract a b).toList

end Assay.Sandbox.Shell

import Assay.Text.Alphanumeric
import Assay.Text.LineBreak
import Assay.Text.Width

/-! # Filling lines

Text is set into lines of a given width by taking one word after the other as
long as it fits.  Words end where a line may be broken, and at hyphens between
letters or digits; a word too wide for any line is cut.  A line never ends with
the spaces after its last word.  The first line begins with one indent and the
others with another; a line feed in the text always ends a line.

Color sequences take no room and are never cut off from what follows them.
-/

namespace Assay.Text

/-- The text without the spaces at its end. -/
def trimEnd (s : String) : String :=
  String.ofList (s.toList.reverse.dropWhile (· == ' ')).reverse

/-- How many characters an operating system command takes up to its end, which
is a bell or an escape and a backslash. -/
def commandLength (last : Char) : List Char → Nat
  | [] => 0
  | c :: rest => if c = '\x07' || (c = '\\' && last = '\x1b') then 1 else 1 + commandLength c rest

/-- How many characters a sequence takes that begins with an escape: the escape
and the next character, and what belongs to a control sequence or a command. -/
def sequenceLength : List Char → Nat
  | '\x1b' :: '[' :: rest =>
    2 + min rest.length ((rest.takeWhile fun c => !('@' ≤ c && c ≤ '~')).length + 1)
  | '\x1b' :: ']' :: rest => 2 + commandLength ']' rest
  | '\x1b' :: _ :: _ => 2
  | '\x1b' :: [] => 1
  | _ => 0

/-- A piece of text that is not cut: a sequence, or one character. -/
structure Glyph where
  text : List Char
  /-- The character, unless this is a sequence. -/
  shown : Option Char
  deriving Repr, DecidableEq

/-- The pieces of a text; the first `skip` characters belong to a sequence that
has been read. -/
def glyphsFrom (skip : Nat) : List Char → List Glyph
  | [] => []
  | c :: rest =>
    match skip with
    | skip + 1 => glyphsFrom skip rest
    | 0 =>
      match sequenceLength (c :: rest) with
      | 0 => ⟨[c], some c⟩ :: glyphsFrom 0 rest
      | n + 1 => ⟨(c :: rest).take (n + 1), none⟩ :: glyphsFrom n rest

/-- The pieces of a text. -/
def glyphs (text : List Char) : List Glyph := glyphsFrom 0 text

/-- The columns that a piece takes. -/
def Glyph.width (g : Glyph) : Nat :=
  match g.shown with
  | some c => Text.width c
  | none => 0

/-- The columns that a text takes. -/
def displayWidth (text : List Char) : Nat := ((glyphs text).map Glyph.width).foldl (· + ·) 0

/-- A word and the spaces after it. -/
structure Word where
  text : List Char
  width : Nat
  spaces : Nat := 0
  deriving Repr, DecidableEq

namespace Word

/-- The word that a piece of a line holds, with the spaces at its end. -/
def ofText (text : List Char) : Word :=
  let word := (text.reverse.dropWhile (· == ' ')).reverse
  { text := word, width := displayWidth word, spaces := text.length - word.length }

/-- Cut the text after every hyphen between letters or digits; `piece` has been
read since the last cut, last character first. -/
def hyphenPieces (piece : List Char) : List Char → List (List Char)
  | [] => [piece.reverse]
  | c :: rest =>
    match piece, rest with
    | before :: _, after :: _ =>
      if c = '-' && isAlphanumeric before && isAlphanumeric after then
        (c :: piece).reverse :: hyphenPieces [] rest
      else hyphenPieces (c :: piece) rest
    | _, _ => hyphenPieces (c :: piece) rest

/-- The parts of a word between which a line may end at a hyphen. -/
def atHyphens (w : Word) : List Word :=
  let pieces := hyphenPieces [] w.text
  (pieces.mapIdx fun i piece =>
    { text := piece
      width := displayWidth piece
      spaces := if i + 1 = pieces.length then w.spaces else 0 : Word })

/-- Cut pieces of text into words of at most `limit` columns; `current` is the
word being filled. -/
def cutGlyphs (limit spaces : Nat) (current : Word) : List Glyph → List Word
  | [] => if current.text.isEmpty then [] else [{ current with spaces := spaces }]
  | g :: rest =>
    if g.shown.isSome && 0 < current.width && limit < current.width + g.width then
      current :: cutGlyphs limit spaces ⟨g.text, g.width, 0⟩ rest
    else cutGlyphs limit spaces ⟨current.text ++ g.text, current.width + g.width, 0⟩ rest

/-- The word in parts of at most `limit` columns. -/
def within (limit : Nat) (w : Word) : List Word :=
  if limit < w.width then cutGlyphs limit w.spaces ⟨[], 0, 0⟩ (glyphs w.text) else [w]

end Word

/-- A hyphen, seen or not, behind which words are not ended here. -/
def isHyphen (c : Char) : Bool := c = '-' || c = '\xad'

/-- The places, counted in shown characters, where words of a line begin, the
first word apart.  If the line ends with a hyphen its last place is dropped. -/
def wordStarts (shown : List Char) : List Nat :=
  let free := (lineBreaks shown).zip ('-' :: shown)
  let places := ((List.range shown.length).zip free).filterMap fun p =>
    if p.2.1 && !isHyphen p.2.2 then some p.1 else none
  match shown.getLast? with
  | some c => if isHyphen c then places.dropLast else places
  | none => places

/-- Cut pieces of text at the places `starts`.  A sequence goes with the
character after it; `place` counts the characters shown so far, and `word` has been
read since the last cut. -/
def cutWords (starts : List Nat) (place : Nat) (word : List Char) : List Glyph → List (List Char)
  | [] => if word.isEmpty then [] else [word]
  | g :: rest =>
    let next := if g.shown.isSome then place + 1 else place
    match starts with
    | s :: more =>
      if s = place then
        word :: cutWords more next g.text rest
      else cutWords starts next (word ++ g.text) rest
    | [] => cutWords [] next (word ++ g.text) rest

/-- The words of a line. -/
def words (line : List Char) : List Word :=
  let pieces := glyphs line
  (cutWords (wordStarts (pieces.filterMap Glyph.shown)) 0 [] pieces).map Word.ofText

/-- Put words on lines of at most `limit` columns; `current` is the line being
filled, last word first, and `used` the columns it takes. -/
def fillWords (limit used : Nat) (current : List Word) : List Word → List (List Word)
  | [] => [current.reverse]
  | w :: rest =>
    if limit < used + w.width && !current.isEmpty then
      current.reverse :: fillWords limit (w.width + w.spaces) [w] rest
    else fillWords limit (used + w.width + w.spaces) (w :: current) rest

/-- The text of a line, without the spaces after its last word. -/
def lineText : List Word → List Char
  | [] => []
  | [w] => w.text
  | w :: rest => w.text ++ List.replicate w.spaces ' ' ++ lineText rest

/-- The lines of a paragraph, at most `limit` columns each.  The empty word in
front lets the first word begin the second line. -/
def fillParagraph (limit : Nat) (paragraph : List Char) : List String :=
  let pieces := ((words paragraph).flatMap Word.atHyphens).flatMap (Word.within limit)
  (fillWords limit 0 [] (⟨[], 0, 0⟩ :: pieces)).map fun l => String.ofList (lineText l)

/-- The lines of `text`, each at most `width` wide with its indent, both of which
are equally wide.  Without a width only line feeds end a line. -/
def fill (width : Option Nat) (first rest text : String) : List String :=
  let paragraphs := text.toList.splitOn '\n'
  match width with
  | some width =>
    let limit := width - displayWidth rest.toList
    match paragraphs.flatMap (fillParagraph limit) with
    | [] => [first]
    | l :: ls => (first ++ l) :: ls.map (rest ++ ·)
  | none =>
    match paragraphs.map String.ofList with
    | [] => [trimEnd first]
    | p :: ps => trimEnd (first ++ p) :: ps.map fun p => trimEnd (rest ++ p)

end Assay.Text

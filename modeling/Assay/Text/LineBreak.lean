import Assay.Text.LineClass

/-! # Line breaks

Where a line may be broken, after the Unicode line breaking algorithm.  The
characters are read from left to right; what matters of those already read is
the class of the last one that is no mark, whether spaces followed it, and a few
facts on what stood before.
-/

namespace Assay.Text

namespace LineClass

/-- The line always ends after this class. -/
def isEnding (c : LineClass) : Bool :=
  c == .mandatory || c == .carriageReturn || c == .lineFeed || c == .nextLine

/-- A letter, of Hebrew or not. -/
def isLetter (c : LineClass) : Bool := c == .letter || c == .hebrew

def isOpening (c : LineClass) : Bool := c == .opening || c == .wideOpening

def isClosing (c : LineClass) : Bool := c == .closing || c == .closingParenthesis

/-- An ideograph or a picture. -/
def isPictograph (c : LineClass) : Bool := c == .ideograph || c == .emojiBase || c == .emojiModifier

/-- A part of Hangul writing. -/
def isHangul (c : LineClass) : Bool :=
  c == .leadingJamo || c == .vowelJamo || c == .trailingJamo || c == .openSyllable ||
  c == .closedSyllable

/-- A combining mark or a joiner. -/
def isMark (c : LineClass) : Bool := c == .combining || c == .joiner

/-- The classes `a` and `b` stay together when `b` follows `a` directly. -/
def staysWith (a b : LineClass) : Bool :=
  a == .quotation || b == .quotation ||
  (a != .contingent && b != .contingent &&
    (b == .breakAfter || b == .hyphen || b == .nonStarter || a == .breakBefore ||
     (a == .slash && b == .hebrew) ||
     b == .inseparable ||
     (a.isLetter && b == .numeric) || (a == .numeric && b.isLetter) ||
     (a == .beforeNumber && b.isPictograph) || (a.isPictograph && b == .afterNumber) ||
     ((a == .beforeNumber || a == .afterNumber) && b.isLetter) ||
     (a.isLetter && (b == .beforeNumber || b == .afterNumber)) ||
     ((a.isClosing || a == .numeric) && (b == .beforeNumber || b == .afterNumber)) ||
     ((a == .beforeNumber || a == .afterNumber) && (b.isOpening || b == .numeric)) ||
     ((a == .hyphen || a == .separator || a == .numeric || a == .slash) && b == .numeric) ||
     (a == .leadingJamo &&
       (b == .leadingJamo || b == .vowelJamo || b == .openSyllable || b == .closedSyllable)) ||
     ((a == .vowelJamo || a == .openSyllable) && (b == .vowelJamo || b == .trailingJamo)) ||
     ((a == .trailingJamo || a == .closedSyllable) && b == .trailingJamo) ||
     (a.isHangul && b == .afterNumber) || (a == .beforeNumber && b.isHangul) ||
     (a.isLetter && b.isLetter) ||
     (a == .separator && b.isLetter) ||
     ((a.isLetter || a == .numeric) && b == .opening) ||
     (a == .closingParenthesis && (b.isLetter || b == .numeric)) ||
     (a == .emojiBase && b == .emojiModifier)))

end LineClass

/-- What has been read of a line. -/
structure LineContext where
  /-- The last character that is neither a mark nor a space. -/
  last : LineClass
  /-- Spaces have followed it. -/
  spaced : Bool := false
  /-- The very last character is a joiner. -/
  joined : Bool := false
  /-- A hyphen after a Hebrew letter. -/
  hebrewHyphen : Bool := false
  /-- An odd number of regional indicators. -/
  oddIndicators : Bool := false
  deriving Repr, DecidableEq

namespace LineContext

/-- The class of a character at the start of a unit: a mark without a base is a
letter. -/
def asBase (c : LineClass) : LineClass := if c.isMark then .letter else c

/-- The context after the first character of a text or of a new unit. -/
def after (previous : LineClass) (c : LineClass) (odd : Bool) : LineContext :=
  { last := asBase c
    joined := c == .joiner
    hebrewHyphen := previous == .hebrew && (c == .hyphen || c == .breakAfter)
    oddIndicators := c == .regionalIndicator && !(previous == .regionalIndicator && odd) }

/-- A mark belongs to the character before it, unless that is a space or ends a
line. -/
def absorbs (x : LineContext) (c : LineClass) : Bool :=
  c.isMark && !x.spaced && x.last != .space && x.last != .zeroWidthSpace && !x.last.isEnding

/-- A line may end between what was read and `c`. -/
def breaksBefore (x : LineContext) (c : LineClass) : Bool :=
  let b := asBase c
  if x.last == .carriageReturn && c == .lineFeed && !x.spaced then false
  else if x.last.isEnding && !x.spaced then true
  else if c.isEnding || c == .space || c == .zeroWidthSpace then false
  else if x.last == .zeroWidthSpace then true
  else if x.joined || x.absorbs c then false
  else if b == .wordJoiner || (x.last == .wordJoiner && !x.spaced) then false
  else if x.last == .glue && !x.spaced then false
  else if b == .glue && !x.spaced && x.last != .space && x.last != .breakAfter && x.last != .hyphen then
    false
  else if b.isClosing || b == .exclamation || b == .separator || b == .slash then false
  else if x.last.isOpening then false
  else if x.last == .quotation && b.isOpening then false
  else if x.last.isClosing && b == .nonStarter then false
  else if x.last == .dash && b == .dash then false
  else if x.spaced || x.last == .space then true
  else if x.hebrewHyphen && b != .contingent && b != .quotation then false
  else if x.last == .regionalIndicator && b == .regionalIndicator then !x.oddIndicators
  else !x.last.staysWith b

/-- Read one more character. -/
def push (x : LineContext) (c : LineClass) : LineContext :=
  if x.absorbs c then { x with joined := c == .joiner }
  else if c == .space && !x.last.isEnding then { x with spaced := true, joined := false }
  else after (if x.spaced then .space else x.last) c x.oddIndicators

end LineContext

/-- For each of the characters after the first: whether a line may end before
it. -/
def breaksFrom (x : LineContext) : List Char → List Bool
  | [] => []
  | c :: rest =>
    let k := lineClass c
    x.breaksBefore k :: breaksFrom (x.push k) rest

/-- For each character: whether a line may end before it.  It never ends before
the first. -/
def lineBreaks : List Char → List Bool
  | [] => []
  | c :: rest => false :: breaksFrom (.after .space (lineClass c) false) rest

end Assay.Text

import Assay.Sandbox.Octets
import Assay.Sandbox.Utility.Names

/-! # How directories are listed -/

namespace Assay.Sandbox.Utility

open UtilityM

/-- How names are arranged. -/
inductive Arrangement where
  | long
  | single
  /-- Columns, filled one after the other. -/
  | down
  /-- Columns, filled line by line. -/
  | across
  | commas
  deriving Repr, DecidableEq

/-- What names are sorted by. -/
inductive SortKey where
  | none
  | name
  | extension
  | size
  | time
  | version
  | width
  deriving Repr, DecidableEq

/-- What is shown after a name about its type. -/
inductive Indicator where
  | none
  | slash
  | type
  | classify
  deriving Repr, DecidableEq

/-- How names are quoted. -/
inductive QuotingStyle where
  | literal
  | shell
  | shellAlways
  | shellEscape
  | shellEscapeAlways
  | c
  /-- As `c`, where that is needed. -/
  | cMaybe
  | escape
  | locale
  | clocale
  deriving Repr, DecidableEq

/-- Which symbolic links are followed. -/
inductive LinkView where
  | never
  | operandDirs
  | operands
  | always
  deriving Repr, DecidableEq

/-- Which names are left out. -/
inductive Hidden where
  | dotted
  /-- Only the directory itself and the one above. -/
  | dots
  | nothing
  deriving Repr, DecidableEq

/-- How sizes are shown. -/
inductive SizeView where
  | blocks (size : Nat)
  /-- With letters for powers of a base. -/
  | human (base : Nat)
  deriving Repr, DecidableEq

/-- How directories are listed. -/
structure ListStyle where
  arrangement : Option Arrangement := none
  sort : Option SortKey := none
  reversed : Bool := false
  dirsFirst : Bool := false
  /-- The directories themselves are listed. -/
  plainDirs : Bool := false
  recursive : Bool := false
  hidden : Hidden := .dotted
  ignored : List String := []
  /-- Patterns of names that are left out unless all are asked for. -/
  veiled : List String := []
  indicator : Indicator := .none
  quoting : Option QuotingStyle := none
  masked : Bool := false
  links : Option LinkView := none
  owner : Bool := true
  group : Bool := true
  author : Bool := false
  context : Bool := false
  numeric : Bool := false
  nodes : Bool := false
  blocks : Bool := false
  sizes : SizeView := .blocks 1024
  fileSizes : SizeView := .blocks 1
  /-- Another time than that of the last change is shown or sorted by. -/
  otherTime : Bool := false
  timeStyle : Option String := none
  width : Option Nat := none
  tab : Option Nat := none
  lineEnd : Char := '\n'

namespace ListStyle

def format (s : ListStyle) : Arrangement := s.arrangement.getD .single

def sortKey (s : ListStyle) : SortKey :=
  s.sort.getD (if s.otherTime && s.format ≠ .long then .time else .name)

def linkView (s : ListStyle) : LinkView :=
  s.links.getD (if s.plainDirs || s.indicator = .classify || s.format = .long then .never else .operandDirs)

end ListStyle

def listSpec : OptionSpec where
  letters := OptionSpec.ofLetters "abcdfghiklmnopqrstuvxABCDFGHLNQRSUXZ1" "wIT"
  names := [("all", .none, "a"), ("escape", .none, "b"), ("directory", .none, "d"), ("dired", .none, "D"),
    ("full-time", .none, "full-time"), ("group-directories-first", .none, "group-directories-first"),
    ("human-readable", .none, "h"), ("inode", .none, "i"), ("kibibytes", .none, "k"),
    ("numeric-uid-gid", .none, "n"), ("no-group", .none, "G"), ("hide-control-chars", .none, "q"),
    ("reverse", .none, "r"), ("size", .none, "s"), ("width", .required, "w"), ("almost-all", .none, "A"),
    ("ignore-backups", .none, "B"), ("classify", .optional, "F"), ("file-type", .none, "file-type"),
    ("si", .none, "si"), ("dereference-command-line", .none, "H"),
    ("dereference-command-line-symlink-to-dir", .none, "dereference-command-line-symlink-to-dir"),
    ("hide", .required, "hide"), ("ignore", .required, "I"),
    ("indicator-style", .required, "indicator-style"), ("dereference", .none, "L"),
    ("literal", .none, "N"), ("quote-name", .none, "Q"), ("quoting-style", .required, "quoting-style"),
    ("recursive", .none, "R"), ("format", .required, "format"),
    ("show-control-chars", .none, "show-control-chars"), ("sort", .required, "sort"),
    ("tabsize", .required, "T"), ("time", .required, "time"), ("time-style", .required, "time-style"),
    ("zero", .none, "zero"), ("color", .optional, "color"), ("hyperlink", .optional, "hyperlink"),
    ("block-size", .required, "block-size"), ("context", .none, "Z"), ("author", .none, "author")]

def formatNames : List (String × Arrangement) :=
  [("verbose", .long), ("long", .long), ("commas", .commas), ("horizontal", .across),
    ("across", .across), ("vertical", .down), ("single-column", .single)]

def sortNames : List (String × SortKey) :=
  [("none", .none), ("time", .time), ("size", .size), ("extension", .extension), ("version", .version),
    ("width", .width)]

def timeNames : List (String × Nat) :=
  [("atime", 0), ("access", 0), ("use", 0), ("ctime", 1), ("status", 1), ("birth", 2), ("creation", 2)]

def indicatorNames : List (String × Indicator) :=
  [("none", .none), ("slash", .slash), ("file-type", .type), ("classify", .classify)]

def quotingNames : List (String × QuotingStyle) :=
  [("literal", .literal), ("shell", .shell), ("shell-always", .shellAlways),
    ("shell-escape", .shellEscape), ("shell-escape-always", .shellEscapeAlways), ("c", .c),
    ("c-maybe", .cMaybe), ("escape", .escape), ("locale", .locale), ("clocale", .clocale)]

def whenNames : List (String × Nat) :=
  [("always", 1), ("yes", 1), ("force", 1), ("never", 0), ("no", 0), ("none", 0), ("auto", 2),
    ("tty", 2), ("if-tty", 2)]

/-- A number of the command line. -/
def listNumber (what text : String) : UtilityM Nat := do
  let cs := text.toList
  let base := if cs.head? == some '0' then 8 else 10
  let hex := match cs with
    | '0' :: 'x' :: rest | '0' :: 'X' :: rest => some rest
    | _ => none
  let number := match hex with
    | some digits => Digits.number? 16 digits
    | none => Digits.number? base cs
  match number with
  | some n => return n
  | none => fail (what ++ ": " ++ (← marked text))

/-- The size of a block. -/
def blockSize (text : String) : UtilityM SizeView := do
  match text with
  | "human-readable" => return .human 1024
  | "si" => return .human 1000
  | _ =>
    let cs := text.toList
    let digits := cs.takeWhile Char.isDigit
    let scales : List (Char × Nat) :=
      [('k', 1), ('K', 1), ('M', 2), ('G', 3), ('T', 4), ('P', 5), ('E', 6), ('Z', 7), ('Y', 8)]
    let unit : Option Nat := match cs.drop digits.length with
      | [] => some 1
      | [c] => (scales.lookup c).map fun k => Nat.pow 1024 k
      | [c, 'B'] => (scales.lookup c).map fun k => Nat.pow 1000 k
      | [c, 'i', 'B'] => (scales.lookup c).map fun k => Nat.pow 1024 k
      | _ => none
    let number := if digits.isEmpty then 1 else Digits.number 10 digits
    match unit with
    | some u =>
      if cs.isEmpty || number * u = 0 then fail ("invalid --block-size argument '" ++ text ++ "'")
      return .blocks (number * u)
    | none =>
      if digits.isEmpty then fail ("invalid --block-size argument '" ++ text ++ "'")
      fail ("invalid suffix in --block-size argument '" ++ text ++ "'")

/-- Take note of an option. -/
def listOption (s : ListStyle) (key : String) (value : Option String) : UtilityM ListStyle := do
  let text := value.getD ""
  match key with
  | "a" => return { s with hidden := .nothing }
  | "b" => return { s with quoting := some .escape }
  | "c" | "u" => return { s with otherTime := true }
  | "d" => return { s with plainDirs := true }
  | "f" =>
    return { s with
      hidden := .nothing, sort := some .none, blocks := false
      arrangement := if s.arrangement = some .long then none else s.arrangement }
  | "file-type" => return { s with indicator := .type }
  | "g" => return { s with arrangement := some .long, owner := false }
  | "h" => return { s with sizes := .human 1024, fileSizes := .human 1024 }
  | "si" => return { s with sizes := .human 1000, fileSizes := .human 1000 }
  | "i" => return { s with nodes := true }
  | "k" => return { s with sizes := .blocks 1024, fileSizes := .blocks 1 }
  | "l" => return { s with arrangement := some .long }
  | "m" => return { s with arrangement := some .commas }
  | "n" => return { s with numeric := true, arrangement := some .long }
  | "o" => return { s with arrangement := some .long, group := false }
  | "p" => return { s with indicator := .slash }
  | "q" => return { s with masked := true }
  | "r" => return { s with reversed := true }
  | "s" => return { s with blocks := true }
  | "t" => return { s with sort := some .time }
  | "v" => return { s with sort := some .version }
  | "w" => return { s with width := some (← listNumber "invalid line width" text) }
  | "x" => return { s with arrangement := some .across }
  | "A" => return { s with hidden := .dots }
  | "B" => return { s with ignored := s.ignored ++ ["*~", ".*~"] }
  | "C" => return { s with arrangement := some .down }
  | "F" =>
    let when_ ← match value with
      | some text => choose "--classify" whenNames text
      | none => pure 1
    return if when_ = 1 then { s with indicator := .classify } else s
  | "G" => return { s with group := false }
  | "H" => return { s with links := some .operands }
  | "dereference-command-line-symlink-to-dir" => return { s with links := some .operandDirs }
  | "I" => return { s with ignored := s.ignored ++ [text] }
  | "hide" => return { s with veiled := s.veiled ++ [text] }
  | "L" => return { s with links := some .always }
  | "N" => return { s with quoting := some .literal }
  | "Q" => return { s with quoting := some .c }
  | "R" => return { s with recursive := true }
  | "S" => return { s with sort := some .size }
  | "T" => return { s with tab := some (← listNumber "invalid tab size" text) }
  | "U" => return { s with sort := some .none }
  | "X" => return { s with sort := some .extension }
  | "1" => return if s.arrangement = some .long then s else { s with arrangement := some .single }
  | "Z" => return { s with context := true }
  | "author" => return { s with author := true }
  | "full-time" => return { s with arrangement := some .long, timeStyle := some "full-iso" }
  | "group-directories-first" => return { s with dirsFirst := true }
  | "indicator-style" => return { s with indicator := ← choose "--indicator-style" indicatorNames text }
  | "quoting-style" => return { s with quoting := some (← choose "--quoting-style" quotingNames text) }
  | "format" => return { s with arrangement := some (← choose "--format" formatNames text) }
  | "show-control-chars" => return { s with masked := false }
  | "sort" => return { s with sort := some (← choose "--sort" sortNames text) }
  | "time" =>
    let _ ← choose "--time" timeNames text
    return { s with otherTime := true }
  | "time-style" => return { s with timeStyle := value }
  | "zero" =>
    return { s with
      lineEnd := '\x00', masked := false, quoting := some .literal
      arrangement := if s.arrangement = some .long then s.arrangement else some .single }
  | "color" | "hyperlink" =>
    /- There is no terminal that could show them. -/
    if value.isSome then
      let _ ← choose ("--" ++ key) whenNames text
    return s
  | "block-size" =>
    let size ← blockSize text
    return { s with sizes := size, fileSizes := size }
  | _ => return s

end Assay.Sandbox.Utility

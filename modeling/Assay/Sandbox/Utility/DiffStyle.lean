import Assay.Sandbox.Regex
import Assay.Sandbox.Utility.Names

/-! # How differences are found and shown -/

namespace Assay.Sandbox.Utility

open UtilityM

/-- The form in which differences are shown. -/
inductive DiffForm where
  | normal
  | context
  | unified
  /-- Commands for an editor, the last ones first. -/
  | script
  /-- Such commands, the first ones first. -/
  | forward
  /-- Commands that count lines. -/
  | counted
  | sideBySide
  /-- Groups of lines in formats of their own. -/
  | groups
  deriving Repr, DecidableEq

namespace DiffForm

/-- The form can tell whether a file ends with a line end. -/
def isRobust : DiffForm → Bool
  | .script | .forward => false
  | _ => true

end DiffForm

/-- Which blanks do not count. -/
structure Whitespace where
  tabs : Bool := false
  trailing : Bool := false
  amount : Bool := false
  all : Bool := false
  deriving Repr, DecidableEq

namespace Whitespace

/-- Blanks at the end of a line do not count. -/
def endless (w : Whitespace) : Bool := w.trailing || w.amount || w.all

end Whitespace

/-- The formats of groups and of lines, in the order unchanged, old, new and
changed. -/
structure GroupFormats where
  groups : List (Option String) := [none, none, none, none]
  lines : List (Option String) := [none, none, none]

/-- How differences are found and shown. -/
structure DiffStyle where
  form : Option DiffForm := none
  context : Option Nat := none
  explicitContext : Bool := false
  /-- A number of lines that is an option by itself. -/
  number : Option Nat := none
  afterDigit : Bool := false
  text : Bool := false
  ignoreCase : Bool := false
  white : Whitespace := {}
  ignoreBlank : Bool := false
  ignored : List Regex := []
  functions : List Regex := []
  showFunctions : Bool := false
  minimal : Bool := false
  labels : List String := []
  newFile : Bool := false
  oneWayNewFile : Bool := false
  brief : Bool := false
  recursive : Bool := false
  identical : Bool := false
  startingFile : Option String := none
  expandTabs : Bool := false
  initialTab : Bool := false
  excluded : List String := []
  width : Option Nat := none
  tab : Option Nat := none
  horizon : Nat := 0
  leftColumn : Bool := false
  /-- The numbers of lines are shown before them. -/
  counts : Bool := false
  suppressCommon : Bool := false
  suppressBlank : Bool := false
  colour : Bool := false
  stripReturns : Bool := false
  follow : Bool := true
  ignoreNameCase : Bool := false
  fromFile : Option String := none
  toFile : Option String := none
  formats : GroupFormats := {}
  /-- The options as they were given. -/
  words : String := ""
  /-- Texts are encoded in UTF-8. -/
  utf8 : Bool := false

namespace DiffStyle

/-- The form in which differences are shown. -/
def shape (s : DiffStyle) : DiffForm := s.form.getD .normal

/-- How many lines are shown around changes. -/
def around (s : DiffStyle) : Nat := if s.shape = .context || s.shape = .unified then s.context.getD 3 else 0

def tabSize (s : DiffStyle) : Nat := s.tab.getD 8

/-- The label of a file, or its name. -/
def label (s : DiffStyle) (index : Nat) (name : String) : String := s.labels[index]?.getD name

/-- Some changes do not count. -/
def ignoresChanges (s : DiffStyle) : Bool := s.ignoreBlank || !s.ignored.isEmpty

/-- Some differences within lines do not count. -/
def ignoresText (s : DiffStyle) : Bool := s.ignoreCase || s.stripReturns || s.white ≠ {}

end DiffStyle

def diffSpec : OptionSpec where
  letters := OptionSpec.ofLetters "0123456789abBcdeEfhHilnNpPqrstTuvwyZ" "CDFILSUWxX"
  names := [("binary", .none, "binary"), ("brief", .none, "q"),
    ("changed-group-format", .required, "changed-group-format"), ("color", .optional, "color"),
    ("context", .optional, "C"), ("ed", .none, "e"), ("exclude", .required, "x"),
    ("exclude-from", .required, "X"), ("expand-tabs", .none, "t"), ("forward-ed", .none, "f"),
    ("from-file", .required, "from-file"), ("horizon-lines", .required, "horizon-lines"),
    ("ifdef", .required, "D"), ("ignore-all-space", .none, "w"), ("ignore-blank-lines", .none, "B"),
    ("ignore-case", .none, "i"), ("ignore-file-name-case", .none, "ignore-file-name-case"),
    ("ignore-matching-lines", .required, "I"), ("ignore-space-change", .none, "b"),
    ("ignore-tab-expansion", .none, "E"), ("ignore-trailing-space", .none, "Z"),
    ("inhibit-hunk-merge", .none, "h"), ("initial-tab", .none, "T"), ("label", .required, "L"),
    ("left-column", .none, "left-column"), ("line-format", .required, "line-format"),
    ("minimal", .none, "d"), ("new-file", .none, "N"), ("new-group-format", .required, "new-group-format"),
    ("new-line-format", .required, "new-line-format"), ("no-dereference", .none, "no-dereference"),
    ("no-ignore-file-name-case", .none, "no-ignore-file-name-case"), ("normal", .none, "normal"),
    ("old-group-format", .required, "old-group-format"),
    ("old-line-format", .required, "old-line-format"), ("paginate", .none, "l"),
    ("palette", .required, "palette"), ("rcs", .none, "n"), ("recursive", .none, "r"),
    ("report-identical-files", .none, "s"), ("sdiff-merge-assist", .none, "sdiff-merge-assist"),
    ("show-c-function", .none, "p"), ("show-function-line", .required, "F"),
    ("side-by-side", .none, "y"), ("speed-large-files", .none, "H"), ("starting-file", .required, "S"),
    ("strip-trailing-cr", .none, "strip-trailing-cr"),
    ("suppress-blank-empty", .none, "suppress-blank-empty"),
    ("suppress-common-lines", .none, "suppress-common-lines"), ("tabsize", .required, "tabsize"),
    ("text", .none, "a"), ("to-file", .required, "to-file"),
    ("unchanged-group-format", .required, "unchanged-group-format"),
    ("unchanged-line-format", .required, "unchanged-line-format"),
    ("unidirectional-new-file", .none, "P"), ("unified", .optional, "U"), ("width", .required, "W")]

/-- Refuse the arguments with a message. -/
def refuseDiff {α : Type} (message : String) : UtilityM α := do
  report message
  refuse

/-- Choose a form, once. -/
def DiffStyle.withForm (s : DiffStyle) (f : DiffForm) : UtilityM DiffStyle := do
  if s.form.isSome && s.form ≠ some f then refuseDiff "conflicting output style options"
  return { s with form := some f }

/-- A value that is given once, or twice the same. -/
def onceOnly (old : Option String) (text option : String) : UtilityM (Option String) := do
  if old.isSome && old ≠ some text then
    report ("conflicting " ++ option ++ " option value '" ++ text ++ "'")
    refuse
  return some text

/-- The number that a text stands for; no text at all stands for zero. -/
def wholeNumber? (text : String) : Option Nat :=
  let (negative, digits) := Digits.sign (text.toList.dropWhile Digits.isSpace)
  if text.isEmpty then some 0
  else (Digits.number? 10 digits).filter fun n => !negative || n = 0

/-- An expression of the command line. -/
def readRegex (text : String) : UtilityM Regex := do
  match Regex.parse (if (← get).isUtf8 then Octets.decode text else text) with
  | .ok r => return r
  | .error why => fail (text ++ ": " ++ why)

/-- Set the format of some groups or lines. -/
def DiffStyle.withFormat (s : DiffStyle) (isGroup : Bool) (indices : List Nat) (text option : String) :
    UtilityM DiffStyle := do
  let s ← s.withForm .groups
  let old := if isGroup then s.formats.groups else s.formats.lines
  let new ← old.zipIdx.mapM fun (f, i) => if indices.contains i then onceOnly f text option else pure f
  return { s with formats :=
    if isGroup then { s.formats with groups := new } else { s.formats with lines := new } }

/-- The formats of groups that a preprocessor tells apart by a name. -/
def conditionalFormats (name : String) : List String :=
  ["%=", "#ifndef " ++ name ++ "\n%<#endif /* ! " ++ name ++ " */\n",
    "#ifdef " ++ name ++ "\n%>#endif /* " ++ name ++ " */\n",
    "#ifndef " ++ name ++ "\n%<#else /* " ++ name ++ " */\n%>#endif /* " ++ name ++ " */\n"]

/-- Lines around changes, or more of them. -/
def DiffStyle.withContext (s : DiffStyle) (n : Nat) : DiffStyle :=
  { s with context := some (max n (s.context.getD n)) }

/-- Take note of an option that concerns the form. -/
def formOption (s : DiffStyle) (key text : String) (value : Option String) :
    UtilityM (Option DiffStyle) := do
  match key with
  | "C" | "U" =>
    let n ← match value with
      | none => pure 3
      | some text =>
        match wholeNumber? text with
        | some n => pure n
        | none => refuseDiff ("invalid context length '" ++ text ++ "'")
    let s ← s.withForm (if key = "U" then .unified else .context)
    return some { s.withContext n with explicitContext := true }
  | "c" => return some ((← s.withForm .context).withContext 3)
  | "u" => return some ((← s.withForm .unified).withContext 3)
  | "D" =>
    let s ← s.withForm .groups
    let new ← (s.formats.groups.zip (conditionalFormats text)).mapM fun (old, f) => onceOnly old f "-D"
    return some { s with formats := { s.formats with groups := new } }
  | "e" => some <$> s.withForm .script
  | "f" => some <$> s.withForm .forward
  | "n" => some <$> s.withForm .counted
  | "y" => some <$> s.withForm .sideBySide
  | "sdiff-merge-assist" => return some { (← s.withForm .sideBySide) with counts := true }
  | "normal" => some <$> s.withForm .normal
  | "line-format" => some <$> s.withFormat false [0, 1, 2] text "--line-format"
  | "unchanged-line-format" => some <$> s.withFormat false [0] text "--unchanged-line-format"
  | "old-line-format" => some <$> s.withFormat false [1] text "--old-line-format"
  | "new-line-format" => some <$> s.withFormat false [2] text "--new-line-format"
  | "unchanged-group-format" => some <$> s.withFormat true [0] text "--unchanged-group-format"
  | "old-group-format" => some <$> s.withFormat true [1] text "--old-group-format"
  | "new-group-format" => some <$> s.withFormat true [2] text "--new-group-format"
  | "changed-group-format" => some <$> s.withFormat true [3] text "--changed-group-format"
  | _ => return none

/-- A positive number of the command line. -/
def positive (what text : String) : UtilityM Nat := do
  match wholeNumber? text with
  | some (n + 1) => return n + 1
  | _ => refuseDiff ("invalid " ++ what ++ " '" ++ text ++ "'")

/-- Names in a file, one on each line. -/
def namesIn (path : String) : UtilityM (List String) := do
  let opened ← if path = "-" then pure (.ok 0) else Proc.openInput path
  match opened with
  | .error e => fail (path ++ ": " ++ plainError e)
  | .ok fd =>
    match ← Proc.readToEnd fd with
    | .error e => fail (path ++ ": " ++ plainError e)
    | .ok data =>
      let trimmed (l : String) : String :=
        String.ofList (l.toList.reverse.dropWhile Digits.isSpace).reverse
      return (((Octets.ofBytes data).splitOn "\n").map trimmed).filter fun l => !l.isEmpty

/-- Take note of an option. -/
def diffOption (s : DiffStyle) (key : String) (value : Option String) : UtilityM DiffStyle := do
  let text := value.getD ""
  let afterDigit := s.afterDigit
  let s := { s with afterDigit := false }
  if key.length = 1 && key.toList.all Char.isDigit then
    let digit := Digits.number 10 key.toList
    let n := if afterDigit then s.number.getD 0 * 10 + digit else digit
    return { s with number := some n, afterDigit := true }
  match ← formOption s key text value with
  | some s => return s
  | none => pure ()
  match key with
  | "a" => return { s with text := true }
  | "b" => return if s.white.all then s else { s with white := { amount := true } }
  | "Z" => return if s.white.all || s.white.amount then s
      else { s with white := { s.white with trailing := true } }
  | "E" => return if s.white.all || s.white.amount then s
      else { s with white := { s.white with tabs := true } }
  | "w" => return { s with white := { all := true } }
  | "B" => return { s with ignoreBlank := true }
  | "d" => return { s with minimal := true }
  | "F" => return { s with functions := s.functions ++ [← readRegex text] }
  | "i" => return { s with ignoreCase := true }
  | "I" => return { s with ignored := s.ignored ++ [← readRegex text] }
  | "L" =>
    if 2 ≤ s.labels.length then fail "too many file label options"
    return { s with labels := s.labels ++ [text] }
  | "N" => return { s with newFile := true }
  | "p" =>
    return { s with
      showFunctions := true
      functions := s.functions ++ [← readRegex "^[[:alpha:]$_]"] }
  | "P" => return { s with oneWayNewFile := true }
  | "q" => return { s with brief := true }
  | "r" => return { s with recursive := true }
  | "s" => return { s with identical := true }
  | "S" => return { s with startingFile := ← onceOnly s.startingFile text "-S" }
  | "t" => return { s with expandTabs := true }
  | "T" => return { s with initialTab := true }
  | "x" => return { s with excluded := s.excluded ++ [text] }
  | "X" => return { s with excluded := s.excluded ++ (← namesIn text) }
  | "W" =>
    let n ← positive "width" text
    if s.width.any (· ≠ n) then fail "conflicting width options"
    return { s with width := some n }
  | "tabsize" =>
    let n ← positive "tabsize" text
    if s.tab.any (· ≠ n) then fail "conflicting tabsize options"
    return { s with tab := some n }
  | "horizon-lines" =>
    match wholeNumber? text with
    | some n => return { s with horizon := max s.horizon n }
    | none => refuseDiff ("invalid horizon length '" ++ text ++ "'")
  | "left-column" => return { s with leftColumn := true }
  | "suppress-common-lines" => return { s with suppressCommon := true }
  | "suppress-blank-empty" => return { s with suppressBlank := true }
  | "strip-trailing-cr" => return { s with stripReturns := true }
  | "no-dereference" => return { s with follow := false }
  | "ignore-file-name-case" => return { s with ignoreNameCase := true }
  | "no-ignore-file-name-case" => return { s with ignoreNameCase := false }
  | "from-file" => return { s with fromFile := ← onceOnly s.fromFile text "--from-file" }
  | "to-file" => return { s with toFile := ← onceOnly s.toFile text "--to-file" }
  | "color" =>
    if value.isSome && !(["always", "never", "auto"].contains text) then
      refuseDiff ("invalid color '" ++ text ++ "'")
    return { s with colour := text = "always" }
  | _ => return s

/-- Complete what the options leave open. -/
def DiffStyle.completed (s : DiffStyle) : DiffStyle :=
  let s := match s.form with
    | some _ => s
    | none =>
      if s.showFunctions then
        { s with form := some .context, context := if s.number.isNone then some 3 else s.context }
      else { s with form := some .normal }
  let isContext := s.shape = .context || s.shape = .unified
  let s := match s.number with
    | some n =>
      let c := s.context
      if isContext && (c.all (· < n) || (c.any (n < ·) && !s.explicitContext)) then
        { s with context := some n }
      else s
    | none => s
  { s with horizon := max s.horizon s.around }

/-- The formats of groups: unchanged, old, new and changed. -/
def GroupFormats.complete (f : GroupFormats) : List String × List String :=
  let at_ (i : Nat) : Option String := (f.groups[i]?).join
  let changed := at_ 3
  let old := (at_ 1 <|> changed).getD "%<"
  let new := (at_ 2 <|> changed).getD "%>"
  ([(at_ 0).getD "%=", old, new, changed.getD (old ++ new)], f.lines.map fun l => l.getD "%l\n")

end Assay.Sandbox.Utility

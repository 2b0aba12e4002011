import Assay.Sandbox.Calendar
import Assay.Sandbox.Mode
import Assay.Sandbox.Shell.Pattern
import Assay.Sandbox.Utility.Columns
import Assay.Sandbox.Utility.ListOptions
import Assay.Sandbox.Utility.VersionOrder
import Assay.Text.Width

/-! # Listing directories -/

namespace Assay.Sandbox.Utility

open UtilityM

/-- A name that is listed. -/
structure Item where
  name : String
  /-- What the name leads to, as far as it could be found out. -/
  entry : Option Entry
  /-- The name of a directory on the command line. -/
  isOperandDir : Bool := false
  /-- Where a symbolic link leads. -/
  target : Option Entry := none
  linkCount : Nat := 1

namespace Item

def isDir (i : Item) : Bool := (i.entry.map Entry.isDir).getD false

/-- The name leads to a directory, through a link or not. -/
def leadsToDir (i : Item) : Bool := i.isDir || (i.target.map Entry.isDir).getD false

/-- How many bytes an entry has. -/
def bytesOf : Entry → Nat
  | .file data _ => data.length
  | .dir _ => 4096
  | .link target _ => target.length
  | .special .. => 0

def size (i : Item) : Nat := (i.entry.map bytesOf).getD 0

/-- How many bytes are set aside for an entry. -/
def reserved (i : Item) : Nat :=
  match i.entry with
  | some (.file data _) => (data.length + 4095) / 4096 * 4096
  | some (.dir _) => 4096
  | _ => 0

def modified (i : Item) : Moment := (i.entry.map fun e => e.attributes.modified).getD ⟨0, 0⟩

end Item

/-- A utility that lists: the exit code so far, and whether nothing has been
listed yet. -/
abbrev ListM := StateT (Nat × Bool) UtilityM

namespace ListM

/-- Report a failure; it is a serious one if an operand is concerned. -/
def problem (serious : Bool) (message : String) : ListM Unit := do
  report message
  modify fun (code, first) => (if serious then 2 else max code 1, first)

/-! ## Names and sizes -/

/-- The signs that are quoted besides those that always are. -/
def extraSigns (s : ListStyle) (quoting : QuotingStyle) (heading : Bool) : List Char :=
  let marks := match s.indicator with
    | .type => "=>@|".toList
    | .classify => "*=>@|".toList
    | _ => []
  marks ++ (if quoting = .escape then [' '] else []) ++ (if heading then [':'] else [])

/-- A name as it is quoted. -/
def quotedName (s : ListStyle) (utf8 : Bool) (heading : Bool) (name : String) : String :=
  let quoting := s.quoting.getD .literal
  let extra := extraSigns s quoting heading
  match quoting with
    | .literal => name
    | .shell => Quote.plainAsNeeded utf8 extra name
    | .shellAlways => Quote.shellPlain utf8 name
    | .shellEscape => Quote.asNeeded utf8 extra name
    | .shellEscapeAlways => Quote.shell utf8 name
    | .c => "\"" ++ Quote.escapedName utf8 ('"' :: extra) name ++ "\""
    | .cMaybe =>
      let text := Quote.escapedName utf8 ('"' :: extra) name
      if text = name then name else "\"" ++ text ++ "\""
    | .escape => Quote.escapedName utf8 extra name
    | .locale => Quote.marked utf8 name
    | .clocale =>
      if utf8 then Quote.marked utf8 name else "\"" ++ Quote.escapedName utf8 ('"' :: extra) name ++ "\""

/-- A name as it is shown. -/
def shownName (s : ListStyle) (utf8 : Bool) (heading : Bool) (name : String) : String :=
  let text := quotedName s utf8 heading name
  if s.masked then Quote.masked utf8 text else text

/-- Names that are not quoted are moved under the others by a blank. -/
def alignsQuotes (s : ListStyle) (limit : Nat) : Bool :=
  let style := s.quoting.getD .literal
  (style = .shell || style = .shellEscape || style = .cMaybe) &&
    (s.format = .long || ((s.format = .down || s.format = .across) && limit ≠ 0))

/-- A name as it is shown beside others; with `aligned` one of them is quoted. -/
def alignedName (s : ListStyle) (utf8 aligned : Bool) (name : String) : String :=
  let text := shownName s utf8 false name
  if aligned && quotedName s utf8 false name = name then " " ++ text else text

/-- How many columns a text takes. -/
def columnsOf (utf8 : Bool) (text : String) : Nat :=
  ((Quote.symbols utf8 (text.length + 1) text.toList).map fun s =>
    if !s.printable then 0
    else match Quote.codePoint (s.bytes.map Char.toNat) with
      | some n => Text.width (Char.ofNat n)
      | none => 0).foldl (· + ·) 0

/-- A number of bytes in a unit, rounded up. -/
def shownSize (view : SizeView) (bytes : Nat) : String :=
  match view with
  | .blocks size => toString ((bytes + size - 1) / size)
  | .human base =>
    let letters := "KMGTPEZY".toList
    let rec scale (fuel unit : Nat) (letter : Nat) : String :=
      match fuel with
      | 0 => toString bytes
      | fuel + 1 =>
        let tenths := (bytes * 10 + unit - 1) / unit
        let whole := (bytes + unit - 1) / unit
        let mark := String.ofList ((letters[letter]?).toList)
        let mark := if base = 1000 && letter = 0 then "k" else mark
        if tenths < 100 then toString (tenths / 10) ++ "." ++ toString (tenths % 10) ++ mark
        else if whole < base || fuel = 0 then toString whole ++ mark
        else scale fuel (unit * base) (letter + 1)
    if bytes < base then toString bytes else scale 8 base 0

/-- What is shown after the name of an entry. -/
def indicatorOf (s : ListStyle) (e : Option Entry) : String :=
  match s.indicator, e with
  | .none, _ | _, none => ""
  | _, some (.dir _) => "/"
  | .slash, _ => ""
  | _, some (.link ..) => "@"
  | .classify, some (.file _ a) => if a.executable then "*" else ""
  | _, some (.special (.descriptor _) _) => "|"
  | _, _ => ""

/-! ## Finding out -/

/-- Only the type of entries matters. -/
def needsType (s : ListStyle) : Bool := s.recursive || s.indicator ≠ .none || s.dirsFirst

/-- More than the type of entries matters. -/
def needsStat (s : ListStyle) : Bool :=
  s.sortKey = .time || s.sortKey = .size || s.format = .long || s.blocks || s.context

/-- What a path leads to, as links are to be seen. -/
def look (s : ListStyle) (operand : Bool) (path : String) : ListM (Except IoError Entry) := do
  match s.linkView with
  | .always => if operand || needsStat s || needsType s then stat path else lstat path
  | .never => lstat path
  | .operands => if operand then stat path else lstat path
  | .operandDirs =>
    if !operand then lstat path
    else match ← stat path with
      | .ok e => if e.isDir then return .ok e else lstat path
      | .error e => if e = .notFound || e = .tooManyLinks then lstat path else return .error e

/-- How many names a node has; directories count as often as they are named in
themselves. -/
def countLinks (path : String) (e : Entry) : ListM Nat :=
  ask fun pid s =>
    match e with
    | .dir _ =>
      match s.resolve pid path true with
      | .ok place =>
        2 + (s.tree.entries.filter fun x => x.2.isDir && x.1.dropLast = place.location && x.1 ≠ []).length
      | .error _ => 2
    | e => s.tree.linkCount e.node

/-- Find out about a name; nothing if it is an operand that leads nowhere. -/
def item (s : ListStyle) (operand : Bool) (dir name : String) : ListM (Option Item) := do
  let path := if dir.isEmpty || Octets.isAbsolute name then name else Name.under dir name
  let path := if dir = "." && !Octets.isAbsolute name then name else path
  match ← look s operand path with
  | .error e =>
    problem operand ("cannot access " ++ (← quoted path) ++ ": " ++ plainError e)
    return if operand then none else some { name, entry := none }
  | .ok e =>
    let target ← if e.isLink then pure (← stat path).toOption else pure none
    let count ← if s.format = .long then countLinks path e else pure 1
    return some
      { name, entry := some e, isOperandDir := operand && e.isDir && !s.plainDirs, target
        linkCount := count }

/-- A name is left out. -/
def isIgnored (s : ListStyle) (name : String) : Bool :=
  let fits (patterns : List String) : Bool := patterns.any fun p =>
    let cs := p.toList
    /- A dot at the start is only matched by a dot. -/
    Shell.Pattern.accepts (Shell.Pattern.parse cs) name.toList &&
      (name.toList.head? != some '.' || cs.head? == some '.')
  let dotted := name.toList.head? == some '.'
  (dotted && s.hidden = .dotted) || (s.hidden = .dots && (name = "." || name = "..")) ||
    (s.hidden = .dotted && fits s.veiled) || fits s.ignored

/-! ## Sorting -/

/-- What comes after the last dot of a name, with the dot. -/
def extensionOf (name : String) : String :=
  let tail := name.toList.reverse.takeWhile (· != '.')
  if tail.length = name.length then "" else String.ofList ('.' :: tail.reverse)

/-- The first name comes before the second one, or at the same place. -/
def precedes (s : ListStyle) (utf8 : Bool) (a b : Item) : Bool :=
  let byName : Bool := a.name ≤ b.name
  let byKey {α : Type} [DecidableEq α] (lt : α → α → Bool) (x y : α) : Bool :=
    if x = y then byName else lt x y
  match s.sortKey with
  | .none => true
  | .name => byName
  | .extension => byKey (fun x y => decide (x < y)) (extensionOf a.name) (extensionOf b.name)
  | .size => byKey (fun x y => decide (y < x)) a.size b.size
  | .time => byKey (fun x y => y.before x) a.modified b.modified
  | .version =>
    let d := VersionOrder.compare a.name b.name
    if d = 0 then byName else d < 0
  | .width => byKey (fun x y => decide (x < y)) (columnsOf utf8 a.name) (columnsOf utf8 b.name)

/-- Items in the order in which they are shown. -/
def sorted (s : ListStyle) (utf8 : Bool) (items : List Item) : List Item :=
  if s.sortKey = .none then items
  else
    let order (a b : Item) : Bool := if s.reversed then precedes s utf8 b a else precedes s utf8 a b
    items.mergeSort fun a b =>
      if s.dirsFirst && a.leadsToDir != b.leadsToDir then a.leadsToDir else order a b

/-! ## Showing -/

/-- The letter of a type. -/
def typeLetter : Entry → String
  | .file .. => "-"
  | .dir _ => "d"
  | .link .. => "l"
  | .special (.descriptor _) _ => "p"
  | .special .. => "c"

/-- The patterns of times that are recent and of others. -/
def timePatterns (s : ListStyle) (setting : Option String) : UtilityM (String × String) := do
  let style := (s.timeStyle <|> setting).getD "locale"
  let style := if "posix-".toList.isPrefixOf style.toList then String.ofList (style.toList.drop 6) else style
  match style.toList with
  | '+' :: pattern =>
    let text := String.ofList pattern
    match text.splitOn "\n" with
    | old :: recent :: _ => return (recent, old)
    | _ => return (text, text)
  | _ =>
    match choice? [("full-iso", 0), ("long-iso", 1), ("iso", 2), ("locale", 3)] style with
    | .ok 0 => return ("%Y-%m-%d %H:%M:%S.%N %z", "%Y-%m-%d %H:%M:%S.%N %z")
    | .ok 1 => return ("%Y-%m-%d %H:%M", "%Y-%m-%d %H:%M")
    | .ok 2 => return ("%m-%d %H:%M", "%Y-%m-%d ")
    | .ok _ => return ("%b %e %H:%M", "%b %e  %Y")
    | .error problem =>
      report (problem ++ " argument " ++ (← marked style) ++ " for " ++ (← marked "time style"))
      complain ("Valid arguments are:\n  - [posix-]full-iso\n  - [posix-]long-iso\n  - [posix-]iso\n" ++
        "  - [posix-]locale\n  - +FORMAT (e.g., +%H:%M) for a 'date'-style format")
      refuse

/-- A time as it is shown. -/
def shownTime (patterns : String × String) (now m : Moment) : String :=
  let recent := Moment.before ⟨now.seconds - 15778476, now.nanos⟩ m && m.before now
  let pattern := if recent then patterns.1 else patterns.2
  String.ofList ((Civil.ofSeconds m.seconds).format m.nanos pattern.toList)

/-- A text with blanks before it up to a width. -/
def right (width : Nat) (text : String) : String :=
  String.ofList (List.replicate (width - text.length) ' ') ++ text

/-- The width of the widest of texts. -/
def widest (texts : List String) : Nat := texts.foldl (fun n t => max n t.length) 0

/-- What is shown before a name in all arrangements. -/
def frills (s : ListStyle) (items : List Item) (i : Item) : String :=
  let node (i : Item) : String := (i.entry.map fun e => toString e.node).getD "?"
  let blocks (i : Item) : String := (i.entry.map fun _ => shownSize s.sizes i.reserved).getD "?"
  let column (f : Item → String) : String :=
    (if s.format = .commas then f i else right (widest (items.map f)) (f i)) ++ " "
  (if s.nodes then column node else "") ++ (if s.blocks then column blocks else "")

/-- A name with all that is shown with it, and its width. -/
def plainItem (s : ListStyle) (utf8 aligned : Bool) (items : List Item) (i : Item) : String × Nat :=
  let context := if s.context && s.format ≠ .long then "? " else ""
  let before := frills s items i ++ context
  let name := alignedName s utf8 aligned i.name
  let after := indicatorOf s i.entry
  (before ++ name ++ after, before.length + columnsOf utf8 name + after.length)

/-- The line of a name in the long arrangement. -/
def longLine (s : ListStyle) (utf8 aligned : Bool) (patterns : String × String) (now : Moment)
    (items : List Item) (i : Item) : String :=
  let person := if s.numeric then "0" else "root"
  let known (f : Item → String) (i : Item) : String := if i.entry.isSome then f i else "?"
  let count := known fun i => toString i.linkCount
  let size := known fun i => shownSize s.fileSizes i.size
  let time := known fun i => shownTime patterns now i.modified
  let column (f : Item → String) : String := right (widest (items.map f)) (f i) ++ " "
  let mode := match i.entry with
    | some e => typeLetter e ++ Mode.text e.attributes.mode
    | none => "??????????"
  let name := alignedName s utf8 aligned i.name
  let ending := match i.entry with
    | some (.link target _) =>
      " -> " ++ shownName s utf8 false (Octets.ofBytes target) ++
        (if s.indicator = .type || s.indicator = .classify then indicatorOf s i.target else "")
    | e => indicatorOf s e
  let people := (if s.owner then known (fun _ => person) i ++ " " else "") ++
    (if s.group then known (fun _ => person) i ++ " " else "") ++
    (if s.author then known (fun _ => person) i ++ " " else "") ++
    (if s.context then "? " else "")
  frills s items i ++ mode ++ " " ++ column count ++ people ++ column size ++ time i ++ " " ++ name ++ ending

/-- Show items; columns are as wide as `all` need them. -/
def showItems (s : ListStyle) (all items : List Item) : ListM Unit := do
  let session ← getThe Session
  let utf8 := session.isUtf8
  let lineEnd := String.ofList [s.lineEnd]
  let limit := match s.width with
    | some n => n
    | none =>
      match (session.setting "COLUMNS").bind (Digits.number? 10 ·.toList) with
      | some n => n
      | none => 80
  let tab := s.tab.getD (((session.setting "TABSIZE").bind (Digits.number? 10 ·.toList)).getD 8)
  let aligned := alignsQuotes s limit && all.any fun i => quotedName s utf8 false i.name ≠ i.name
  match s.format with
  | .long =>
    let patterns ← timePatterns s (session.setting "TIME_STYLE")
    let now ← ask fun _ system => system.now
    items.forM fun i => print (longLine s utf8 aligned patterns now all i ++ lineEnd)
  | .single => items.forM fun i => print ((plainItem s utf8 aligned all i).1 ++ lineEnd)
  | .commas =>
    print (String.ofList (Columns.separated ',' s.lineEnd limit 0 true (items.map (plainItem s utf8 aligned all))))
  | arrangement =>
    let names := items.map (plainItem s utf8 aligned all)
    if limit = 0 then print (String.ofList (Columns.separated ' ' s.lineEnd 0 0 true names))
    else (Columns.rows (arrangement = .down) limit tab names).forM fun line => print (line ++ lineEnd)

/-- Show the contents of a directory and, if asked, of those in it; `above` are
the directories on the way. -/
def showDir (s : ListStyle) (heading : Bool) : (depth : Nat) → (operand : Bool) → (above : List Nat) →
    (path : String) → ListM Unit
  | 0, _, _, _ => pure ()
  | depth + 1, operand, above, path => do
    match ← ask fun pid system => system.listing pid path with
    | .error e => problem operand ("cannot open directory " ++ (← quoted path) ++ ": " ++ plainError e)
    | .ok names =>
      let node := ((← stat path).toOption.map Entry.node).getD 0
      if s.recursive && above.contains node then
        problem true ((← named path) ++ ": not listing already-listed directory")
        return
      let utf8 := (← getThe Session).isUtf8
      if heading || s.recursive then
        let (code, first) ← get
        print ((if first then "" else "\n") ++ shownName s utf8 true path ++ ":\n")
        set (code, false)
      let all := if s.hidden = .nothing then "." :: ".." :: names else names
      let listed := all.filter fun n => !isIgnored s n
      let items ← listed.filterMapM (item s false path)
      let items := sorted s utf8 items
      if s.format = .long || s.blocks then
        let total := (items.map Item.reserved).sum
        print ("total " ++ shownSize s.sizes total ++ String.ofList [s.lineEnd])
      unless items.isEmpty do showItems s items items
      if s.recursive then
        let dirs := items.filter fun i => i.isDir && !Name.isDot i.name
        dirs.forM fun i => showDir s true depth false (node :: above) (Name.under path i.name)

/-- How deep directories are listed. -/
def depthBound : Nat := 4096

end ListM

open ListM in
/-- List directories. -/
def ls : Utility := fun args => do
  let (s, operands) ← options listSpec args ({} : ListStyle) listOption
  let quoting ← match s.quoting with
    | some q => pure (some q)
    | none =>
      match (← get).setting "QUOTING_STYLE" with
      | none => pure none
      | some text =>
        match choice? quotingNames text with
        | .ok q => pure (some q)
        | .error _ =>
          report ("ignoring invalid value of environment variable QUOTING_STYLE: " ++ (← marked text))
          pure none
  let s := { s with quoting := quoting }
  if s.format = .long then
    let _ ← timePatterns s ((← get).setting "TIME_STYLE")
  let utf8 := (← get).isUtf8
  let action : ListM Unit := do
    let given := if operands.isEmpty && s.plainDirs then ["."] else operands
    let items ← given.filterMapM (item s true "")
    let items := sorted s utf8 items
    let dirs := items.filter (·.isOperandDir)
    let others := items.filter fun i => !i.isOperandDir
    let paths := if given.isEmpty then ["."] else dirs.map (·.name)
    unless others.isEmpty do
      showItems s items others
      unless paths.isEmpty do print "\n"
    let alone := others.isEmpty && given.length ≤ 1 && paths.length = 1
    paths.forM (showDir s (!alone) depthBound true [])
  let ((), (code, _)) ← action.run (0, true)
  return code

end Assay.Sandbox.Utility

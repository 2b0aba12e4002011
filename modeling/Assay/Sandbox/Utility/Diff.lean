import Assay.Sandbox.Calendar
import Assay.Sandbox.Shell.Pattern
import Assay.Sandbox.Utility.Compare
import Assay.Sandbox.Utility.DiffColumns
import Assay.Sandbox.Utility.DiffFormat
import Assay.Sandbox.Utility.DiffGroups

/-! # Comparing files and directories line by line -/

namespace Assay.Sandbox.Utility

open UtilityM
open Difference (Change)

/-- What a name leads to. -/
inductive Standing where
  /-- Nothing, which counts as an empty file or directory. -/
  | absent
  /-- The standard input. -/
  | input (entry : Entry)
  | found (entry : Entry)
  | failed (e : IoError)

/-- One of two files that are compared. -/
structure DiffFile where
  name : String
  standing : Standing

namespace DiffFile

def entry? (f : DiffFile) : Option Entry :=
  match f.standing with
  | .input e | .found e => some e
  | _ => none

def isAbsent (f : DiffFile) : Bool :=
  match f.standing with
  | .absent => true
  | _ => false

end DiffFile

/-- Directories whose contents are compared, and the nodes of those around
them. -/
structure DirPair where
  names : String × String
  above : List (Option Nat × Option Nat)

/-- The kind of an entry in words. -/
def kindOf : Entry → String
  | .file [] _ => "regular empty file"
  | .file .. => "regular file"
  | .dir _ => "directory"
  | .link .. => "symbolic link"
  | .special (.descriptor _) _ => "fifo"
  | .special .. => "character special file"

/-! ## Messages -/

/-- Print a message. -/
def tell (s : DiffStyle) (message : String) : UtilityM Unit :=
  print ((if s.counts then " " else "") ++ message ++ "\n")

/-- A message about both files. -/
def tellPair (s : DiffStyle) (before : String) (a b : String) (after : String) : UtilityM Unit :=
  tell s (before ++ " " ++ s.label 0 a ++ " and " ++ s.label 1 b ++ " " ++ after)

/-- Report a failure that concerns a name. -/
def tellError (name : String) (e : IoError) : UtilityM Unit := report (name ++ ": " ++ plainError e)

/-- A name in a heading, between quotation marks if it has signs that need
them. -/
def headingName (name : String) : String :=
  let escape (c : Char) : List Char :=
    if c == '"' || c == '\\' then ['\\', c]
    else match Quote.letter? c with
      | some l => ['\\', l]
      | none => if c.toNat < 32 || 128 ≤ c.toNat then Quote.octal c else [c]
  let body := name.toList.flatMap escape
  if body = name.toList && !body.contains ' ' then name else "\"" ++ String.ofList body ++ "\""

/-- Times are shown in the way of an old standard. -/
def usesPlainTimes : UtilityM Bool := do
  let s ← get
  let chosen := ["LC_ALL", "LC_TIME", "LANG"].findSome? fun name =>
    (s.setting name).filter fun v => !v.isEmpty
  match chosen with
  | some name => return !Session.isUtf8 { s with env := ["LC_ALL=" ++ name] }
  | none => return true

/-- The headings of a pair of files. -/
def headings (s : DiffStyle) (nested : Bool) (a b : DiffFile) : UtilityM String := do
  let nameA := headingName (s.label 0 a.name)
  let nameB := headingName (s.label 1 b.name)
  let command := if nested then "diff" ++ s.words ++ " " ++ nameA ++ " " ++ nameB ++ "\n" else ""
  let now ← ask fun _ system => system.now
  let plain ← usesPlainTimes
  let time (f : DiffFile) : String :=
    let m : Moment := match f.standing with
      | .input _ => now
      | .found e => e.attributes.modified
      | _ => ⟨0, 0⟩
    let pattern := if plain && s.shape = .context then "%a %b %e %T %Y" else "%Y-%m-%d %H:%M:%S.%N %z"
    String.ofList ((Civil.ofSeconds m.seconds).format m.nanos pattern.toList)
  let line (mark : String) (index : Nat) (name : String) (f : DiffFile) : String :=
    let what := match s.labels[index]? with
      | some l => l
      | none => name ++ "\t" ++ time f
    painted s .heading (mark ++ " " ++ what) ++ "\n"
  match s.shape with
  | .unified => return command ++ line "---" 0 nameA a ++ line "+++" 1 nameB b
  | .context => return command ++ line "***" 0 nameA a ++ line "---" 1 nameB b
  | _ => return command

/-! ## Two files -/

/-- The pieces of text that show changes. -/
def shownChanges (s : DiffStyle) (a b : DiffSide) (cs : List Change) : List String :=
  let single (f : Stretch → List String) : List String :=
    cs.flatMap fun c => ((stretchOf s a b [c]).map f).getD []
  let joint (f : List Change → Stretch → List String) : List String :=
    (hunks s (fun c => s.ignoresChanges && areIgnorable s a b [c]) (cs.length + 1) cs).flatMap fun h =>
      ((stretchOf s a b h).map (f h)).getD []
  match s.shape with
  | .normal => single (normalChange s a b)
  | .context => joint (contextHunk s a b)
  | .unified => joint (unifiedHunk s a b)
  | .script => cs.reverse.flatMap fun c => ((stretchOf s a b [c]).map (editorChange s b)).getD []
  | .forward => single (forwardChange s b)
  | .counted => single (countedChange s b)
  | .sideBySide => sideBySide s a b cs
  | .groups => inGroups s a b cs

/-- Nothing is shown of files that do not differ. -/
def showsOnlyChanges (s : DiffStyle) : Bool :=
  match s.shape with
  | .groups =>
    let (groups, lines) := s.formats.complete
    groups.head? = some "" || (groups.head? = some "%=" && lines.head? = some "")
  | .sideBySide => s.suppressCommon
  | _ => true

/-- Bytes of two files differ. -/
def rawDiffer (a b : Compared) : (rounds : Nat) → UtilityM Bool
  | 0 => return false
  | rounds + 1 => do
    let xs ← readBlock a compareBlock compareBlock []
    let ys ← readBlock b compareBlock compareBlock []
    if xs ≠ ys then return true
    if xs.length < compareBlock then return false
    rawDiffer a b rounds

/-- Say whether files differ without showing how. -/
def tellDiffer (s : DiffStyle) (a b : String) (differ : Bool) : UtilityM Nat := do
  if !differ then return 0
  tellPair s (if s.brief then "Files" else "Binary files") a b "differ"
  return 1

/-- The rest of a file. -/
def restOf (f : DiffFile) (fd : Option Nat) : UtilityM Text.Bytes := do
  match fd with
  | none => return []
  | some fd =>
    match ← Proc.readToEnd fd with
    | .ok data => return data
    | .error e => fail (f.name ++ ": " ++ plainError e)

/-- Compare two files that are open; one that is absent has no descriptor. -/
def compareOpened (s : DiffStyle) (nested : Bool) (a b : DiffFile) (fdA fdB : Option Nat) :
    UtilityM Nat := do
  let same := fdA = fdB
  let asCompared (f : DiffFile) (fd : Option Nat) : Option Compared :=
    match fd, f.entry? with
    | some fd, some entry => some { name := f.name, fd, entry, position := none }
    | _, _ => none
  let firstOf (f : DiffFile) (fd : Option Nat) : UtilityM Text.Bytes :=
    match asCompared f fd with
    | some c => readBlock c compareBlock compareBlock []
    | none => return []
  let raw := s.brief && !s.ignoresChanges && !s.ignoresText
  let startA ← firstOf a fdA
  let binaryA := !s.text && startA.contains 0
  let startB ← if same then pure startA else firstOf b fdB
  let binary := !raw && (binaryA || (!s.text && startB.contains 0))
  if raw || binary then
    if same then return 0
    let size (f : DiffFile) : Option Nat := f.entry?.bind fun e =>
      match e, f.standing with
      | .file data _, .found _ => some data.length
      | _, _ => none
    let bySize := match size a, size b with
      | some m, some n => m ≠ n && 0 < m && 0 < n
      | _, _ => false
    let differ ←
      if bySize || startA ≠ startB then pure true
      else if startA.length < compareBlock then pure false
      else match asCompared a fdA, asCompared b fdB with
        | some x, some y => rawDiffer x y Proc.pieceBound
        | _, _ => pure true
    tellDiffer s a.name b.name differ
  else
    let dataA := startA ++ (← restOf a fdA)
    let dataB ← if same then pure dataA else (startB ++ ·) <$> restOf b fdB
    let textA := (Octets.ofBytes dataA).toList
    let textB := (Octets.ofBytes dataB).toList
    let sideA := DiffSide.ofText s textA
    let sideB := DiffSide.ofText s textB
    let cs := diffChanges s sideA sideB
    let differ := hasChanges s sideA sideB cs
    let code := if differ then 1 else 0
    if s.brief then
      if differ then tellPair s "Files" a.name b.name "differ"
    else if differ || !showsOnlyChanges s then
      let pieces := shownChanges s sideA sideB cs
      unless pieces.isEmpty && s.shape ≠ .sideBySide do
        print (← headings s nested a b)
        pieces.forM print
    if s.shape.isRobust then return code
    let isCut (text : List Char) : Bool := !text.isEmpty && text.getLast? != some '\n'
    let cut := [(s.label 0 a.name, isCut textA), (s.label 1 b.name, isCut textB)].filter (·.2)
    cut.forM fun (name, _) => report (name ++ ": No newline at end of file\n")
    return if cut.isEmpty then code else 2

/-- Open two files and compare them. -/
def compareTexts (s : DiffStyle) (nested : Bool) (a b : DiffFile) (same : Bool) : UtilityM Nat := do
  let openOf (f : DiffFile) : UtilityM (Except Unit (Option Nat)) := do
    match f.standing with
    | .found _ =>
      match ← openFile f.name { reading := true } 0 with
      | .ok fd => return .ok (some fd)
      | .error e =>
        tellError f.name e
        return .error ()
    | .input _ => return .ok (some 0)
    | _ => return .ok none
  let x ← openOf a
  let y ← if same then pure x else openOf b
  let code ← match x, y with
    | .ok fdA, .ok fdB => compareOpened s nested a b fdA fdB
    | _, _ => pure 2
  let closeOf (opened : Except Unit (Option Nat)) : UtilityM Unit :=
    match opened with
    | .ok (some fd) => if fd = 0 then pure () else close fd
    | _ => pure ()
  closeOf x
  unless same do closeOf y
  return code

/-! ## Directories -/

/-- The name is left out of comparisons. -/
def isExcluded (s : DiffStyle) (name : String) : Bool :=
  let folded (t : String) : List Char := if s.ignoreNameCase then t.toList.map Char.toLower else t.toList
  s.excluded.any fun p => Shell.Pattern.accepts (Shell.Pattern.parse (folded p)) (folded name)

/-- What names are ordered by. -/
def orderKey (s : DiffStyle) (name : String) : String :=
  if s.ignoreNameCase then String.ofList (name.toList.map Char.toLower) else name

/-- Names of two directories in one order, each beside the same name of the other
directory. -/
def pairNames (key : String → String) : (fuel : Nat) → List String → List String →
    List (Option String × Option String)
  | 0, _, _ => []
  | _, [], [] => []
  | fuel + 1, x :: xs, [] => (some x, none) :: pairNames key fuel xs []
  | fuel + 1, [], y :: ys => (none, some y) :: pairNames key fuel [] ys
  | fuel + 1, x :: xs, y :: ys =>
    if key x = key y then (some x, some y) :: pairNames key fuel xs ys
    else if key x < key y then (some x, none) :: pairNames key fuel xs (y :: ys)
    else (none, some y) :: pairNames key fuel (x :: xs) ys

/-- The names in a directory, in order. -/
def namesOf (s : DiffStyle) (f : DiffFile) (topmost : Bool) : UtilityM (Except IoError (List String)) := do
  if f.isAbsent then return .ok []
  match ← ask fun pid system => system.listing pid f.name with
  | .error e => return .error e
  | .ok names =>
    let key := orderKey s
    let names := (names.filter fun n => !isExcluded s n).mergeSort fun x y =>
      if key x = key y then x ≤ y else decide (key x < key y)
    match topmost, s.startingFile with
    | true, some start => return .ok (names.dropWhile fun n => key n < key start)
    | _, _ => return .ok names

/-- Find out what names lead to. -/
def lookUp (s : DiffStyle) (name : String) : UtilityM Standing := do
  if name = "-" then
    match ← Proc.entryOf 0 with
    | some e => return .input e
    | none => return .failed .badDescriptor
  else match ← if s.follow then stat name else lstat name with
    | .ok e => return .found e
    | .error e => return .failed e

/-- Report the files that could not be found; there is one. -/
def anyFailed (files : List DiffFile) : UtilityM Bool :=
  files.foldlM (fun found f => do
    match f.standing with
    | .failed e =>
      tellError f.name e
      return true
    | _ => return found) false

/-- A file that counts as absent when such files count as empty. -/
def countsAsAbsent (nested : Bool) (f other : DiffFile) : Bool :=
  match f.standing with
  | .found (.file [] a) => a.mode &&& 0o777 = 0
  | .failed e => (e = .notFound || e = .badDescriptor) && !nested && other.entry?.isSome
  | _ => false

/-- Write what has been printed when there is a difference. -/
def flushDifference (code : Nat) : UtilityM Nat := do
  if code ≠ 0 then
    let early := (← get).writeError
    modify fun s => { s with writeError := none }
    flush
    match (← get).writeError with
    | some e =>
      modify fun s => { s with writeError := none }
      fail ("standard output: " ++ plainError e)
    | none => modify fun s => { s with writeError := early }
  return code

/-- Compare what two names lead to; in directories, one of them may be missing. -/
def comparePair (s : DiffStyle) : (depth : Nat) → (parent : Option DirPair) →
    (x y : Option String) → UtilityM Nat
  | 0, _, _, _ => return 2
  | depth + 1, parent, x, y => do
    let nested := parent.isSome
    let dirs := (parent.map (·.names)).getD ("", "")
    /- A name that only one directory has. -/
    let lone (inFirst : Bool) (name : String) : UtilityM Nat := do
      tell s ("Only in " ++ (if inFirst then dirs.1 else dirs.2) ++ ": " ++ name)
      return 1
    let name := (x <|> y).getD ""
    if !((x.isSome && y.isSome) || (s.oneWayNewFile && y.isSome) || s.newFile) then
      return ← lone x.isSome name
    let pathA := if nested then Name.under dirs.1 (x.getD name) else x.getD name
    let pathB := if nested then Name.under dirs.2 (y.getD name) else y.getD name
    let standA ← if x.isSome then lookUp s pathA else pure .absent
    let standB ←
      if y.isNone then pure .absent
      else if x.isSome && pathA = pathB then pure standA
      else lookUp s pathB
    let a : DiffFile := ⟨pathA, standA⟩
    let b : DiffFile := ⟨pathB, standB⟩
    let a' := if (s.newFile || s.oneWayNewFile) && countsAsAbsent nested a b then { a with standing := .absent } else a
    let b := if s.newFile && countsAsAbsent nested b a' then { b with standing := .absent } else b
    let a := a'
    if ← anyFailed [a, b] then return 2
    let isDir (f other : DiffFile) : Bool := ((f.entry? <|> other.entry?).map Entry.isDir).getD false
    /- A file and a directory of the command line: the file of that name in the
    directory is meant. -/
    let (a, b) ←
      if nested || isDir a b = isDir b a then pure (a, b)
      else do
        let inDir (dir file : DiffFile) : UtilityM DiffFile := do
          let path := Name.under dir.name (Name.last file.name)
          if file.name = "-" then fail "cannot compare '-' to a directory"
          return ⟨path, ← lookUp s path⟩
        if isDir a b then pure (← inDir a b, b) else pure (a, ← inDir b a)
    if ← anyFailed [a, b] then return 2
    let dirA := isDir a b
    let dirB := isDir b a
    if a.isAbsent && b.isAbsent then return ← settled a b dirA 0
    let isInput (f : DiffFile) : Bool :=
      match f.standing with
      | .input _ => true
      | _ => false
    let same := match a.entry?, b.entry? with
      | some e, some e' => e.node = e'.node && isInput a = isInput b
      | _, _ => false
    if same && showsOnlyChanges s then return ← settled a b dirA 0
    if dirA && dirB then
      if s.shape = .groups then fail "-D option not supported with directories"
      if nested && !s.recursive then
        tell s ("Common subdirectories: " ++ a.name ++ " and " ++ b.name)
        return 0
      compareDirs depth parent a b
    else if dirA || dirB || (nested && [a, b].any fun f =>
        (f.entry?.map fun e => !(e.isFile || e.isLink)).getD false) then
      if a.isAbsent || b.isAbsent then lone (!a.isAbsent) name
      else unlike a b
    else
      match a.entry?, b.entry? with
      | some (.link t _), some (.link t' _) =>
        if t = t' then settled a b false 0
        else
          tell s ("Symbolic links " ++ a.name ++ " and " ++ b.name ++ " differ")
          return 1
      | some (.link ..), some _ | some _, some (.link ..) => unlike a b
      | _, _ => settled a b false (← compareTexts s nested a b same)
where
  /-- Say that files are identical, if asked to. -/
  settled (a b : DiffFile) (dirs : Bool) (code : Nat) : UtilityM Nat := do
    if code = 0 && s.identical && !dirs then tellPair s "Files" a.name b.name "are identical"
    return code
  /-- Say that files are of different kinds. -/
  unlike (a b : DiffFile) : UtilityM Nat := do
    let kind (f : DiffFile) : String := (f.entry?.map kindOf).getD "regular empty file"
    tell s ("File " ++ s.label 0 a.name ++ " is a " ++ kind a ++ " while file " ++ s.label 1 b.name ++
      " is a " ++ kind b)
    return 1
  /-- Compare the contents of directories. -/
  compareDirs (depth : Nat) (parent : Option DirPair) (a b : DiffFile) : UtilityM Nat := do
    let nodes := (a.entry?.map Entry.node, b.entry?.map Entry.node)
    let above := (parent.map (·.above)).getD []
    let loops (f : DiffFile) (node : Option Nat) (around : List (Option Nat)) : Bool :=
      f.isAbsent || around.contains node
    if loops a nodes.1 (above.map (·.1)) && loops b nodes.2 (above.map (·.2)) then
      report ((if a.isAbsent then b.name else a.name) ++ ": recursive directory loop")
      return 2
    let namesA ← namesOf s a parent.isNone
    let namesB ← namesOf s b parent.isNone
    match namesA, namesB with
    | .ok xs, .ok ys =>
      let pair : DirPair := ⟨(a.name, b.name), nodes :: above⟩
      (pairNames (orderKey s) (xs.length + ys.length + 1) xs ys).foldlM (fun code (x, y) => do
        return max code (← flushDifference (← comparePair s depth (some pair) x y))) 0
    | x, y =>
      match x with
      | .error e => tellError a.name e
      | .ok _ => pure ()
      match y with
      | .error e => tellError b.name e
      | .ok _ => pure ()
      return 2

/-- Compare files line by line. -/
def diff : Utility := fun args => do
  fillStandard
  let (s, operands) ← options diffSpec args ({} : DiffStyle) diffOption
  let session ← get
  let words := ({ diffSpec with strict := session.isPosix }.read args).words
  let shown (w : String) : String := Quote.plainAsNeeded session.isUtf8 [] w
  let s := { s.completed with utf8 := session.isUtf8, words := String.join (words.map fun w => " " ++ shown w) }
  let compare (a b : String) : UtilityM Nat := do
    flushDifference (← comparePair s depthBound none (some a) (some b))
  match s.fromFile, s.toFile with
  | some _, some _ => fail "--from-file and --to-file both specified"
  | some a, none => operands.foldlM (fun code b => do return max code (← compare a b)) 0
  | none, some b => operands.foldlM (fun code a => do return max code (← compare a b)) 0
  | none, none =>
    match operands with
    | [a, b] => compare a b
    | _ :: _ :: extra :: _ => refuseDiff ("extra operand '" ++ extra ++ "'")
    | few => refuseDiff ("missing operand after '" ++ ((few ++ words.reverse).headD session.name) ++ "'")
where
  /-- How deep directories are compared. -/
  depthBound : Nat := 4096

end Assay.Sandbox.Utility

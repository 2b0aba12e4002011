import Assay.Sandbox.Mode
import Assay.Sandbox.Utility.Backup

/-! # Copying files

Files are copied into the file that is there or into a new one, directories name
by name.  A destination that is the source itself, or that has just been created,
is spared.
-/

namespace Assay.Sandbox.Utility

open UtilityM

/-- Which symbolic links are followed in the source. -/
inductive Following where
  | never
  /-- Those that are named on the command line. -/
  | named
  | always
  deriving Repr, DecidableEq

/-- What happens to files that are there. -/
inductive Clobber where
  | overwrite
  | ask
  | skip
  deriving Repr, DecidableEq

/-- Attributes that a copy can keep. -/
inductive Kept where
  | mode
  | timestamps
  | ownership
  | links
  | context
  | extended
  | all
  deriving Repr, DecidableEq

/-- How files are copied. -/
structure CopyStyle where
  following : Option Following := none
  recursive : Bool := false
  hardLink : Bool := false
  symbolicLink : Bool := false
  clobber : Clobber := .overwrite
  /-- A file that cannot be opened is removed. -/
  force : Bool := false
  removeFirst : Bool := false
  update : Bool := false
  keepLinks : Bool := false
  keepMode : Bool := false
  dropMode : Bool := false
  keepTimes : Bool := false
  keepOwner : Bool := false
  dataWanted : Bool := true
  /-- Devices are read like files. -/
  contents : Bool := false
  parents : Bool := false
  stripSlashes : Bool := false
  verbose : Bool := false
  target : Option String := none
  noTarget : Bool := false
  throughDangling : Bool := false
  cloneOnly : Bool := false
  sparse : Bool := false
  backupOptions : BackupOptions := {}
  backup : Backup := {}

namespace CopyStyle

/-- The links that are followed. -/
def follows (x : CopyStyle) : Following :=
  x.following.getD (if x.recursive && !x.hardLink then .never else .always)

/-- Devices are read like files. -/
def readsDevices (x : CopyStyle) : Bool := !x.recursive || x.contents

/-- A symbolic link in the source is followed. -/
def dereferences (x : CopyStyle) (onLine : Bool) : Bool :=
  x.follows = .always || (x.follows = .named && onLine)

end CopyStyle

/-- What is remembered while copying. -/
structure CopyState where
  /-- Nodes of sources, and the paths of their copies. -/
  copies : List (Nat × String) := []
  /-- Sources and destinations of the command line; nothing if there is only one
  source. -/
  sources : Option (List Nat) := none
  made : Option (List (String × Nat)) := none
  topSource : String := ""
  topTarget : String := ""
  /-- A directory has been created for this operand. -/
  created : Bool := false
  /-- A directory turned out to be copied into itself. -/
  intoItself : Bool := false

/-- A utility that copies. -/
abbrev CopyM := StateT CopyState UtilityM

namespace CopyM

/-- Report a failure and go on. -/
def problem (message : String) : CopyM Bool := do
  warn message
  return false

/-- Report what went wrong with a path. -/
def problemWith (what path : String) (e : IoError) : CopyM Bool := do
  problem (what ++ " " ++ (← quoted path) ++ ": " ++ plainError e)

/-- Remember the copy of a node; the path of an earlier copy. -/
def remember (node : Nat) (path : String) : CopyM (Option String) := do
  match (← get).copies.lookup node with
  | some earlier => return some earlier
  | none =>
    modify fun s => { s with copies := (node, path) :: s.copies }
    return none

/-- A copy has failed. -/
def forget (node : Nat) : CopyM Unit :=
  modify fun s => { s with copies := s.copies.filter fun c => c.1 ≠ node }

/-- Tell about a copy. -/
def announce (source path : String) (backup : Option String) : CopyM Unit := do
  let kept ← match backup with
    | some b => pure (" (backup: " ++ (← quoted b) ++ ")")
    | none => pure ""
  print ((← quoted source) ++ " -> " ++ (← quoted path) ++ kept ++ "\n")

/-- Tell about a file that has been removed. -/
def announceRemoval (x : CopyStyle) (path : String) : CopyM Unit := do
  if x.verbose then print ("removed " ++ (← quoted path) ++ "\n")

/-! ## One file onto itself -/

/-- The answer to the question whether a file may be copied onto another one:
it may, it may not, or there is nothing to do. -/
inductive Verdict where
  | proceed
  | refuse
  | done
  deriving DecidableEq

/-- May the destination be written, if it leads to the source, with or without
links followed? -/
def judge (x : CopyStyle) (source path : String) (src dst : Entry) : CopyM Verdict := do
  let same := src.node = dst.node
  if same && x.hardLink then return .done
  let ok (b : Bool) : Verdict := if b then .proceed else .refuse
  let never := x.follows = .never
  let named ← sameName source path
  if never && src.isLink && dst.isLink then
    if !named then
      if x.backup.kind ≠ .none then return .proceed
      if same then return .done
    return ok (!named)
  if !never && !same then return .proceed
  let links ← if never then pure (some (src, dst)) else do
    match ← lstat source, ← lstat path with
    | .ok a, .ok b => pure (some (a, b))
    | _, _ => pure none
  match links with
  | none => return .proceed
  | some (a, b) =>
    let sameLink := a.node = b.node
    if !never && a.isLink && b.isLink && x.removeFirst then return .proceed
    if x.backup.kind ≠ .none then
      if !sameLink then return ok (never || !a.isLink || b.isLink)
      return ok (!named)
    if x.removeFirst then
      if b.isLink then return .proceed
      if sameLink && 1 < (← linkCount b.node) && !named then return .proceed
    if !a.isLink && !b.isLink then
      if !sameLink then return .proceed
      if x.hardLink then return .done
    if x.symbolicLink && b.isLink then return .proceed
    if never then
      let final (e : Entry) (p : String) : CopyM (Option Entry) := do
        if e.isLink then return (← stat p).toOption else return some e
      match ← final a source, ← final b path with
      | some a', some b' =>
        if a'.node ≠ b'.node then return .proceed
        if x.hardLink then return if b.isLink then .proceed else .done
        return .refuse
      | _, _ => return .proceed
    return .refuse

/-! ## What stands in the way -/

/-- What has been found out about the destination. -/
inductive Way where
  /-- Nothing is there. -/
  | vacant (backup : Option String)
  | taken (there : Entry)
  /-- The copy is at its end, well or not. -/
  | over (ok : Bool)

/-- The source is the backup that would be made of the destination. -/
def isItsBackup (x : CopyStyle) (source path : String) (src : Entry) : CopyM Bool := do
  let base := Name.last source
  if base.toList ≠ (Name.last path).toList ++ x.backup.suffix.toList then return false
  match ← stat (path ++ x.backup.suffix) with
  | .ok e => return e.node = src.node
  | .error _ => return false

/-- Move the destination to its backup, or remove it if that is needed. -/
def makeRoom (x : CopyStyle) (source path : String) (src dst : Entry) : CopyM Way := do
  if x.backup.kind ≠ .none && !Name.isDot (Name.last source) && !dst.isDir then
    if x.backup.kind ≠ .numbered then
      if ← isItsBackup x source path src then
        let _ ← problem ("backing up " ++ (← quoted path) ++ " might destroy source;  " ++
          (← quoted source) ++ " not copied")
        return .over false
    let kept ← x.backup.path path
    match ← change fun pid s => s.rename pid path kept with
    | .ok () => return .vacant (some kept)
    | .error e =>
      if e = .notFound then return .vacant none
      return .over (← problemWith "cannot backup" path e)
  else
    let shared ← if x.keepLinks then pure (decide (1 < (← linkCount dst.node))) else pure false
    if !dst.isDir && (x.removeFirst ||
        (x.dataWanted && (shared || (x.follows = .never && !src.isFile)))) then
      match ← change fun pid s => s.unlink pid path with
      | .ok () =>
        announceRemoval x path
        return .vacant none
      | .error e =>
        if e = .notFound then
          announceRemoval x path
          return .vacant none
        return .over (← problemWith "cannot remove" path e)
    return .taken dst

/-- Create a hard link in place of what is there. -/
def hardLink (x : CopyStyle) (source path : String) (replace follow tell : Bool) : CopyM Bool := do
  let attempt : CopyM (Except IoError Unit) :=
    change fun pid s => s.makeHardLink pid source path follow
  let refuse_ (e : IoError) : CopyM Bool := do
    problem ("cannot create hard link " ++ (← quoted path) ++ " to " ++ (← quoted source) ++ ": " ++
      plainError e)
  match ← attempt with
  | .ok () => return true
  | .error e =>
    if e ≠ .alreadyExists || !replace then return ← refuse_ e
    match ← change fun pid s => s.unlink pid path with
    | .error e => refuse_ e
    | .ok () =>
      match ← attempt with
      | .ok () =>
        if tell then announceRemoval x path
        return true
      | .error e => refuse_ e

/-- Look at the destination. -/
def examine (x : CopyStyle) (source path : String) (onLine : Bool) (src : Entry) : CopyM Way := do
  let direct := (!src.isFile && (!x.readsDevices || src.isDir || src.isLink)) || x.symbolicLink ||
    x.hardLink || x.backup.kind ≠ .none || x.removeFirst
  match ← if direct then lstat path else stat path with
  | .error e =>
    if e = .tooManyLinks && x.force then return .taken (.link [] ⟨0o777, .present, 0⟩)
    if e ≠ .notFound then return .over (← problemWith "cannot stat" path e)
    return .vacant none
  | .ok dst =>
    let verdict ← if x.clobber = .skip then pure .proceed else judge x source path src dst
    if verdict = .refuse then
      return .over (← problem ((← quoted source) ++ " and " ++ (← quoted path) ++ " are the same file"))
    if x.update && !src.isDir && !dst.attributes.modified.before src.attributes.modified then
      match ← remember src.node path with
      | some earlier => return .over (← hardLink x earlier path true (x.dereferences onLine) x.verbose)
      | none => return .over true
    if !src.isDir then
      if x.clobber = .skip then return .over true
      if x.clobber = .ask then
        let agreed ← confirm ("overwrite " ++ (← quoted path) ++ "? ")
        if !agreed then return .over true
    if verdict = .done then return .over true
    if !dst.isDir then
      if src.isDir then
        return .over (← problem ("cannot overwrite non-directory " ++ (← quoted path) ++
          " with directory " ++ (← quoted source)))
      let made := ((← get).made).getD []
      if onLine && x.backup.kind ≠ .numbered && made.contains (path, dst.node) then
        return .over (← problem ("will not overwrite just-created " ++ (← quoted path) ++ " with " ++
          (← quoted source)))
    if !src.isDir && dst.isDir then
      return .over (← problem ("cannot overwrite directory " ++ (← quoted path) ++
        " with non-directory"))
    makeRoom x source path src dst

/-! ## The copy itself -/

/-- Copy what is read from one descriptor to another one. -/
def pump (source path : String) (input output : Nat) : (rounds : Nat) → CopyM Bool
  | 0 => return true
  | rounds + 1 => do
    match ← readBytes input 131072 with
    | .error e => problemWith "error reading" source e
    | .ok [] => return true
    | .ok data =>
      match ← writeBytes output data with
      | .error e => problemWith "error writing" path e
      | .ok () => pump source path input output rounds

/-- Open the destination of a copy: the descriptor, and whether it is new. -/
def openTarget (x : CopyStyle) (path : String) (fresh : Bool) (mode : Nat) :
    CopyM (Option (Nat × Bool)) := do
  let refuse_ (e : IoError) : CopyM (Option (Nat × Bool)) := do
    let _ ← problemWith "cannot create regular file" path e
    return none
  let create : CopyM (Option (Nat × Bool)) := do
    match ← openFile path { writing := true, creating := true, exclusive := true } mode with
    | .ok fd => return some (fd, true)
    | .error e =>
      let isLink := ((← lstat path).toOption.map Entry.isLink).getD false
      if e = .alreadyExists && isLink then
        if x.throughDangling then
          match ← openFile path { writing := true, creating := true } mode with
          | .ok fd => return some (fd, true)
          | .error e => refuse_ e
        else
          let _ ← problem ("not writing through dangling symlink " ++ (← quoted path))
          return none
      else refuse_ (if e = .isDirectory && Octets.endsWithSlash path then .notDirectory else e)
  if fresh then create
  else match ← openFile path { writing := true, truncating := x.dataWanted } 0 with
    | .ok fd => return some (fd, false)
    | .error e =>
      if e = .notFound then create
      else if !x.force then refuse_ e
      else match ← change fun pid s => s.unlink pid path with
        | .ok () =>
          announceRemoval x path
          create
        | .error e =>
          let _ ← problemWith "cannot remove" path e
          return none

/-- Give a copy the attributes that are kept. -/
def keepAttributes (x : CopyStyle) (path : String) (src : Entry) : CopyM Unit := do
  let a := src.attributes
  let _ ← change fun pid s => s.setAttributes pid path false fun old =>
    { old with
      modified := if x.keepTimes then a.modified else old.modified
      mode := if x.keepMode then a.mode
        else if x.dropMode then
          Mode.without (if src.isDir then 0o777 else 0o666) (s.process pid).mask
        else old.mode }

/-- Copy a file. -/
def copyFile (x : CopyStyle) (source path : String) (fresh : Bool) (src : Entry) : CopyM Bool := do
  match ← openFile source { reading := true } 0 with
  | .error e => problem ("cannot open " ++ (← quoted source) ++ " for reading: " ++ plainError e)
  | .ok input =>
    let ok ← match ← openTarget x path fresh (src.attributes.mode &&& 0o777) with
      | none => pure false
      | some (output, isNew) =>
        let ok ←
          if !x.dataWanted then pure true
          else if x.cloneOnly then
            problem ("failed to clone " ++ (← quoted path) ++ " from " ++ (← quoted source) ++
              ": Operation not supported")
          else pump source path input output Proc.pieceBound
        close output
        if !ok && x.cloneOnly && isNew then
          let _ ← change fun pid s => s.unlink pid path
        if ok && (x.keepTimes || x.keepMode || (x.dropMode && isNew)) then
          let target := ((← stat path).toOption.map Entry.isFile).getD false
          if target then
            let a := src.attributes
            let _ ← change fun pid s => s.setAttributes pid path true fun old =>
              { old with
                modified := if x.keepTimes then a.modified else old.modified
                mode := if x.keepMode then a.mode
                  else if x.dropMode then Mode.without 0o666 (s.process pid).mask
                  else old.mode }
        pure ok
    close input
    return ok

/-- Create a symbolic link in place of what is there, if that is allowed. -/
def symbolicLink (target path : String) (replace : Bool) : CopyM (Except IoError Unit) := do
  match ← change fun pid s => s.makeSymbolicLink pid target path with
  | .ok () => return .ok ()
  | .error e =>
    if e ≠ .alreadyExists || !replace then return .error e
    match ← change fun pid s => s.unlink pid path with
    | .error e => return .error e
    | .ok () => change fun pid s => s.makeSymbolicLink pid target path

/-- Create a symbolic link to the source. -/
def copyAsLink (x : CopyStyle) (source path : String) : CopyM Bool := do
  let here ← if Octets.isAbsolute source then pure true
    else ask fun pid s =>
      match s.resolve pid (Name.parent path) true with
      | .ok ⟨location, some _⟩ => location = (s.process pid).cwd
      | _ => true
  if !here then
    return ← problem ((← named path) ++ ": can make relative symbolic links only in current directory")
  match ← symbolicLink source path x.force with
  | .ok () => return true
  | .error e =>
    problem ("cannot create symbolic link " ++ (← quoted path) ++ " to " ++ (← quoted source) ++ ": " ++
      plainError e)

/-- Copy a symbolic link. -/
def copyLink (x : CopyStyle) (target path : String) (there : Option Entry) : CopyM Bool := do
  match ← symbolicLink target path x.force with
  | .ok () => return true
  | .error e =>
    let already := match there with
      | some (.link t _) => x.update && Octets.ofBytes t = target
      | _ => false
    if already then return true
    problemWith "cannot create symbolic link" path e

/-- What is done when a node has been copied already: the copy is at its end, or
goes on. -/
def copyAgain (x : CopyStyle) (source path earlier : String) (onLine : Bool) (src : Entry) :
    CopyM (Option Bool) := do
  if !src.isDir then
    return some (← hardLink x earlier path true (x.dereferences onLine) x.verbose)
  let s ← get
  if ← sameName source earlier then
    modify fun s => { s with intoItself := true }
    return some (← problem ("cannot copy a directory, " ++ (← quoted s.topSource) ++ ", into itself, " ++
      (← quoted s.topTarget)))
  if ← sameName path earlier then
    report ("warning: source directory " ++ (← quoted s.topSource) ++ " specified more than once")
    return some true
  if x.follows = .always || (onLine && x.follows = .named) then return none
  return some (← problem ("will not create hard link " ++ (← quoted path) ++ " to directory " ++
    (← quoted earlier)))

/-- An evaluator of copies: source, destination, whether the destination is known
to be vacant, the directories that are being copied, and whether the source is
an operand. -/
abbrev Copier := CopyStyle → (source path : String) → (vacant : Bool) → (above : List Nat) →
  (onLine : Bool) → CopyM Bool

/-- Copy the names of a directory one by one. -/
def copyNames (copy : Copier) (x : CopyStyle) (source path : String) (vacant : Bool)
    (above : List Nat) : List String → (first created ok : Bool) → CopyM Bool
  | [], _, created, ok => do
    modify fun s => { s with created := created }
    return ok
  | name :: rest, first, created, ok => do
    modify fun s => { s with created := first, intoItself := false }
    let done ← copy x (Name.under source name) (Name.under path name) vacant above false
    let s ← get
    if s.intoItself then
      modify fun s => { s with created := created }
      return false
    copyNames copy x source path vacant above rest first (created || s.created) (ok && done)

/-- Copy a directory. -/
def copyDir (copy : Copier) (x : CopyStyle) (source path : String) (there : Option Entry)
    (above : List Nat) (src : Entry) : CopyM Bool := do
  if above.contains src.node then
    return ← problem ("cannot copy cyclic symbolic link " ++ (← quoted source))
  let vacant := !(there.map Entry.isDir).getD false
  let mut made := true
  if vacant then
    let mode := src.attributes.mode
    match ← change fun pid s => s.makeDir pid path (mode ||| 0o700) with
    | .error e => made := ← problemWith "cannot create directory" path e
    | .ok () =>
      if !(← get).created then
        match ← lstat path with
        | .ok e =>
          let _ ← remember e.node path
        | .error _ => pure ()
        modify fun s => { s with created := true }
      if x.verbose then announce source path none
  if !made then return false
  let listed ← ask fun pid s => do
    let names ← s.listing pid source
    return names.mergeSort fun a b =>
      let node (n : String) : Nat :=
        ((s.lstat pid (Name.under source n)).toOption.map Entry.node).getD 0
      node a ≤ node b
  match listed with
  | .error e => problemWith "cannot access" source e
  | .ok names =>
    let inner := if x.follows = .named then { x with following := some .never } else x
    let first := (← get).created
    let ok ← copyNames copy inner source path vacant (src.node :: above) names first false true
    if vacant then
      let _ ← change fun pid s => s.setAttributes pid path false fun a =>
        { a with mode := Mode.without src.attributes.mode (s.process pid).mask }
    if x.keepTimes || x.keepMode || (x.dropMode && vacant) then keepAttributes x path src
    return ok

/-- Copy one thing, once the destination is known. -/
def copyOnto (copy : Copier) (x : CopyStyle) (source path : String) (there : Option Entry)
    (above : List Nat) (onLine : Bool) (src : Entry) : CopyM Bool := do
  if src.isDir then copyDir copy x source path there above src
  else if x.symbolicLink then copyAsLink x source path
  else if x.hardLink then
    hardLink x source path (x.force || x.clobber = .ask) (x.dereferences onLine) false
  else match src with
    | .link target _ =>
      let ok ← copyLink x (Octets.ofBytes target) path there
      if ok && x.keepTimes then
        let _ ← change fun pid s => s.setAttributes pid path false fun a =>
          { a with modified := src.attributes.modified }
      return ok
    | .file .. => copyFile x source path there.isNone src
    | _ =>
      if x.readsDevices then copyFile x source path there.isNone src
      else
        match ← change fun pid s => do
          let place ← s.resolve pid path false
          if place.entry.isSome then throw .alreadyExists
          return s.placeAt place.location (src.withAttributes { src.attributes with node := s.freshNode })
        with
        | .ok () => return true
        | .error e => problemWith "cannot create special file" path e

/-- The path of a node that has been copied before, if that matters. -/
def earlierCopy (x : CopyStyle) (path : String) (onLine : Bool) (src : Entry) :
    CopyM (Option String) := do
  if x.recursive && src.isDir then
    if onLine then remember src.node path else return (← get).copies.lookup src.node
  else if x.keepLinks && !x.hardLink then
    if 1 < (← linkCount src.node) || (onLine && x.follows = .named) || x.follows = .always then
      remember src.node path
    else return none
  else return none

/-- Take note of a source of the command line; whether it has been named
before. -/
def noteSource (x : CopyStyle) (src : Entry) : CopyM Bool := do
  match (← get).sources with
  | none => return false
  | some seen =>
    let again := !src.isDir && x.backup.kind = .none && seen.contains src.node
    modify fun s => { s with sources := some (src.node :: seen) }
    return again

/-- Go on with a copy when the destination is known. -/
def proceed (copy : Copier) (x : CopyStyle) (source path : String) (there : Option Entry)
    (backup : Option String) (above : List Nat) (onLine : Bool) (src : Entry) : CopyM Bool := do
  let made := (← get).made
  if onLine && made.isSome && x.backup.kind = .none then
    match ← lstat path with
    | .ok (.link _ a) =>
      if (made.getD []).contains (path, a.node) then
        return ← problem ("will not copy " ++ (← quoted source) ++ " through just-created symlink " ++
          (← quoted path))
    | _ => pure ()
  if x.verbose && !src.isDir then announce source path backup
  let earlier ← earlierCopy x path onLine src
  let again ← match earlier with
    | some earlier => copyAgain x source path earlier onLine src
    | none => pure none
  let ok ← match again with
    | some ok => pure ok
    | none => copyOnto copy x source path there above onLine src
  if ok && again.isNone && onLine && (← get).made.isSome then
    match ← lstat path with
    | .ok e => modify fun s => { s with made := s.made.map ((path, e.node) :: ·) }
    | .error _ => pure ()
  if !ok && !(src.isDir && again.isNone) then
    if earlier.isNone then forget src.node
    match backup with
    | some kept =>
      match ← change fun pid s => s.rename pid kept path with
      | .ok () =>
        if x.verbose then print ((← quoted kept) ++ " -> " ++ (← quoted path) ++ " (unbackup)\n")
      | .error e =>
        let _ ← problemWith "cannot un-backup" path e
    | none => pure ()
  return ok

/-- Copy a source to a destination. -/
def copyStep (copy : Copier) : Copier := fun x source path vacant above onLine => do
  match ← if x.dereferences onLine then stat source else lstat source with
  | .error e => problemWith "cannot stat" source e
  | .ok src =>
    if src.isDir && !x.recursive then
      return ← problem ("-r not specified; omitting directory " ++ (← quoted source))
    if onLine then
      if ← noteSource x src then
        report ("warning: source file " ++ (← quoted source) ++ " specified more than once")
        return true
    let way ← if vacant then pure (.vacant none) else examine x source path onLine src
    match way with
    | .over ok => return ok
    | .vacant backup => proceed copy x source path none backup above onLine src
    | .taken there => proceed copy x source path (some there) none above onLine src

/-- Copies of trees up to a depth. -/
def copyWithin : (depth : Nat) → Copier
  | 0 => fun _ source _ _ _ _ => do
    problem ("cannot access " ++ (← quoted source) ++ ": File name too long")
  | depth + 1 => copyStep (copyWithin depth)

/-- How deep trees can be. -/
def depthLimit : Nat := 4096

/-- Copy an operand. -/
def copyOperand (x : CopyStyle) (source path : String) : CopyM Unit := do
  modify fun s => { s with topSource := source, topTarget := path, created := false }
  let _ ← copyWithin depthLimit x source path false [] true

/-- Create the directories that lead to a copy with its whole path. -/
def makeParents (x : CopyStyle) (target : String) : List String → CopyM Bool
  | [] => return true
  | source :: rest => do
    let path := Name.under target source
    match ← stat path with
    | .ok e =>
      if !e.isDir then return ← problem ((← quoted path) ++ " exists but is not a directory")
      makeParents x target rest
    | .error _ =>
      let refuse_ (e : IoError) : CopyM Bool := problemWith "failed to get attributes of" source e
      match ← stat source with
      | .error e => refuse_ e
      | .ok e =>
        if !e.isDir then refuse_ .notDirectory
        else match ← change fun pid s => s.makeDir pid path (e.attributes.mode ||| 0o700) with
          | .error e => problemWith "cannot make directory" path e
          | .ok () =>
            if x.verbose then print (source ++ " -> " ++ path ++ "\n")
            makeParents x target rest

/-- The parts of a path that lead to its last name, without slashes before
it. -/
def leadingParts (path : String) : List String :=
  let cs := path.toList
  let start := (cs.takeWhile (· == '/')).length
  let cuts := (List.range cs.length).filter fun i =>
    start < i && cs[i]? == some '/' && cs[i - 1]? != some '/'
  cuts.map fun i => String.ofList (cs.take i)

/-- Copy operands into a directory. -/
def copyInto (x : CopyStyle) (target : String) : List String → CopyM Unit
  | [] => return
  | arg :: rest => do
    let arg := if x.stripSlashes then Octets.withoutSlashes arg else arg
    if x.parents then
      let stem := Octets.withoutSlashes arg
      if ← makeParents x target (leadingParts stem) then copyOperand x arg (Name.under target stem)
    else
      let base := Name.base arg
      let base := if base = ".." then "." else base
      copyOperand x arg (Name.under target base)
    copyInto x target rest

end CopyM

end Assay.Sandbox.Utility

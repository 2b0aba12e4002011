import Assay.Host.Resolve

/-! # Files and directories by path

The operations a program performs on a tree, each for a current directory `cwd`
and a path as written.  Questions (`stat`, `pathExists`, `listing`) follow a
symbolic link at the end of the path; `unlink`, `makeDir` and `makeLink` act on
the very entry that the path names.
-/

namespace Assay.Tree

/-- What a path leads to, links followed. -/
def stat (t : Tree) (cwd : Location) (path : Path) : Except IoError Entry := do
  match (← t.resolve cwd path true).entry with
  | some e => return e
  | none => throw .notFound

/-- What a path names, a link at its end not followed. -/
def lstat (t : Tree) (cwd : Location) (path : Path) : Except IoError Entry := do
  match (← t.resolve cwd path false).entry with
  | some e => return e
  | none => throw .notFound

/-- The path leads to something.  A link whose target is missing leads
nowhere. -/
def pathExists (t : Tree) (cwd : Location) (path : Path) : Bool :=
  match t.stat cwd path with
  | .ok _ => true
  | .error _ => false

def isFileAt (t : Tree) (cwd : Location) (path : Path) : Bool :=
  match t.stat cwd path with
  | .ok e => e.isFile
  | .error _ => false

def isDirAt (t : Tree) (cwd : Location) (path : Path) : Bool :=
  match t.stat cwd path with
  | .ok e => e.isDir
  | .error _ => false

/-- The names in the directory that a path leads to, but for those that every
directory has for itself and for the one above. -/
def listing (t : Tree) (cwd : Location) (path : Path) : Except IoError (List Path) := do
  let place ← t.resolve cwd path true
  match place.entry with
  | some (.dir _) =>
    return (t.names place.location).filter fun name => name != Path.self && name != Path.above
  | some _ => throw .notDirectory
  | none => throw .notFound

/-- Remove the entry a path names, itself and not what it links to.  A directory
cannot be removed so, and a path that ends with a slash names no file. -/
def unlink (t : Tree) (cwd : Location) (path : Path) : Except IoError Tree := do
  let place ← t.resolve cwd (Path.withoutSlashes path) false
  match place.entry with
  | none => throw .notFound
  | some (.dir _) => throw .isDirectory
  | some _ =>
    if Path.endsWithSlash path then throw .notDirectory else return t.erase place.location

/-- A new entry at a vacant place, which `make` gives for a node number. -/
def create (t : Tree) (place : Place) (make : Nat → Entry) : Except IoError Tree :=
  match place.entry with
  | none => .ok (t.insert place.location (make t.freshNode))
  | some _ => .error .alreadyExists

/-- Create a file with the given contents at a vacant place, or give them to the
file that a path leads to. -/
def writeFile (t : Tree) (cwd : Location) (path : Path) (data : List UInt8) (mode : Nat) :
    Except IoError Tree := do
  let place ← t.resolve cwd path true
  match place.entry with
  | none => t.create place fun node => .file data ⟨mode, .present, node⟩
  | some (.file _ a) => return t.mapNode a.node fun _ => .file data { a with mode := mode }
  | some (.special ..) => return t
  | some _ => throw .isDirectory

/-- Create an empty directory at a vacant place. -/
def makeDir (t : Tree) (cwd : Location) (path : Path) (mode : Nat) (moment : Moment) :
    Except IoError Tree := do
  let place ← t.resolve cwd (Path.withoutSlashes path) false
  t.create place fun node => .dir ⟨mode, moment, node⟩

/-- Create a symbolic link at a vacant place.  Its target need not exist, but must
not be empty. -/
def makeLink (t : Tree) (cwd : Location) (target path : Path) (moment : Moment) :
    Except IoError Tree := do
  if target.isEmpty then throw .notFound
  let place ← t.resolve cwd path false
  t.create place fun node => .link target ⟨0o777, moment, node⟩

end Assay.Tree

import Assay.Host.Basic

/-! # Finding programs

A program is started by a text.  One with a slash is a path.  Any other is a name
that is looked for in the directories of a search path, one after the other, and
nowhere else.  A file that is not there, or cannot be run, is passed over there;
if nothing comes of the search, it is known whether there was one that could not
be run.

A `Loader` is a system that starts programs so.  What comes of a file that is run
is its own affair: it may still refuse the file, for its format or its size.
-/

namespace Assay

open Text (utf8)

namespace Search

/-- The paths that a name may stand for, one for each directory of a search path.
The empty one is the current directory. -/
def candidates (dirs : List Path) (name : Path) : List Path :=
  dirs.map fun dir => if dir.isEmpty then name else dir ++ Path.slash :: name

/-- An attempt that came to this error does not end a search. -/
def passesOver (e : IoError) : Bool := e = .denied || e = .notFound || e = .notDirectory

variable {α : Type}

/-- The first attempt on one of the paths that ends the search.  If there is none,
the result is the error `e`, or that a file could not be run. -/
def first (attempt : Path → Except IoError α) : List Path → (e : IoError) → Except IoError α
  | [], e => .error e
  | path :: rest, e =>
    match attempt path with
    | .ok a => .ok a
    | .error e' =>
      if passesOver e' then first attempt rest (if e' = .denied then .denied else e)
      else .error e'

/-- The attempt on the file that a program is. -/
def program (attempt : Path → Except IoError α) (dirs : List Path) (program : Path) :
    Except IoError α :=
  if program.contains Path.slash then attempt program
  else if program.isEmpty then .error .notFound
  else if Tree.nameLimit < program.length then .error .nameTooLong
  else first attempt (candidates dirs program) .notFound

end Search

/-- A file that is to be run: where it is, the path that led there, and the
directory in which it is started. -/
structure ProgramFile where
  location : Location
  path : Path
  cwd : Location
  deriving Repr, DecidableEq

namespace Tree

/-- The file that a path leads to, if it can be run. -/
def programAt (t : Tree) (cwd : Location) (path : Path) : Except IoError ProgramFile := do
  let place ← t.resolve cwd path true
  match place.entry with
  | some (.file _ a) => if a.executable then return ⟨place.location, path, cwd⟩ else throw .denied
  | some _ => throw .denied
  | none => throw .notFound

/-- The directory that a path leads to. -/
def directoryAt (t : Tree) (cwd : Location) (path : Path) : Except IoError Location := do
  let place ← t.resolve cwd path true
  match place.entry with
  | some (.dir _) => return place.location
  | some _ => throw .notDirectory
  | none => throw .notFound

end Tree

/-- A system that starts programs from their files. -/
structure Loader (σ : Type) where
  cwd : Location
  /-- The search path, which a launch may change. -/
  search : Launch → List Path
  /-- Run a file to its end, or refuse to. -/
  load : ProgramFile → Launch → World σ → Except IoError (Completion × World σ)
  clock : World σ → Nat

namespace Loader

variable {σ : Type}

/-- The directory that a launch starts in. -/
def directory (m : Loader σ) (l : Launch) (w : World σ) : Except IoError Location :=
  match l.cwd with
  | none => .ok m.cwd
  | some path => w.tree.directoryAt m.cwd path

/-- Run the file that a path leads to. -/
def attempt (m : Loader σ) (dir : Location) (l : Launch) (w : World σ) (path : Path) :
    Except IoError (Completion × World σ) := do
  let file ← w.tree.programAt dir path
  m.load file l w

/-- The system as a host. -/
def host (m : Loader σ) : Host σ where
  cwd := m.cwd
  launch l w := do
    let dir ← m.directory l w
    Search.program (m.attempt dir l w) (m.search l) (utf8 l.program)
  clock := m.clock

end Loader

end Assay

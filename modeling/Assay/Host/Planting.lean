import Assay.Host.Files

/-! # Planting trees

A tree described as a list of things to create, one after the other.  Missing
parent directories are created on the way.
-/

namespace Assay

/-- One thing to create in a tree. -/
inductive Seed where
  | file (path : Path) (data : List UInt8) (executable : Bool)
  | dir (path : Path)
  | link (path target : Path)
  deriving Repr, DecidableEq

namespace Tree

/-- Create the directories that `steps` go through, from the path `prior` on;
those that exist are kept. -/
def makeDirs (t : Tree) (cwd : Location) (prior : Path) : List Path → Except IoError Tree
  | [] => .ok t
  | step :: rest => do
    let path := Path.join prior step
    let t ← if t.isDirAt cwd path then pure t else t.makeDir cwd path 0o755 .present
    t.makeDirs cwd path rest

/-- Create a directory and all that lead to it. -/
def makePath (t : Tree) (cwd : Location) (path : Path) : Except IoError Tree :=
  t.makeDirs cwd (if Path.isAbsolute path then [Path.slash] else [])
    ((Path.parts path).filter fun p => !p.isEmpty)

/-- Create the directories a path goes through before its last name. -/
def makeParents (t : Tree) (cwd : Location) (path : Path) : Except IoError Tree :=
  t.makeDirs cwd (if Path.isAbsolute path then [Path.slash] else [])
    ((Path.parts path).filter fun p => !p.isEmpty).dropLast

/-- Create what a seed describes. -/
def plant (t : Tree) (cwd : Location) : Seed → Except IoError Tree
  | .file path data executable => do
    let t ← t.makeParents cwd path
    t.writeFile cwd path data (if executable then 0o755 else 0o644)
  | .dir path => t.makePath cwd path
  | .link path target => do
    let t ← t.makeParents cwd path
    t.makeLink cwd target path .present

/-- Create what the seeds describe, in order. -/
def plantAll (t : Tree) (cwd : Location) : List Seed → Except IoError Tree
  | [] => .ok t
  | s :: rest => do (← t.plant cwd s).plantAll cwd rest

/-- Paths of everything below a directory, sorted, with a slash after those of
directories. -/
def inventory (t : Tree) (root : Location) : List Path :=
  let paths := (t.below root).map fun x =>
    [Path.slash].intercalate x.1 ++ (if x.2.isDir then [Path.slash] else [])
  paths.mergeSort Path.le

end Tree

end Assay

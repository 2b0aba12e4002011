import Assay.Error
import Assay.Host.Files

/-! # Fixtures

The inputs of a conformance run lie in four directories, one for each category.
The category says whether the tool has to write an artifact.  Discovery lists
the files directly inside each directory that have the wanted extension, sorted
by name, category after category.
-/

namespace Assay

open Text (utf8)

/-- What an input is like, and what the tool is expected to do with it. -/
inductive Category where
  | goodNoFix
  | goodCanFix
  | badWithFix
  | badWithoutFix
  deriving Repr, DecidableEq

namespace Category

/-- All categories, in the order of the suite. -/
def all : List Category := [.goodNoFix, .goodCanFix, .badWithFix, .badWithoutFix]

/-- The directory of the category. -/
def dirName : Category → String
  | .goodNoFix => "good_no_fix"
  | .goodCanFix => "good_can_fix"
  | .badWithFix => "bad_with_fix"
  | .badWithoutFix => "bad_without_fix"

/-- The tool has to write an artifact for inputs of this category. -/
def expectsArtifact : Category → Bool
  | .goodCanFix => true
  | .badWithFix => true
  | .goodNoFix => false
  | .badWithoutFix => false

end Category

/-- One input file. -/
structure Fixture where
  category : Category
  path : Path
  deriving Repr, DecidableEq

namespace Fixture

/-- A way to read directories.  The one that a path leads to cannot be opened, or
is read entry by entry in an order of the reader's own, and each entry is a name
or an error. -/
abbrev Reader := Path → Except IoError (List (Except IoError Path))

/-- The directories of a tree, read in the order of the tree.  An entry is never
refused. -/
def readerOf (tree : Tree) (cwd : Location) : Reader := fun dir => do
  return (← tree.listing cwd dir).map .ok

/-- The paths of the regular files directly inside `dir` with the given
extension, sorted by name.  A directory that does not exist has none; one that
cannot be read to its end is an error. -/
def listFilesBy (read : Reader) (tree : Tree) (cwd : Location) (dir : Path) (extension : String) :
    Except HarnessError (List Path) :=
  match read dir with
  | .error e => if e = .notFound then .ok [] else .error (.io dir e)
  | .ok entries =>
    match entries.mapM id with
    | .error e => .error (.io dir e)
    | .ok names =>
      let wanted := names.filter fun name =>
        tree.isFileAt cwd (Path.join dir name) && Path.extension? name == some (utf8 extension)
      .ok ((wanted.mergeSort Path.le).map (Path.join dir))

def listFiles (tree : Tree) (cwd : Location) (dir : Path) (extension : String) :
    Except HarnessError (List Path) :=
  listFilesBy (readerOf tree cwd) tree cwd dir extension

/-- The path of a category under `root`. -/
def dirOf (root : Path) (category : Category) : Path := Path.join root (utf8 category.dirName)

/-- The fixtures of one category. -/
def ofCategory (read : Reader) (tree : Tree) (cwd : Location) (root : Path) (extension : String)
    (category : Category) : Except HarnessError (List Fixture) := do
  let paths ← listFilesBy read tree cwd (dirOf root category) extension
  return paths.map (Fixture.mk category)

/-- All fixtures under `root`, in the order of the suite. -/
def discoverBy (read : Reader) (tree : Tree) (cwd : Location) (root : Path) (extension : String) :
    Except HarnessError (List Fixture) := do
  let groups ← Category.all.mapM (ofCategory read tree cwd root extension)
  return groups.flatten

/-- Discovery that takes names in the order of the tree. -/
def discover (tree : Tree) (cwd : Location) (root : Path) (extension : String) :
    Except HarnessError (List Fixture) :=
  discoverBy (readerOf tree cwd) tree cwd root extension

end Fixture

end Assay

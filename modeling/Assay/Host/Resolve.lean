import Assay.Host.IoError
import Assay.Host.Tree

/-! # From paths to locations

A path is followed from a start directory one step at a time.  Every step but
the last has to lead into a directory; a symbolic link on the way is replaced by
its target, and at the end of the way it is replaced only when asked.  After
forty links the path is refused.

`Place` is where a path leads: a location, and the entry that stands there if
any.  A path may lead to a vacant place, but only in a directory that exists.
-/

namespace Assay

/-- Where a path leads. -/
structure Place where
  location : Location
  entry : Option Entry
  deriving Repr, DecidableEq

namespace Tree

/-- The most bytes a file name can have. -/
def nameLimit : Nat := 255

/-- The bytes that are too many for a path. -/
def pathLimit : Nat := 4096

/-- The most symbolic links on one way. -/
def linkLimit : Nat := 40

/-- Go through `steps` from the directory at `dir`.  A link that has to be
followed is handed to `onLink`, with the directory it stands in, its target and
the steps after it. -/
def walkSteps (t : Tree) (follow : Bool)
    (onLink : Location → Path → List Path → Except IoError Place)
    (dir : Location) : List Path → Except IoError Place
  | [] => .ok ⟨dir, t.get? dir⟩
  | name :: rest =>
    if name = Path.self then walkSteps t follow onLink dir rest
    else if name = Path.above then walkSteps t follow onLink dir.dropLast rest
    else if nameLimit < name.length then .error .nameTooLong
    else
      let here := dir ++ [name]
      match t.get? here with
      | none => if rest.isEmpty then .ok ⟨here, none⟩ else .error .notFound
      | some (.dir _) => walkSteps t follow onLink here rest
      | some (.link target a) =>
        if rest.isEmpty && !follow then .ok ⟨here, some (.link target a)⟩
        else onLink dir target rest
      | some e => if rest.isEmpty then .ok ⟨here, some e⟩ else .error .notDirectory

/-- Go through `steps` from the directory at `dir`, following at most `links`
symbolic links. -/
def walk (t : Tree) (follow : Bool) :
    (links : Nat) → (dir : Location) → (steps : List Path) → Except IoError Place
  | 0 => walkSteps t follow fun _ _ _ => .error .tooManyLinks
  | links + 1 => walkSteps t follow fun dir target rest =>
      t.walk follow links (if Path.isAbsolute target then [] else dir) (Path.steps target ++ rest)

/-- Where `path` leads for a program whose current directory is `cwd`.  `follow`
says whether a symbolic link at the very end is replaced by its target. -/
def resolve (t : Tree) (cwd : Location) (path : Path) (follow : Bool) : Except IoError Place :=
  if path.contains 0 then .error .nulInPath
  else if path.isEmpty then .error .notFound
  else if pathLimit ≤ path.length then .error .nameTooLong
  else t.walk follow linkLimit (if Path.isAbsolute path then [] else cwd) (Path.steps path)

end Tree

end Assay

import Assay.Host.Search
import Assay.Proofs.Restoration
import Assay.Proofs.StreamFilter
import Assay.Proofs.Validation
import Assay.Proofs.Verdict

/-! # Which file a program is

A configuration is checked by looking at the file that the path of the tool leads to.
The tool is then started by the text of that path as a program, and what file this is, is
up to the system: a text with a slash is a path, any other is a name that is looked for in
the directories of a search path, and only there.  `Search.Settles` says at which path such
a search ends, and `Search.failure` how it fails.

So the file that was checked is the one that runs, whatever the search path, exactly if
the path of the tool has a slash and its text leads to the same file, as it does if the path
is a text (`Cli.validated_tool_runs`).
-/

namespace Assay

open Text (utf8)

variable {σ : Type}

/-! ## Searching -/

namespace Search

variable {α : Type} {attempt : Path → Except IoError α} {dirs : List Path} {name path : Path}

/-- The attempt on this path does not end a search. -/
def Passed (attempt : Path → Except IoError α) (path : Path) : Prop :=
  ∃ e, attempt path = .error e ∧ passesOver e = true

/-- **The search for a program ends with the attempt on this path**: it is the program
itself if that has a slash, and else the first of its candidates that is not passed
over. -/
def Settles (attempt : Path → Except IoError α) (dirs : List Path) (name path : Path) : Prop :=
  if Path.slash ∈ name then path = name
  else name ≠ [] ∧ name.length ≤ Tree.nameLimit ∧
    ∃ before after, candidates dirs name = before ++ path :: after ∧
      (∀ p ∈ before, Passed attempt p) ∧ ¬ Passed attempt path

/-- The attempt came to a file that cannot be run. -/
def isDenied : Except IoError α → Bool
  | .error e => e = .denied
  | .ok _ => false

/-- How a search fails that has not ended with an attempt. -/
def failure (attempt : Path → Except IoError α) (dirs : List Path) (name : Path) : IoError :=
  if Tree.nameLimit < name.length then .nameTooLong
  else if (candidates dirs name).any fun p => isDenied (attempt p) then .denied
  else .notFound

end Search

/-! ## Files of programs -/

namespace Tree

variable {t : Tree} {cwd loc : Location} {path : Path}

/-- The path leads to a regular file at this location. -/
def LeadsTo (t : Tree) (cwd : Location) (path : Path) (loc : Location) : Prop :=
  ∃ data a, t.resolve cwd path true = .ok ⟨loc, some (.file data a)⟩

end Tree

namespace Loader

/-- A search in these directories ends at the file at a location. -/
def Reaches (m : Loader σ) (dirs : List Path) (l : Launch) (w : World σ) (loc : Location) : Prop :=
  ∃ path, Search.Settles (m.attempt m.cwd l w) dirs (utf8 l.program) path ∧
    w.tree.LeadsTo m.cwd path loc

variable {m : Loader σ} {l : Launch} {w : World σ} {loc : Location}

end Loader

/-! ## The tool under test -/

namespace Conformance

end Conformance

namespace Cli

end Cli

namespace Sample

def plain : Fixture := ⟨.goodNoFix, utf8 "in/good_no_fix/b.c"⟩

end Sample

namespace Cli

end Cli

namespace Sample

end Sample

end Assay

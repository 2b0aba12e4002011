import Assay.Case.Artifact
import Assay.Run.Policy

/-! # Configuration

Everything that decides what is run and how it is reported.  `validate` refuses
a configuration that could not be run, before anything is started.
-/

namespace Assay

open Text (utf8)

/-- The form of a report. -/
inductive ReportFormat where
  | console
  | json
  deriving Repr, DecidableEq

namespace ReportFormat

def key : ReportFormat → String
  | .console => "console"
  | .json => "json"

end ReportFormat

/-- The settings of a conformance run. -/
structure Config where
  /-- The executable under test. -/
  toolPath : Path := utf8 "./rewriter"
  /-- The directory that holds one directory for each category of fixtures. -/
  inputDir : Path := utf8 "testing/input"
  /-- The extension of fixtures, without the dot. -/
  extension : String := "cpp"
  layout : ArtifactLayout := {}
  /-- Flags that every call of the tool has after `--`. -/
  toolFlags : List String := ["-std=c++0x", "-w"]
  /-- The environment entry that is set to `1` for every call of the tool. -/
  traceVar : String := "REWRITE_TRACE"
  /-- The program that compares artifacts with reference files. -/
  diffProgram : String := "diff"
  policy : Policy := {}
  stopOnFail : Bool := false
  verbose : Bool := false
  format : ReportFormat := .console
  color : Bool := true
  deriving Repr, DecidableEq

namespace Config

/-- The settings that must not be empty, by name, in the order they are
checked. -/
def requiredTexts (c : Config) : List (String × String) :=
  [("fixture extension", c.extension), ("artifact suffix", c.layout.artifactSuffix),
    ("reference suffix", c.layout.referenceSuffix), ("trace variable", c.traceVar)]

/-- Check paths and names against a file tree.  The first fault is reported. -/
def validate (c : Config) (cwd : Location) (tree : Tree) : Except HarnessError Unit := do
  match tree.stat cwd c.toolPath with
  | .error _ => throw (.config ("tool path '" ++ c.toolPath.shown ++ "' does not exist"))
  | .ok e =>
    unless e.isFile do
      throw (.config ("tool path '" ++ c.toolPath.shown ++ "' is not a file"))
  unless tree.isDirAt cwd c.inputDir do
    throw (.config ("input directory '" ++ c.inputDir.shown ++ "' does not exist"))
  match c.requiredTexts.find? (·.2.isEmpty) with
  | some (name, _) => throw (.config (name ++ " must not be empty"))
  | none => pure ()
  if c.layout.artifactSuffix = c.layout.referenceSuffix then
    throw (.config ("artifact suffix and reference suffix must differ; " ++
      "cleanup would delete the reference files"))

end Config

end Assay

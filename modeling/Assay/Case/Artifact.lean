import Assay.Case.Basic

/-! # Artifact cases

The two cases of a conformance suite.  Both call the tool under test on one
input file and then look at the artifact, the file next to the input that the
tool is, or is not, to write:

* `produced`: the artifact is there and the checker finds it equal to the
  reference file;
* `absent`: there is no artifact.

Either way the return code has to be zero, and an artifact that was found is
removed again.  The programs are called with the texts of the paths, and the file
tree is asked about the paths themselves.
-/

namespace Assay

/-- How artifacts and reference files are named after the input. -/
structure ArtifactLayout where
  artifactSuffix : String := "generated"
  referenceSuffix : String := "fixed"
  deriving Repr, DecidableEq

namespace ArtifactLayout

def artifact (layout : ArtifactLayout) (input : Path) : Path :=
  input.suffixed layout.artifactSuffix

def reference (layout : ArtifactLayout) (input : Path) : Path :=
  input.suffixed layout.referenceSuffix

end ArtifactLayout

namespace Artifact

variable {σ : Type}

/-- The checker that compares two files and returns zero when they are equal. -/
def diffChecker (program : String) : Tool where
  name := "diff"
  template := ((Template.program program).literal "-s").inputs

/-- The label of a case about `input`. -/
def label (input : Path) : String := "[" ++ input.shown ++ "]"

/-- Call the tool under test on `input` and check its return code. -/
def invokeOn (host : Host σ) (input : Path) : CaseM σ Unit := do
  let _ ← CaseM.invokeTarget host (.ofPaths [input])
  CaseM.assertOutput (fun output => output.returnCode == 0) "return code was not zero."

/-- Remove the artifact.  One that is not there is fine; any other obstacle is a
failed assertion. -/
def remove (host : Host σ) (artifact : Path) : CaseM σ Unit := do
  let s ← get
  match s.world.tree.unlink host.cwd artifact with
  | .ok tree => set { s with world := { s.world with tree := tree } }
  | .error e =>
    if e = .notFound then pure ()
    else CaseM.assertTrue false ("could not remove " ++ artifact.shown ++ ": " ++ e.message)

/-- Call the tool under test, then compare the artifact with the reference. -/
def verify (host : Host σ) (input : Path) (layout : ArtifactLayout) (checker : Tool) :
    CaseM σ Unit := do
  let artifact := layout.artifact input
  invokeOn host input
  let present ← CaseM.ask (·.pathExists host.cwd artifact)
  CaseM.assertTrue present ("expected " ++ artifact.shown ++ " file to be generated.")
  let output ← CaseM.invoke host checker (.ofPaths [artifact, layout.reference input])
  CaseM.assertEqual (0 : Int) output.returnCode "output file was not same as expected."

/-- The tool has to write an artifact equal to the reference.  The artifact is
removed in the end, also when a tool could not be started. -/
def produced (input : Path) (layout : ArtifactLayout) (checker : Tool) : TestCase σ where
  label := label input
  body host :=
    (verify host input layout checker).thenAlways (remove host (layout.artifact input))

/-- The tool has to write no artifact.  One that is there is removed. -/
def absent (input : Path) (layout : ArtifactLayout) : TestCase σ where
  label := label input
  body host := do
    let artifact := layout.artifact input
    invokeOn host input
    let unexpected ← CaseM.ask (·.pathExists host.cwd artifact)
    CaseM.assertFalse unexpected ("unexpected file generated: " ++ artifact.shown)
    if unexpected then remove host artifact

end Artifact

end Assay

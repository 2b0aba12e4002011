import Assay.Config
import Assay.Fixture

/-! # The conformance suite

The suite that a configuration stands for: the tool under test, and one case for
each fixture, of the kind its category calls for.
-/

namespace Assay.Conformance

variable {σ : Type}

/-- The tool under test: the inputs, then `--`, the fixed flags and those of the
call, with tracing switched on.  A command is made of texts, so the program is the
text of the path. -/
def subject (path : Path) (flags : List String) (traceVar : String) : Tool :=
  let template := ((((Template.program path.shown).inputs).literal "--").literals flags).trailing
  Tool.withEnv { name := "rewriter", template := template } traceVar "1"

/-- The case a fixture calls for. -/
def caseFor (config : Config) (fixture : Fixture) : TestCase σ :=
  if fixture.category.expectsArtifact then
    Artifact.produced fixture.path config.layout (Artifact.diffChecker config.diffProgram)
  else Artifact.absent fixture.path config.layout

/-- The suite for all fixtures under the configured directory. -/
def suiteBy (read : Fixture.Reader) (config : Config) (cwd : Location) (tree : Tree) :
    Except HarnessError (Suite σ) := do
  let fixtures ← Fixture.discoverBy read tree cwd config.inputDir config.extension
  return {
    tool := subject config.toolPath config.toolFlags config.traceVar
    cases := fixtures.map (caseFor config) }

/-- The suite whose fixtures are found in the order of the tree. -/
def suite (config : Config) (cwd : Location) (tree : Tree) : Except HarnessError (Suite σ) :=
  suiteBy (Fixture.readerOf tree cwd) config cwd tree

end Assay.Conformance

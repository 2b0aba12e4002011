import Assay.Cli.Parser
import Assay.Conformance
import Assay.Report.Reporters
import Assay.Run.Runner

/-! # The program

The whole of a run from the command line: the options are read, the
configuration is checked, the suite is built from the fixtures and run, and the
result decides the exit code: 0 when every counted case has passed, 1 when one
has not, 2 when the harness itself could not do its work.
-/

namespace Assay.Cli

open Text (Bytes line)

/-- What a run of the program leaves. -/
structure Ending (σ : Type) where
  exitCode : Nat
  stdout : Bytes
  stderr : String
  world : World σ

/-- The exit code when a counted case has not passed. -/
def failureCode : Nat := 1

/-- The exit code when the harness could not do its work. -/
def harnessErrorCode : Nat := 2

/-- The columns diagnostics are wrapped to. -/
def columns : Nat := 80

/-- The message for a fixture tree in which nothing is found. -/
def noFixtures (config : Config) : String :=
  line ("No fixtures found in '" ++ config.inputDir.shown ++ "'") ++
  line ("Inputs should be *." ++ config.extension ++
    " files under good_no_fix/, good_can_fix/, bad_with_fix/ or bad_without_fix/")

variable {σ : Type}

namespace Ending

/-- The ending of a program that could not do its work. -/
def failed (e : HarnessError) (stdout : Bytes) (w : World σ) : Ending σ :=
  { exitCode := harnessErrorCode, stdout, stderr := line (e.diagnostic (some (columns - 2))), world := w }

end Ending

/-- The reporter of a configuration. -/
def reporterFor (config : Config) : Reporter Sink :=
  match config.format with
  | .console => Console.reporter { color := config.color, verbose := config.verbose }
  | .json => Document.reporter

/-- Run the suite of a configuration. -/
def conform (host : Host σ) (config : Config) (w : World σ) : Ending σ :=
  let prepared : Except HarnessError (Suite σ) := do
    config.validate host.cwd w.tree
    Conformance.suite config host.cwd w.tree
  match prepared with
  | .error e => .failed e [] w
  | .ok suite =>
    if suite.isEmpty then
      { exitCode := 0, stdout := [], stderr := noFixtures config, world := w }
    else
      let runner : Runner := { policy := config.policy, stopOnFail := config.stopOnFail }
      match runner.run host suite (reporterFor config) {} w with
      | (.error e, p) => .failed e p.reporter.written p.world
      | (.ok report, p) =>
        { exitCode := if 0 < report.failed then failureCode else 0
          stdout := p.reporter.written, stderr := "", world := p.world }

/-- The program, for a standard output that is a terminal or is none. -/
def program (host : Host σ) (terminal : Bool) (args : List String) (w : World σ) : Ending σ :=
  match parse args with
  | .error refusal =>
    if refusal.isAnswer then
      { exitCode := refusal.exitCode, stdout := Text.utf8 refusal.text, stderr := "", world := w }
    else { exitCode := refusal.exitCode, stdout := [], stderr := refusal.text, world := w }
  | .ok options => conform host (options.toConfig terminal) w

end Assay.Cli

import Assay.Run.Policy
import Assay.Run.Reporter

/-! # Running a suite

The cases of a suite run one after the other, each in the world the one before
has left.  When a case has ended, the policy decides whether it counts; a case
that does not is only mentioned.  With `stopOnFail` the run ends after the first
counted case that has not passed.

A run can end early in two more ways: a case returns a harness error, or the
reporter fails on an event.  Both end it at once.

The result of `Runner.run` holds, besides the report or the error, the world
that is left, the state of the reporter, and every event the reporter was told,
the one it failed on included.
-/

namespace Assay

/-- How a suite is run. -/
structure Runner where
  policy : Policy := {}
  stopOnFail : Bool := false
  deriving Repr, DecidableEq

/-- How far a run has come. -/
structure Progress (σ ρ : Type) where
  world : World σ
  reporter : ρ
  events : List Event := []

/-- The program of a run. -/
abbrev RunM (σ ρ : Type) := ExceptT HarnessError (StateM (Progress σ ρ))

namespace RunReport

/-- Count a selected case and keep its report. -/
def addCase (r : RunReport) (case : CaseReport) : RunReport :=
  { r with
    cases := r.cases ++ [case]
    passed := if case.passed then r.passed + 1 else r.passed
    failed := if case.passed then r.failed else r.failed + 1 }

/-- Mention a case that was not selected. -/
def addDeselected (r : RunReport) (case : CaseReport) : RunReport :=
  { r with deselected := r.deselected ++ [case.label] }

/-- End the run before the given cases. -/
def stopBefore (r : RunReport) (labels : List String) : RunReport :=
  { r with stoppedEarly := true, notRun := labels }

end RunReport

namespace Runner

variable {σ ρ : Type}

/-- Tell the reporter an event; if it fails, the run ends. -/
def tell (reporter : Reporter ρ) (e : Event) : RunM σ ρ Unit := do
  let p ← get
  let (result, state) := reporter.tell e p.reporter
  set { p with reporter := state, events := p.events ++ [e] }
  match result with
  | .ok () => pure ()
  | .error source => throw (.report source)

/-- Run one case in the world as it is. -/
def runCase (host : Host σ) (target : Tool) (case : TestCase σ) : RunM σ ρ CaseReport := do
  let p ← get
  let (result, after) := case.run host target p.world
  set { p with world := after }
  match result with
  | .ok report => return report
  | .error e => throw e

/-- Run the cases in order, adding to the report so far. -/
def runCases (runner : Runner) (host : Host σ) (target : Tool) (reporter : Reporter ρ) :
    List (TestCase σ) → RunReport → RunM σ ρ RunReport
  | [], report => return report
  | case :: rest, report => do
    let caseReport ← runCase host target case
    if runner.policy.selects caseReport.targetInvocations then
      tell reporter (.caseComplete caseReport)
      let report := report.addCase caseReport
      if runner.stopOnFail && !caseReport.passed then
        return report.stopBefore (rest.map (·.label))
      else runner.runCases host target reporter rest report
    else
      tell reporter (.caseDeselected caseReport)
      runner.runCases host target reporter rest (report.addDeselected caseReport)

/-- Run a suite from its first event to its last. -/
def runSuite (runner : Runner) (host : Host σ) (suite : Suite σ) (reporter : Reporter ρ) :
    RunM σ ρ RunReport := do
  let start := host.clock (← get).world
  tell reporter (.runStart suite.size)
  let report ← runner.runCases host suite.tool reporter suite.cases {}
  let stop := host.clock (← get).world
  let report := { report with duration := .between start stop }
  tell reporter (.runComplete report)
  return report

/-- Run a suite in a world, with a reporter in a given state. -/
def run (runner : Runner) (host : Host σ) (suite : Suite σ) (reporter : Reporter ρ)
    (state : ρ) (w : World σ) : Except HarnessError RunReport × Progress σ ρ :=
  (runner.runSuite host suite reporter).run { world := w, reporter := state }

end Runner

end Assay

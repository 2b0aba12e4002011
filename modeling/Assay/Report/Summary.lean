import Assay.Report.Paint
import Assay.Run.Report
import Assay.Text.Lines

/-! # The summary of a run

What a reader sees of a run in the end: every selected case with its status, the
messages of those that failed, the cases that did not run, and the counts.  The
summary holds no times, so equal results read the same.
-/

namespace Assay

open Text (line)

/-- How reports are shown: with color or without, and with the calls of failed
cases or without. -/
structure RenderOptions where
  color : Bool := false
  verbose : Bool := false
  deriving Repr, DecidableEq

/-- The rule on both sides of a heading. -/
def banner : String := "==================="

def CaseStatus.colorCode : CaseStatus → String
  | .passed => "32"
  | .failed => "31"
  | .notRun => "33"

/-- The status in its color. -/
def CaseStatus.render (status : CaseStatus) (color : Bool) : String :=
  Paint.paint color status.colorCode status.label

/-- One stream of a call: a heading and its lines, or nothing if it is blank. -/
def renderStream (heading text : String) : String :=
  if Text.blank text then ""
  else line ("      " ++ heading ++ ":") ++ Text.indented "        " text

/-- One call: its command line, its return code and its output. -/
def InvocationLog.render (log : InvocationLog) : String :=
  line ("    $ " ++ log.commandLine) ++
  line ("      returncode: " ++ toString log.output.returnCode) ++
  renderStream "stdout" log.output.stdoutText ++
  renderStream "stderr" log.output.stderrText

/-- All calls of a case. -/
def CaseReport.renderInvocations (case : CaseReport) : String :=
  String.join (case.invocations.map InvocationLog.render)

/-- A label and a status on one line. -/
def statusLine (label : String) (status : CaseStatus) (color : Bool) : String :=
  line (label ++ " " ++ status.render color)

/-- A case in the summary: its status and, if it failed, its messages. -/
def CaseReport.renderSummary (case : CaseReport) (opts : RenderOptions) : String :=
  statusLine case.label case.status opts.color ++
  (if case.status = .failed then
    String.join (case.failureMessages.map fun m => line ("    " ++ m)) ++
    (if opts.verbose then case.renderInvocations else "")
  else "")

namespace RunReport

/-- The summary of a run. -/
def renderSummary (r : RunReport) (opts : RenderOptions) : String :=
  line (banner ++ " SUMMARY " ++ banner) ++
  String.join (r.cases.map fun c => c.renderSummary opts) ++
  String.join (r.notRun.map fun label => statusLine label .notRun opts.color) ++
  (if r.stoppedEarly then line "stopped after first failure" else "")

/-- One part of the counts; a count of zero has none. -/
def countPart (n : Nat) (what : String) : List String :=
  if n = 0 then [] else [toString n ++ " " ++ what]

/-- The parts of the counts, in their order. -/
def countParts (r : RunReport) : List String :=
  countPart r.passed "passed" ++ countPart r.failed "failed" ++
  countPart r.deselected.length "deselected" ++ countPart r.notRun.length "not run"

/-- The counts of a run in words. -/
def counts (r : RunReport) : String :=
  match r.countParts with
  | [] => "no cases selected"
  | parts => ", ".intercalate parts

end RunReport

end Assay

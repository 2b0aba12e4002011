import Assay.Case.Basic

/-! # Run reports -/

namespace Assay

/-- The totals of a run and the reports of its cases. -/
structure RunReport where
  /-- The selected cases, in the order in which they ran. -/
  cases : List CaseReport := []
  /-- The labels of cases that ran but were not selected. -/
  deselected : List String := []
  passed : Nat := 0
  failed : Nat := 0
  /-- The run ended at the first failure. -/
  stoppedEarly : Bool := false
  /-- The labels of the cases after an early end. -/
  notRun : List String := []
  duration : Duration := .zero
  deriving Repr, DecidableEq

namespace RunReport

def executed (r : RunReport) : Nat := r.passed + r.failed

/-- Zero if nothing failed, else one. -/
def exitCode (r : RunReport) : Nat := if r.failed = 0 then 0 else 1

def toJson (r : RunReport) : Json :=
  .object [("cases", .array (r.cases.map CaseReport.toJson)),
    ("deselected", .texts r.deselected), ("passed", .nat r.passed), ("failed", .nat r.failed),
    ("stopped_early", .bool r.stoppedEarly), ("not_run", .texts r.notRun),
    ("duration", r.duration.toJson)]

end RunReport

end Assay

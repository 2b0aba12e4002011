import Assay.Json.Basic
import Assay.Text.Shown

/-! # Assertion outcomes

An assertion never stops a case: it adds an outcome, and the case goes on.  The
status of a case is read off its outcomes.  A case without any has failed, since
it has checked nothing.
-/

namespace Assay

open Text (Shown shown)

/-- The result of one assertion: what was asked, whether it held, and the
message for the reader if it did not. -/
structure Outcome where
  description : String
  passed : Bool
  message : String
  deriving Repr, DecidableEq

/-- Where a case stands. -/
inductive CaseStatus where
  | notRun
  | passed
  | failed
  deriving Repr, DecidableEq

namespace CaseStatus

def label : CaseStatus → String
  | .notRun => "NOT RUN"
  | .passed => "PASSED"
  | .failed => "FAILED"

/-- The name of the status in a JSON report. -/
def key : CaseStatus → String
  | .notRun => "not-run"
  | .passed => "passed"
  | .failed => "failed"

end CaseStatus

/-- A comparison of two values: how it is described, and whether they agree. -/
structure Comparison where
  description : String
  holds : Bool
  deriving Repr, DecidableEq

/-- The comparison of an expected with an actual value. -/
def Comparison.of {α : Type} [BEq α] [Shown α] (expected actual : α) : Comparison :=
  ⟨"assert_equal(" ++ shown expected ++ ", " ++ shown actual ++ ")", expected == actual⟩

/-- The outcomes of a case so far, first to last. -/
structure Outcomes where
  toList : List Outcome := []
  deriving Repr, DecidableEq

namespace Outcomes

def record (os : Outcomes) (description : String) (passed : Bool) (message : String) : Outcomes :=
  ⟨os.toList ++ [⟨description, passed, message⟩]⟩

def assertTrue (os : Outcomes) (condition : Bool) (message : String) : Outcomes :=
  os.record "assert_true" condition message

def assertFalse (os : Outcomes) (condition : Bool) (message : String) : Outcomes :=
  os.record "assert_false" (!condition) message

def compare (os : Outcomes) (c : Comparison) (message : String) : Outcomes :=
  os.record c.description c.holds message

def assertEqual {α : Type} [BEq α] [Shown α] (os : Outcomes) (expected actual : α)
    (message : String) : Outcomes :=
  os.compare (.of expected actual) message

def size (os : Outcomes) : Nat := os.toList.length

def isEmpty (os : Outcomes) : Bool := os.toList.isEmpty

def failures (os : Outcomes) : List Outcome := os.toList.filter fun o => !o.passed

/-- Passed if there is an outcome and none failed. -/
def status (os : Outcomes) : CaseStatus :=
  if os.toList.isEmpty || os.toList.any (fun o => !o.passed) then .failed else .passed

/-- A case that has ended has passed or failed. -/
theorem status_cases (os : Outcomes) : os.status = .passed ∨ os.status = .failed := by
  unfold status
  split
  · exact .inr rfl
  · exact .inl rfl

theorem status_of_failed {os : Outcomes} {o : Outcome} (h : o ∈ os.toList)
    (hfailed : o.passed = false) : os.status = .failed := by
  have hany : os.toList.any (fun o => !o.passed) = true :=
    List.any_eq_true.mpr ⟨o, h, by rw [hfailed]; rfl⟩
  rw [status, hany, Bool.or_true, if_pos rfl]

/-- The messages a reader is shown for the failures. -/
def failureMessages (os : Outcomes) : List String :=
  if os.toList.isEmpty then ["case recorded no assertions"]
  else os.failures.map (·.message)

def toJson (os : Outcomes) : Json :=
  .array (os.toList.map fun o =>
    .object [("description", .text o.description), ("passed", .bool o.passed),
      ("message", .text o.message)])

end Outcomes

end Assay

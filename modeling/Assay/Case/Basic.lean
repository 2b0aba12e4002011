import Assay.Case.Context

/-! # Cases, their reports, and suites

A `TestCase` is a label and a program.  Running it begins with a fresh context
and ends with a `CaseReport`, or with the harness error that stopped it; the
world it leaves is given either way.  A `Suite` is a tool under test with its
cases.
-/

namespace Assay

/-- A named check of the tool under test. -/
structure TestCase (σ : Type) where
  label : String
  body : Host σ → CaseM σ Unit

/-- All that one run of a case gave. -/
structure CaseReport where
  label : String
  outcomes : Outcomes
  invocations : List InvocationLog
  /-- Positions in `invocations` at which the tool under test was called. -/
  targetIndices : List Nat
  duration : Duration
  deriving Repr, DecidableEq

namespace CaseContext

/-- Close the record of a run. -/
def finish (c : CaseContext) (label : String) (duration : Duration) : CaseReport :=
  ⟨label, c.outcomes, c.invocations, c.targetIndices, duration⟩

end CaseContext

namespace CaseReport

def status (r : CaseReport) : CaseStatus := r.outcomes.status

def passed (r : CaseReport) : Bool := r.status == .passed

def failureMessages (r : CaseReport) : List String := r.outcomes.failureMessages

/-- The calls of the tool under test; a position beyond the last call counts for
nothing. -/
def targetInvocations (r : CaseReport) : List InvocationLog :=
  r.targetIndices.filterMap fun i => r.invocations[i]?

def toJson (r : CaseReport) : Json :=
  .object [("label", .text r.label), ("status", .text r.status.key),
    ("outcomes", r.outcomes.toJson),
    ("invocations", .array (r.invocations.map InvocationLog.toJson)),
    ("target_invocations", .array (r.targetIndices.map Json.nat)),
    ("duration", r.duration.toJson)]

end CaseReport

namespace TestCase

variable {σ : Type}

/-- Run the case against `target` and report it. -/
def run (case : TestCase σ) (host : Host σ) (target : Tool) (w : World σ) :
    Except HarnessError CaseReport × World σ :=
  let (result, s) := (case.body host).run ⟨{ target := target }, w⟩
  let duration := Duration.between (host.clock w) (host.clock s.world)
  (result.map fun _ => s.context.finish case.label duration, s.world)

end TestCase

/-- A tool under test and its cases, in the order in which they run. -/
structure Suite (σ : Type) where
  tool : Tool
  cases : List (TestCase σ)

namespace Suite

variable {σ : Type}

def size (s : Suite σ) : Nat := s.cases.length

def isEmpty (s : Suite σ) : Bool := s.cases.isEmpty

def labels (s : Suite σ) : List String := s.cases.map (·.label)

/-- The suite by the names of its tool and cases. -/
def describe (s : Suite σ) : String :=
  "Suite \x7b tool: " ++ Text.shown s.tool.name ++ ", cases: " ++ Text.shown s.labels ++ " \x7d"

end Suite

end Assay

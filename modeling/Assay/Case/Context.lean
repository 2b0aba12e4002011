import Assay.Case.Outcome
import Assay.Tool.Basic

/-! # What a case sees

A case works on a `CaseContext`: the tool under test, the outcomes so far and
the calls made so far.  Each run of a case begins with a fresh one.  `CaseM` is
the program of a case: it reads and changes its context and the world, and may
end with a harness error.  The world stays as it was left, also when the case
ends in an error.

`assertOutput` speaks of the latest call of the tool under test; calls of other
tools in between make no difference.
-/

namespace Assay

open Text (Shown)

/-- The record of one run of a case while it goes on. -/
structure CaseContext where
  target : Tool
  outcomes : Outcomes := {}
  invocations : List InvocationLog := []
  targetIndices : List Nat := []
  deriving Repr, DecidableEq

namespace CaseContext

/-- Add a call of a tool that is not under test. -/
def addCall (c : CaseContext) (log : InvocationLog) : CaseContext :=
  { c with invocations := c.invocations ++ [log] }

/-- Add a call of the tool under test. -/
def addTargetCall (c : CaseContext) (log : InvocationLog) : CaseContext :=
  { c with
    invocations := c.invocations ++ [log]
    targetIndices := c.targetIndices ++ [c.invocations.length] }

/-- The result of the latest call of the tool under test. -/
def lastOutput? (c : CaseContext) : Option Invocation := do
  let log ← c.invocations[← c.targetIndices.getLast?]?
  return log.output

def assertTrue (c : CaseContext) (condition : Bool) (message : String) : CaseContext :=
  { c with outcomes := c.outcomes.assertTrue condition message }

def assertFalse (c : CaseContext) (condition : Bool) (message : String) : CaseContext :=
  { c with outcomes := c.outcomes.assertFalse condition message }

def compare (c : CaseContext) (comparison : Comparison) (message : String) : CaseContext :=
  { c with outcomes := c.outcomes.compare comparison message }

/-- Ask `predicate` of the latest result of the tool under test; without one the
assertion has failed. -/
def assertOutput (c : CaseContext) (predicate : Invocation → Bool) (message : String) :
    CaseContext :=
  { c with
    outcomes := match c.lastOutput? with
      | some output => c.outcomes.record "assert_output" (predicate output) message
      | none => c.outcomes.record "assert_output" false "no invocation recorded" }

end CaseContext

/-- The state a case works on. -/
structure CaseState (σ : Type) where
  context : CaseContext
  world : World σ

/-- The program of a case. -/
abbrev CaseM (σ : Type) := ExceptT HarnessError (StateM (CaseState σ))

namespace CaseM

variable {σ : Type}

/-- Change the context only. -/
def onContext (f : CaseContext → CaseContext) : CaseM σ Unit :=
  modify fun s => { s with context := f s.context }

/-- A question about the file tree. -/
def ask {α : Type} (question : Tree → α) : CaseM σ α := do
  return question (← get).world.tree

def assertTrue (condition : Bool) (message : String) : CaseM σ Unit :=
  onContext (·.assertTrue condition message)

def assertFalse (condition : Bool) (message : String) : CaseM σ Unit :=
  onContext (·.assertFalse condition message)

def assertEqual {α : Type} [BEq α] [Shown α] (expected actual : α) (message : String) :
    CaseM σ Unit :=
  onContext (·.compare (.of expected actual) message)

def assertOutput (predicate : Invocation → Bool) (message : String) : CaseM σ Unit :=
  onContext (·.assertOutput predicate message)

/-- Call `tool` and let `keep` put the call into the context.  A call that fails
changes nothing. -/
def callTool (host : Host σ) (tool : Tool) (args : ToolArgs)
    (keep : CaseContext → InvocationLog → CaseContext) : CaseM σ Invocation := do
  let s ← get
  match tool.call host args s.world with
  | .error e => throw e
  | .ok (log, after) =>
    set ({ context := keep s.context log, world := after } : CaseState σ)
    return log.output

/-- Call the tool under test. -/
def invokeTarget (host : Host σ) (args : ToolArgs) : CaseM σ Invocation := do
  callTool host (← get).context.target args CaseContext.addTargetCall

/-- Call another tool, a checker for instance. -/
def invoke (host : Host σ) (tool : Tool) (args : ToolArgs) : CaseM σ Invocation :=
  callTool host tool args CaseContext.addCall

/-- Run `body` and then `cleanup`, however `body` ended; the result is that of
`body`. -/
def thenAlways (body : CaseM σ Unit) (cleanup : CaseM σ Unit) : CaseM σ Unit :=
  ExceptT.mk do
    let result ← body.run
    let _ ← cleanup.run
    return result

end CaseM

end Assay

import Assay.Case.Basic

/-! # Scripted cases

A case given as data: a list of steps, each one operation on the context.  A
step that fails ends the case with its error.  `observe` lets the world keep a
trace of the context after every step, the failing one included.
-/

namespace Assay

/-- One operation on the context of a case. -/
inductive Step where
  | assertTrue (condition : Bool) (message : String)
  | assertFalse (condition : Bool) (message : String)
  | compare (comparison : Comparison) (message : String)
  | record (description : String) (passed : Bool) (message : String)
  | assertOutput (predicate : Invocation → Bool) (message : String)
  | target (args : ToolArgs)
  | invoke (tool : Tool) (args : ToolArgs)
  | fail (error : HarnessError)

namespace Step

variable {σ : Type}

/-- Perform the step. -/
def perform (host : Host σ) : Step → CaseM σ Unit
  | .assertTrue condition message => CaseM.assertTrue condition message
  | .assertFalse condition message => CaseM.assertFalse condition message
  | .compare comparison message => CaseM.onContext (·.compare comparison message)
  | .record description passed message => CaseM.onContext fun c =>
      { c with outcomes := c.outcomes.record description passed message }
  | .assertOutput predicate message => CaseM.assertOutput predicate message
  | .target args => do let _ ← CaseM.invokeTarget host args
  | .invoke tool args => do let _ ← CaseM.invoke host tool args
  | .fail error => throw error

/-- Perform the steps in order, up to the first that fails.  After each, `observe`
is told the context. -/
def performAll (host : Host σ) (observe : CaseContext → σ → σ) : List Step → CaseM σ Unit
  | [] => pure ()
  | step :: rest => do
    let note : CaseM σ Unit := modify fun s =>
      { s with world := { s.world with ambient := observe s.context s.world.ambient } }
    (step.perform host).thenAlways note
    performAll host observe rest

end Step

/-- The case that performs `steps`. -/
def TestCase.scripted {σ : Type} (label : String) (observe : CaseContext → σ → σ)
    (steps : List Step) : TestCase σ where
  label := label
  body host := Step.performAll host observe steps

end Assay

import Assay.Error
import Assay.Tool.Invocation
import Assay.Tool.Template

/-! # Tools

A tool is a template with a name, environment entries of its own and, perhaps, a
directory to run in.  Calling it renders the command, starts it on the host and
records what came of it.  A return code other than zero is an ordinary result; a
program that cannot be started is an error.
-/

namespace Assay

/-- A command-line program that the harness can call. -/
structure Tool where
  name : String
  template : Template
  env : List (String × String) := []
  workingDir : Option Path := none
  deriving Repr, DecidableEq

namespace Tool

/-- Set an environment entry; a later value for a key replaces the earlier. -/
def setEntry (key value : String) : List (String × String) → List (String × String)
  | [] => [(key, value)]
  | kv :: rest => if kv.1 = key then (key, value) :: rest else kv :: setEntry key value rest

def withEnv (t : Tool) (key value : String) : Tool := { t with env := setEntry key value t.env }

def withWorkingDir (t : Tool) (dir : Path) : Tool := { t with workingDir := some dir }

/-- The words of one call; a template that renders to none is an error. -/
def commandLine (t : Tool) (args : ToolArgs) : Except HarnessError (List String) :=
  match t.template.render args with
  | [] => .error (.emptyTemplate t.name)
  | command => .ok command

variable {σ : Type}

/-- Call the tool and record the call, with the world it leaves. -/
def call (t : Tool) (host : Host σ) (args : ToolArgs) (w : World σ) :
    Except HarnessError (InvocationLog × World σ) :=
  match t.template.render args with
  | [] => .error (.emptyTemplate t.name)
  | program :: rest =>
    match host.start ⟨program, rest, t.env, t.workingDir⟩ w with
    | .error source => .error (.spawn t.name program source)
    | .ok (completion, after) =>
      let log : InvocationLog :=
        ⟨t.name, program :: rest, .ofCompletion completion,
          .between (host.clock w) (host.clock after)⟩
      .ok (log, after)

end Tool

end Assay

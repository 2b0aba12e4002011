import Assay.Host.IoError
import Assay.Host.Path
import Assay.Text.Lines
import Assay.Text.Wrap

/-! # Errors that end a run

An assertion that fails is a result.  These errors are not: each makes the run
as a whole meaningless.  The cause is kept as data, and every text shown to a
reader is derived from it here.  A diagnostic is the error as it is shown to the
user: its code, its message, the error of the host behind it, and what to try.
-/

namespace Assay

/-- Why a run could not be carried out. -/
inductive HarnessError where
  /-- A program could not be started. -/
  | spawn (tool program : String) (source : IoError)
  /-- A setting is missing or wrong. -/
  | config (text : String)
  /-- A tool has no command at all. -/
  | emptyTemplate (tool : String)
  /-- Files could not be read outside of any case. -/
  | io (path : Path) (source : IoError)
  /-- The report could not be written. -/
  | report (source : IoError)
  deriving Repr, DecidableEq

namespace HarnessError

def message : HarnessError → String
  | .spawn tool program _ => "failed to start `" ++ program ++ "` for tool '" ++ tool ++ "'"
  | .config text => "invalid configuration: " ++ text
  | .emptyTemplate tool => "tool '" ++ tool ++ "' has an empty command template"
  | .io path _ => "I/O error on " ++ path.shown
  | .report _ => "failed to write report"

/-- The error of the host behind it, if there is one. -/
def source? : HarnessError → Option IoError
  | .spawn _ _ source => some source
  | .io _ source => some source
  | .report source => some source
  | .config _ => none
  | .emptyTemplate _ => none

/-- The code under which the error is documented. -/
def code : HarnessError → String
  | .spawn .. => "tooltest::spawn"
  | .config _ => "tooltest::config"
  | .emptyTemplate _ => "tooltest::template"
  | .io .. => "tooltest::io"
  | .report _ => "tooltest::report"

/-- What a reader may try. -/
def help? : HarnessError → Option String
  | .spawn .. =>
    some "check that the executable exists, is executable, and is on PATH if given by name"
  | _ => none

/-! ## Diagnostics -/

/-- The lines of a diagnostic, at most `width` wide if a width is given. -/
def diagnosticLines (e : HarnessError) (width : Option Nat) : List String :=
  [e.code, ""] ++
  Text.fill width "  × " "  │ " e.message ++
  (match e.source? with
    | some source => Text.fill width "  ╰─▶ " "      " source.message
    | none => []) ++
  (match e.help? with
    | some help => Text.fill width "  help: " "        " help
    | none => [])

/-- The diagnostic, every line ended by a line feed. -/
def diagnostic (e : HarnessError) (width : Option Nat) : String :=
  String.join ((e.diagnosticLines width).map Text.line)

end HarnessError

end Assay

import Assay.Duration
import Assay.Host.Basic
import Assay.Json.Basic
import Assay.Text.Utf8

/-! # Invocations

The record of one finished call of a tool: the words of its command, how the
process ended, and the bytes it wrote.
-/

namespace Assay

open Text (Bytes)

/-- What a finished process gave back. -/
structure Invocation where
  returnCode : Int
  stdout : Bytes
  stderr : Bytes
  deriving Repr, DecidableEq

namespace Invocation

def ofCompletion (c : Completion) : Invocation := ⟨c.exit.returnCode, c.stdout, c.stderr⟩

def success (i : Invocation) : Bool := i.returnCode == 0

def stdoutText (i : Invocation) : String := Text.lossy i.stdout

def stderrText (i : Invocation) : String := Text.lossy i.stderr

def toJson (i : Invocation) : Json :=
  .object [("returncode", .int i.returnCode), ("stdout", .text i.stdoutText),
    ("stderr", .text i.stderrText)]

end Invocation

/-- A double as a number; JSON has none for the doubles that are not finite. -/
def Number.Binary64.toJson (style : Number.Style) : Number.Binary64 → Json
  | .finite negative m => .number ((finite negative m).write style)
  | _ => .null

namespace Duration

/-- Seconds in a report are positional from `0.00001` up to below `1e16`, and a
positive exponent has its sign. -/
def jsonStyle : Number.Style := ⟨-5, 16, true, true⟩

def toJson (d : Duration) : Json := d.seconds.toJson jsonStyle

end Duration

/-- One call of a tool, as a case keeps it. -/
structure InvocationLog where
  tool : String
  command : List String
  output : Invocation
  duration : Duration
  deriving Repr, DecidableEq

namespace InvocationLog

/-- The words of the command with single spaces between them. -/
def commandLine (log : InvocationLog) : String := " ".intercalate log.command

def toJson (log : InvocationLog) : Json :=
  .object [("tool", .text log.tool), ("command", .texts log.command),
    ("output", log.output.toJson), ("duration", log.duration.toJson)]

end InvocationLog

end Assay

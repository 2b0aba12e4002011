import Assay.Text.Lines
import Assay.Tool.Invocation

/-! # Selection

A policy is a set of filters on the calls of the tool under test.  It is asked
after a case has run, since return codes and output are known only then.  A
filter that is not set matches everything.
-/

namespace Assay

/-- Which cases count: filters on the command line, the return code and the two
streams of one call. -/
structure Policy where
  command : Option String := none
  returnCode : Option Int := none
  stdout : Option String := none
  stderr : Option String := none
  deriving Repr, DecidableEq

namespace Policy

/-- No filter is set. -/
def isUnrestricted (p : Policy) : Bool :=
  p.command.isNone && p.returnCode.isNone && p.stdout.isNone && p.stderr.isNone

/-- Every filter that is set holds of the call: a pattern is a substring, and the
return code is equal. -/
def accepts (p : Policy) (log : InvocationLog) : Bool :=
  p.command.all (Text.contains log.commandLine) &&
  p.returnCode.all (· == log.output.returnCode) &&
  p.stdout.all (Text.contains log.output.stdoutText) &&
  p.stderr.all (Text.contains log.output.stderrText)

/-- A case is selected if the policy sets no filter or accepts one of its
calls. -/
def selects (p : Policy) (logs : List InvocationLog) : Bool :=
  p.isUnrestricted || logs.any p.accepts

def toJson (p : Policy) : Json :=
  .object [("command", .ofOption .text p.command), ("returncode", .ofOption .int p.returnCode),
    ("stdout", .ofOption .text p.stdout), ("stderr", .ofOption .text p.stderr)]

end Policy

end Assay

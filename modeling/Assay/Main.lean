import Assay.Cli.Program
import Assay.Sandbox.Host

/-! # The command line

The program runs in the sandbox.  Standard input holds a shell script that lays
out the fixtures and the tool under test there; then the suite is run as the
arguments say.
-/

namespace Assay.Cli

/-- The rest of a stream. -/
partial def readAll (stream : IO.FS.Stream) (sofar : String) : IO String := do
  let next ← stream.getLine
  if next.isEmpty then return sofar else readAll stream (sofar ++ next)

end Assay.Cli

def main (args : List String) : IO UInt32 := do
  let input ← IO.getStdin
  let script ← if ← input.isTty then pure "" else Assay.Cli.readAll input ""
  let output ← IO.getStdout
  let start : Assay.World Unit := { tree := Assay.Sandbox.prepared script, ambient := () }
  let ending := Assay.Cli.program Assay.Sandbox.host (← output.isTty) args start
  output.write ⟨ending.stdout.toArray⟩
  output.flush
  (← IO.getStderr).putStr ending.stderr
  return ending.exitCode.toUInt32

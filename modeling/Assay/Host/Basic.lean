import Assay.Host.Files
import Assay.Text.Utf8

/-! # The host

The harness runs on a host it knows little about.  A `World` is the file tree
together with everything else that programs may read or change (`σ`): clocks,
other processes, devices.  A `Host` starts programs in a world and reads a
clock; it is a parameter of all that follows, so every statement about a run
holds whatever the programs do.

Starting a program either fails, and then the world is as before, or runs it to
its end.
-/

namespace Assay

open Text (Bytes)

/-- The state of the host: a file tree and the rest. -/
structure World (σ : Type) where
  tree : Tree
  ambient : σ

/-- A program to be started: its name or path, its arguments, environment
entries to set on top of the inherited ones, and a directory to start in.  The
harness has all but the directory as texts; the host gets their encodings. -/
structure Launch where
  program : String
  args : List String
  env : List (String × String)
  cwd : Option Path
  deriving Repr, DecidableEq

namespace Launch

/-- Every text that is handed to the host. -/
def texts (l : Launch) : List String :=
  l.program :: l.args ++ l.env.flatMap fun kv => [kv.1, kv.2]

/-- No part of the launch has a NUL character, which none can be told with. -/
def expressible (l : Launch) : Bool :=
  (l.texts.all fun s => !s.toList.contains '\x00') && l.cwd.all fun dir => !dir.contains 0

end Launch

/-- How a process ended. -/
inductive Exit where
  | code (n : Nat)
  | signal (n : Nat)
  deriving Repr, DecidableEq

namespace Exit

/-- The exit code, or the negated number of the signal. -/
def returnCode : Exit → Int
  | .code n => n
  | .signal n => -n

end Exit

/-- What a finished process leaves: how it ended and what it wrote. -/
structure Completion where
  exit : Exit
  stdout : Bytes
  stderr : Bytes
  deriving Repr, DecidableEq

/-- A host: the directory the harness works in, how programs behave, and a clock
in nanoseconds. -/
structure Host (σ : Type) where
  cwd : Location
  launch : Launch → World σ → Except IoError (Completion × World σ)
  clock : World σ → Nat

namespace Host

variable {σ : Type}

/-- Start a program and wait for its end.  A launch that cannot be expressed is
refused without asking the host. -/
def start (host : Host σ) (l : Launch) (w : World σ) : Except IoError (Completion × World σ) :=
  if l.expressible then host.launch l w else .error .nulInCommand

end Host

end Assay

import Assay.Sandbox.Task
import Assay.Text.Lines

/-! # The kernel

Processes take turns: one goes on until it has to wait or ends, then comes the
one that has waited longest.  Loading a program looks at the file: a native
program is recognised by a marker, which its name follows; a script begins with
`#!` and the program that reads it.
-/

namespace Assay.Sandbox

open Text (Bytes)

namespace Image

/-- The first bytes of a native program. -/
def marker : Bytes := [0x7f, 0x45, 0x4c, 0x46]

/-- The contents of the native program with a given name. -/
def contents (name : String) : Bytes := marker ++ Text.utf8 name

/-- The most bytes of a script in which its first line is looked for. -/
def headSize : Nat := 256

/-- The program that reads a script and the argument it is given, from the first
line of the script. -/
def interpreter? (data : Bytes) : Option (String × List String) :=
  match data with
  | 0x23 :: 0x21 :: rest =>
    let isBlank (c : Char) : Bool := c == ' ' || c == '\t'
    let head := rest.take (headSize - 2)
    let line := (Octets.ofBytes (head.takeWhile fun b => b != 10 && b != 0)).toList.dropWhile isBlank
    let line := (line.reverse.dropWhile isBlank).reverse
    let path := line.takeWhile fun c => !isBlank c
    let argument := (line.drop path.length).dropWhile isBlank
    some (String.ofList path, if argument.isEmpty then [] else [String.ofList argument])
  | _ => none

/-- The native program that a file leads to, through at most `depth` scripts, and
the words it is started with. -/
def find (s : System) (pid : Nat) : (depth : Nat) → (path : String) → List String →
    Except IoError (String × List String)
  | 0, _, _ => .error .tooManyLinks
  | depth + 1, path, args => do
    match ← s.stat pid path with
    | .file data a =>
      if !a.executable then throw .denied
      if marker.isPrefixOf data then return (Octets.ofBytes (data.drop marker.length), args)
      match interpreter? data with
      | some (reader, argument) =>
        if reader.isEmpty then throw .badFormat
        find s pid depth reader (reader :: argument ++ path :: args.tail)
      | none => throw .badFormat
    | _ => throw .denied

/-- The most bytes of one word of a command line, with the one that ends it. -/
def wordLimit : Nat := 131072

/-- The most bytes of a command line and its environment. -/
def requestLimit : Nat := 2097152

/-- A request is too large to be loaded. -/
def tooLarge (r : Request) : Bool :=
  let sizes := (r.args ++ r.env).map fun w => w.length + 1
  sizes.any (wordLimit < ·) || requestLimit < sizes.foldl (· + ·) 0 + 8 * sizes.length

/-- How much later it is when a program has been loaded. -/
def loadingTime : Nat := 10000000

/-- Time goes by. -/
def advance (m : Moment) : Moment :=
  let nanos := m.nanos + loadingTime
  if nanos < 1000000000 then { m with nanos := nanos } else ⟨m.seconds + 1, nanos - 1000000000⟩

/-- The system after a program has been loaded: signals that were caught are not
any more, and descriptors that wait for it are closed. -/
def prepare (s : System) (pid : Nat) : System :=
  let s := s.updateProcess pid fun p =>
    { p with caught := [], descriptors := p.descriptors.filter fun d => !d.2.closing }
  { s with now := advance s.now }

end Image

/-- The native programs: what a name, words and an environment stand for. -/
abbrev Library := String → Option (List String → List String → Task)

/-- The system with the processes that run on it, the one whose turn it is
first. -/
structure Kernel where
  system : System
  queue : List (Nat × Task)
  /-- How many have had to wait since one went on. -/
  idle : Nat := 0

namespace Kernel

/-- The process whose turn it is, and what it does next. -/
def step (programs : Library) (k : Kernel) : Kernel :=
  match k.queue with
  | [] => k
  | (pid, task) :: rest =>
    match k.system.fatal? pid with
    | some signal => { system := k.system.finish pid (.signal signal), queue := rest }
    | none =>
      match task with
      | .exit status => { system := k.system.finish pid status, queue := rest }
      | .act f =>
        match f pid k.system with
        | .next system task => { system := system, queue := (pid, task) :: rest }
        | .wait =>
          if rest.length ≤ k.idle then { k with queue := [] }
          else { k with queue := rest ++ [(pid, task)], idle := k.idle + 1 }
      | .fork child next =>
        let (child', system) := k.system.spawn pid
        { system := system, queue := (pid, next child') :: rest ++ [(child', child)] }
      | .load request failed =>
        if Image.tooLarge request then
          { system := k.system, queue := (pid, failed (.os 7)) :: rest }
        else
          match Image.find k.system pid 6 request.path request.args with
          | .error e => { system := k.system, queue := (pid, failed e) :: rest }
          | .ok (name, args) =>
            match programs name with
            | none => { system := k.system, queue := (pid, failed .badFormat) :: rest }
            | some program =>
              { system := Image.prepare k.system pid
                queue := (pid, program args request.env) :: rest }

/-- Go on until no process is left, for at most so many steps. -/
def run (programs : Library) : (steps : Nat) → Kernel → System
  | 0, k => k.system
  | steps + 1, k => if k.queue.isEmpty then k.system else run programs steps (k.step programs)

/-- More steps than any process is expected to take. -/
def stepBound : Nat := 1000000000000

end Kernel

end Assay.Sandbox

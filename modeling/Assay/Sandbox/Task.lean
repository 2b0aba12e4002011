import Assay.Sandbox.System

/-! # Tasks

A task is what a process still has to do: it ends, or it acts on the system and
goes on with another task.  Between two actions other processes may act.

Programs are written as `Proc`s, which carry a state of their own and may give
up: a `Proc` says which task arises from what is to be done after it.
-/

namespace Assay.Sandbox

open Text (Bytes)

/-- A program to be loaded in place of the one that runs: the path of its file,
the words it is started with and its environment. -/
structure Request where
  path : String
  args : List String
  env : List String
  deriving Repr, DecidableEq

mutual

/-- What a process still has to do. -/
inductive Task where
  | exit (status : Exit)
  /-- Act on the system as the process with the given number. -/
  | act (f : Nat → System → Step)
  /-- A new process does the first task; this one goes on, knowing its number. -/
  | fork (child : Task) (next : Nat → Task)
  /-- Load another program, or go on if that cannot be done. -/
  | load (request : Request) (failed : IoError → Task)

/-- The outcome of an action. -/
inductive Step where
  /-- The action has to wait for others. -/
  | wait
  | next (system : System) (task : Task)

end

/-- A program with a state `σ` that gives `α`, or gives up with `ε`. -/
def Proc (σ ε α : Type) : Type := σ → (α → σ → Task) → (ε → σ → Task) → Task

namespace Proc

variable {σ ε α β : Type}

instance : Monad (Proc σ ε) where
  pure a := fun s k _ => k a s
  bind m f := fun s k h => m s (fun a s => f a s k h) h

instance : MonadStateOf σ (Proc σ ε) where
  get := fun s k _ => k s s
  set s := fun _ k _ => k () s
  modifyGet f := fun s k _ => let (a, s) := f s; k a s

instance : MonadExceptOf ε (Proc σ ε) where
  throw e := fun s _ h => h e s
  tryCatch m c := fun s k h => m s k (fun e s => c e s k h)

/-- Act on the system as often as it takes until there is a result. -/
def await (f : Nat → System → Option (α × System)) : Proc σ ε α := fun s k _ =>
  .act fun pid system =>
    match f pid system with
    | some (a, system) => .next system (k a s)
    | none => .wait

/-- Act on the system. -/
def perform (f : Nat → System → α × System) : Proc σ ε α := fun s k _ =>
  .act fun pid system =>
    let (a, system) := f pid system
    .next system (k a s)

/-- Ask the system something. -/
def ask (f : Nat → System → α) : Proc σ ε α := perform fun pid s => (f pid s, s)

/-- Change the system, or fail and leave it. -/
def change (f : Nat → System → Except IoError System) : Proc σ ε (Except IoError Unit) :=
  perform fun pid s =>
    match f pid s with
    | .ok s => (.ok (), s)
    | .error e => (.error e, s)

/-- Let others see what has been done so far. -/
def pause : Proc σ ε Unit := perform fun _ s => ((), s)

/-- End the process. -/
def leave (status : Exit) : Proc σ ε α := fun _ _ _ => .exit status

/-- The task of a program that is started with a state.  Whatever it gives is its
exit code. -/
def toTask (m : Proc σ Nat Nat) (s : σ) : Task :=
  m s (fun code _ => .exit (.code code)) (fun code _ => .exit (.code code))

/-- Start a new process that does `child` with the state as it is now. -/
def fork (child : Proc σ ε Empty) : Proc σ ε Nat := fun s k _ =>
  .fork (child s (fun e _ => nomatch e) (fun _ _ => .exit (.code 2))) fun pid => k pid s

/-- Load another program; an answer comes only if that cannot be done. -/
def load (request : Request) : Proc σ ε IoError := fun s k _ =>
  .load request fun e => k e s

/-! ## Files -/

/-- Read at most `limit` bytes from a descriptor. -/
def read (fd limit : Nat) : Proc σ ε (Except IoError Bytes) :=
  await fun pid s => s.read pid fd limit

/-- Write bytes to a descriptor, in as many pieces as it takes. -/
def writeAll (fd : Nat) : (pieces : Nat) → Bytes → Proc σ ε (Except IoError Unit)
  | 0, _ => return .ok ()
  | pieces + 1, data => do
    match ← await fun pid s => s.write pid fd data with
    | .error e => return .error e
    | .ok n => if n < data.length then writeAll fd pieces (data.drop n) else return .ok ()

/-- Write bytes to a descriptor. -/
def write (fd : Nat) (data : Bytes) : Proc σ ε (Except IoError Unit) :=
  writeAll fd (data.length + 1) data

/-- Open a file; the result is the least descriptor from `least` on. -/
def openFrom (least : Nat) (path : String) (access : System.Access) (mode : Nat) :
    Proc σ ε (Except IoError Nat) :=
  perform fun pid s =>
    match s.openPath pid path access mode with
    | .error e => (.error e, s)
    | .ok (index, s) =>
      let fd := s.freeDescriptor pid least
      (.ok fd, s.bindDescriptor pid fd { file := index })

/-- Open a file. -/
def openFile (path : String) (access : System.Access) (mode : Nat) :
    Proc σ ε (Except IoError Nat) :=
  openFrom 0 path access mode

/-- Open a file for reading. -/
def openInput (path : String) : Proc σ ε (Except IoError Nat) :=
  openFile path { reading := true } 0

def close (fd : Nat) : Proc σ ε Unit := perform fun pid s => ((), s.closeDescriptor pid fd)

/-- The descriptor is open. -/
def isOpen (fd : Nat) : Proc σ ε Bool := ask fun pid s => (s.file? pid fd).isSome

/-- The entry that a descriptor leads to. -/
def entryOf (fd : Nat) : Proc σ ε (Option Entry) :=
  ask fun pid s => (s.file? pid fd).bind fun f => s.entryOf f.2

def stat (path : String) : Proc σ ε (Except IoError Entry) := ask fun pid s => s.stat pid path

def lstat (path : String) : Proc σ ε (Except IoError Entry) := ask fun pid s => s.lstat pid path

/-- Read a descriptor to its end, in at most `pieces` pieces. -/
def readPieces (fd size : Nat) : (pieces : Nat) → List Bytes →
    Proc σ ε (Except IoError Bytes)
  | 0, sofar => return .ok sofar.reverse.flatten
  | pieces + 1, sofar => do
    match ← read fd size with
    | .error e => return .error e
    | .ok [] => return .ok sofar.reverse.flatten
    | .ok data => readPieces fd size pieces (data :: sofar)

/-- The most pieces that are read of one file. -/
def pieceBound : Nat := 1000000

/-- Read a descriptor to its end. -/
def readToEnd (fd : Nat) : Proc σ ε (Except IoError Bytes) := readPieces fd 65536 pieceBound []

end Proc

end Assay.Sandbox

import Assay.Sandbox.Shell.State

/-! # Children and signals

A job is a command that children of the shell do.  The shell waits for those in
the foreground, and tells if a signal has ended them.
-/

namespace Assay.Sandbox.Shell

/-- A new job. -/
def newJob : ShellM Nat := do
  let s ← get
  let jobs := s.jobs.filter fun j => j.running || !j.told
  let used := jobs.map (·.number)
  let number := ((List.range (used.length + 1)).map (· + 1)).find? (fun n => !used.contains n) |>.getD 1
  set { s with jobs := { number } :: jobs }
  return number

def updateJob (number : Nat) (f : Job → Job) : ShellM Unit := modify fun s =>
  { s with jobs := s.jobs.map fun j => if j.number = number then f j else j }

def job? (number : Nat) : ShellM (Option Job) :=
  return (← get).jobs.find? fun j => j.number = number

def dropJob (number : Nat) : ShellM Unit := modify fun s =>
  { s with jobs := s.jobs.filter fun j => j.number ≠ number }

/-! ## Signals -/

/-- Let the system know what is done when a signal arrives. -/
def applyTrap (signal : Nat) : ShellM Unit := do
  let s ← get
  unless signal = 0 || s.deaf.contains signal do
    let action := s.traps.lookup signal
    Proc.perform fun pid sys => ((), sys.updateProcess pid fun p =>
      let ignored := p.ignored.filter (· ≠ signal)
      let caught := p.caught.filter (· ≠ signal)
      match action with
      | none => { p with ignored := ignored, caught := caught }
      | some "" => { p with ignored := signal :: ignored, caught := caught }
      | some _ => { p with ignored := ignored, caught := signal :: caught })

/-- Say what is done when a signal arrives. -/
def setTrap (signal : Nat) (action : Option String) : ShellM Unit := do
  modify fun s =>
    let others := s.traps.filter fun t => t.1 ≠ signal
    { s with traps := match action with
        | some a => (signal, a) :: others
        | none => others }
  applyTrap signal

/-- Something is done when a signal arrives. -/
def State.hasTraps (s : State) : Bool := s.traps.any fun t => t.2 ≠ ""

/-- Forget what is done when signals arrive, as a subshell does; with `showing`
it is kept to be shown. -/
def clearTraps (showing : Bool) : ShellM Unit := do
  let traps := (← get).traps
  let active := traps.filter fun t => t.2 ≠ ""
  modify fun s => { s with traps := traps.filter fun t => t.2 = "" }
  active.forM fun t => applyTrap t.1
  if showing then modify fun s => { s with traps := traps }

/-- Take no notice of a signal from now on. -/
def ignoreSignal (signal : Nat) : ShellM Unit := do
  modify fun s => { s with deaf := signal :: s.deaf }
  Proc.perform fun pid sys => ((), sys.updateProcess pid fun p =>
    { p with ignored := signal :: p.ignored.filter (· ≠ signal), caught := p.caught.filter (· ≠ signal) })

/-- Note the signals that have arrived. -/
def noteSignals : ShellM Unit := do
  let signals ← Proc.perform fun pid s => s.takeSignals pid
  unless signals.isEmpty do
    modify fun s => { s with arrived := (s.arrived.filter fun n => !signals.contains n) ++ signals }

/-! ## Starting children -/

/-- A new process becomes a subshell. -/
def becomeSubshell (showingTraps : Bool) : ShellM Unit := do
  let s ← get
  for src in s.sources do
    match src.fd with
    | some fd => if 0 < fd then Proc.close fd
    | none => pure ()
  set { s with level := s.level + 1, sources := [], redirections := [], jobs := [], arrived := [] }
  clearTraps showingTraps

/-- How a child is started. -/
structure Start where
  job : Option Nat := none
  background : Bool := false
  /-- What is done when signals arrive is kept to be shown. -/
  showingTraps : Bool := false

/-- A process in the background does not hear the terminal, nor does the first of
a job read from it. -/
def enterBackground (first : Bool) : ShellM Unit := do
  ignoreSignal Signal.interrupt
  ignoreSignal Signal.quit
  if first then
    Proc.close 0
    let _ ← Proc.openInput "/dev/null"

/-- Start a child as part of a job. -/
def startChild (start : Start) (body : ShellM Empty) : ShellM Unit := do
  let first ← match start.job with
    | some n => pure ((← job? n).all fun j => j.children.isEmpty)
    | none => pure true
  let pid ← Proc.fork do
    becomeSubshell start.showingTraps
    if start.background then enterBackground first
    body
  if start.background then modify fun s => { s with background := pid }
  match start.job with
  | some n => updateJob n fun j =>
    { j with children := j.children ++ [{ pid }], background := start.background }
  | none => pure ()

/-! ## Waiting -/

/-- The status of a child. -/
def exitStatus : Exit → Nat
  | .code n => n
  | .signal n => n + 128

/-- The status of a job is that of its last child. -/
def Job.status (j : Job) : Nat :=
  match j.children.getLast? with
  | some c => (c.ended.map exitStatus).getD 0
  | none => 0

/-- What is printed when a child has been ended by a signal. -/
def endingText : Exit → Option String
  | .code _ => none
  | .signal n => if n = Signal.interrupt || n = Signal.brokenPipe then none else some (Signal.describe n)

/-- What comes first when a shell waits. -/
inductive Event where
  | ended (pid : Nat) (exit : Exit)
  | signal
  | nothing
  deriving Repr, DecidableEq

/-- Wait for the end of a child, or look whether one has ended. -/
def nextEvent (blocking hearing : Bool) : ShellM Event :=
  Proc.await fun pid s =>
    match s.reap pid with
    | some (child, exit, s) => some (.ended child exit, s)
    | none =>
      let p := s.process pid
      if hearing && p.pending.any p.caught.contains then some (.signal, s)
      else if !blocking || (s.children pid).isEmpty then some (.nothing, s)
      else none

/-- Take note of the end of a child; of the given job it is told. -/
def noteEnd (job : Option Nat) (pid : Nat) (exit : Exit) : ShellM Unit := do
  let s ← get
  match s.jobs.find? fun j => j.running && j.children.any fun c => c.pid = pid && c.ended.isNone with
  | none => pure ()
  | some j =>
    updateJob j.number fun j =>
      { j with children := j.children.map fun c =>
          if c.pid = pid then { c with ended := some exit } else c }
    if job = some j.number then
      match endingText exit with
      | some text => printOn 2 (text ++ "\n")
      | none => pure ()

/-- Take note of all children that have ended, waiting for none. -/
def noteEnded (job : Option Nat) : (rounds : Nat) → ShellM Unit
  | 0 => pure ()
  | rounds + 1 => do
    match ← nextEvent false false with
    | .ended pid exit =>
      noteEnd job pid exit
      noteEnded job rounds
    | _ => pure ()

/-- Wait until the job has come to its end; false if a signal arrives first. -/
def awaitJob (number : Nat) (hearing : Bool) : (rounds : Nat) → ShellM Bool
  | 0 => return true
  | rounds + 1 => do
    match ← job? number with
    | none => return true
    | some j =>
      if !j.running then
        noteEnded (some number) loopBound
        return true
      match ← nextEvent true hearing with
      | .ended pid exit =>
        noteEnd (some number) pid exit
        awaitJob number hearing rounds
      | .signal => return false
      | .nothing => return true

/-- Wait for a job in the foreground; its status. -/
def waitForJob (number : Nat) : ShellM Nat := do
  let _ ← awaitJob number false loopBound
  let status := ((← job? number).map Job.status).getD 0
  dropJob number
  return status

end Assay.Sandbox.Shell

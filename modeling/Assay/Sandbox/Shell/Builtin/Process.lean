import Assay.Sandbox.Shell.Builtin.Options
import Assay.Sandbox.Shell.Job

/-! # Builtin commands about children and signals -/

namespace Assay.Sandbox.Shell.Builtin

/-- The text is a number without a sign. -/
def isNumber (text : String) : Bool := !text.isEmpty && text.toList.all Char.isDigit

/-- The signal with a number. -/
def signalNumber? (text : String) : Option Nat :=
  if isNumber text then
    let n := Digits.number 10 text.toList
    if n ≤ Signal.last then some n else none
  else none

/-- The signal that a text names, from number `least` on. -/
def signal? (text : String) (least : Nat) : Option Nat :=
  match signalNumber? text with
  | some n => some n
  | none =>
    let upper := text.toList.map Char.toUpper
    (List.range (Signal.last + 1)).find? fun n =>
      least ≤ n && (Signal.name n).toList.map Char.toUpper == upper

/-- Say what is done when signals arrive, up to the first one that is unknown. -/
def setTraps (action : Option String) : List String → ShellM Nat
  | [] => return 0
  | text :: rest => do
    match signal? text 0 with
    | none =>
      printOn 2 ("trap: " ++ text ++ ": bad trap\n")
      return 1
    | some n =>
      setTrap n action
      setTraps action rest

def trap (args : List String) : ShellM Nat := do
  match (← plainOptions "" args).rest with
  | [] =>
    let s ← get
    for n in List.range (Signal.last + 1) do
      match s.traps.lookup n with
      | some action => print ("trap -- " ++ quote action ++ " " ++ Signal.name n ++ "\n")
      | none => pure ()
    return 0
  | [text] => setTraps none [text]
  | action :: rest =>
    if (signalNumber? action).isSome then setTraps none (action :: rest)
    else setTraps (if action = "-" then none else some action) rest

/-! ## Jobs -/

/-- The job that a text names. -/
def findJob (name : Option String) (controlled : Bool) : ShellM Job := do
  let jobs := (← get).jobs
  let shown := name.getD ""
  let found (j : Option Job) (message : String) : ShellM Job := do
    match j with
    | some j =>
      if controlled then fail ("job " ++ (name.getD "(null)") ++ " not created under job control")
      return j
    | none => fail message
  let unknown := "No such job: " ++ shown
  match name.map String.toList with
  | none | some ['%'] | some ['%', '+'] | some ['%', '%'] => found jobs.head? "No current job"
  | some ['%', '-'] => found (jobs[1]?) "No previous job"
  | some ('%' :: rest) =>
    let text := String.ofList rest
    if isNumber text then
      let n := Digits.number 10 rest
      if 0 < n then return ← found (jobs.find? fun j => j.number = n) unknown
    fail unknown
  | some _ => fail unknown

/-- What a job is doing. -/
def jobState (j : Job) : String :=
  if j.running then "Running"
  else match j.children.getLast?.bind (·.ended) with
    | some (.signal n) => Signal.describe n
    | some (.code 0) | none => "Done"
    | some (.code n) => "Done(" ++ toString n ++ ")"

/-- Show a job, with the numbers of its children or only the first of them. -/
def showJob (j : Job) (pids onlyFirst : Bool) : ShellM Unit := do
  let jobs := (← get).jobs
  if onlyFirst then
    print (toString ((j.children.head?.map (·.pid)).getD 0) ++ "\n")
  else
    let sign := if jobs.head? = some j then "+" else if jobs[1]? = some j then "-" else " "
    let lead := "[" ++ toString j.number ++ "] " ++ sign ++ " "
    let pid := if pids then toString ((j.children.head?.map (·.pid)).getD 0) ++ " " else ""
    let text := lead ++ pid ++ jobState j
    let blanks := String.ofList (List.replicate (max (33 - text.length) 1) ' ')
    print (text ++ blanks)
    for c in j.children.tail do
      if pids then
        let head := " |\n" ++ String.ofList (List.replicate lead.length ' ') ++ toString c.pid ++ " "
        print (head ++ String.ofList (List.replicate (max (33 - (head.length - 3)) 1) ' '))
      else print " | "
    print "\n"
    unless j.running do dropJob j.number

def jobs (args : List String) : ShellM Nat := do
  let p ← plainOptions "lp" args
  let last := p.options.getLast?.map (·.1)
  noteEnded none loopBound
  if p.rest.isEmpty then
    for j in (← get).jobs do
      showJob j (last = some 'l') (last = some 'p')
  else
    for name in p.rest do
      showJob (← findJob (some name) false) (last = some 'l') (last = some 'p')
  return 0

/-- Continue a job, which has to be under control. -/
def continueJob (args : List String) : ShellM Nat := do
  let p ← plainOptions "" args
  let _ ← findJob p.rest.head? true
  return 0

/-- Wait until no job is running; false if a signal arrives first. -/
def waitForAll : (rounds : Nat) → ShellM Bool
  | 0 => return true
  | rounds + 1 => do
    if !((← get).jobs.any Job.running) then
      modify fun s => { s with jobs := s.jobs.map fun j => { j with told := true } }
      return true
    match ← nextEvent true true with
    | .ended pid exit =>
      noteEnd none pid exit
      waitForAll rounds
    | .signal => return false
    | .nothing => return true

/-- The status of a command that a signal has ended: the one that arrived last. -/
def signalStatus : ShellM Nat := do
  noteSignals
  return 128 + ((← get).arrived.getLast?).getD 0

/-- Wait for jobs one after the other; the status of the last one. -/
def waitForEach : List String → (status : Nat) → ShellM Nat
  | [], status => return status
  | name :: rest, _ => do
    let job ←
      if name.toList.head? == some '%' then pure (some (← findJob (some name) false))
      else
        let pid ← number name
        pure ((← get).jobs.find? fun j => (j.children.getLast?.map (·.pid)) = some pid)
    match job with
    | none => waitForEach rest 127
    | some j =>
      if ← awaitJob j.number true loopBound then
        updateJob j.number fun j => { j with told := true }
        waitForEach rest (((← job? j.number).map Job.status).getD 0)
      else signalStatus

def wait (args : List String) : ShellM Nat := do
  let p ← plainOptions "" args
  if p.rest.isEmpty then
    if ← waitForAll loopBound then return 0 else signalStatus
  else waitForEach p.rest 127

/-! ## Signals -/

def killUsage : String :=
  "Usage: kill [-s sigspec | -signum | -sigspec] [pid | job]... or\nkill -l [exitstatus]"

/-- Send a signal to each process or job; the status tells whether one failed. -/
def sendAll (signal : Nat) : List String → (status : Nat) → ShellM Nat
  | [], status => return status
  | name :: rest, status => do
    let (pid, group) ← match name.toList with
      | '%' :: _ =>
        let j ← findJob (some name) false
        pure ((j.children.head?.map (·.pid)).getD 0, true)
      | '-' :: digits => pure (← number (String.ofList digits), true)
      | _ => pure (← number name, false)
    let result ←
      if group && pid ≠ 0 then pure (.error (.os 3))
      else Proc.change fun self s => s.send (if pid = 0 then self else pid) signal
    match result with
    | .ok () => sendAll signal rest status
    | .error e =>
      warn (plainError e ++ "\n")
      sendAll signal rest 1

/-- Show the name of a signal, or of all. -/
def listSignals (args : List String) : ShellM Nat := do
  match args with
  | [] =>
    print "0\n"
    for n in List.range Signal.last do
      print (Signal.name (n + 1) ++ "\n")
    return 0
  | text :: _ =>
    let n ← number text
    let signal := if 128 < n then n - 128 else n
    if 0 < signal && signal ≤ Signal.last then
      print (Signal.name signal ++ "\n")
      return 0
    fail ("invalid signal number or exit status: " ++ text)

def kill (args : List String) : ShellM Nat := do
  let parsed : Option Nat × Bool × List String ← match args with
    | [] => fail killUsage
    | first :: rest =>
      match first.toList with
      | '-' :: cs =>
        match signal? (String.ofList cs) 1 with
        | some n => pure (some n, false, rest)
        | none =>
          let p ← readOptions [⟨'l', false⟩, ⟨'s', true⟩] args []
          let mut signal : Option Nat := none
          for (c, value) in p.options do
            if c == 's' then
              match signal? value 1 with
              | some n => signal := some n
              | none => fail ("invalid signal number or name: " ++ value)
          pure (signal, p.has 'l', p.rest)
      | _ => pure (none, false, args)
  let (signal, listing, rest) := parsed
  if listing then
    if signal.isSome then fail killUsage
    listSignals rest
  else
    if rest.isEmpty then fail killUsage
    sendAll (signal.getD Signal.terminate) rest 0

def times (_ : List String) : ShellM Nat := do
  print "0m0.000000s 0m0.000000s\n0m0.000000s 0m0.000000s\n"
  return 0

end Assay.Sandbox.Shell.Builtin

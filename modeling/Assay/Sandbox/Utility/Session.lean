import Assay.Sandbox.Task

/-! # Utilities

A utility is a small program of the sandbox.  What it prints is kept back until
it ends or has a message to write.  Names and texts are octets.
-/

namespace Assay.Sandbox

open Text (Bytes)

/-- A utility while it runs. -/
structure Session where
  /-- The name it was started with, as messages show it. -/
  name : String
  env : List String := []
  /-- What it has printed and not written, the latest piece first. -/
  printed : List String := []
  /-- The length of what it has printed and not written. -/
  printedSize : Nat := 0
  /-- What it has printed could not be written. -/
  writeError : Option IoError := none
  /-- The exit code of a failure. -/
  failure : Nat := 1
  /-- The utility compares files, and words some messages in its own way. -/
  comparing : Bool := false
  /-- Something has failed, but the work went on. -/
  failed : Bool := false

/-- What a utility does; it may end with an exit code. -/
abbrev UtilityM := Proc Session Nat

/-- A utility: its arguments lead to an exit code. -/
abbrev Utility := List String → UtilityM Nat

namespace Session

/-- The value of an entry of the environment. -/
def setting (s : Session) (name : String) : Option String :=
  let lead := (name ++ "=").toList
  s.env.findSome? fun entry =>
    let cs := entry.toList
    if lead.isPrefixOf cs then some (String.ofList (cs.drop lead.length)) else none

/-- Texts are encoded in UTF-8. -/
def isUtf8 (s : Session) : Bool :=
  let chosen := ["LC_ALL", "LC_CTYPE", "LANG"].findSome? fun name =>
    (s.setting name).filter fun v => !v.isEmpty
  match chosen with
  | some text =>
    match text.toList with
    | 'C' :: '.' :: codeset =>
      String.ofList ((codeset.filter Char.isAlphanum).map Char.toLower) = "utf8"
    | _ => false
  | none => false

/-- Options are not looked for after the first operand. -/
def isPosix (s : Session) : Bool := (s.setting "POSIXLY_CORRECT").isSome

end Session

namespace UtilityM

/-- Print a text. -/
def print (text : String) : UtilityM Unit :=
  modify fun s => { s with printed := text :: s.printed, printedSize := s.printedSize + text.length }

/-- Write what has been printed. -/
def flush : UtilityM Unit := do
  let s ← get
  unless s.printed.isEmpty do
    set { s with printed := [], printedSize := 0 }
    let data := Octets.toBytes (String.join s.printed.reverse)
    unless data.isEmpty do
      match ← Proc.write 1 data with
      | .ok () => pure ()
      | .error e => modify fun s => { s with writeError := some e }

/-- Write a line to the standard error. -/
def complain (line : String) : UtilityM Unit := do
  flush
  let _ ← Proc.write 2 (Octets.toBytes (line ++ "\n"))

/-- Write a message that begins with the name of the utility. -/
def report (message : String) : UtilityM Unit := do complain ((← get).name ++ ": " ++ message)

/-- Write a message and go on, with a failure in the end. -/
def warn (message : String) : UtilityM Unit := do
  report message
  modify fun s => { s with failed := true }

/-- Write a message and end with a failure. -/
def fail {α : Type} (message : String) : UtilityM α := do
  report message
  throw (← get).failure

/-- What is said after a fault in the arguments. -/
def hint (name : String) : String := "Try '" ++ name ++ " --help' for more information."

/-- Refuse the arguments. -/
def refuse {α : Type} : UtilityM α := do
  let s ← get
  if s.comparing then report (hint s.name) else complain (hint s.name)
  throw s.failure

/-- How much is kept back at most. -/
def keptBound : Nat := 4096

/-- Write what has been printed if it is much; a failure to do so has a message. -/
def spill (message : String) : UtilityM Unit := do
  if keptBound ≤ (← get).printedSize then
    flush
    match (← get).writeError with
    | none => pure ()
    | some e =>
      modify fun s => { s with writeError := none }
      fail (message ++ ": " ++ plainError e)

/-- Complain if the standard input, which one of the operands stands for, was never
open. -/
def closeInput (message : String) (operands : List String) : UtilityM Unit := do
  if operands.contains "-" && !(← Proc.isOpen 0) then
    fail (message ++ ": " ++ plainError .badDescriptor)

/-- Let the standard descriptors that are closed lead to the null device, in the
wrong direction. -/
def fillStandard : UtilityM Unit :=
  [0, 1, 2].forM fun fd => do
    if !(← Proc.isOpen fd) then
      let _ ← Proc.openFile "/dev/null" { reading := fd ≠ 0, writing := fd = 0 } 0

/-- The exit code that tells whether something has failed. -/
def outcome : UtilityM Nat := do
  let s ← get
  return if s.failed then s.failure else 0

end UtilityM

/-- The work of a utility to its very end: what has been printed is written.  The
reason of a failure to write is only known if it is the last thing that happens. -/
def Utility.finish (u : Utility) (args : List String) : UtilityM Nat := do
  let code ← try u args catch code => pure code
  let early := (← get).writeError.isSome
  modify fun s => { s with writeError := none }
  UtilityM.flush
  let s ← get
  match s.writeError with
  | some e =>
    UtilityM.report ((if s.comparing then "standard output: " else "write error: ") ++ plainError e)
    return s.failure
  | none =>
    if !early then return code
    let reason := if ← Proc.isOpen 1 then "" else ": " ++ plainError .badDescriptor
    UtilityM.report (if s.comparing then "write failed" else "write error" ++ reason)
    return s.failure

/-- The task of a utility. -/
def Utility.task (u : Utility) (failure : Nat) (comparing : Bool) (words env : List String) : Task :=
  (u.finish words.tail).toTask { name := words.headD "", env, failure, comparing }

/-- Succeed, whatever the arguments are. -/
def Utility.returnZero : Utility := fun _ => return 0

/-- Fail, whatever the arguments are. -/
def Utility.returnOne : Utility := fun _ => return 1

end Assay.Sandbox

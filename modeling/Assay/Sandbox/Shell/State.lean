import Assay.Sandbox.Shell.Arithmetic
import Assay.Sandbox.Shell.Parser
import Assay.Sandbox.Task

/-! # The state of a shell

What a shell knows while it works: variables, functions, options, what it reads
its commands from, the children it has started, and how the latest command ended.
`ShellM` is what a shell does; it may give up what it is doing with an
`Interrupt`.
-/

namespace Assay.Sandbox.Shell

/-- Why a shell gives up what it is doing. -/
inductive Interrupt where
  /-- A mistake, whose message has been printed. -/
  | error
  /-- The shell has been told to exit. -/
  | exit
  /-- The shell has nothing left to do. -/
  | ended
  deriving Repr, DecidableEq

/-- Commands that are passed over until some point is reached. -/
inductive Skip where
  | break_
  | continue_
  /-- Up to the end of a function, with a status of its own. -/
  | function
  /-- Up to the end of a function. -/
  | rest
  deriving Repr, DecidableEq

/-- A variable; without a value it has been named only. -/
structure Variable where
  value : Option String
  exported : Bool := false
  fixed : Bool := false
  /-- It is still known when its value is taken away. -/
  held : Bool := false
  deriving Repr, DecidableEq

/-- What a variable was before it became local to a function. -/
structure Saved where
  name : String
  before : Option Variable
  deriving Repr, DecidableEq

/-- What is undone at the end of a function. -/
inductive Local where
  | value (saved : Saved)
  /-- The options that were set. -/
  | options (enabled : List String)
  deriving Repr, DecidableEq

/-- A function. -/
structure Function where
  body : Command

/-- A command found in a directory of the search path. -/
structure Found where
  index : Nat
  /-- The working directory has changed since. -/
  stale : Bool := false
  deriving Repr, DecidableEq

/-- Where a shell reads its commands from. -/
structure Source where
  /-- The descriptor that more of the script is read from. -/
  fd : Option Nat
  input : Parser.Input

/-- A child of a shell. -/
structure Child where
  pid : Nat
  /-- How it ended, if that is known. -/
  ended : Option Exit := none
  deriving Repr, DecidableEq

/-- Children that make one command together. -/
structure Job where
  number : Nat
  children : List Child := []
  /-- Its end has been told. -/
  told : Bool := false
  /-- It runs in the background. -/
  background : Bool := false
  deriving Repr, DecidableEq

/-- A child is still running. -/
def Job.running (j : Job) : Bool := j.children.any fun c => c.ended.isNone

/-- A descriptor that has been redirected for a while. -/
inductive Kept where
  /-- It was closed. -/
  | closed
  /-- It has been moved to another descriptor. -/
  | moved (fd : Nat)
  deriving Repr, DecidableEq

/-- The arguments of a script or a function, and how far they have been read as
options. -/
structure Arguments where
  list : List String := []
  /-- The number of the next argument to be looked at. -/
  next : Nat := 1
  /-- How many characters of the argument before it have been read. -/
  offset : Option Nat := none
  deriving Repr, DecidableEq

/-- The state of a shell. -/
structure State where
  /-- The name of the shell or the script, as messages show it. -/
  name : String
  arguments : Arguments := {}
  bindings : List (String × Variable) := []
  locals : List (List Local) := []
  functions : List (String × Function) := []
  aliases : List (String × String) := []
  /-- The options that are set. -/
  enabled : List String := []
  found : List (String × Found) := []
  /-- What is done when a signal arrives; nothing means that it is ignored. -/
  traps : List (Nat × String) := []
  /-- Signals that were ignored from the start. -/
  deaf : List Nat := []
  /-- Signals that have arrived and whose actions are still to be done. -/
  arrived : List Nat := []
  jobs : List Job := []
  /-- The latest child in the background. -/
  background : Nat := 0
  /-- The number of the shell that all subshells belong to. -/
  rootPid : Nat := 0
  /-- How many shells this one is within. -/
  level : Nat := 0
  status : Nat := 0
  /-- The status that an exit within an action of a signal has. -/
  kept : Option Nat := none
  /-- The status of the latest command substitution. -/
  outputStatus : Nat := 0
  raised : Interrupt := .ended
  skip : Option Skip := none
  /-- How many loops are left to be ended. -/
  skipCount : Nat := 0
  loops : Nat := 0
  /-- How many functions are active. -/
  calls : Nat := 0
  /-- The line that messages show. -/
  line : Nat := 0
  /-- The command that messages show. -/
  command : Option String := none
  sources : List Source := []
  documents : Array Word := #[]
  redirections : List (List (Nat × Kept)) := []
  /-- Where commands are shown before they are done. -/
  traceTo : Nat := 2
  /-- The text before a command that is shown is being expanded. -/
  tracing : Bool := false
  /-- Text to be printed, the latest piece first. -/
  output : List String := []
  /-- Something could not be printed. -/
  outputFailed : Bool := false
  /-- The working directory as it was reached. -/
  directory : String := ""
  /-- The working directory without links. -/
  physical : String := ""
  /-- Limits that have been set, by letter; nothing means no limit. -/
  limits : List (Char × Option Nat) := []

/-- What a shell does. -/
abbrev ShellM := Proc State Interrupt

/-- How often a loop goes round at most. -/
def loopBound : Nat := 1000000000000

/-! ## Messages -/

/-- Print a text on a descriptor at once. -/
def printOn (fd : Nat) (text : String) : ShellM Unit := do
  let _ ← Proc.write fd (Octets.toBytes text)

/-- Print a text when the command is done. -/
def print (text : String) : ShellM Unit := modify fun s => { s with output := text :: s.output }

/-- Print what is to be printed. -/
def flush : ShellM Unit := do
  let s ← get
  unless s.output.isEmpty do
    set { s with output := [] }
    match ← Proc.write 1 (Octets.toBytes (String.join s.output.reverse)) with
    | .ok () => pure ()
    | .error _ => modify fun s => { s with outputFailed := true }

/-- Print a message with its place in the script. -/
def warn (message : String) : ShellM Unit := do
  let s ← get
  let place := s.name ++ ": " ++ toString s.line ++ ": "
  let command := match s.command with
    | some c => c ++ ": "
    | none => ""
  printOn 2 (place ++ command ++ message ++ "\n")

/-- Give up. -/
def interrupt {α : Type} (i : Interrupt) : ShellM α := do
  modify fun s => { s with raised := i }
  throw i

/-- Give up with a message and the status as it is. -/
def failWith {α : Type} (status : Nat) (message : String) : ShellM α := do
  modify fun s => { s with status := status }
  warn message
  flush
  interrupt .error

/-- Give up with a message. -/
def fail {α : Type} (message : String) : ShellM α := failWith 2 message

/-- A text that is not a number of the wanted kind. -/
def badNumber {α : Type} (text : String) : ShellM α := fail ("Illegal number: " ++ text)

/-- The decimal number that a text stands for, with blanks around it; the number
may be as large as 64 bits allow. -/
def integer? (text : String) : Option Int :=
  let cs := text.toList.dropWhile Digits.isSpace
  let (negative, cs) := Digits.sign cs
  let (digits, rest) := Digits.split 10 cs.length cs
  let n := Digits.signed negative (Digits.number 10 digits)
  let limit : Int := Arithmetic.greatest
  if digits.isEmpty || !(rest.dropWhile Digits.isSpace).isEmpty || limit < n || n < -limit - 1 then none
  else some n

/-- The greatest number that counts something. -/
def countLimit : Nat := Nat.pow 2 31 - 1

/-- The number that a text stands for. -/
def number (text : String) : ShellM Nat := do
  match integer? text with
  | some n => if n < 0 || (countLimit : Int) < n then badNumber text else return n.toNat
  | none => badNumber text

/-! ## Options -/

/-- The options by name and letter. -/
def optionTable : List (String × Option Char) :=
  [("errexit", some 'e'), ("noglob", some 'f'), ("ignoreeof", some 'I'), ("interactive", some 'i'),
    ("monitor", some 'm'), ("noexec", some 'n'), ("stdin", some 's'), ("xtrace", some 'x'),
    ("verbose", some 'v'), ("vi", some 'V'), ("emacs", some 'E'), ("noclobber", some 'C'),
    ("allexport", some 'a'), ("notify", some 'b'), ("nounset", some 'u'), ("privileged", some 'p'),
    ("nolog", none), ("debug", none)]

def State.has (s : State) (option : String) : Bool := s.enabled.contains option

/-- The option is set. -/
def isSet (option : String) : ShellM Bool := return (← get).has option

/-- Set or clear an option. -/
def setOption (name : String) (on : Bool) : ShellM Unit := modify fun s =>
  let others := s.enabled.filter (· ≠ name)
  { s with enabled := if on then name :: others else others }

/-- Set or clear the option with a letter. -/
def setLetter (letter : Char) (on : Bool) : ShellM Unit := do
  match optionTable.find? fun o => o.2 = some letter with
  | none => fail ("Illegal option -" ++ letter.toString)
  | some (name, _) =>
    setOption name on
    if on && name = "vi" then setOption "emacs" false
    if on && name = "emacs" then setOption "vi" false

/-- The letters of the options that are set. -/
def State.letters (s : State) : String :=
  String.ofList (optionTable.reverse.filterMap fun o => if s.has o.1 then o.2 else none)

/-! ## Variables -/

def State.named? (s : State) (name : String) : Option Variable := s.bindings.lookup name

/-- The value of a variable. -/
def State.value? (s : State) (name : String) : Option String := (s.named? name).bind (·.value)

/-- Entries in which a name has a value, where it was or at the end. -/
def putEntry {α : Type} (entries : List (String × α)) (name : String) (value : α) :
    List (String × α) :=
  if (entries.lookup name).isSome then entries.map fun x => if x.1 = name then (name, value) else x
  else entries ++ [(name, value)]

/-- Entries without those of a name. -/
def dropEntry {α : Type} (entries : List (String × α)) (name : String) : List (String × α) :=
  entries.filter fun x => x.1 ≠ name

def State.put (s : State) (name : String) (v : Variable) : State :=
  { s with bindings := putEntry s.bindings name v }

def State.remove (s : State) (name : String) : State :=
  { s with bindings := dropEntry s.bindings name }

def lookup (name : String) : ShellM (Option String) := return (← get).value? name

/-- Where blanks are that separate fields unless something else is said. -/
def defaultSeparators : String := " \t\n"

/-- The characters that separate fields. -/
def State.separators (s : State) : String := (s.value? "IFS").getD defaultSeparators

/-- The search path. -/
def State.searchPath (s : State) : String := (s.value? "PATH").getD ""

/-- What else happens when a variable gets a value. -/
def onChange (name : String) (value : String) : ShellM Unit := do
  if name = "PATH" then modify fun s => { s with found := [] }
  else if name = "OPTIND" then
    let n ← number value
    modify fun s => { s with arguments := { s.arguments with next := max n 1, offset := none } }

/-- Set a variable whose name is known to be one, or take its value away. -/
def assignNamed (name : String) (value : Option String) (exported fixed held : Bool) :
    ShellM Unit := do
  let s ← get
  let old := s.named? name
  if old.any (·.fixed) then fail (name ++ ": is read only")
  onChange name (value.getD "")
  let exported := exported || s.has "allexport"
  let held := held || old.any (·.held)
  if value.isNone && !exported && !fixed && !held then modify fun s => s.remove name
  else
    let exported := exported || old.any (·.exported)
    modify fun s => s.put name { value, exported, fixed, held }

/-- Refuse a name that is none.  The name ends where an equals sign stands. -/
def checkName (name : String) : ShellM Unit :=
  unless isName name.toList do fail (name ++ ": bad variable name")

/-- Set a variable. -/
def assign (name value : String) : ShellM Unit := do
  checkName name
  assignNamed name (some value) false false false

/-- Remove a variable. -/
def unassign (name : String) : ShellM Unit := do
  checkName name
  assignNamed name none false false false

/-- The name and the value of an assignment. -/
def splitText (text : String) : String × Option String :=
  let cs := text.toList
  let name := cs.takeWhile (· != '=')
  match cs.drop name.length with
  | _ :: value => (String.ofList name, some (String.ofList value))
  | [] => (text, none)

/-- Make a variable local to the current function, with a new value if there is
one. -/
def makeLocal (text : String) (exported : Bool) : ShellM Unit := do
  let keep (l : Local) : ShellM Unit := modify fun s =>
    { s with locals := match s.locals with
        | top :: rest => (l :: top) :: rest
        | [] => [] }
  if text = "-" then
    keep (.options (← get).enabled)
  else
    let (name, value) := splitText text
    match (← get).named? name with
    | none =>
      if value.isNone then checkName name
      assignNamed name value exported false true
      keep (.value ⟨name, none⟩)
    | some v =>
      keep (.value ⟨name, some v⟩)
      modify fun s => s.put name { v with held := true }
      if value.isSome then assignNamed name value exported false false

/-- Undo what is local to the innermost function. -/
def dropLocals : ShellM Unit := do
  match (← get).locals with
  | [] => pure ()
  | top :: rest =>
    modify fun s => { s with locals := rest }
    for l in top do
      match l with
      | .options enabled => modify fun s => { s with enabled := enabled }
      | .value ⟨name, none⟩ =>
        if name = "OPTIND" then pure () else modify fun s => s.remove name
      | .value ⟨name, some v⟩ =>
        if name = "PATH" || name = "OPTIND" then onChange name (v.value.getD "")
        modify fun s => s.put name v

/-- The variables in the order of their names. -/
def State.sorted (s : State) : List (String × Variable) :=
  s.bindings.mergeSort fun a b => a.1 ≤ b.1

/-- The environment of programs that are loaded. -/
def State.environment (s : State) : List String :=
  s.bindings.filterMap fun (name, v) =>
    if v.exported then v.value.map fun value => name ++ "=" ++ value else none

/-! ## Quoting -/

/-- The texts between and the single quotes of a text, in which they stand in
double quotes. -/
def quotePieces : (fuel : Nat) → List Char → List Char
  | 0, _ => []
  | fuel + 1, cs =>
    let plain := cs.takeWhile (· != '\'')
    let rest := cs.dropWhile (· != '\'')
    let quotes := rest.takeWhile (· == '\'')
    let rest := rest.dropWhile (· == '\'')
    let quoted := '\'' :: plain ++ ['\'']
    let marks := if quotes.isEmpty then [] else '"' :: quotes ++ ['"']
    let more := if rest.isEmpty then [] else quotePieces fuel rest
    quoted ++ marks ++ more

/-- A text as it can be read back. -/
def quote (text : String) : String :=
  String.ofList (quotePieces (text.length + 1) text.toList)

/-! ## Reading commands -/

/-- Put text at the end of what is to be read. -/
def appendText (segments : List Parser.Segment) (text : List Char) : List Parser.Segment :=
  match segments with
  | [] => [⟨text, none⟩]
  | [⟨t, none⟩] => [⟨t ++ text, none⟩]
  | s :: rest => s :: appendText rest text

/-- The part of a script that has been read and not used, aliases apart. -/
def remaining (segments : List Parser.Segment) : List Char :=
  match segments.getLast? with
  | some ⟨t, none⟩ => t
  | _ => []

/-- The lines of `before` that have been touched when `after` is left of it. -/
def touched (before after : List Char) : List Char :=
  let used := before.take (before.length - after.length)
  if used.isEmpty || used.getLast? == some '\n' then used
  else used ++ after.takeWhile (· != '\n') ++ (after.dropWhile (· != '\n')).take 1

/-- How many bytes of a script are read at once. -/
def blockSize : Nat := 8191

/-- Change the innermost source. -/
def updateSource (f : Source → Source) : ShellM Unit := modify fun s =>
  { s with sources := match s.sources with
      | top :: rest => f top :: rest
      | [] => [] }

/-- Read the next block of a script. -/
def readBlock (fd : Nat) : ShellM Unit := do
  match ← Proc.read fd blockSize with
  | .ok [] | .error _ => updateSource fun src => { src with input := { src.input with ended := true } }
  | .ok data =>
    let text := (Octets.ofBytes data).toList.filter (· != '\x00')
    updateSource fun src =>
      { src with input := { src.input with segments := appendText src.input.segments text } }

/-- Show lines that have been read, if they are to be shown. -/
def showLines (fd : Option Nat) (before after : List Parser.Segment) : ShellM Unit := do
  if fd.isSome && (← isSet "verbose") then
    let text := touched (remaining before) (remaining after)
    unless text.isEmpty do printOn 2 (String.ofList text)

/-- Read the next command, in at most so many blocks. -/
def readCommandIn : (blocks : Nat) → ShellM Parser.Portion
  | 0 => return .finished
  | blocks + 1 => do
    let s ← get
    match s.sources with
    | [] => return .finished
    | src :: _ =>
      let start : Parser.Input :=
        { src.input with aliases := s.aliases, documents := s.documents }
      match Parser.portion.run start with
      | .ok p input =>
        updateSource fun src => { src with input := { input with documents := #[] } }
        modify fun s => { s with documents := input.documents }
        showLines src.fd start.segments input.segments
        return p
      | .error .more _ =>
        match src.fd with
        | some fd => readBlock fd
        | none => updateSource fun src => { src with input := { src.input with ended := true } }
        readCommandIn blocks
      | .error (.fault line message) input =>
        updateSource fun src => { src with input := { input with documents := #[] } }
        showLines src.fd start.segments input.segments
        modify fun s => { s with line := line }
        fail message

/-- Read the next command. -/
def readCommand : ShellM Parser.Portion := readCommandIn loopBound

/-- Read commands from a text. -/
def pushText (text : String) : ShellM Unit := modify fun s =>
  let input : Parser.Input := { segments := [⟨text.toList, none⟩], ended := true }
  { s with sources := ⟨none, input⟩ :: s.sources }

/-- Read commands from a descriptor. -/
def pushFile (fd : Nat) : ShellM Unit := modify fun s =>
  let input : Parser.Input := { segments := [], ended := false }
  { s with sources := ⟨some fd, input⟩ :: s.sources }

/-- Go back to what commands were read from before. -/
def popSource : ShellM Unit := do
  match (← get).sources with
  | [] => pure ()
  | src :: rest =>
    match src.fd with
    | some fd => if 0 < fd then Proc.close fd
    | none => pure ()
    modify fun s => { s with sources := rest }

end Assay.Sandbox.Shell

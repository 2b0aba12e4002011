import Assay.Sandbox.Shell.Builtin.Directory
import Assay.Sandbox.Shell.Builtin.Limits
import Assay.Sandbox.Shell.Builtin.Names
import Assay.Sandbox.Shell.Builtin.Process
import Assay.Sandbox.Shell.Builtin.Text
import Assay.Sandbox.Shell.Builtin.Variables
import Assay.Sandbox.Shell.Redirection

/-! # Doing commands

What commands do.  Commands hold each other, and builtin commands read others, so
everything here is given the evaluator for the commands inside; `run` ties the
knot, up to a depth.
-/

namespace Assay.Sandbox.Shell

/-- Where a command stands. -/
structure Setting where
  /-- The shell has nothing else to do after it. -/
  final : Bool := false
  /-- Its status is asked for, so it does not end the shell. -/
  tested : Bool := false
  deriving Repr, DecidableEq

/-- An evaluator: what commands do, and their status. -/
abbrev Evaluator := Command → Setting → ShellM Nat

/-- The search path of `command -p`. -/
def standardPath : String := "/usr/local/sbin:/usr/local/bin:/usr/sbin:/usr/bin:/sbin:/bin"

/-- How many functions may be active at once. -/
def callLimit : Nat := 1000

/-- What a simple command turns out to be. -/
inductive Located where
  | builtin (name : String)
  | function (f : Function)
  | program
  /-- Assignments and redirections only. -/
  | nothing

section Evaluation

variable (eval : Evaluator)

/-! ## Scripts within scripts -/

/-- Do the commands of the innermost source; the status of the last one. -/
def evalSource (setting : Setting) : (rounds : Nat) → (status : Nat) → ShellM Nat
  | 0, status => return status
  | rounds + 1, status => do
    match ← readCommand with
    | .finished => return status
    | .line none => evalSource setting rounds status
    | .line (some c) =>
      let status ← eval c setting
      if (← get).skip.isSome then return status
      evalSource setting rounds status

/-- Do the commands of a text. -/
def evalText (text : String) (setting : Setting) : ShellM Nat := do
  pushText text
  let status ← evalSource eval setting loopBound 0
  popSource
  return status

/-- Do the commands of a file or of the input. -/
def evalFile : (rounds : Nat) → (status : Nat) → ShellM Nat
  | 0, status => return status
  | rounds + 1, status => do
    match ← readCommand with
    | .finished => return status
    | portion =>
      let status ← match portion with
        | .line (some c) => eval c {}
        | _ => pure status
      match (← get).skip with
      | none => evalFile rounds status
      | some skip =>
        if skip = .function || skip = .rest then modify fun s => { s with skip := none }
        return status

/-! ## Signals and the end -/

/-- Do what is to be done for the signals that have arrived. -/
def doActions (status : Nat) : List Nat → ShellM Unit
  | [] => pure ()
  | signal :: rest => do
    if (← get).skip.isSome then pure ()
    else
      modify fun s => { s with arrived := s.arrived.filter (· ≠ signal) }
      match (← get).traps.lookup signal with
      | none => pure ()
      | some action =>
        let _ ← evalText eval action {}
        if (← get).skip ≠ some .function then modify fun s => { s with status := status }
      doActions status rest

/-- Do what is to be done for signals. -/
def doTraps : ShellM Unit := do
  noteSignals
  let s ← get
  unless s.arrived.isEmpty do
    let status := s.kept.getD s.status
    set { s with kept := some status }
    doActions eval status s.arrived.mergeSort
    modify fun s' => { s' with kept := s.kept }

/-- Forget where the shell was. -/
def resetForExit : ShellM Unit := do
  modify fun s =>
    let restored := s.raised = .exit || s.skip = some .rest
    { s with
      status := if restored then s.kept.getD s.status else s.status
      kept := none
      skip := none
      loops := 0
      tracing := false }
  unwindRedirections 0

/-- End the shell, after doing what is to be done at its end. -/
def exitShell {α : Type} : ShellM α := do
  modify fun s => { s with kept := some s.status }
  try
    match (← get).traps.lookup 0 with
    | none => pure ()
    | some action =>
      modify fun s => { s with traps := s.traps.filter fun t => t.1 ≠ 0, skip := none }
      let _ ← evalText eval action {}
      modify fun s => { s with skip := some .rest }
  catch _ => pure ()
  resetForExit
  flush
  Proc.leave (.code ((← get).status % 256))

/-- Do something as the last thing that the shell does. -/
def finishWith {α : Type} (body : ShellM Unit) : ShellM α := do
  try body
  catch _ => resetForExit
  exitShell eval

/-- Do a command as the last thing that a subshell does. -/
def finishCommand {α : Type} (c : Command) (setting : Setting) : ShellM α :=
  finishWith eval do
    let _ ← eval c { setting with final := true }

/-- The command may only show what is done when signals arrive. -/
def showsTraps : Command → Bool
  | .simple _ _ (w :: _) _ => (Word.plain? w).map String.ofList = some "trap"
  | _ => false

/-! ## Command substitution -/

/-- Newlines at the end do not count. -/
def withoutNewlines (text : List Char) : List Char :=
  (text.reverse.dropWhile (· == '\n')).reverse

/-- What a command prints. -/
def outputOf (body : Option Command) : ShellM String := do
  match body with
  | none => return ""
  | some c =>
    let (input, out) ← Proc.perform fun pid s => s.openPipe pid
    let job ← newJob
    startChild { job := some job, showingTraps := showsTraps c } do
      Proc.close input
      if out ≠ 1 then
        copyOnto out 1
        Proc.close out
      finishCommand eval c {}
    Proc.close out
    let data ← Proc.readToEnd input
    Proc.close input
    let status ← waitForJob job
    modify fun s => { s with outputStatus := status }
    let data := match data with
      | .ok data => data
      | .error _ => []
    let text := (Octets.ofBytes data).toList.filter (· != '\x00')
    return String.ofList (withoutNewlines text)

/-! ## Simple commands -/

/-- Expand words until there is one. -/
def fillWords : List Word → ShellM (List String × List Word)
  | [] => return ([], [])
  | w :: rest => do
    match ← expandFields (outputOf eval) w with
    | [] => fillWords rest
    | words => return (words, rest)

/-- Expand the rest of the words; `assigning` tells that assignments are words
without fields. -/
def expandRest (assigning : Bool) (ws : List Word) : ShellM (List String) := do
  let fields ← ws.mapM fun w =>
    if assigning && Word.isAssignment w then
      return [← expandText (outputOf eval) { assignment := true } w]
    else expandFields (outputOf eval) w
  return fields.flatten

/-- A simple command whose words are being found. -/
structure Finding where
  /-- All words, as they are shown. -/
  shown : List String
  /-- The words from the command on. -/
  words : List String
  rest : List Word
  located : Located
  /-- The first command was special. -/
  isSpecial : Option Bool := none
  /-- The command may not be a function. -/
  noFunction : Bool := false
  path : Option String := none

/-- What a name stands for, files apart. -/
def locate (name : String) (noFunction : Bool) : ShellM Located := do
  if name.toList.contains '/' then return .program
  match (← get).functions.lookup name with
  | some f => if !noFunction then return .function f
  | none => pure ()
  return if Builtin.isBuiltin name then .builtin name else .program

/-- Options of `command` that only change how the next word is looked up: the
words from that one on, with the words left to be expanded and the path; nothing
if there are others or no word follows. -/
def commandOptions : (fuel : Nat) → List String → List Word → (shown : List String) →
    Option String → ShellM (Option (List String × List Word × Option String) × List String × List Word)
  | 0, words, rest, shown, _ => return (none, shown ++ words, rest)
  | fuel + 1, words, rest, shown, path => do
    let (words, rest) ← if words.isEmpty then fillWords eval rest else pure (words, rest)
    match words with
    | [] => return (none, shown, rest)
    | w :: more =>
      match w.toList with
      | ['-', '-'] =>
        let (more, rest) ← if more.isEmpty then fillWords eval rest else pure (more, rest)
        let shown := shown ++ [w]
        if more.isEmpty then return (none, shown, rest)
        return (some (more, rest, path), shown, rest)
      | '-' :: c :: cs =>
        if (c :: cs).all (· == 'p') then
          commandOptions fuel more rest (shown ++ [w]) (some standardPath)
        else return (none, shown ++ words, rest)
      | _ => return (some (words, rest, path), shown, rest)

/-- Find out what the first word stands for, going past `command`. -/
def findCommand : (fuel : Nat) → Finding → ShellM Finding
  | 0, f => return f
  | fuel + 1, f => do
    let name := f.words.headD ""
    let located ← locate name f.noFunction
    let f := { f with located := located }
    match located with
    | .builtin name =>
      let f := { f with isSpecial := some (f.isSpecial.getD (Builtin.special.contains name)) }
      if name ≠ "command" then return f
      let (found, shown, rest) ← commandOptions eval (f.words.length + f.rest.length + 1) f.words.tail f.rest
        [name] f.path
      match found with
      | none =>
        let before := f.shown.take (f.shown.length - f.words.length)
        return { f with words := shown, rest := rest, shown := before ++ shown }
      | some (words, rest, path) =>
        let before := f.shown.take (f.shown.length - f.words.length)
        findCommand fuel
          { f with words := words, rest := rest, path := path, noFunction := true, shown := before ++ shown ++ words }
    | _ => return f

/-- The text before a command that is shown. -/
def tracePrompt : ShellM String := do
  let s ← get
  let text := (s.value? "PS4").getD ""
  let input : Parser.Input := { segments := [], ended := true, documents := s.documents }
  match (Parser.quotedText text).run input with
  | .ok w input =>
    modify fun s => { s with documents := input.documents }
    expandText (outputOf eval) { quoted := true } w
  | .error _ _ => return text

/-- Show a command before it is done. -/
def trace (assignments words : List String) : ShellM Unit := do
  let s ← get
  if s.has "xtrace" && !s.tracing then
    modify fun s => { s with tracing := true }
    let lead ← tracePrompt eval
    modify fun s => { s with tracing := false }
    printOn (← get).traceTo (lead ++ " ".intercalate (assignments ++ words) ++ "\n")

/-- The file that a dot command reads. -/
def dotFile (name : String) : ShellM String := do
  if name.toList.contains '/' then return name
  match ← findFile (candidates (← get).searchPath name) with
  | some path => return path
  | none => fail (name ++ ": not found")
where
  /-- The first ordinary file. -/
  findFile : List String → ShellM (Option String)
    | [] => return none
    | path :: rest => do
      match ← Proc.stat path with
      | .ok (.file ..) => return some path
      | _ => findFile rest

/-- Open a script. -/
def openScript (path : String) : ShellM Nat := do
  match ← Proc.openInput path with
  | .error e => fail ("cannot open " ++ path ++ ": " ++ describeOpening false e)
  | .ok fd =>
    if 10 ≤ fd then return fd
    match ← keepDescriptor fd with
    | .moved n => return n
    | .closed => return fd

/-- Do the commands of a file here. -/
def dot (args : List String) : ShellM Nat := do
  match (← Builtin.plainOptions "" args).rest with
  | [] => return 0
  | name :: _ =>
    let path ← dotFile name
    pushFile (← openScript path)
    modify fun s => { s with command := some path }
    let status ← evalFile eval loopBound 0
    popSource
    return status

/-- End loops or go on with them. -/
def leaveLoops (skip : Skip) (args : List String) : ShellM Nat := do
  let n ← match args with
    | text :: _ =>
      let n ← number text
      if n = 0 then badNumber text
      pure n
    | [] => pure 1
  let n := min n (← get).loops
  if 0 < n then modify fun s => { s with skip := some skip, skipCount := n }
  return 0

def return_ (args : List String) : ShellM Nat := do
  match args with
  | text :: _ =>
    let n ← number text
    modify fun s => { s with skip := some .function }
    return n
  | [] =>
    modify fun s => { s with skip := some .rest }
    return (← get).status

def exit_ (args : List String) : ShellM Nat := do
  match args with
  | text :: _ =>
    let n ← number text
    modify fun s => { s with kept := some n }
  | [] => pure ()
  interrupt .exit

def exec (args : List String) : ShellM Nat := do
  match args with
  | [] => return 0
  | words =>
    modify fun s => { s with enabled := s.enabled.filter fun o => o ≠ "interactive" && o ≠ "monitor" }
    loadProgram words (← get).searchPath 0

/-- Tell what a name stands for. -/
def command (args : List String) : ShellM Nat := do
  let p ← Builtin.plainOptions "pvV" args
  let path := if p.has 'p' then some standardPath else none
  match p.rest with
  | [] => return 0
  | name :: _ =>
    if p.has 'V' then Builtin.describe name path true
    else if p.has 'v' then Builtin.describe name path false
    else return 0

/-- Do a builtin command. -/
def builtin (name : String) (args : List String) (setting : Setting) : ShellM Nat :=
  match name with
  | ":" | "true" => return 0
  | "false" => return 1
  | "." => dot eval args
  | "[" => Builtin.test true args
  | "alias" => Builtin.defineAlias args
  | "bg" | "fg" => Builtin.continueJob args
  | "break" => leaveLoops .break_ args
  | "cd" | "chdir" => Builtin.cd args
  | "command" => command args
  | "continue" => leaveLoops .continue_ args
  | "echo" => Builtin.echo args
  | "eval" =>
    if args.isEmpty then return 0 else evalText eval (" ".intercalate args) { tested := setting.tested }
  | "exec" => exec args
  | "exit" => exit_ args
  | "export" => Builtin.export_ args
  | "getopts" => Builtin.getopts args
  | "hash" => Builtin.hash args
  | "jobs" => Builtin.jobs args
  | "kill" => Builtin.kill args
  | "local" => Builtin.local_ args
  | "printf" => Builtin.printf args
  | "pwd" => Builtin.pwd args
  | "read" => Builtin.read args
  | "readonly" => Builtin.readonly args
  | "return" => return_ args
  | "set" => Builtin.set_ args
  | "shift" => Builtin.shift args
  | "test" => Builtin.test false args
  | "times" => Builtin.times args
  | "trap" => Builtin.trap args
  | "type" => Builtin.type args
  | "ulimit" => Builtin.ulimit args
  | "umask" => Builtin.umask args
  | "unalias" => Builtin.unalias args
  | "unset" => Builtin.unset args
  | "wait" => Builtin.wait args
  | _ => return (← get).outputStatus

/-- Do a builtin command with the given words; an interrupt, if one arises. -/
def evalBuiltin (name : String) (words : List String) (setting : Setting) :
    ShellM (Option Interrupt) := do
  let before := (← get).command
  let result ← try
      modify fun s => { s with command := words.head? }
      let status ← builtin eval name words.tail setting
      flush
      if (← get).outputFailed then warn (((← get).command).getD "" ++ ": I/O error")
      modify fun s => { s with status := if s.outputFailed then status ||| 1 else status }
      pure none
    catch e => pure (some e)
  modify fun s => { s with command := before, output := [], outputFailed := false }
  return result

/-- Call a function; an interrupt, if one arises. -/
def evalFunction (f : Function) (args : List String) (setting : Setting) :
    ShellM (Option Interrupt) := do
  let s ← get
  if callLimit ≤ s.calls then
    fail ("Maximum function recursion depth (" ++ toString callLimit ++ ") reached")
  let result ← try
      set { s with loops := 0, calls := s.calls + 1, arguments := { list := args } }
      let _ ← eval f.body { tested := setting.tested }
      pure none
    catch e => pure (some e)
  modify fun s' => { s' with
    loops := s.loops
    calls := s.calls
    arguments := s.arguments
    skip := s'.skip.filter fun k => k ≠ .function && k ≠ .rest }
  return result

/-- Go back to an earlier state of sources and local variables. -/
def unwind (sources locals : Nat) : ShellM Unit := do
  for _ in List.range ((← get).sources.length - sources) do
    popSource
  for _ in List.range ((← get).locals.length - locals) do
    dropLocals

/-- Do a simple command. -/
def evalSimple (line : Nat) (assignments words : List Word) (redirs : List Redirection)
    (setting : Setting) : ShellM Nat := do
  modify fun s => { s with line := line, outputStatus := 0 }
  let start ← get
  let (first, rest) ← fillWords eval words
  let f ←
    if first.isEmpty then pure { shown := [], words := [], rest := [], located := Located.nothing }
    else
      let f ← findCommand eval loopBound { shown := first, words := first, rest, located := .nothing }
      let assigning := match f.located with
        | .builtin name => Builtin.assigning.contains name
        | _ => false
      let more ← expandRest eval assigning f.rest
      pure { f with shown := f.shown ++ more, words := f.words ++ more, rest := [] }
  let isExec := match f.located with
    | .builtin name => name = "exec"
    | _ => false
  let hasLocals := match f.located with
    | .nothing => false
    | _ => !(f.isSpecial.getD false)
  if hasLocals then modify fun s => { s with locals := [] :: s.locals }
  modify fun s => { s with traceTo := 2 }
  let directed ← expandRedirections (outputOf eval) redirs
  let failed ← redirectSafely (outputOf eval) directed
  let kept := ((← get).redirections.headD []).lookup 2
  match kept with
  | some (.moved n) => if !directed.isEmpty then modify fun s => { s with traceTo := n }
  | _ => pure ()
  let finish (status : Nat) : ShellM Nat := do
    if !directed.isEmpty then undoRedirections isExec
    unwindRedirections start.redirections.length
    unwind start.sources.length start.locals.length
    return status
  /- The command cannot be done. -/
  let bail (status : Nat) : ShellM Nat := do
    modify fun s => { s with status := status }
    if f.isSpecial = some true then interrupt .error
    finish status
  if failed ≠ 0 then return ← bail failed
  let texts ← assignments.mapM fun w => do
    let text ← expandText (outputOf eval) { assignment := true } w
    if hasLocals then makeLocal text true
    else
      let (name, value) := splitText text
      assignNamed name value (isExec && 1 < f.words.length) false false
    return text
  trace eval texts f.shown
  let after (i : Option Interrupt) (swallowed : Bool) : ShellM Nat := do
    match i with
    | some i => if !(i = .error && swallowed) then throw i
    | none => pure ()
    finish (← get).status
  match f.located with
  | .nothing => after (← evalBuiltin eval "" [] setting) true
  | .builtin name => after (← evalBuiltin eval name f.words setting) (f.isSpecial ≠ some true)
  | .function g => after (← evalFunction eval g f.words.tail setting) false
  | .program =>
    let name := f.words.headD ""
    let path := f.path.getD (← get).searchPath
    let index ←
      if name.toList.contains '/' then pure (some 0)
      else match ← findProgram name path with
        | .ok (index, _) => pure (some index)
        | .error e =>
          warn (name ++ ": " ++ describeLoading e)
          pure none
    match index with
    | none => bail 127
    | some index =>
      if setting.final && !(← get).hasTraps then loadProgram f.words path index
      let job ← newJob
      startChild { job := some job } do
        try loadProgram f.words path index
        catch _ => Proc.leave (.code ((← get).status % 256))
      finish (← waitForJob job)

/-! ## Compound commands -/

/-- Whether a loop ends or starts anew, when its body has been done. -/
def skipLoop : ShellM (Option Skip) := do
  let s ← get
  match s.skip with
  | some .break_ | some .continue_ =>
    if s.skipCount ≤ 1 then
      set { s with skip := none, skipCount := 0 }
      return s.skip
    set { s with skipCount := s.skipCount - 1 }
    return some .break_
  | skip => return skip

/-- Repeat a body. -/
def evalLoop (until_ : Bool) (condition body : Command) (setting : Setting) :
    (rounds : Nat) → (status : Nat) → ShellM Nat
  | 0, status => return status
  | rounds + 1, status => do
    let c ← eval condition { tested := true }
    match ← skipLoop with
    | some .continue_ => evalLoop until_ condition body setting rounds status
    | some .function => return c
    | some _ => return status
    | none =>
      if (c = 0) = until_ then return status
      let status ← eval body { tested := setting.tested }
      match ← skipLoop with
      | none | some .continue_ => evalLoop until_ condition body setting rounds status
      | some _ => return status

/-- Do a body for each word. -/
def evalEach (name : String) (body : Command) (setting : Setting) :
    List String → (status : Nat) → ShellM Nat
  | [], status => return status
  | w :: rest, _ => do
    assign name w
    let status ← eval body { tested := setting.tested }
    match ← skipLoop with
    | none | some .continue_ => evalEach name body setting rest status
    | some _ => return status

/-- Some pattern is that of the subject. -/
def matchesAny (subject : List Char) : List Word → ShellM Bool
  | [] => return false
  | w :: rest => do
    let p ← expandPattern (outputOf eval) w
    if Pattern.accepts (Pattern.parse p) subject then return true
    matchesAny subject rest

/-- Do the first choice that has a pattern of the subject. -/
def evalChoices (subject : List Char) (setting : Setting) : List Choice → ShellM Nat
  | [] => return 0
  | .mk patterns body :: rest => do
    if (← get).skip.isSome then return 0
    if ← matchesAny eval subject patterns then
      match body with
      | some c => if (← get).skip.isNone then return ← eval c setting
      | none => pure ()
      return 0
    evalChoices subject setting rest

/-- A child that is part of a pipeline reads from `input` and writes to `pipe`. -/
def startPart (job : Nat) (background : Bool) (c : Command) (setting : Setting) (input : Option Nat)
    (pipe : Option (Nat × Nat)) : ShellM Unit :=
  startChild { job := some job, background, showingTraps := showsTraps c } do
    match pipe with
    | some (reading, _) => Proc.close reading
    | none => pure ()
    match input with
    | some fd =>
      if 0 < fd then
        copyOnto fd 0
        Proc.close fd
    | none => pure ()
    match pipe with
    | some (_, writing) =>
      if 1 < writing then
        copyOnto writing 1
        Proc.close writing
    | none => pure ()
    finishCommand eval c setting

/-- Remember where the program of a simple command is. -/
def remember (c : Command) : ShellM Unit := do
  match c with
  | .simple _ _ (w :: _) _ =>
    match (Word.plain? w).map String.ofList with
    | some name =>
      unless name.toList.contains '/' || !isPlainName name do
        match ← locate name false with
        | .program =>
          let _ ← findProgram name (← get).searchPath
        | _ => pure ()
    | none => pure ()
  | _ => pure ()
where
  /-- The text is a name. -/
  isPlainName (name : String) : Bool := isName name.toList

/-- Start the parts of a pipeline. -/
def startParts (job : Nat) (background : Bool) (setting : Setting) :
    List Command → (input : Option Nat) → ShellM Unit
  | [], _ => pure ()
  | c :: rest, input => do
    remember c
    let pipe ←
      if rest.isEmpty then pure none
      else some <$> Proc.perform fun pid s => s.openPipe pid
    startPart eval job background c setting input pipe
    match input with
    | some fd => Proc.close fd
    | none => pure ()
    match pipe with
    | some (reading, writing) =>
      Proc.close writing
      startParts job background setting rest (some reading)
    | none => startParts job background setting rest none

/-- Do a command in a subshell, or as the last thing of this one. -/
def evalSubshell (background : Bool) (line : Nat) (body : Command) (redirs : List Redirection)
    (setting : Setting) : ShellM Nat := do
  modify fun s => { s with line := line }
  let directed ← expandRedirections (outputOf eval) redirs
  let inside (setting : Setting) : ShellM Unit := do
    redirect (outputOf eval) false directed
    let _ ← eval body { setting with final := true }
  if !background && setting.final && !(← get).hasTraps then
    inside setting
    interrupt .ended
  let job ← newJob
  startChild { job := some job, background, showingTraps := showsTraps body } do
    finishWith eval (inside { setting with tested := setting.tested && !background })
  if background then return 0
  waitForJob job

/-- Do a command.  The result is its status, and whether a failure of it ends a
shell that does not bear failures. -/
def evalOnce (c : Command) (setting : Setting) : ShellM (Option Nat × Bool) := do
  match c with
  | .negate body =>
    let status ← eval body { tested := true }
    return (some (if status = 0 then 1 else 0), false)
  | .redirected line body redirs =>
    modify fun s => { s with line := line }
    let directed ← expandRedirections (outputOf eval) redirs
    let failed ← redirectSafely (outputOf eval) directed
    let status ← if failed ≠ 0 then pure failed else eval body { tested := setting.tested }
    undoRedirections false
    return (some status, false)
  | .simple line assignments words redirs =>
    return (some (← evalSimple eval line assignments words redirs setting), true)
  | .each line name words body =>
    modify fun s => { s with line := line }
    let fields ← words.mapM (expandFields (outputOf eval))
    modify fun s => { s with loops := s.loops + 1 }
    let status ← evalEach eval name body setting fields.flatten 0
    modify fun s => { s with loops := s.loops - 1 }
    return (some status, false)
  | .loop until_ condition body =>
    modify fun s => { s with loops := s.loops + 1 }
    let status ← evalLoop eval until_ condition body setting loopBound 0
    modify fun s => { s with loops := s.loops - 1 }
    return (some status, false)
  | .subshell line body redirs =>
    return (some (← evalSubshell eval false line body redirs setting), true)
  | .background line body redirs =>
    return (some (← evalSubshell eval true line body redirs setting), true)
  | .pipeline background parts =>
    let job ← newJob
    startParts eval job background setting parts none
    let status ← if background then pure 0 else waitForJob job
    return (some status, true)
  | .select line subject choices =>
    modify fun s => { s with line := line }
    let text ← expandText (outputOf eval) { tilde := true } subject
    return (some (← evalChoices eval text.toList setting choices), false)
  | .both first second =>
    let status ← eval first { tested := true }
    if status ≠ 0 || (← get).skip.isSome then return (none, false)
    return (some (← eval second setting), false)
  | .either first second =>
    let status ← eval first { tested := true }
    if status = 0 || (← get).skip.isSome then return (none, false)
    return (some (← eval second setting), false)
  | .sequence first second =>
    let _ ← eval first { tested := setting.tested }
    if (← get).skip.isSome then return (none, false)
    return (some (← eval second setting), false)
  | .branch condition success failure =>
    let status ← eval condition { tested := true }
    if (← get).skip.isSome then return (none, false)
    if status = 0 then return (some (← eval success setting), false)
    match failure with
    | some c => return (some (← eval c setting), false)
    | none => return (some 0, false)
  | .define _ name body =>
    modify fun s => { s with
      functions := putEntry s.functions name ⟨body⟩
      found := dropEntry s.found name }
    return (some 0, false)

/-- Do a command and what belongs to it. -/
def evalCommand (c : Command) (setting : Setting) : ShellM Nat := do
  let isIdle ← isSet "noexec"
  let (status, checked) ←
    if isIdle then pure (none, false)
    else
      doTraps eval
      evalOnce eval c setting
  match status with
  | some n => modify fun s => { s with status := n }
  | none => pure ()
  doTraps eval
  let failed := checked && !setting.tested && status.any (· ≠ 0)
  if setting.final || (failed && (← isSet "errexit")) then interrupt .ended
  return (← get).status

end Evaluation

/-- Do commands that stand in each other up to a depth. -/
def run : (depth : Nat) → Evaluator
  | 0, _, _ => fail "too deep"
  | depth + 1, c, setting => evalCommand (run depth) c setting

/-- How deep commands may stand in each other. -/
def depthBound : Nat := 10000000

end Assay.Sandbox.Shell

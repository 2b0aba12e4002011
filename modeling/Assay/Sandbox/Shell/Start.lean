import Assay.Sandbox.Shell.Eval

/-! # Starting a shell -/

namespace Assay.Sandbox.Shell

/-- Variables that are still known when they have no value. -/
def heldVariables : List (String × Option String) :=
  [("IFS", some defaultSeparators), ("MAIL", none), ("MAILPATH", none), ("PATH", some standardPath),
    ("PS1", some "# "), ("PS2", some "> "), ("PS4", some "+ "), ("OPTIND", some "1")]

/-- Take over the environment.  An entry is an assignment to a name. -/
def takeEnvironment (env : List String) : ShellM Unit := do
  modify fun s => heldVariables.foldl (fun s v => s.put v.1 { value := v.2, held := true }) s
  for entry in env do
    match splitAssignment entry with
    | some (name, value) => assignNamed name (some value) true false false
    | none => pure ()
  assignNamed "IFS" (some defaultSeparators) false false false
  assignNamed "OPTIND" (some "1") false false false
  let parent ← Proc.ask fun pid s => (s.process pid).parent
  assignNamed "PPID" (some (toString parent)) false false false

/-- The working directory as the environment says, if that is right. -/
def takeDirectory : ShellM Unit := do
  let claimed ← lookup "PWD"
  let valid ← match claimed with
    | none => pure false
    | some path =>
      if path.toList.head? != some '/' then pure false
      else Proc.ask fun pid s =>
        match s.resolve pid path true with
        | .ok place => place.entry.isSome && place.location == (s.process pid).cwd
        | .error _ => false
  Builtin.noteDirectory (if valid then claimed else none) false

/-- What a shell does that is started with words and an environment. -/
def main (words env : List String) : ShellM Empty := do
  let eval := run depthBound
  finishWith eval do
    let (pid, ignored) ← Proc.ask fun pid s => (pid, (s.process pid).ignored)
    modify fun s => { s with rootPid := pid, deaf := ignored }
    takeEnvironment env
    takeDirectory
    modify fun s => { s with name := words.headD "sh" }
    let (args, isText) ← Builtin.setOptions true (words.length + 1) words.tail false
    if args.isEmpty then
      if isText then fail "-c requires an argument"
      setOption "stdin" true
    let fromInput := (← get).has "stdin"
    if isText then
      let name := (args[1]?).getD (← get).name
      modify fun s => { s with name := name, arguments := { list := args.drop 2 } }
      let _ ← evalText eval (args.headD "") {}
    else if !fromInput then
      pushFile (← openScript (args.headD ""))
      modify fun s => { s with name := args.headD "", arguments := { list := args.tail } }
    else modify fun s => { s with arguments := { list := args } }
    if fromInput || !isText then
      if fromInput then pushFile 0
      let _ ← evalFile eval loopBound 0

/-- The task of a shell. -/
def task (words env : List String) : Task :=
  main words env { name := "sh" } (fun e _ => nomatch e) (fun _ _ => .exit (.code 2))

end Assay.Sandbox.Shell

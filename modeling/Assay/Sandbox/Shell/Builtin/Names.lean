import Assay.Sandbox.Shell.Builtin.Options
import Assay.Sandbox.Shell.Search

/-! # Builtin commands about the names of commands -/

namespace Assay.Sandbox.Shell.Builtin

/-- Commands whose arguments may be assignments. -/
def assigning : List String := ["export", "readonly", "local", "alias"]

/-- Special commands: a mistake in them ends the script. -/
def special : List String := Parser.reservedNames

/-- Commands that are neither special nor taken for granted. -/
def others : List String :=
  ["[", "alias", "bg", "cd", "chdir", "command", "echo", "false", "fg", "getopts", "hash", "jobs",
    "kill", "printf", "pwd", "read", "test", "true", "type", "ulimit", "umask", "unalias", "wait"]

/-- The name is that of a builtin command. -/
def isBuiltin (name : String) : Bool := special.contains name || others.contains name

/-! ## Tables

Names are kept in tables of so many slots; a name stands in the slot that its
letters tell. -/

/-- The slot of a name. -/
def slot (size : Nat) (name : String) : Nat :=
  let cs := name.toList
  (((cs.head?.map Char.toNat).getD 0 * 16 + (cs.map Char.toNat).foldl (· + ·) 0) % 32768) % size

/-- Names in the order of their slots. -/
def bySlot {α : Type} (size : Nat) (entries : List (String × α)) : List (String × α) :=
  entries.mergeSort fun a b => slot size a.1 ≤ slot size b.1

/-! ## Aliases -/

def aliasLine (name value : String) : String := name ++ "=" ++ quote value ++ "\n"

/-- Define or show aliases. -/
def defineAlias (args : List String) : ShellM Nat := do
  if args.isEmpty then
    for (name, value) in bySlot 39 (← get).aliases do
      print (aliasLine name value)
    return 0
  let mut status := 0
  for text in args do
    let cs := text.toList
    let name := cs.take 1 ++ (cs.drop 1).takeWhile (· != '=')
    match cs.drop name.length with
    | _ :: value =>
      let name := String.ofList name
      let value := String.ofList value
      modify fun s => { s with aliases := putEntry s.aliases name value }
    | [] =>
      match (← get).aliases.lookup text with
      | some value => print (aliasLine text value)
      | none =>
        printOn 2 ("alias: " ++ text ++ " not found\n")
        status := 1
  return status

def unalias (args : List String) : ShellM Nat := do
  let p ← plainOptions "a" args
  if p.has 'a' then
    modify fun s => { s with aliases := [] }
    return 0
  let mut status := 0
  for name in p.rest do
    if ((← get).aliases.lookup name).isSome then
      modify fun s => { s with aliases := dropEntry s.aliases name }
    else
      printOn 2 ("unalias: " ++ name ++ " not found\n")
      status := 1
  return status

/-! ## Where commands come from -/

/-- Tell what a name stands for, in words or briefly. -/
def describe (name : String) (path : Option String) (inWords : Bool) : ShellM Nat := do
  let s ← get
  let say (words brief : String) : ShellM Nat := do
    print ((if inWords then name ++ words else brief) ++ "\n")
    return 0
  if Parser.keywords.contains name then return ← say " is a shell keyword" name
  match s.aliases.lookup name with
  | some value =>
    if inWords then return ← say (" is an alias for " ++ value) ""
    print ("alias " ++ aliasLine name value)
    return 0
  | none => pure ()
  let missing : ShellM Nat := do
    if inWords then print (name ++ ": not found\n")
    return 127
  let dirs := path.getD s.searchPath
  if (s.functions.lookup name).isSome then return ← say " is a shell function" name
  match s.found.lookup name with
  | some f =>
    let file := (candidates dirs name)[f.index]?.getD name
    return ← say (" is a tracked alias for " ++ file) file
  | none => pure ()
  if name.toList.contains '/' then
    match ← Proc.stat name with
    | .ok _ => return ← say (" is " ++ name) name
    | .error _ => return ← missing
  if special.contains name then return ← say " is a special shell builtin" name
  if others.contains name then return ← say " is a shell builtin" name
  match ← findProgram name dirs with
  | .ok (_, file) => say (" is " ++ file) file
  | .error _ => missing

/-- Describe every name. -/
def type (args : List String) : ShellM Nat := do
  let mut status := 0
  for name in args do
    let r ← describe name none true
    status := status ||| r
  return status

/-- Remember where programs are, or show which are remembered. -/
def hash (args : List String) : ShellM Nat := do
  let p ← plainOptions "r" args
  if p.has 'r' then
    modify fun s => { s with found := [] }
    return 0
  if p.rest.isEmpty then
    let s ← get
    for (name, f) in bySlot 31 s.found do
      let file := (candidates s.searchPath name)[f.index]?.getD name
      print (file ++ (if f.stale then "*" else "") ++ "\n")
    return 0
  let mut status := 0
  for name in p.rest do
    modify fun s => { s with found := dropEntry s.found name }
    let s ← get
    unless name.toList.contains '/' || (s.functions.lookup name).isSome || isBuiltin name do
      match ← findProgram name s.searchPath with
      | .ok _ => pure ()
      | .error e =>
        warn (name ++ ": " ++ describeLoading e)
        status := 1
  return status

end Assay.Sandbox.Shell.Builtin

import Assay.Sandbox.Shell.State

/-! # Finding commands

A command without a slash in its name is a function, a builtin command, or a
file in one of the directories of the search path.  Files that have been found
are remembered until the search path changes.
-/

namespace Assay.Sandbox.Shell

/-- The files that a name may stand for, one in each directory of a path. -/
def candidates (path name : String) : List String :=
  (path.splitOn ":").map fun dir => if dir.isEmpty then name else dir ++ "/" ++ name

/-- What a message says of an error about a program. -/
def describeLoading (e : IoError) : String :=
  if e = .notFound || e = .notDirectory then "not found" else plainError e

/-- The first candidate that is an ordinary file; an error that tells the most
about the others. -/
def firstFile : List String → (index : Nat) → IoError → ShellM (Except IoError (Nat × String))
  | [], _, e => return .error e
  | path :: rest, index, e => do
    match ← Proc.stat path with
    | .ok (.file ..) => return .ok (index, path)
    | .ok _ => firstFile rest (index + 1) .denied
    | .error e' =>
      firstFile rest (index + 1) (if e' = .notFound || e' = .notDirectory then e else e')

/-- Look for a program on the search path and remember it.  A candidate before
the one that is remembered is not looked at again unless it is a relative
path. -/
def findProgram (name path : String) : ShellM (Except IoError (Nat × String)) := do
  let s ← get
  let all := candidates path name
  if path ≠ s.searchPath then return ← firstFile all 0 .notFound
  let remember (index : Nat) : ShellM Unit :=
    modify fun s => { s with found := putEntry s.found name { index } }
  let search : ShellM (Except IoError (Nat × String)) := do
    match ← firstFile all 0 .notFound with
    | .ok (index, file) =>
      remember index
      return .ok (index, file)
    | .error e =>
      modify fun s => { s with found := dropEntry s.found name }
      return .error e
  match s.found.lookup name with
  | some f =>
    let file := all[f.index]?.getD name
    if !f.stale then return .ok (f.index, file)
    let relative := (all.take f.index).filter fun c => c.toList.head? != some '/'
    if relative.isEmpty && file.toList.head? == some '/' then
      remember f.index
      return .ok (f.index, file)
    search
  | none => search

/-- Load a program in place of the shell: the file itself, or the shell with the
file as its script. -/
def tryLoad (path : String) (words env : List String) : ShellM IoError := do
  let e ← Proc.load { path, args := words, env }
  if e = .badFormat then Proc.load { path := "/bin/sh", args := "/bin/sh" :: path :: words.tail, env }
  else return e

/-- Load the first candidate that can be loaded. -/
def tryLoads (words env : List String) : List String → IoError → ShellM IoError
  | [], e => return e
  | path :: rest, e => do
    let e' ← tryLoad path words env
    tryLoads words env rest (if e' = .notFound || e' = .notDirectory then e else e')

/-- The status of a shell that could not load a program. -/
def loadingStatus (e : IoError) : Nat :=
  if e = .notFound || e = .notDirectory || e = .tooManyLinks || e = .os 36 then 127 else 126

/-- Load a program in place of the shell, from the candidate with the given index
on. -/
def loadProgram {α : Type} (words : List String) (path : String) (index : Nat) : ShellM α := do
  let name := words.headD ""
  let env := (← get).environment
  let e ←
    if name.toList.contains '/' then tryLoad name words env
    else tryLoads words env ((candidates path name).drop index) .notFound
  modify fun s => { s with status := loadingStatus e }
  warn (name ++ ": " ++ describeLoading e)
  flush
  interrupt .ended

end Assay.Sandbox.Shell

import Assay.Host.Planting
import Assay.Host.Search
import Assay.Sandbox.Library

/-! # The sandbox as a host

A host on which everything happens inside a value.  A program is found as
`Assay.Host.Search` has it and started on a system that is made for it from the
tree of the world, and the tree it leaves becomes that of the world.  Nothing but the tree outlives a program, and no time
passes between programs.
-/

namespace Assay.Sandbox

open Text (utf8)

/-- The directory the harness works in. -/
def scratch : Location := [utf8 "tmp", utf8 "scratch"]

/-- The directories in which programs are looked for. -/
def searchPath : String := "/usr/local/sbin:/usr/local/bin:/usr/sbin:/usr/bin:/sbin:/bin"

/-- The environment that every program inherits. -/
def inherited : List (String × String) :=
  [("HOME", "/root"), ("LC_ALL", "C.UTF-8"), ("NO_COLOR", "1"), ("PATH", searchPath)]

namespace Image

/-- Paths from the root with what stands there, given permissions and a node
number. -/
def layout : List (String × (Attributes → Entry) × Nat) :=
  let dirs := ["usr", "usr/bin", "usr/sbin", "usr/local", "usr/local/bin", "usr/local/sbin", "dev",
    "dev/fd", "root", "tmp", "tmp/scratch"]
  let programs := Library.programs.map fun p => ("usr/bin/" ++ p.1, Entry.file (contents p.1), 0o755)
  let links := [("bin", Entry.link (utf8 "usr/bin"), 0o777), ("sbin", Entry.link (utf8 "usr/sbin"), 0o777)]
  let devices := [("null", .null), ("zero", .zero), ("full", .full), ("stdin", .descriptor 0),
    ("stdout", .descriptor 1), ("stderr", .descriptor 2)].map fun (name, d) =>
      ("dev/" ++ name, Entry.special d, 0o666)
  let descriptors := (List.range 10).map fun n =>
    ("dev/fd/" ++ toString n, Entry.special (.descriptor n), 0o666)
  dirs.map (·, Entry.dir, 0o755) ++ programs ++ links ++ devices ++ descriptors

end Image

/-- The tree of a sandbox in which nothing has happened: the native programs, a
few devices and an empty directory to work in. -/
def image : Tree :=
  Image.layout.foldl (fun t (path, make, mode) =>
    t.insert (Path.steps (utf8 path)) (make ⟨mode, .present, t.freshNode⟩)) Tree.empty

/-- The environment of a program: its own entries over the inherited ones, in the
order of their names. -/
def environmentFor (settings entries : List (String × String)) : List String :=
  let given := settings.foldl (fun env kv => Shell.putEntry env kv.1 kv.2) inherited
  let all := entries.foldl (fun env kv => Shell.putEntry env kv.1 kv.2) given
  (all.mergeSort fun a b => a.1 ≤ b.1).map fun kv => Octets.encode (kv.1 ++ "=" ++ kv.2)

/-- A moment that comes after all that has happened in a tree.  Stamps that lie
more than a day ahead were not given by a clock. -/
def momentAfter (t : Tree) : Moment :=
  let last := t.entries.foldl (fun m x =>
    let m' := x.2.attributes.modified
    if m.before m' && m'.seconds < Moment.present.seconds + 86400 then m' else m) Moment.present
  Image.advance last

/-- The native program of a file, with the words it is started with. -/
def programAt (s : System) (pid : Nat) (path : String) (words env : List String) :
    Except IoError Task := do
  if Image.tooLarge { path, args := words, env } then throw (.os 7)
  let (name, words) ← Image.find s pid 6 path words
  match library name with
  | some program => return program words env
  | none => throw .badFormat

/-- What a launch starts from a file.  When it says itself where programs are
looked for, a file in no known format that was found there is handed to the
shell. -/
def taskFor (s : System) (pid : Nat) (file : ProgramFile) (l : Launch) (env : List String) :
    Except IoError Task :=
  let words := (l.program :: l.args).map Octets.encode
  let path := Octets.ofBytes file.path
  let scripts := (l.env.lookup "PATH").isSome && !l.program.toList.contains '/'
  match programAt s pid path words env with
  | .ok task => .ok task
  | .error e =>
    if e = .badFormat && scripts then
      programAt s pid "/bin/sh" ("/bin/sh" :: path :: words.tail) env
    else .error e

/-- A system with one process, whose input is empty and whose output is kept; the
numbers of the process and of the pipes. -/
def startSystem (t : Tree) (cwd : Location) : System :=
  { tree := t
    now := momentAfter t
    opened := #[
      { channel := .device .null, readable := true, writable := false },
      { channel := .writer 0, readable := false, writable := true },
      { channel := .writer 1, readable := false, writable := true }]
    pipes := #[{ limit := none }, { limit := none }]
    processes := [(1000,
      { parent := 1, cwd, descriptors := [(0, { file := 0 }), (1, { file := 1 }), (2, { file := 2 })] })] }

/-- Run a file to its end in a tree; `settings` are set in the inherited
environment. -/
def perform (settings : List (String × String)) (file : ProgramFile) (l : Launch) (t : Tree) :
    Except IoError (Completion × Tree) := do
  let s := startSystem t file.cwd
  let pid := s.lastPid
  let task ← taskFor s pid file l (environmentFor settings l.env)
  let s := Kernel.run library Kernel.stepBound { system := s, queue := [(pid, task)] }
  let output (n : Nat) : Text.Bytes := (s.pipes[n]?.map Pipe.contents).getD []
  return (⟨((s.process pid).ended).getD (.signal Signal.kill), output 0, output 1⟩, s.tree)

/-- The sandbox as a system that starts programs from files, with further settings
in the environment. -/
def loaderWith {σ : Type} (settings : List (String × String)) : Loader σ where
  cwd := scratch
  search l := (utf8 ((l.env.lookup "PATH").getD searchPath)).splitOn 0x3A
  load file l w := do
    let (completion, t) ← perform settings file l w.tree
    return (completion, { w with tree := t })
  clock _ := 0

/-- The sandbox as a host, with further settings in the environment. -/
def hostWith {σ : Type} (settings : List (String × String)) : Host σ := (loaderWith settings).host

/-- The sandbox as a host. -/
def host {σ : Type} : Host σ := hostWith []

/-- The tree a shell script leaves when it is the first thing that happens. -/
def prepared (script : String) : Tree :=
  let launch : Launch := { program := "sh", args := ["-c", script], env := [], cwd := none }
  match (host : Host Unit).launch launch ⟨image, ()⟩ with
  | .ok (_, w) => w.tree
  | .error _ => image

end Assay.Sandbox

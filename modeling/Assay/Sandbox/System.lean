import Assay.Host.Basic
import Assay.Sandbox.Octets
import Assay.Sandbox.Signal

/-! # The system

What processes share: a file tree, the files that are open on it, the pipes
between processes, and a record of each process.  A process knows open files by
its descriptors; several descriptors may share one open file, and with it the
position in that file.

An operation that cannot go on yet, such as reading an empty pipe, has no result:
the process has to try again when others have moved.
-/

namespace Assay.Sandbox

open Text (Bytes)

/-- Where an open file leads. -/
inductive Channel where
  | device (d : Device)
  | directory (location : Location)
  /-- The file with a node number. -/
  | file (node : Nat)
  | reader (pipe : Nat)
  | writer (pipe : Nat)
  deriving Repr, DecidableEq

/-- An open file. -/
structure OpenFile where
  channel : Channel
  position : Nat := 0
  readable : Bool
  writable : Bool
  /-- Everything is written at the end of the file. -/
  append : Bool := false
  deriving Repr, DecidableEq

/-- Bytes on their way from writers to readers, oldest first; those in `recent`
come after those in `ready`, the latest piece first. -/
structure Pipe where
  ready : List Bytes := []
  recent : List Bytes := []
  size : Nat := 0
  /-- How many bytes have room; without a limit the pipe takes everything. -/
  limit : Option Nat
  deriving Repr

namespace Pipe

/-- All that stands in a pipe. -/
def contents (p : Pipe) : Bytes := (p.ready ++ p.recent.reverse).flatten

/-- Add bytes at the end. -/
def push (p : Pipe) (data : Bytes) : Pipe :=
  { p with recent := data :: p.recent, size := p.size + data.length }

/-- Take at most `n` bytes from pieces; the bytes and the pieces left. -/
def takePieces (n : Nat) : List Bytes → Bytes × List Bytes
  | [] => ([], [])
  | piece :: rest =>
    if n < piece.length then (piece.take n, piece.drop n :: rest)
    else
      let (more, left) := takePieces (n - piece.length) rest
      (piece ++ more, left)

/-- Take at most `n` bytes from the front. -/
def take (p : Pipe) (n : Nat) : Bytes × Pipe :=
  let (data, left) := takePieces n (p.ready ++ p.recent.reverse)
  (data, { p with ready := left, recent := [], size := p.size - data.length })

end Pipe

/-- A descriptor of a process. -/
structure Descriptor where
  /-- The index of the open file. -/
  file : Nat
  /-- The descriptor is closed when another program is loaded. -/
  closing : Bool := false
  deriving Repr, DecidableEq

/-- The record of a process. -/
structure Process where
  parent : Nat
  cwd : Location
  /-- Permissions that new files do not get. -/
  mask : Nat := 0o022
  descriptors : List (Nat × Descriptor) := []
  /-- Signals that have no effect. -/
  ignored : List Nat := []
  /-- Signals that the program takes note of. -/
  caught : List Nat := []
  /-- Signals that have arrived and have not been noted. -/
  pending : List Nat := []
  /-- How the process ended, if it did. -/
  ended : Option Exit := none
  deriving Repr

/-- The state of the sandbox. -/
structure System where
  tree : Tree
  now : Moment := .present
  opened : Array OpenFile := #[]
  pipes : Array Pipe := #[]
  processes : List (Nat × Process) := []
  /-- Files without a name that are open. -/
  orphans : List (Nat × Entry) := []
  lastPid : Nat := 1000

/-- The text of an error without its number. -/
def plainError : IoError → String
  | .os n => IoError.describe n
  | .other text => text

namespace System

/-! ## Processes -/

def process? (s : System) (pid : Nat) : Option Process := s.processes.lookup pid

/-- The record of a process; one that is unknown has nothing. -/
def process (s : System) (pid : Nat) : Process := (s.process? pid).getD { parent := 0, cwd := [] }

def setProcess (s : System) (pid : Nat) (p : Process) : System :=
  { s with processes := (pid, p) :: s.processes.filter fun x => x.1 ≠ pid }

def updateProcess (s : System) (pid : Nat) (f : Process → Process) : System :=
  s.setProcess pid (f (s.process pid))

/-- A new process that shares all that `pid` has. -/
def spawn (s : System) (pid : Nat) : Nat × System :=
  let child := s.lastPid + 1
  (child, { s with lastPid := child }.setProcess child
    { s.process pid with parent := pid, pending := [] })

/-- A process ends: its descriptors are closed, and its children have no parent
any more. -/
def finish (s : System) (pid : Nat) (exit : Exit) : System :=
  let s := s.updateProcess pid fun p =>
    { p with descriptors := [], pending := [], ended := some exit }
  { s with processes := s.processes.map fun x =>
      if x.2.parent = pid then (x.1, { x.2 with parent := 0 }) else x }

/-- The children of a process. -/
def children (s : System) (pid : Nat) : List (Nat × Process) :=
  s.processes.filter fun x => x.2.parent = pid

/-- The child that has ended and was started first: its number and how it ended.
It is forgotten. -/
def reap (s : System) (pid : Nat) : Option (Nat × Exit × System) :=
  let ended := (s.children pid).filterMap fun x => x.2.ended.map fun e => (x.1, e)
  let first := ended.foldl (fun best x =>
    match best with
    | some (b : Nat × Exit) => if x.1 < b.1 then some x else best
    | none => some x) none
  first.map fun (child, e) =>
    (child, e, { s with processes := s.processes.filter fun y => y.1 ≠ child })

/-- Signals that have arrived and are to be noted, the least one first.  They are
not pending any more. -/
def takeSignals (s : System) (pid : Nat) : List Nat × System :=
  let p := s.process pid
  let (noted, others) := p.pending.partition p.caught.contains
  (noted.mergeSort, if noted.isEmpty then s else s.setProcess pid { p with pending := others })

/-- Send a signal to a process; zero only asks whether it is there. -/
def send (s : System) (pid signal : Nat) : Except IoError System :=
  match s.process? pid with
  | none => .error (.os 3)
  | some p =>
    if signal = 0 || p.ended.isSome then .ok s
    else if p.ignored.contains signal && !Signal.isUnconditional signal then .ok s
    else if p.pending.contains signal then .ok s
    else .ok (s.setProcess pid { p with pending := p.pending ++ [signal] })

/-- The signal that ends a process now. -/
def fatal? (s : System) (pid : Nat) : Option Nat :=
  let p := s.process pid
  p.pending.find? fun n =>
    Signal.isUnconditional n || (!p.caught.contains n && !Signal.isHarmless n && !Signal.halts n)

/-! ## Nodes -/

/-- The entry of a node, also of one without a name. -/
def node? (s : System) (node : Nat) : Option Entry :=
  match s.tree.ofNode? node with
  | some e => some e
  | none => s.orphans.lookup node

/-- Change the entry of a node. -/
def updateNode (s : System) (node : Nat) (f : Entry → Entry) : System :=
  match s.tree.ofNode? node with
  | some _ => { s with tree := s.tree.mapNode node f }
  | none => { s with orphans := s.orphans.map fun x => if x.1 = node then (x.1, f x.2) else x }

/-- A node number that is not in use. -/
def freshNode (s : System) : Nat := s.orphans.foldl (fun n x => max n (x.1 + 1)) s.tree.freshNode

/-- Take the entry at a location away.  A file that is open is kept as long. -/
def removeAt (s : System) (location : Location) : System :=
  match s.tree.get? location with
  | none => s
  | some e =>
    let isOpen := s.opened.any fun f => f.channel = .file e.node
    let s' := { s with tree := s.tree.erase location }
    if isOpen && s'.tree.linkCount e.node = 0 then { s' with orphans := (e.node, e) :: s.orphans }
    else s'

/-- Put an entry at a location in place of what is there. -/
def placeAt (s : System) (location : Location) (e : Entry) : System :=
  let s := s.removeAt location
  { s with tree := s.tree.insert location e }

/-! ## Open files -/

/-- Keep an open file; the result is its index. -/
def addFile (s : System) (f : OpenFile) : Nat × System :=
  (s.opened.size, { s with opened := s.opened.push f })

/-- Move the position in an open file. -/
def seek (s : System) (index position : Nat) : System :=
  { s with opened := s.opened.modify index fun f => { f with position := position } }

/-- The open file behind a descriptor, with its index. -/
def file? (s : System) (pid fd : Nat) : Option (Nat × OpenFile) := do
  let d ← (s.process pid).descriptors.lookup fd
  let f ← s.opened[d.file]?
  return (d.file, f)

/-- The least descriptor from `least` on that is not in use. -/
def freeDescriptor (s : System) (pid least : Nat) : Nat :=
  let used := (s.process pid).descriptors.map (·.1)
  ((List.range (used.length + 1)).map (· + least)).find? (fun n => !used.contains n) |>.getD least

/-- Let a descriptor lead to an open file. -/
def bindDescriptor (s : System) (pid fd : Nat) (d : Descriptor) : System :=
  s.updateProcess pid fun p =>
    { p with descriptors := (fd, d) :: p.descriptors.filter fun x => x.1 ≠ fd }

def closeDescriptor (s : System) (pid fd : Nat) : System :=
  s.updateProcess pid fun p => { p with descriptors := p.descriptors.filter fun x => x.1 ≠ fd }

/-- Let a descriptor lead where another one does. -/
def copyDescriptor (s : System) (pid source fd : Nat) : Except IoError System :=
  match (s.process pid).descriptors.lookup source with
  | none => .error .badDescriptor
  | some d => .ok (if source = fd then s else s.bindDescriptor pid fd { d with closing := false })

/-- Move a descriptor to the least free one from `least` on, which is closed when
another program is loaded. -/
def moveDescriptor (s : System) (pid fd least : Nat) : Except IoError (Nat × System) :=
  match (s.process pid).descriptors.lookup fd with
  | none => .error .badDescriptor
  | some d =>
    let target := s.freeDescriptor pid least
    .ok (target, (s.closeDescriptor pid fd).bindDescriptor pid target { d with closing := true })

/-- Open a pipe: descriptors for its reading and its writing end. -/
def openPipe (s : System) (pid : Nat) : (Nat × Nat) × System :=
  let index := s.pipes.size
  let s := { s with pipes := s.pipes.push { limit := some 65536 } }
  let (input, s) := s.addFile { channel := .reader index, readable := true, writable := false }
  let (output, s) := s.addFile { channel := .writer index, readable := false, writable := true }
  let a := s.freeDescriptor pid 0
  let s := s.bindDescriptor pid a { file := input }
  let b := s.freeDescriptor pid 0
  ((a, b), s.bindDescriptor pid b { file := output })

/-- Some process has a descriptor on this end of a pipe. -/
def holds (s : System) (end_ : Channel) : Bool :=
  s.processes.any fun x => x.2.descriptors.any fun d =>
    match s.opened[d.2.file]? with
    | some f => f.channel = end_
    | none => false

/-! ## Reading and writing -/

/-- Contents in which `data` is written over what stands from `position` on. -/
def overwrite (contents : Bytes) (position : Nat) (data : Bytes) : Bytes :=
  if position = contents.length then contents ++ data
  else
    contents.take position ++ List.replicate (position - contents.length) 0 ++ data ++
      contents.drop (position + data.length)

/-- Read at most `limit` bytes from a descriptor.  Nothing is the end of the
file. -/
def read (s : System) (pid fd limit : Nat) : Option (Except IoError Bytes × System) :=
  match s.file? pid fd with
  | none => some (.error .badDescriptor, s)
  | some (index, f) =>
    if !f.readable then some (.error .badDescriptor, s)
    else match f.channel with
      | .device .null => some (.ok [], s)
      | .device _ => some (.ok (List.replicate limit 0), s)
      | .directory _ => some (.error .isDirectory, s)
      | .writer _ => some (.error .badDescriptor, s)
      | .reader p =>
        match s.pipes[p]? with
        | none => some (.ok [], s)
        | some pipe =>
          if pipe.size = 0 then if s.holds (.writer p) then none else some (.ok [], s)
          else
            let (data, pipe) := pipe.take limit
            some (.ok data, { s with pipes := s.pipes.setIfInBounds p pipe })
      | .file node =>
        match s.node? node with
        | some (.file data _) =>
          let data := (data.drop f.position).take limit
          some (.ok data, s.seek index (f.position + data.length))
        | _ => some (.ok [], s)

/-- The largest piece that is written to a pipe as a whole. -/
def atomicSize : Nat := 4096

/-- Write bytes to a descriptor; the result is how many were written. -/
def write (s : System) (pid fd : Nat) (data : Bytes) : Option (Except IoError Nat × System) :=
  match s.file? pid fd with
  | none => some (.error .badDescriptor, s)
  | some (index, f) =>
    if !f.writable then some (.error .badDescriptor, s)
    else match f.channel with
      | .device .full => some (.error (.os 28), s)
      | .device _ => some (.ok data.length, s)
      | .directory _ | .reader _ => some (.error .badDescriptor, s)
      | .writer p =>
        match s.pipes[p]? with
        | none => some (.ok data.length, s)
        | some pipe =>
          match pipe.limit with
          | none =>
            some (.ok data.length, { s with pipes := s.pipes.setIfInBounds p (pipe.push data) })
          | some limit =>
            if !s.holds (.reader p) then
              match s.send pid Signal.brokenPipe with
              | .ok s => some (.error (.os 32), s)
              | .error _ => some (.error (.os 32), s)
            else
              let room := limit - pipe.size
              let length := data.length
              if room = 0 || (room < length && length ≤ atomicSize) then none
              else
                let piece := if room < length then data.take room else data
                some (.ok piece.length, { s with pipes := s.pipes.setIfInBounds p (pipe.push piece) })
      | .file node =>
        match s.node? node with
        | some (.file old _) =>
          let start := if f.append then old.length else f.position
          let contents := overwrite old start data
          let s := s.updateNode node fun
            | .file _ a => .file contents { a with modified := s.now }
            | e => e
          some (.ok data.length, s.seek index (start + data.length))
        | _ => some (.ok data.length, s)

/-! ## Paths

Programs name files by octets. -/

/-- Where a path leads for a process. -/
def resolve (s : System) (pid : Nat) (path : String) (follow : Bool) : Except IoError Place :=
  s.tree.resolve (s.process pid).cwd (Octets.toBytes path) follow

/-- What a path leads to. -/
def stat (s : System) (pid : Nat) (path : String) : Except IoError Entry :=
  s.tree.stat (s.process pid).cwd (Octets.toBytes path)

/-- What a path names, a link at its end not followed. -/
def lstat (s : System) (pid : Nat) (path : String) : Except IoError Entry :=
  s.tree.lstat (s.process pid).cwd (Octets.toBytes path)

/-- What a file is opened for. -/
structure Access where
  reading : Bool := false
  writing : Bool := false
  /-- A file that is not there is created. -/
  creating : Bool := false
  /-- The file must not be there. -/
  exclusive : Bool := false
  /-- What the file holds is dropped. -/
  truncating : Bool := false
  appending : Bool := false
  /-- A symbolic link at the end of the path is not followed. -/
  noFollow : Bool := false
  deriving Repr, DecidableEq

/-- The entry that a file opened by another process is of. -/
def entryOf (s : System) (f : OpenFile) : Option Entry :=
  match f.channel with
  | .file node => s.node? node
  | .directory location => s.tree.get? location
  | .device d => some (.special d ⟨0o666, .present, 0⟩)
  | .reader _ | .writer _ => some (.special (.descriptor 0) ⟨0o600, .present, 0⟩)

/-- Open the file a path leads to; the result is the index of the open file. -/
def openPath (s : System) (pid : Nat) (path : String) (access : Access) (mode : Nat) :
    Except IoError (Nat × System) := do
  let keep (s : System) (c : Channel) : Nat × System :=
    s.addFile
      { channel := c, readable := access.reading, writable := access.writing,
        append := access.appending }
  let truncated (node : Nat) : System :=
    if access.truncating && access.writing then
      s.updateNode node fun
        | .file _ a => .file [] { a with modified := s.now }
        | e => e
    else s
  if access.creating && Octets.endsWithSlash path then
    let _ ← s.resolve pid (Octets.withoutSlashes path) false
    throw .isDirectory
  let place ← s.resolve pid path (!access.noFollow && !(access.creating && access.exclusive))
  match place.entry with
  | none =>
    if access.creating then
      let attributes : Attributes :=
        { mode := mode &&& (0o7777 ^^^ (s.process pid).mask), modified := s.now, node := s.freshNode }
      let s := { s with tree := s.tree.insert place.location (.file [] attributes) }
      return keep s (.file attributes.node)
    else throw .notFound
  | some e =>
    if access.creating && access.exclusive then throw .alreadyExists
    match e with
    | .dir _ => if access.writing then throw .isDirectory else return keep s (.directory place.location)
    | .link .. => throw .tooManyLinks
    | .file _ a => return keep (truncated a.node) (.file a.node)
    | .special (.descriptor n) _ =>
      match s.file? pid n with
      | none => throw .notFound
      | some (_, f) =>
        match f.channel with
        | .reader p => return keep s (if access.reading then .reader p else .writer p)
        | .writer p => return keep s (if access.writing then .writer p else .reader p)
        | .file node => return keep (truncated node) (.file node)
        | c => return keep s c
    | .special d _ => return keep s (.device d)

/-- The names in a directory, as octets. -/
def listing (s : System) (pid : Nat) (path : String) : Except IoError (List String) := do
  return (← s.tree.listing (s.process pid).cwd (Octets.toBytes path)).map Octets.ofBytes

/-- The text of a symbolic link. -/
def readLink (s : System) (pid : Nat) (path : String) : Except IoError String := do
  match ← s.lstat pid path with
  | .link target _ => return Octets.ofBytes target
  | _ => throw (.os 22)

/-- Create a directory. -/
def makeDir (s : System) (pid : Nat) (path : String) (mode : Nat) : Except IoError System := do
  let p := s.process pid
  let place ← s.resolve pid (Octets.withoutSlashes path) false
  match place.entry with
  | some _ => throw .alreadyExists
  | none =>
    let attributes : Attributes :=
      { mode := mode &&& (0o7777 ^^^ p.mask), modified := s.now, node := s.freshNode }
    return { s with tree := s.tree.insert place.location (.dir attributes) }

/-- Where a path names something new that is no directory. -/
def vacancy (s : System) (pid : Nat) (path : String) : Except IoError Location := do
  let place ← s.resolve pid (Octets.withoutSlashes path) false
  if place.entry.isSome then throw .alreadyExists
  if Octets.endsWithSlash path then throw .notFound
  return place.location

/-- Create a symbolic link. -/
def makeSymbolicLink (s : System) (pid : Nat) (target path : String) : Except IoError System := do
  if target.isEmpty then throw .notFound
  let location ← s.vacancy pid path
  let e : Entry := .link (Octets.toBytes target) ⟨0o777, s.now, s.freshNode⟩
  return { s with tree := s.tree.insert location e }

/-- Give a file a second name. -/
def makeHardLink (s : System) (pid : Nat) (source path : String) (follow : Bool) :
    Except IoError System := do
  let from_ ← s.resolve pid source follow
  match from_.entry with
  | none => throw .notFound
  | some e =>
    let location ← s.vacancy pid path
    if e.isDir then throw (.os 1)
    return { s with tree := s.tree.insert location e }

/-- Take a name away. -/
def unlink (s : System) (pid : Nat) (path : String) : Except IoError System := do
  let place ← s.resolve pid (Octets.withoutSlashes path) false
  match place.entry with
  | none => throw .notFound
  | some (.dir _) => throw .isDirectory
  | some _ =>
    if Octets.endsWithSlash path then throw .notDirectory
    return s.removeAt place.location

/-- Give an entry another name, in place of what has it. -/
def rename (s : System) (pid : Nat) (source path : String) : Except IoError System := do
  let from_ ← s.resolve pid source false
  match from_.entry with
  | none => throw .notFound
  | some e =>
    let place ← s.resolve pid path false
    if (place.entry.any fun old => old.node = e.node && !e.isDir) then return s
    let moved := { s with tree := s.tree.erase from_.location }
    return moved.placeAt place.location e

/-- Make a directory the one that a process works in. -/
def changeDir (s : System) (pid : Nat) (path : String) : Except IoError System := do
  let place ← s.resolve pid path true
  match place.entry with
  | some (.dir _) => return s.updateProcess pid fun p => { p with cwd := place.location }
  | some _ => throw .notDirectory
  | none => throw .notFound

/-- Change the attributes of what a path leads to. -/
def setAttributes (s : System) (pid : Nat) (path : String) (follow : Bool)
    (f : Attributes → Attributes) : Except IoError System := do
  match (← s.resolve pid path follow).entry with
  | none => throw .notFound
  | some e => return s.updateNode e.node fun e => e.withAttributes (f e.attributes)

end System

end Assay.Sandbox

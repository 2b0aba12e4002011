import Assay.Sandbox.Shell.Expansion

/-! # Redirections

A redirection lets a descriptor lead to another file.  What it led to before is
kept at a higher descriptor until the command is done.
-/

namespace Assay.Sandbox.Shell

/-- A redirection whose words have been expanded. -/
inductive Directed where
  | file (fd : Nat) (opening : Opening) (name : String)
  | copy (fd : Nat) (source : Option Nat)
  | document (fd : Nat) (index : Nat) (expanded : Bool)
  deriving Repr, DecidableEq

def Directed.fd : Directed → Nat
  | .file fd .. | .copy fd _ | .document fd .. => fd

section Redirections

-- What a command prints.
variable (output : Option Command → ShellM String)

/-- Expand the words of redirections. -/
def expandRedirections (rs : List Redirection) : ShellM (List Directed) :=
  rs.mapM fun
    | .file fd opening name => do
      return .file fd opening (← expandText output { tilde := true } name)
    | .copy fd source => return .copy fd source
    | .copyNamed fd w => do
      let fields ← expandFields output w
      match (fields.headD "").toList with
      | ['-'] => return .copy fd none
      | [d] =>
        if d.isDigit then return .copy fd (some (d.toNat - '0'.toNat))
        fail "Syntax error: Bad fd number"
      | _ => fail "Syntax error: Bad fd number"
    | .document fd index expanded => return .document fd index expanded

/-- What a message says of an error about a file. -/
def describeOpening (creating : Bool) (e : IoError) : String :=
  if e = .notFound || e = .notDirectory then
    if creating then "Directory nonexistent" else "No such file"
  else plainError e

/-- Open a file for a redirection. -/
def openDirected (name : String) (opening : Opening) : ShellM Nat := do
  let finish (creating : Bool) (result : Except IoError Nat) : ShellM Nat := do
    match result with
    | .ok fd => return fd
    | .error e =>
      fail ((if creating then "cannot create " else "cannot open ") ++ name ++ ": " ++
        describeOpening creating e)
  let writing : System.Access := { writing := true, creating := true }
  let truncating := { writing with truncating := true }
  match opening with
  | .read => finish false (← Proc.openInput name)
  | .update => finish true (← Proc.openFile name { writing with reading := true } 0o666)
  | .append => finish true (← Proc.openFile name { writing with appending := true } 0o666)
  | .overwrite => finish true (← Proc.openFile name truncating 0o666)
  | .write =>
    if !(← isSet "noclobber") then return ← finish true (← Proc.openFile name truncating 0o666)
    match ← Proc.stat name with
    | .error _ => finish true (← Proc.openFile name { writing with exclusive := true } 0o666)
    | .ok (.file ..) => finish true (.error .alreadyExists)
    | .ok _ => finish false (← Proc.openFile name { writing := true } 0o666)

/-- The longest text that is written to a pipe before anyone reads it. -/
def documentLimit : Nat := 4096

/-- A descriptor that the text of a document can be read from. -/
def openDocument (index : Nat) (expanded : Bool) : ShellM Nat := do
  let word := (← get).documents[index]?.getD []
  let text ← if expanded then expandText output { quoted := true } word
    else pure (Glyph.text (word.filterMap Part.glyph?))
  let data := Octets.toBytes text
  let (input, out) ← Proc.perform fun pid s => s.openPipe pid
  if data.length ≤ documentLimit then
    let _ ← Proc.write out data
  else
    let _ ← Proc.fork do
      Proc.close input
      let _ ← Proc.write out data
      Proc.leave (.code 0)
  Proc.close out
  return input

/-- Let a descriptor lead where another one does, or fail. -/
def copyOnto (source fd : Nat) : ShellM Unit := do
  match ← Proc.change fun pid s => s.copyDescriptor pid source fd with
  | .ok () => pure ()
  | .error e => fail (toString source ++ ": " ++ plainError e)

/-- Keep what a descriptor leads to; it is closed then. -/
def keepDescriptor (fd : Nat) : ShellM Kept := do
  let moved ← Proc.perform fun pid s =>
    match s.moveDescriptor pid fd 10 with
    | .ok (target, s) => (some target, s)
    | .error _ => (none, s)
  match moved with
  | some target => return .moved target
  | none => return .closed

/-- Do a redirection, and keep what was there before if `keeping`. -/
def redirectOne (keeping : Bool) (d : Directed) : ShellM Unit := do
  let fd := d.fd
  let source : Option Nat ← match d with
    | .file _ opening name => pure (some (← openDirected name opening))
    | .document _ index expanded => pure (some (← openDocument output index expanded))
    | .copy _ source => pure source
  let isCopy := match d with
    | .copy .. => true
    | _ => false
  if isCopy && source = some fd then return
  let known := ((← get).redirections.headD []).any fun x => x.1 = fd
  if keeping && !known then
    let kept ← if source = some fd then pure Kept.closed else keepDescriptor fd
    modify fun s => { s with redirections := match s.redirections with
      | top :: rest => ((fd, kept) :: top) :: rest
      | [] => [] }
  match source with
  | none => Proc.close fd
  | some n =>
    if n = fd then return
    if isCopy then copyOnto n fd
    else
      copyOnto n fd
      Proc.close n

/-- Do redirections for the time being. -/
def redirect (keeping : Bool) (ds : List Directed) : ShellM Unit :=
  ds.forM (redirectOne output keeping)

/-- Do redirections for the time being; the status is not zero if one fails. -/
def redirectSafely (ds : List Directed) : ShellM Nat := do
  if ds.isEmpty then return 0
  modify fun s => { s with redirections := [] :: s.redirections }
  try
    redirect output true ds
    return 0
  catch e =>
    if e = .error then return 2
    throw e

end Redirections

/-- Undo the latest redirections, or forget what was there before them. -/
def undoRedirections (forget : Bool) : ShellM Unit := do
  match (← get).redirections with
  | [] => pure ()
  | top :: rest =>
    modify fun s => { s with redirections := rest }
    for (fd, kept) in top do
      match kept with
      | .closed => unless forget do Proc.close fd
      | .moved n =>
        unless forget do
          let _ ← Proc.change fun pid s => s.copyDescriptor pid n fd
        Proc.close n

/-- Undo redirections until so many are left. -/
def unwindRedirections (left : Nat) : ShellM Unit := do
  let n := (← get).redirections.length
  for _ in List.range (n - left) do
    undoRedirections false

end Assay.Sandbox.Shell

import Assay.Sandbox.Utility.Options

/-! # Paths as utilities take them apart

The last name of a path counts with the slashes after it or without them, as the
purpose asks.
-/

namespace Assay.Sandbox.Name

/-- How many characters come before the last name of a path. -/
def lead (path : List Char) : Nat :=
  let stem := (path.reverse.dropWhile (· == '/')).reverse
  if stem.isEmpty then path.length
  else stem.length - (stem.reverse.takeWhile (· != '/')).length

/-- The last name of a path and the slashes after it. -/
def last (path : String) : String := String.ofList (path.toList.drop (lead path.toList))

/-- The last name of a path. -/
def base (path : String) : String := Octets.withoutSlashes (last path)

/-- The path of what the last name stands in. -/
def parent (path : String) : String :=
  let dir := path.toList.take (lead path.toList)
  let stem := (dir.reverse.dropWhile (· == '/')).reverse
  if !stem.isEmpty then String.ofList stem
  else if Octets.isAbsolute path then "/" else "."

/-- The path of a name in a directory. -/
def under (dir name : String) : String :=
  let stem := Octets.withoutSlashes dir
  if stem.isEmpty then name
  else if stem = "/" then if Octets.isAbsolute name then "/." ++ name else "/" ++ name
  else if Octets.isAbsolute name then stem ++ name
  else stem ++ "/" ++ name

/-- The path begins with what it names: it has no slashes before its last
name. -/
def isDot (name : String) : Bool :=
  let name := Octets.withoutSlashes name
  name = "." || name = ".."

end Name

namespace UtilityM

/-! ## What a process can do, done by a utility -/

def stat (path : String) : UtilityM (Except IoError Entry) := Proc.stat path

def lstat (path : String) : UtilityM (Except IoError Entry) := Proc.lstat path

/-- Ask the system something. -/
def ask {α : Type} (f : Nat → System → α) : UtilityM α := Proc.ask f

/-- Change the system, or fail and leave it. -/
def change (f : Nat → System → Except IoError System) : UtilityM (Except IoError Unit) := Proc.change f

/-- Read at most `limit` bytes from a descriptor. -/
def readBytes (fd limit : Nat) : UtilityM (Except IoError Text.Bytes) := Proc.read fd limit

/-- Write bytes to a descriptor. -/
def writeBytes (fd : Nat) (data : Text.Bytes) : UtilityM (Except IoError Unit) := Proc.write fd data

/-- Open a file. -/
def openFile (path : String) (access : System.Access) (mode : Nat) : UtilityM (Except IoError Nat) :=
  Proc.openFile path access mode

def close (fd : Nat) : UtilityM Unit := Proc.close fd

/-! ## Paths -/

/-- Two paths name the same entry of the same directory.  The way to the first one
must not end with a symbolic link. -/
def sameName (a b : String) : UtilityM Bool :=
  if Name.base a ≠ Name.base b then return false
  else Proc.ask fun pid s =>
    match s.lstat pid (Name.parent a), s.stat pid (Name.parent b) with
    | .ok p, .ok q => p.node = q.node
    | _, _ => false

/-- How many names a node has. -/
def linkCount (node : Nat) : UtilityM Nat := Proc.ask fun _ s => s.tree.linkCount node

/-- Read a line of the standard input. -/
def readAnswer : (rounds : Nat) → List Char → UtilityM (List Char)
  | 0, sofar => return sofar.reverse
  | rounds + 1, sofar => do
    match ← Proc.read 0 1 with
    | .ok [b] => if b = 10 then return sofar.reverse else readAnswer rounds (Char.ofNat b.toNat :: sofar)
    | _ => return sofar.reverse

/-- Ask something and wait for an answer. -/
def confirm (question : String) : UtilityM Bool := do
  flush
  let _ ← Proc.write 2 (Octets.toBytes ((← get).name ++ ": " ++ question))
  match ← readAnswer Proc.pieceBound [] with
  | 'y' :: _ | 'Y' :: _ => return true
  | _ => return false

end UtilityM

end Assay.Sandbox

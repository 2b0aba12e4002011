import Assay.Sandbox.Shell.Builtin.Options
import Assay.Sandbox.Shell.Search

/-! # Builtin commands about the working directory and permissions -/

namespace Assay.Sandbox.Shell.Builtin

/-- The path of a directory without links. -/
def physicalPath (s : System) (pid : Nat) : String :=
  let location := (s.process pid).cwd
  "/" ++ Octets.ofLocation location

/-- Take note of the working directory, reached by a path if one is given. -/
def noteDirectory (path : Option String) (keepOld : Bool) : ShellM Unit := do
  let s ← get
  if keepOld then assignNamed "OLDPWD" (some s.directory) true false false
  let physical ← Proc.ask fun pid sys => physicalPath sys pid
  let directory := path.getD physical
  modify fun s => { s with directory := directory, physical := physical }
  assignNamed "PWD" (some directory) true false false

/-- The path of a directory in which `.` and `..` have been resolved as texts;
`root` is its start, `steps` the steps so far, last one first. -/
def resolveSteps : List String → List String → List String
  | [], steps => steps.reverse
  | "" :: rest, steps => resolveSteps rest steps
  | "." :: rest, steps => resolveSteps rest steps
  | ".." :: rest, steps => resolveSteps rest steps.tail
  | step :: rest, steps => resolveSteps rest (step :: steps)

/-- The path that leads to `path` from the working directory.  Two slashes at its
start are kept. -/
def logicalPath (directory path : String) : Option String :=
  let isAbsolute := path.toList.head? == some '/'
  if !isAbsolute && directory.isEmpty then none
  else
    let base := if isAbsolute then path else directory
    let root := match base.toList with
      | '/' :: '/' :: rest => if rest.head? == some '/' then "/" else "//"
      | _ => "/"
    let steps := if isAbsolute then path.splitOn "/" else directory.splitOn "/" ++ path.splitOn "/"
    some (root ++ "/".intercalate (resolveSteps steps []))

/-- Work in another directory. -/
def enter (path : String) (isPhysical : Bool) : ShellM Bool := do
  let s ← get
  let logical := if isPhysical then none else logicalPath s.directory path
  match ← Proc.change fun pid sys => sys.changeDir pid (logical.getD path) with
  | .error _ => return false
  | .ok () =>
    noteDirectory logical true
    modify fun s => { s with found := s.found.map fun f => (f.1, { f.2 with stale := true }) }
    return true

/-- A path that is not looked for in other directories. -/
def isDirect (path : String) : Bool :=
  match path.toList with
  | '/' :: _ | ['.'] | '.' :: '/' :: _ | ['.', '.'] | '.' :: '.' :: '/' :: _ => true
  | _ => false

/-- The first candidate that is a directory. -/
def firstDirectory : List String → ShellM (Option String)
  | [] => return none
  | path :: rest => do
    match ← Proc.stat path with
    | .ok (.dir _) => return some path
    | _ => firstDirectory rest

/-- The physical way is asked for. -/
def asksPhysical (p : Parsed) : Bool := (p.options.getLast?.map (·.1)) = some 'P'

def cd (args : List String) : ShellM Nat := do
  let p ← plainOptions "LP" args
  let (target, isPrinted) ← match p.rest.head? with
    | none => pure ((← lookup "HOME").getD "", false)
    | some "-" => pure ((← lookup "OLDPWD").getD "", true)
    | some path => pure (path, false)
  let isPhysical := asksPhysical p
  let searched := !isDirect target
  let target := if target.isEmpty then "." else target
  let dirs ← lookup "CDPATH"
  let found ← match dirs with
    | some dirs => if searched then firstDirectory (candidates dirs target) else pure none
    | none => pure none
  let path := found.getD target
  let isPrinted := isPrinted || found.any (· ≠ target)
  if !(← enter path isPhysical) then fail ("can't cd to " ++ target)
  if isPrinted then print ((← get).directory ++ "\n")
  return 0

def pwd (args : List String) : ShellM Nat := do
  let p ← plainOptions "LP" args
  let s ← get
  print ((if asksPhysical p then s.physical else s.directory) ++ "\n")
  return 0

/-! ## Permissions of new files -/

/-- Three bits as letters. -/
def permissionLetters (bits : Nat) : String :=
  (if bits &&& 4 ≠ 0 then "r" else "") ++ (if bits &&& 2 ≠ 0 then "w" else "") ++
    (if bits &&& 1 ≠ 0 then "x" else "")

/-- Permissions in symbols. -/
def permissionText (bits : Nat) : String :=
  "u=" ++ permissionLetters (bits >>> 6 &&& 7) ++ ",g=" ++ permissionLetters (bits >>> 3 &&& 7) ++
    ",o=" ++ permissionLetters (bits &&& 7)

/-- The permissions that a letter stands for. -/
def letterBits (bits : Nat) : Char → Nat
  | 'r' => 4
  | 'w' => 2
  | 'x' => 1
  | 'u' => bits >>> 6 &&& 7
  | 'g' => bits >>> 3 &&& 7
  | 'o' => bits &&& 7
  | 'X' => if bits &&& 0o111 ≠ 0 then 1 else 0
  | _ => 0

/-- The clauses of a mode in symbols, applied to `current`; nothing if the text is
none.  `who` are the positions named so far. -/
def symbolic (bits : Nat) : (fuel : Nat) → (current who : Nat) → List Char → Option Nat
  | 0, current, _, _ => some current
  | _, current, _, [] => some current
  | fuel + 1, current, who, cs =>
    let names := cs.takeWhile fun c => "augo".toList.contains c
    let rest := cs.drop names.length
    let who := names.foldl (fun w c => w ||| (match c with
      | 'a' => 0o111
      | 'u' => 0o100
      | 'g' => 0o010
      | _ => 0o001)) who
    let who := if who = 0 then 0o111 else who
    match rest with
    | op :: rest =>
      if op == '=' || op == '+' || op == '-' then
        let letters := rest.takeWhile fun c => "rwxugoXs".toList.contains c
        let after := rest.drop letters.length
        let value := (letters.foldl (fun v c => v ||| letterBits bits c) 0 &&& 7) * who
        let current := match op with
          | '-' => current &&& (0o777 ^^^ value)
          | '=' => value ||| (current &&& (0o777 ^^^ (who * 7)))
          | _ => current ||| value
        match after with
        | [] => some current
        | ',' :: after => symbolic bits fuel current 0 after
        | c :: _ =>
          if c == '=' || c == '+' || c == '-' then symbolic bits fuel current who after else none
      else none
    | [] => none

def umask (args : List String) : ShellM Nat := do
  let p ← plainOptions "S" args
  let mask ← Proc.ask fun pid s => (s.process pid).mask
  let change (mask : Nat) : ShellM Unit := Proc.perform fun pid s =>
    ((), s.updateProcess pid fun p => { p with mask := mask &&& 0o777 })
  match p.rest with
  | [] =>
    if p.has 'S' then print (permissionText (0o777 ^^^ mask) ++ "\n")
    else
      let digits := Nat.toDigits 8 mask
      print (String.ofList (List.replicate (4 - digits.length) '0' ++ digits) ++ "\n")
    return 0
  | mode :: _ =>
    if mode.toList.head?.any Char.isDigit then
      match Digits.number? 8 mode.toList with
      | some n => change n
      | none => badNumber mode
    else
      let bits := 0o777 ^^^ mask
      match symbolic bits (mode.length + 1) bits 0 mode.toList with
      | some n => change (0o777 ^^^ n)
      | none => fail ("Illegal mode: " ++ mode)
    return 0

end Assay.Sandbox.Shell.Builtin

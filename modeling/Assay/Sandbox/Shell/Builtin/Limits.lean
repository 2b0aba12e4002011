import Assay.Sandbox.Shell.Builtin.Options

/-! # Limits of resources

Limits are kept and shown; nothing is held to them. -/

namespace Assay.Sandbox.Shell.Builtin

/-- A limit of a resource. -/
structure Limit where
  letter : Char
  name : String
  value : Option Nat
  deriving Repr, DecidableEq

def limits : List Limit :=
  [⟨'t', "time(seconds)", none⟩, ⟨'f', "file(blocks)", none⟩, ⟨'d', "data(kbytes)", none⟩,
    ⟨'s', "stack(kbytes)", some 8192⟩, ⟨'c', "coredump(blocks)", some 0⟩,
    ⟨'m', "memory(kbytes)", none⟩, ⟨'l', "locked memory(kbytes)", some 8192⟩, ⟨'p', "process", none⟩,
    ⟨'n', "nofiles", some 1048576⟩, ⟨'v', "vmemory(kbytes)", none⟩, ⟨'w', "locks", none⟩,
    ⟨'r', "rtprio", some 0⟩]

def limitText (value : Option Nat) : String :=
  match value with
  | some n => toString n
  | none => "unlimited"

def ulimit (args : List String) : ShellM Nat := do
  let p ← plainOptions "HSatfdscmlpnvwr" args
  let set := (← get).limits
  let current (l : Limit) : Option Nat := (set.lookup l.letter).getD l.value
  let chosen := (p.options.filter fun o => !"HSa".toList.contains o.1).getLast?.map (·.1)
  let letter := chosen.getD 'f'
  let limit := (limits.find? fun l => l.letter = letter).getD ⟨'f', "file(blocks)", none⟩
  match p.rest with
  | value :: rest =>
    if p.has 'a' || !rest.isEmpty then fail "too many arguments"
    let parsed : Option (Option Nat) :=
      if value = "unlimited" then some none
      else if !value.isEmpty && value.toList.all Char.isDigit then
        some (some (Digits.number 10 value.toList))
      else none
    match parsed with
    | none => fail "bad number"
    | some n =>
      modify fun s => { s with limits := (letter, n) :: s.limits.filter fun l => l.1 ≠ letter }
      return 0
  | [] =>
    if p.has 'a' then
      for l in limits do
        let blanks := String.ofList (List.replicate (20 - l.name.length) ' ')
        print (l.name ++ blanks ++ " " ++ limitText (current l) ++ "\n")
    else print (limitText (current limit) ++ "\n")
    return 0

end Assay.Sandbox.Shell.Builtin

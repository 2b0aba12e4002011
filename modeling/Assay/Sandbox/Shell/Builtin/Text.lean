import Assay.Sandbox.Shell.Builtin.Options
import Assay.Sandbox.Shell.Condition
import Assay.Sandbox.Shell.Format

/-! # Builtin commands that print and compare -/

namespace Assay.Sandbox.Shell.Builtin

/-- Words with their escapes resolved and blanks between them; `newline` tells
whether the line is ended. -/
def echoed (newline : Bool) : List String → List String → String
  | [], sofar => String.join ((if newline then "\n" else "") :: sofar).reverse
  | w :: rest, sofar =>
    let (text, stopped) := Format.unescapeText w
    if stopped then String.join (text :: sofar).reverse
    else echoed newline rest (if rest.isEmpty then text :: sofar else " " :: text :: sofar)

def echo (args : List String) : ShellM Nat := do
  match args with
  | "-n" :: rest => print (echoed false rest [])
  | args => print (echoed true args [])
  return 0

def printf (args : List String) : ShellM Nat := do
  match (← plainOptions "" args).rest with
  | [] => fail "usage: printf format [arg ...]"
  | format :: values =>
    let r := Format.printf format values
    print (String.join r.output.reverse)
    r.messages.reverse.forM warn
    match r.fault with
    | some message => fail message
    | none => return if r.messages.isEmpty then 0 else 1

/-- Answer a condition, with a closing bracket at its end if `bracketed`. -/
def test (bracketed : Bool) (args : List String) : ShellM Nat := do
  let closed := args.getLast?.any fun w => w.toList.head? == some ']'
  if bracketed && !closed then fail "missing ]"
  let words := if bracketed then args.dropLast else args
  match ← Proc.ask fun pid s => Condition.holds ⟨s, pid⟩ words with
  | .ok b => return if b then 0 else 1
  | .error message => fail message

end Assay.Sandbox.Shell.Builtin

import Assay.Sandbox.Octets
import Assay.Sandbox.Utility.Session

/-! # Printing words -/

namespace Assay.Sandbox.Utility

open UtilityM

/-- What follows a backslash in a word: the characters it stands for, and the
rest. -/
def echoEscape : List Char → List Char × List Char
  | 'a' :: cs => (['\x07'], cs)
  | 'b' :: cs => (['\x08'], cs)
  | 'e' :: cs => (['\x1b'], cs)
  | 'f' :: cs => (['\x0c'], cs)
  | 'n' :: cs => (['\n'], cs)
  | 'r' :: cs => (['\r'], cs)
  | 't' :: cs => (['\t'], cs)
  | 'v' :: cs => (['\x0b'], cs)
  | '\\' :: cs => (['\\'], cs)
  | 'x' :: cs =>
    let (digits, rest) := Digits.split 16 2 cs
    if digits.isEmpty then (['\\', 'x'], cs) else ([Char.ofNat (Digits.number 16 digits)], rest)
  | cs =>
    let (digits, rest) := match cs with
      | '0' :: after => Digits.split 8 3 after
      | cs => Digits.split 8 3 cs
    match cs with
    | c :: after =>
      if Digits.isDigit 8 c then ([Char.ofNat (Digits.number 8 digits % 256)], rest)
      else (['\\', c], after)
    | [] => (['\\'], [])

/-- A word with its escapes resolved, last character first, and whether all output
ends with it. -/
def echoWord : (fuel : Nat) → List Char → List Char → List Char × Bool
  | 0, _, sofar => (sofar, false)
  | _, [], sofar => (sofar, false)
  | fuel + 1, '\\' :: cs, sofar =>
    match cs with
    | 'c' :: _ => (sofar, true)
    | cs =>
      let (text, rest) := echoEscape cs
      echoWord fuel rest (text.reverse ++ sofar)
  | fuel + 1, c :: cs, sofar => echoWord fuel cs (c :: sofar)

/-- Print words with blanks between them. -/
def echoWords (escapes newline : Bool) : List String → UtilityM Nat
  | [] => do
    if newline then print "\n"
    return 0
  | w :: rest => do
    let (cs, stopped) := if escapes then echoWord (w.length + 1) w.toList [] else (w.toList.reverse, false)
    print (String.ofList cs.reverse)
    if stopped then return 0
    unless rest.isEmpty do print " "
    echoWords escapes newline rest

/-- The letters of an option, if a word is one. -/
def echoOption? (w : String) : Option (List Char) :=
  match w.toList with
  | '-' :: c :: cs => if (c :: cs).all fun c => "neE".toList.contains c then some (c :: cs) else none
  | _ => none

/-- Read the options at the start of the words. -/
def echoOptions (escapes newline : Bool) : List String → Bool × Bool × List String
  | [] => (escapes, newline, [])
  | w :: rest =>
    match echoOption? w with
    | none => (escapes, newline, w :: rest)
    | some letters =>
      let escapes := letters.foldl (fun e c => if c == 'e' then true else if c == 'E' then false else e) escapes
      echoOptions escapes (newline && !letters.contains 'n') rest

/-- Print the arguments. -/
def echo : Utility := fun args => do
  let isPosix := (← get).isPosix
  if isPosix && args.head? ≠ some "-n" then echoWords true true args
  else
    let (escapes, newline, words) := echoOptions false true args
    echoWords (escapes || isPosix) newline words

end Assay.Sandbox.Utility

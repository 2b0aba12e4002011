import Assay.Sandbox.Octets
import Assay.Sandbox.Shell.State

/-! # Conditions

The language of the command `test`: questions about texts, numbers and files,
joined by `!`, `-a`, `-o` and parentheses.  What a word means depends on the
words after it.
-/

namespace Assay.Sandbox.Shell.Condition

/-- The kinds of words with a meaning. -/
inductive Kind where
  | unary
  | binary
  | not
  | both
  | either
  | opening
  | closing
  deriving Repr, DecidableEq

def unaries : List String :=
  ["-r", "-w", "-x", "-e", "-f", "-d", "-c", "-b", "-p", "-u", "-g", "-k", "-s", "-t", "-z", "-n", "-h",
    "-O", "-G", "-L", "-S"]

def binaries : List String :=
  ["=", "!=", "<", ">", "-eq", "-ne", "-ge", "-gt", "-le", "-lt", "-nt", "-ot", "-ef"]

/-- The meaning that a word may have. -/
def kind? (w : String) : Option Kind :=
  if unaries.contains w then some .unary
  else if binaries.contains w then some .binary
  else match w with
    | "!" => some .not
    | "-a" => some .both
    | "-o" => some .either
    | "(" => some .opening
    | ")" => some .closing
    | _ => none

/-- What a word is among others: the end of them, an operand, or a sign. -/
inductive Role where
  | ended
  | operand
  | sign (k : Kind)
  deriving Repr, DecidableEq

/-- The first word is an operand although it looks like an operator. -/
def isOperand : List String → Bool
  | [] | [_] => true
  | [_, _] => false
  | _ :: w :: _ => kind? w = some .binary

/-- What the first word is. -/
def role (words : List String) : Role :=
  match words with
  | [] => .ended
  | w :: rest =>
    match kind? w with
    | none => .operand
    | some k =>
      if (k = .unary && isOperand words) || (k = .opening && rest.isEmpty) then .operand else .sign k

/-- A whole number. -/
def number (text : String) : Except String Int :=
  match integer? text with
  | some n => .ok n
  | none => .error ("Illegal number: " ++ text)

/-- What conditions are asked of: a system, as a process sees it. -/
structure Subject where
  system : System
  pid : Nat

namespace Subject

/-- What a path leads to; a path may lead through a descriptor. -/
def stat (on : Subject) (path : String) : Option Entry :=
  match on.system.stat on.pid path with
  | .ok (.special (.descriptor n) _) =>
    (on.system.file? on.pid n).bind fun f => on.system.entryOf f.2
  | .ok e => some e
  | .error _ => none

end Subject

/-- A question about one text. -/
def unary (on : Subject) (operator operand : String) : Except String Bool :=
  let found := on.stat operand
  match operator with
  | "-z" => .ok operand.isEmpty
  | "-n" => .ok (!operand.isEmpty)
  | "-t" => do
    let _ ← number operand
    return false
  | "-f" => .ok (found.any Entry.isFile)
  | "-d" => .ok (found.any Entry.isDir)
  | "-e" | "-r" | "-w" | "-O" | "-G" => .ok found.isSome
  | "-x" => .ok (found.any fun e => e.isDir || e.attributes.executable)
  | "-s" => .ok (found.any fun
      | .file data _ => !data.isEmpty
      | .dir _ => true
      | _ => false)
  | "-c" => .ok (found.any fun
      | .special (.descriptor _) _ => false
      | .special .. => true
      | _ => false)
  | "-p" => .ok (found.any fun
      | .special (.descriptor _) _ => true
      | _ => false)
  | "-u" => .ok (found.any fun e => e.attributes.mode &&& 0o4000 ≠ 0)
  | "-g" => .ok (found.any fun e => e.attributes.mode &&& 0o2000 ≠ 0)
  | "-k" => .ok (found.any fun e => e.attributes.mode &&& 0o1000 ≠ 0)
  | "-h" | "-L" => .ok (match on.system.lstat on.pid operand with
      | .ok e => e.isLink
      | .error _ => false)
  | _ => .ok false

/-- A question about two texts. -/
def binary (on : Subject) (operator a b : String) : Except String Bool :=
  let compare (f : Int → Int → Bool) : Except String Bool := do
    let x ← number a
    let y ← number b
    return f x y
  let later (a b : String) : Bool :=
    match on.stat a, on.stat b with
    | some x, some y => y.attributes.modified.before x.attributes.modified
    | _, _ => false
  match operator with
  | "=" => .ok (a == b)
  | "!=" => .ok (a != b)
  | "<" => .ok (a < b)
  | ">" => .ok (b < a)
  | "-eq" => compare (· == ·)
  | "-ne" => compare (· != ·)
  | "-lt" => compare (· < ·)
  | "-le" => compare (· ≤ ·)
  | "-gt" => compare fun x y => y < x
  | "-ge" => compare fun x y => y ≤ x
  | "-nt" => .ok (later a b)
  | "-ot" => .ok (later b a)
  | "-ef" => .ok (match on.stat a, on.stat b with
      | some x, some y => x.node == y.node
      | _, _ => false)
  | _ => .ok false

/-- A result with the words from its last one on. -/
abbrev Answer := Except String (Bool × List String)

variable (on : Subject)

mutual

/-- Terms joined by `-o`. -/
def disjunction (fuel : Nat) (words : List String) (r : Role) (sofar : Bool) : Answer :=
  match fuel with
  | 0 => .error "too many arguments"
  | fuel + 1 => do
    let (a, words) ← conjunction fuel words r true
    if role words.tail = .sign .either then
      let words := words.drop 2
      disjunction fuel words (role words) (sofar || a)
    else return (sofar || a, words)

/-- Terms joined by `-a`. -/
def conjunction (fuel : Nat) (words : List String) (r : Role) (sofar : Bool) : Answer :=
  match fuel with
  | 0 => .error "too many arguments"
  | fuel + 1 => do
    let (a, words) ← negation fuel words r
    if role words.tail = .sign .both then
      let words := words.drop 2
      conjunction fuel words (role words) (sofar && a)
    else return (sofar && a, words)

/-- A term that may be negated. -/
def negation (fuel : Nat) (words : List String) (r : Role) : Answer :=
  match fuel with
  | 0 => .error "too many arguments"
  | fuel + 1 => do
    if r ≠ .sign .not then return ← primary fuel words r
    let next := role words.tail
    let words := if next = .ended then words else words.tail
    let (a, words) ← negation fuel words next
    return (!a, words)

/-- A single question. -/
def primary (fuel : Nat) (words : List String) (r : Role) : Answer :=
  match fuel with
  | 0 => .error "too many arguments"
  | fuel + 1 =>
    let w := words.headD ""
    match r with
    | .ended => .ok (false, words)
    | .sign .opening => do
      let inner := words.tail
      let next := role inner
      if next = .sign .closing then return (false, inner)
      let (a, rest) ← disjunction fuel inner next false
      if role rest.tail = .sign .closing then return (a, rest.tail)
      throw "closing paren expected"
    | .sign .unary =>
      match words.tail with
      | x :: rest => do return (← unary on w x, x :: rest)
      | [] => .error (w ++ ": argument expected")
    | _ =>
      if role words.tail = .sign .binary then
        match words.tail with
        | op :: x :: rest => do return (← binary on op w x, x :: rest)
        | _ => .error (words.tail.headD "" ++ ": argument expected")
      else .ok (!w.isEmpty, words)

end

/-- Answer words as they stand, the first one having the given role. -/
def answer (words : List String) (r : Role) : Except String Bool := do
  let (result, rest) ← disjunction on (8 * words.length + 16) words r false
  match rest with
  | w :: _ :: _ => throw (if w.isEmpty then "unexpected operator" else w ++ ": unexpected operator")
  | _ => return result

/-- Answer a condition, or the contrary of it.  The error is a message. -/
def holdsOr (contrary : Bool) : (fuel : Nat) → List String → Except String Bool
  | 0, _ => .ok contrary
  | fuel + 1, words => do
    let answered (words : List String) (r : Role) : Except String Bool :=
      return (← answer on words r) != contrary
    match words with
    | [] => return contrary
    | [_, op, _] =>
      if kind? op = some .binary then return ← answered words .operand
    | _ => pure ()
    if words.length = 3 || words.length = 4 then
      if words.head? = some "(" && words.getLast? = some ")" then
        let inner := words.tail.dropLast
        return ← answered inner (role inner)
      if words.head? = some "!" then return ← holdsOr true fuel words.tail
    answered words (role words)

/-- Answer a condition. -/
def holds (words : List String) : Except String Bool := holdsOr on false (words.length + 1) words

end Assay.Sandbox.Shell.Condition

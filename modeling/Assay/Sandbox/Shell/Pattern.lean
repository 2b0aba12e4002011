import Assay.Sandbox.System

/-! # Patterns

Patterns of file names and of texts.  In a pattern a backslash takes the meaning
from the character after it; `*` stands for any text, `?` for any character and
brackets for one of several characters.
-/

namespace Assay.Sandbox.Shell.Pattern

/-- One of the characters between brackets. -/
inductive Member where
  | range (low high : Char)
  | kind (name : String)
  deriving Repr, DecidableEq

/-- A part of a pattern. -/
inductive Item where
  | literal (c : Char)
  | any
  | many
  | set (inverted : Bool) (members : List Member)
  deriving Repr, DecidableEq

/-- The named kinds of characters. -/
def kinds : List (String × (Char → Bool)) :=
  let isPrint (c : Char) : Bool := ' ' ≤ c && c ≤ '~'
  let isGraph (c : Char) : Bool := '!' ≤ c && c ≤ '~'
  [("alnum", Char.isAlphanum),
    ("cntrl", fun c => c < ' ' || c == '\x7f'),
    ("lower", Char.isLower),
    ("space", fun c => c == ' ' || ('\t' ≤ c && c ≤ '\r')),
    ("alpha", Char.isAlpha),
    ("digit", Char.isDigit),
    ("print", isPrint),
    ("upper", Char.isUpper),
    ("blank", fun c => c == ' ' || c == '\t'),
    ("graph", isGraph),
    ("punct", fun c => isGraph c && !c.isAlphanum),
    ("xdigit", fun c => c.isDigit || ('a' ≤ c && c ≤ 'f') || ('A' ≤ c && c ≤ 'F'))]

/-- A named kind at the start of a text, after its opening bracket, and the rest. -/
def kind? (cs : List Char) : Option (String × List Char) :=
  kinds.findSome? fun k =>
    let text := (":" ++ k.1 ++ ":]").toList
    if text.isPrefixOf cs then some (k.1, cs.drop text.length) else none

/-- The characters between brackets, the first one being `c`; nothing if the
bracket is not closed. -/
def members : (fuel : Nat) → (c : Char) → List Char → List Member → Option (List Member × List Char)
  | 0, _, _, _ => none
  | fuel + 1, c, cs, sofar =>
    let next (m : Member) (cs : List Char) : Option (List Member × List Char) :=
      match cs with
      | ']' :: rest => some ((m :: sofar).reverse, rest)
      | d :: rest => members fuel d rest (m :: sofar)
      | [] => none
    let single (c : Char) (cs : List Char) : Option (List Member × List Char) :=
      match cs with
      | '-' :: '\\' :: high :: rest => next (.range c high) rest
      | '-' :: high :: rest => if high == ']' then next (.range c c) cs else next (.range c high) rest
      | cs => next (.range c c) cs
    if c == '[' then
      match kind? cs with
      | some (name, rest) => next (.kind name) rest
      | none => single c cs
    else if c == '\\' then
      match cs with
      | d :: rest => single d rest
      | [] => none
    else single c cs

/-- A set between brackets, after the opening one. -/
def set? (cs : List Char) : Option (Item × List Char) :=
  let (inverted, cs) := match cs with
    | '!' :: rest => (true, rest)
    | cs => (false, cs)
  match cs with
  | c :: rest => (members (cs.length + 1) c rest []).map fun m => (.set inverted m.1, m.2)
  | [] => none

/-- The parts of a pattern. -/
def items : (fuel : Nat) → List Char → List Item
  | 0, _ => []
  | _, [] => []
  | fuel + 1, c :: cs =>
    match c with
    | '\\' =>
      match cs with
      | d :: rest => .literal d :: items fuel rest
      | [] => [.literal '\\']
    | '?' => .any :: items fuel cs
    | '*' => .many :: items fuel cs
    | '[' =>
      match set? cs with
      | some (item, rest) => item :: items fuel rest
      | none => .literal '[' :: items fuel cs
    | c => .literal c :: items fuel cs

/-- The parts of a pattern. -/
def parse (pattern : List Char) : List Item := items (pattern.length + 1) pattern

/-- Bytes are ordered as numbers with a sign. -/
def order (c : Char) : Int := if c.toNat < 128 then c.toNat else (c.toNat : Int) - 256

def Member.has (c : Char) : Member → Bool
  | .range low high => order low ≤ order c && order c ≤ order high
  | .kind name => (kinds.lookup name).any fun f => f c

/-- Some end of the text satisfies `accept`. -/
def someEnd (accept : List Char → Bool) : List Char → Bool
  | [] => accept []
  | c :: cs => accept (c :: cs) || someEnd accept cs

/-- The whole text is of the pattern. -/
def accepts : List Item → List Char → Bool
  | [], cs => cs.isEmpty
  | .many :: rest, cs => someEnd (accepts rest) cs
  | .any :: rest, cs =>
    match cs with
    | _ :: cs => accepts rest cs
    | [] => false
  | .literal d :: rest, cs =>
    match cs with
    | c :: cs => c == d && accepts rest cs
    | [] => false
  | .set inverted members :: rest, cs =>
    match cs with
    | c :: cs => (members.any fun m => m.has c) != inverted && accepts rest cs
    | [] => false

/-- The text without a match at its start or its end, the shortest or the longest
one. -/
def trim (atEnd longest : Bool) (pattern : List Char) (text : List Char) : List Char :=
  let p := parse pattern
  let n := text.length
  let sizes := List.range (n + 1)
  let sizes := if longest then sizes.reverse else sizes
  let cut (k : Nat) : List Char := if atEnd then text.take (n - k) else text.drop k
  let piece (k : Nat) : List Char := if atEnd then text.drop (n - k) else text.take k
  match sizes.find? fun k => accepts p (piece k) with
  | some k => cut k
  | none => text

/-! ## File names -/

/-- A bracket in a file name that is closed before the next slash. -/
def hasClosing (fuel : Nat) (cs : List Char) : Bool :=
  match fuel with
  | 0 => false
  | fuel + 1 =>
    match cs with
    | '\\' :: '/' :: _ => false
    | '\\' :: _ :: rest => closes rest fuel
    | '\\' :: [] => false
    | '/' :: _ => false
    | _ :: rest => closes rest fuel
    | [] => false
where
  /-- The next character closes the bracket, or the search goes on. -/
  closes (rest : List Char) (fuel : Nat) : Bool :=
    match rest with
    | ']' :: _ => true
    | rest => hasClosing fuel rest

/-- The step of a path in which the first active character stands: what comes
before it, the step, and what comes after its slash if there is one. -/
structure Split where
  before : List Char
  step : List Char
  after : Option (List Char)
  deriving Repr, DecidableEq

/-- Look for a step with an active character; `before` and `step` have been read,
last character first. -/
def splitStep : (fuel : Nat) → (before step : List Char) → (active : Bool) → List Char → Option Split
  | 0, _, _, _, _ => none
  | _, before, step, active, [] =>
    if active then some ⟨before.reverse, step.reverse, none⟩ else none
  | fuel + 1, before, step, active, c :: cs =>
    let slash (taken rest : List Char) : Option Split :=
      if active then some ⟨before.reverse, step.reverse, some rest⟩
      else splitStep fuel (taken ++ step ++ before) [] false rest
    match c, cs with
    | '*', _ | '?', _ => splitStep fuel before (c :: step) true cs
    | '[', _ =>
      let inner := match cs with
        | '!' :: rest => rest
        | cs => cs
      splitStep fuel before (c :: step) (active || hasClosing (inner.length + 1) inner) cs
    | '\\', '/' :: rest => slash ['/', '\\'] rest
    | '\\', d :: rest => splitStep fuel before (d :: '\\' :: step) active rest
    | '/', rest => slash ['/'] rest
    | c, rest => splitStep fuel before (c :: step) active rest

/-- The text without the backslashes that take away a meaning. -/
def plain : List Char → List Char
  | '\\' :: c :: rest => c :: plain rest
  | c :: rest => c :: plain rest
  | [] => []

/-- The file names that a pattern stands for, after the path `dir` that ends with
a slash or is empty. -/
def expand (s : System) (pid : Nat) : (fuel : Nat) → (dir : String) → List Char → List String
  | 0, _, _ => []
  | fuel + 1, dir, pattern =>
    match splitStep (pattern.length + 1) [] [] false pattern with
    | none =>
      if dir.isEmpty then []
      else
        let path := dir ++ String.ofList (plain pattern)
        match s.lstat pid path with
        | .ok _ => [path]
        | .error _ => []
    | some split =>
      let dir := dir ++ String.ofList (plain split.before)
      let p := parse split.step
      let hidden := match split.step with
        | '.' :: _ | '\\' :: '.' :: _ => true
        | _ => false
      match s.listing pid (if dir.isEmpty then "." else dir) with
      | .error _ => []
      | .ok names =>
        let names := (["." , ".."] ++ names).filter fun n =>
          (hidden || n.toList.head? != some '.') && accepts p n.toList
        match split.after with
        | none => names.map (dir ++ ·)
        | some rest => names.flatMap fun n => expand s pid fuel (dir ++ n ++ "/") rest

/-- The file names that a pattern stands for, in order. -/
def pathnames (s : System) (pid : Nat) (pattern : List Char) : List String :=
  (expand s pid (pattern.length + 1) "" pattern).mergeSort fun a b => a ≤ b

end Assay.Sandbox.Shell.Pattern

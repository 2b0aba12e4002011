import Assay.Sandbox.Octets
import Assay.Text.Alphanumeric

/-! # Regular expressions

Basic expressions: groups, alternatives and repetitions are written with a
backslash, all but the star.  An expression is matched by the set of places that
it can lead to from a given one.
-/

namespace Assay.Sandbox

/-- A regular expression. -/
inductive Regex where
  | empty
  /-- One character of a kind. -/
  | one (accepts : Char → Bool)
  | sequence (first second : Regex)
  | either (first second : Regex)
  /-- At least so many times, and at most so many. -/
  | repeated (body : Regex) (least : Nat) (most : Option Nat)
  | lineStart
  | lineEnd
  /-- A place where a word begins or ends, or none of both. -/
  | border (wanted : Bool → Bool → Bool)

namespace Regex

/-! ## Matching -/

/-- A letter or a digit; beyond ASCII, of any script. -/
def isLetterOrDigit (c : Char) : Bool := if c.toNat < 128 then c.isAlphanum else Text.isAlphanumeric c

/-- A character of a word. -/
def isWordChar (c : Char) : Bool := isLetterOrDigit c || c == '_'

/-- Places without those that are there already. -/
def union (xs ys : List Nat) : List Nat := xs ++ ys.filter fun y => !xs.contains y

/-- Do something so many times, gathering all places on the way. -/
def closure (step : List Nat → List Nat) : (fuel : Nat) → List Nat → List Nat → List Nat
  | 0, _, found => found
  | fuel + 1, current, found =>
    let next := (step current).filter fun p => !found.contains p
    if next.isEmpty then found else closure step fuel next (found ++ next)

/-- Do something exactly so many times. -/
def iterate (step : List Nat → List Nat) : Nat → List Nat → List Nat
  | 0, current => current
  | n + 1, current => iterate step n (step current)

/-- Do something up to so many times. -/
def upTo (step : List Nat → List Nat) : Nat → List Nat → List Nat
  | 0, current => current
  | n + 1, current => union current (upTo step n (step current))

/-- The places an expression leads to in a text from given places. -/
def run (text : Array Char) : Regex → List Nat → List Nat
  | .empty, ps => ps
  | .one f, ps => ps.filterMap fun p =>
    match text[p]? with
    | some c => if f c then some (p + 1) else none
    | none => none
  | .sequence a b, ps => run text b (run text a ps)
  | .either a b, ps => union (run text a ps) (run text b ps)
  | .repeated a least most, ps =>
    let start := iterate (run text a) least ps
    match most with
    | none => closure (run text a) (text.size + 1) start start
    | some n => upTo (run text a) (n - least) start
  | .lineStart, ps => ps.filter (· = 0)
  | .lineEnd, ps => ps.filter (· = text.size)
  | .border f, ps => ps.filter fun p =>
    let before := if p = 0 then false else (text[p - 1]?).any isWordChar
    f before ((text[p]?).any isWordChar)

/-- The expression fits a part of a text. -/
def occurs (r : Regex) (text : List Char) : Bool :=
  let cs := text.toArray
  !(r.run cs (List.range (cs.size + 1))).isEmpty

/-! ## Reading -/

/-- The kinds of characters that have a name. -/
def kinds : List (String × (Char → Bool)) :=
  let isGraph (c : Char) : Bool := '!' ≤ c && c ≤ '~'
  [("alnum", isLetterOrDigit), ("alpha", fun c => isLetterOrDigit c && !c.isDigit), 
    ("blank", fun c => c == ' ' || c == '\t'),
    ("cntrl", fun c => c < ' ' || c == '\x7f'), ("digit", Char.isDigit), ("graph", isGraph),
    ("lower", Char.isLower), ("print", fun c => isGraph c || c == ' '),
    ("punct", fun c => isGraph c && !c.isAlphanum), ("space", Digits.isSpace),
    ("upper", Char.isUpper), ("xdigit", Digits.isDigit 16)]

def unmatchedBracket : String := "Unmatched [, [^, [:, [., or [="

/-- The members of a set in brackets, from its first member on. -/
def members : (fuel : Nat) → (first : Bool) → List Char → (Char → Bool) →
    Except String ((Char → Bool) × List Char)
  | 0, _, _, _ => .error unmatchedBracket
  | fuel + 1, first, cs, f =>
    match cs with
    | [] => .error unmatchedBracket
    | '[' :: ':' :: rest =>
      let name := rest.takeWhile (· != ':')
      match rest.drop name.length with
      | ':' :: ']' :: rest =>
        match kinds.lookup (String.ofList name) with
        | some g => members fuel false rest fun c => f c || g c
        | none => .error "Invalid character class name"
      | _ => .error unmatchedBracket
    | c :: rest =>
      if c == ']' && !first then .ok (f, rest)
      else match rest with
        | '-' :: d :: rest' =>
          if d == ']' then members fuel false rest fun x => f x || x == c
          else if d < c then .error "Invalid range end"
          else members fuel false rest' fun x => f x || (c ≤ x && x ≤ d)
        | _ => members fuel false rest fun x => f x || x == c

/-- A set in brackets, after the opening one. -/
def set (cs : List Char) : Except String (Regex × List Char) := do
  match cs with
  | [] | ['^'] => throw "Invalid regular expression"
  | '^' :: rest =>
    let (f, rest) ← members (rest.length + 1) true rest fun _ => false
    return (.one fun c => !f c, rest)
  | cs =>
    let (f, rest) ← members (cs.length + 1) true cs fun _ => false
    return (.one f, rest)

/-- The numbers between braces, after the opening one. -/
def bounds (cs : List Char) : Except String (Nat × Option Nat × List Char) :=
  let low := cs.takeWhile Char.isDigit
  let rest := cs.drop low.length
  let n := Digits.number 10 low
  match rest with
  | '\\' :: '\x7d' :: rest =>
    if low.isEmpty then .error "Invalid content of \\\x7b\\\x7d" else .ok (n, some n, rest)
  | ',' :: rest =>
    let high := rest.takeWhile Char.isDigit
    match rest.drop high.length with
    | '\\' :: '\x7d' :: rest =>
      if high.isEmpty then .ok (n, none, rest)
      else
        let m := Digits.number 10 high
        if m < n then .error "Invalid content of \\\x7b\\\x7d" else .ok (n, some m, rest)
    | _ => .error "Unmatched \\\x7b"
  | _ => .error "Unmatched \\\x7b"

/-- The repetitions after an expression. -/
def repetitions : (fuel : Nat) → Regex → List Char → Except String (Regex × List Char)
  | 0, r, cs => .ok (r, cs)
  | fuel + 1, r, cs =>
    match cs with
    | '*' :: rest => repetitions fuel (.repeated r 0 none) rest
    | '\\' :: '+' :: rest => repetitions fuel (.repeated r 1 none) rest
    | '\\' :: '?' :: rest => repetitions fuel (.repeated r 0 (some 1)) rest
    | '\\' :: '\x7b' :: rest => do
      let (least, most, rest) ← bounds rest
      repetitions fuel (.repeated r least most) rest
    | cs => .ok (r, cs)

/-- What a letter after a backslash stands for. -/
def escape (c : Char) : Regex :=
  match c with
  | 'w' => .one isWordChar
  | 'W' => .one fun c => !isWordChar c
  | 's' => .one Digits.isSpace
  | 'S' => .one fun c => !Digits.isSpace c
  | 'b' => .border fun a b => a != b
  | 'B' => .border fun a b => a == b
  | '<' => .border fun a b => !a && b
  | '>' => .border fun a b => a && !b
  | c => if c == Char.ofNat 96 then .lineStart else if c == '\'' then .lineEnd else .one (· == c)

/-- Expressions up to the end of a group or of the text. -/
def alternatives : (fuel : Nat) → (depth : Nat) → (start : Bool) → List Char → Regex →
    Except String (Regex × List Char)
  | 0, _, _, _, _ => .error "Regular expression too big"
  | fuel + 1, depth, start, cs, sofar =>
    let go (r : Regex) (rest : List Char) : Except String (Regex × List Char) := do
      let (r, rest) ← repetitions (rest.length + 1) r rest
      alternatives fuel depth false rest (.sequence sofar r)
    match cs with
    | [] => if depth = 0 then .ok (sofar, []) else .error "Unmatched ( or \\("
    | '\\' :: '|' :: rest => do
      let (other, rest) ← alternatives fuel depth true rest .empty
      return (.either sofar other, rest)
    | '\\' :: ')' :: rest => if depth = 0 then .error "Unmatched ) or \\)" else .ok (sofar, rest)
    | '\\' :: '(' :: rest => do
      let (r, rest) ← alternatives fuel (depth + 1) true rest .empty
      go r rest
    | ['\\'] => .error "Trailing backslash"
    | '\\' :: '\x7b' :: rest =>
      if start then .error "Invalid preceding regular expression" else go (.one (· == '\x7b')) rest
    | '\\' :: c :: rest => go (escape c) rest
    | '[' :: rest => do
      let (r, rest) ← set rest
      go r rest
    | '.' :: rest => go (.one fun _ => true) rest
    | '^' :: rest =>
      if start then alternatives fuel depth true rest (.sequence sofar .lineStart)
      else go (.one (· == '^')) rest
    | '$' :: rest =>
      let isEnd := match rest with
        | [] | '\\' :: ')' :: _ | '\\' :: '|' :: _ => true
        | _ => false
      if isEnd then alternatives fuel depth false rest (.sequence sofar .lineEnd)
      else go (.one (· == '$')) rest
    | c :: rest => go (.one (· == c)) rest

/-- The expression that a text stands for. -/
def parse (text : String) : Except String Regex := do
  let cs := text.toList
  return (← alternatives (cs.length * 2 + 2) 0 true cs .empty).1

end Regex

end Assay.Sandbox

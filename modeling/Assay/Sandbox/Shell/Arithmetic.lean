import Assay.Sandbox.Octets

/-! # Arithmetic

Expressions on whole numbers of 64 bits.  An expression is evaluated while it is
read, so what stands before a mistake has its effect.  Parts whose value does not
count, such as the second operand of `&&` after a zero, are read without effect:
there `idle` is set.
-/

namespace Assay.Sandbox.Shell.Arithmetic

/-- An operator between two operands. -/
inductive Operator where
  | times | over | rest
  | plus | minus
  | shiftLeft | shiftRight
  | less | lessEqual | greater | greaterEqual
  | equal | unequal
  | bitAnd | bitXor | bitOr
  deriving Repr, DecidableEq

/-- How weakly an operator binds. -/
def Operator.weakness : Operator → Nat
  | .times | .over | .rest => 0
  | .plus | .minus => 1
  | .shiftLeft | .shiftRight => 2
  | .less | .lessEqual | .greater | .greaterEqual => 3
  | .equal | .unequal => 4
  | .bitAnd => 5
  | .bitXor => 6
  | .bitOr => 7

/-- Weaker than any operator. -/
def weakest : Nat := 8

inductive Token where
  | ended
  | bad
  | number (n : Int)
  | name (text : String)
  | operator (o : Operator)
  /-- An assignment, after an operator or not. -/
  | assign (o : Option Operator)
  | both
  | either
  | not
  | bitNot
  | opening
  | closing
  | question
  | colon
  deriving Repr, DecidableEq

/-- The greatest number. -/
def greatest : Nat := Nat.pow 2 63 - 1

/-- The start of a text as a number: a base that `0x` or a zero tell, and as many
digits as there are.  The result is the number and what follows it. -/
def numeral (cs : List Char) : Nat × List Char :=
  match cs with
  | '0' :: x :: d :: rest =>
    if (x == 'x' || x == 'X') && Digits.isDigit 16 d then
      let (digits, rest) := Digits.split 16 cs.length (d :: rest)
      (Digits.number 16 digits, rest)
    else
      let (digits, rest) := Digits.split 8 cs.length cs
      (Digits.number 8 digits, rest)
  | '0' :: _ =>
    let (digits, rest) := Digits.split 8 cs.length cs
    (Digits.number 8 digits, rest)
  | _ =>
    let (digits, rest) := Digits.split 10 cs.length cs
    (Digits.number 10 digits, rest)

def isNamePart (c : Char) : Bool := c.isAlphanum || c == '_'

/-- The token at the start of a text without leading blanks. -/
def tokenAt (cs : List Char) : Token × List Char :=
  let orAssign (o : Operator) (rest : List Char) : Token × List Char :=
    match rest with
    | '=' :: rest => (.assign (some o), rest)
    | rest => (.operator o, rest)
  match cs with
  | [] => (.ended, [])
  | '=' :: '=' :: rest => (.operator .equal, rest)
  | '=' :: rest => (.assign none, rest)
  | '>' :: '=' :: rest => (.operator .greaterEqual, rest)
  | '>' :: '>' :: rest => orAssign .shiftRight rest
  | '>' :: rest => (.operator .greater, rest)
  | '<' :: '=' :: rest => (.operator .lessEqual, rest)
  | '<' :: '<' :: rest => orAssign .shiftLeft rest
  | '<' :: rest => (.operator .less, rest)
  | '|' :: '|' :: rest => (.either, rest)
  | '|' :: rest => orAssign .bitOr rest
  | '&' :: '&' :: rest => (.both, rest)
  | '&' :: rest => orAssign .bitAnd rest
  | '!' :: '=' :: rest => (.operator .unequal, rest)
  | '!' :: rest => (.not, rest)
  | '(' :: rest => (.opening, rest)
  | ')' :: rest => (.closing, rest)
  | '*' :: rest => orAssign .times rest
  | '/' :: rest => orAssign .over rest
  | '%' :: rest => orAssign .rest rest
  | '+' :: rest => orAssign .plus rest
  | '-' :: rest => orAssign .minus rest
  | '~' :: rest => (.bitNot, rest)
  | '^' :: rest => orAssign .bitXor rest
  | '?' :: rest => (.question, rest)
  | ':' :: rest => (.colon, rest)
  | c :: rest =>
    if c.isDigit then
      let (n, rest) := numeral (c :: rest)
      (.number (min n greatest), rest)
    else if isNamePart c then
      let name := c :: rest.takeWhile isNamePart
      (.name (String.ofList name), rest.dropWhile isNamePart)
    else (.bad, c :: rest)

/-- The next token of a text. -/
def token (cs : List Char) : Token × List Char :=
  tokenAt (cs.dropWhile fun c => c == ' ' || c == '\t' || c == '\n')

/-- Why an expression has no value. -/
inductive Fault where
  /-- The expression is wrong. -/
  | expression (why : String)
  /-- The value of a variable is no number. -/
  | badNumber (text : String)
  /-- A variable cannot be changed. -/
  | fixed (name : String)
  /-- A division whose result is no number of 64 bits. -/
  | overflow
  deriving Repr, DecidableEq

/-- What variables there are. -/
structure Variables where
  value : String → Option String
  isFixed : String → Bool

/-- How far an expression has been read, and the variables it has set, the latest
first. -/
structure State where
  text : List Char
  /-- The token after what has been read. -/
  next : Token := .ended
  assigned : List (String × Int) := []

abbrev EvalM := EStateM Fault State

/-- Take a token off the text. -/
def take : EvalM Token := do
  let s ← get
  let (t, rest) := token s.text
  set { s with text := rest }
  return t

/-- A number as it is kept in 64 bits. -/
def wrap (n : Int) : Int := Int.bmod n Digits.modulus

def truth (b : Bool) : Int := if b then 1 else 0

def wrong {α : Type} (why : String) : EvalM α := throw (.expression why)

/-- The result of an operator. -/
def apply (o : Operator) (a b : Int) : EvalM Int :=
  match o with
  | .plus => return wrap (a + b)
  | .minus => return wrap (a - b)
  | .times => return wrap (a * b)
  | .over => do
    if b = 0 then wrong "division by zero"
    if a = -(greatest : Int) - 1 && b = -1 then throw .overflow
    return a.tdiv b
  | .rest => do
    if b = 0 then wrong "division by zero"
    if a = -(greatest : Int) - 1 && b = -1 then throw .overflow
    return a.tmod b
  | .equal => return truth (a = b)
  | .unequal => return truth (a ≠ b)
  | .less => return truth (a < b)
  | .greater => return truth (b < a)
  | .lessEqual => return truth (a ≤ b)
  | .greaterEqual => return truth (b ≤ a)
  | .shiftLeft => return wrap (a * Nat.pow 2 (Digits.bits b % 64))
  | .shiftRight => return a / Nat.pow 2 (Digits.bits b % 64)
  | .bitAnd => return wrap (Digits.bits a &&& Digits.bits b)
  | .bitOr => return wrap (Digits.bits a ||| Digits.bits b)
  | .bitXor => return wrap (Digits.bits a ^^^ Digits.bits b)

/-- A text as a number, with blanks around it; nothing is zero. -/
def numberOf (text : String) : Except Fault Int :=
  let cs := text.toList.dropWhile Digits.isSpace
  let (negative, digits) := Digits.sign cs
  if digits.head?.any Char.isDigit then
    let (n, rest) := numeral digits
    let n := Digits.signed negative n
    if !(rest.dropWhile Digits.isSpace).isEmpty || (greatest : Int) < n || n < -(greatest : Int) - 1 then
      .error (.badNumber text)
    else .ok n
  else if cs.isEmpty then .ok 0
  else .error (.badNumber text)

section Evaluation

variable (vars : Variables)

/-- The value of a variable. -/
def valueOf (name : String) : EvalM Int := do
  match (← get).assigned.lookup name with
  | some n => return n
  | none =>
    match numberOf ((vars.value name).getD "") with
    | .ok n => return n
    | .error e => throw e

/-- Set a variable. -/
def assign (name : String) (n : Int) : EvalM Int := do
  if vars.isFixed name then throw (.fixed name)
  modify fun s => { s with assigned := (name, n) :: s.assigned }
  return n

mutual

/-- An operand whose first token is `t`, followed by `next`. -/
def primary (fuel : Nat) (idle : Bool) (t next : Token) : EvalM Int :=
  match fuel with
  | 0 => wrong "expecting primary"
  | fuel + 1 => do
    match t with
    | .opening =>
      let n ← assignment fuel idle next
      if (← get).next ≠ .closing then wrong "expecting ')'"
      let next ← take
      modify fun s => { s with next := next }
      return n
    | .number n =>
      modify fun s => { s with next := next }
      return n
    | .name text =>
      modify fun s => { s with next := next }
      if idle then return 1
      valueOf vars text
    | .operator .plus => primary fuel idle next (← take)
    | .operator .minus => return wrap (-(← primary fuel idle next (← take)))
    | .not => return truth ((← primary fuel idle next (← take)) = 0)
    | .bitNot => return -(← primary fuel idle next (← take)) - 1
    | _ => wrong "expecting primary"

/-- Operands after `a` and the operator `o`, as long as operators bind more
strongly than `bound`. -/
def operands (fuel : Nat) (idle : Bool) (a : Int) (o : Operator) (bound : Nat) : EvalM Int :=
  match fuel with
  | 0 => wrong "expecting primary"
  | fuel + 1 => do
    let t ← take
    let b ← primary fuel idle t (← take)
    let b ← match (← get).next with
      | .operator o' => if o'.weakness < o.weakness then operands fuel idle b o' o.weakness else pure b
      | _ => pure b
    let a ← if idle then pure b else apply o a b
    match (← get).next with
    | .operator o' => if bound ≤ o'.weakness then return a else operands fuel idle a o' bound
    | _ => return a

/-- Operands with operators between them. -/
def operation (fuel : Nat) (idle : Bool) (t next : Token) : EvalM Int :=
  match fuel with
  | 0 => wrong "expecting primary"
  | fuel + 1 => do
    let a ← primary fuel idle t next
    match (← get).next with
    | .operator o => operands fuel idle a o weakest
    | _ => return a

def conjunction (fuel : Nat) (idle : Bool) (t next : Token) : EvalM Int :=
  match fuel with
  | 0 => wrong "expecting primary"
  | fuel + 1 => do
    let a ← operation fuel idle t next
    if (← get).next ≠ .both then return a
    let t ← take
    let b ← conjunction fuel (idle || a = 0) t (← take)
    return truth (a ≠ 0 && b ≠ 0)

def disjunction (fuel : Nat) (idle : Bool) (t next : Token) : EvalM Int :=
  match fuel with
  | 0 => wrong "expecting primary"
  | fuel + 1 => do
    let a ← conjunction fuel idle t next
    if (← get).next ≠ .either then return a
    let t ← take
    let b ← disjunction fuel (idle || a ≠ 0) t (← take)
    return truth (a ≠ 0 || b ≠ 0)

def choice (fuel : Nat) (idle : Bool) (t next : Token) : EvalM Int :=
  match fuel with
  | 0 => wrong "expecting primary"
  | fuel + 1 => do
    let a ← disjunction fuel idle t next
    if (← get).next ≠ .question then return a
    let b ← assignment fuel (idle || a = 0) (← take)
    if (← get).next ≠ .colon then wrong "expecting ':'"
    let t ← take
    let c ← choice fuel (idle || a ≠ 0) t (← take)
    return if a ≠ 0 then b else c

/-- An expression whose first token is `t`. -/
def assignment (fuel : Nat) (idle : Bool) (t : Token) : EvalM Int :=
  match fuel with
  | 0 => wrong "expecting primary"
  | fuel + 1 => do
    let next ← take
    match t, next with
    | .name text, .assign o =>
      let n ← assignment fuel idle (← take)
      if idle then return n
      match o with
      | none => assign vars text n
      | some o => assign vars text (← apply o (← valueOf vars text) n)
    | t, next => choice fuel idle t next

end

/-- The value of an expression, and the variables it has set, the first one
first. -/
def evaluate (text : List Char) : Except Fault Int × List (String × Int) :=
  let whole : EvalM Int := do
    let n ← assignment vars (16 * text.length + 64) false (← take)
    if (← get).next ≠ .ended then wrong "expecting EOF"
    return n
  match whole.run { text := text } with
  | .ok n s => (.ok n, s.assigned.reverse)
  | .error e s => (.error e, s.assigned.reverse)

end Evaluation

end Assay.Sandbox.Shell.Arithmetic

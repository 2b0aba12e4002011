import Assay.Sandbox.Utility.Quote

/-! # Options of utilities

Options are single letters, several of which may stand together, or long names,
which may be shortened as long as they are clear.  Operands may stand between
options.
-/

namespace Assay.Sandbox

/-- Whether an option takes a value. -/
inductive Arity where
  | none
  | required
  | optional
  deriving Repr, DecidableEq

/-- The options of a utility.  `key` is what an option is known by inside. -/
structure OptionSpec where
  letters : List (Char × Arity) := []
  /-- Long names, what they take, and the key that they stand for. -/
  names : List (String × Arity × String) := []
  /-- Options are not looked for after the first operand. -/
  strict : Bool := false

namespace OptionSpec

/-- Letters without a value, and letters with one. -/
def ofLetters (plain valued : String) : List (Char × Arity) :=
  plain.toList.map (·, .none) ++ valued.toList.map (·, .required)

end OptionSpec

/-- What has been read of the arguments. -/
inductive Given where
  | option (key : String) (value : Option String)
  /-- An option that is not right. -/
  | fault (message : String)
  deriving Repr, DecidableEq

/-- Arguments as they have been read. -/
structure Reading where
  given : List Given := []
  operands : List String := []
  /-- The arguments that are options or belong to them. -/
  words : List String := []

namespace OptionSpec

/-- Read the letters of one argument; `rest` are the arguments after it. -/
def readLetters (spec : OptionSpec) : List Char → List String → List Given → List Given × List String
  | [], rest, sofar => (sofar, rest)
  | c :: cs, rest, sofar =>
    match spec.letters.lookup c with
    | none => readLetters spec cs rest (.fault ("invalid option -- '" ++ c.toString ++ "'") :: sofar)
    | some .none => readLetters spec cs rest (.option c.toString .none :: sofar)
    | some .optional =>
      (.option c.toString (if cs.isEmpty then .none else some (String.ofList cs)) :: sofar, rest)
    | some .required =>
      if !cs.isEmpty then (.option c.toString (some (String.ofList cs)) :: sofar, rest)
      else match rest with
        | value :: rest => (.option c.toString (some value) :: sofar, rest)
        | [] => (.fault ("option requires an argument -- '" ++ c.toString ++ "'") :: sofar, [])

/-- The long name that a text stands for: the name itself, or one that it is the
start of. -/
def findName (spec : OptionSpec) (text : String) : Except String (String × Arity × String) :=
  match spec.names.find? fun n => n.1 = text with
  | some n => .ok n
  | none =>
    let fitting := spec.names.filter fun n => text.toList.isPrefixOf n.1.toList
    match fitting with
    | [] => .error ""
    | n :: more =>
      if more.all fun m => m.2 = n.2 then .ok n
      else .error (" is ambiguous; possibilities:" ++
        String.join (fitting.map fun m => " '--" ++ m.1 ++ "'"))

/-- Read a long name with the value after an equals sign, if there is one. -/
def readName (spec : OptionSpec) (text : String) (rest : List String) : Given × List String :=
  let cs := text.toList
  let name := String.ofList (cs.takeWhile (· != '='))
  let value := match cs.dropWhile (· != '=') with
    | _ :: v => some (String.ofList v)
    | [] => none
  match spec.findName name with
  | .error "" => (.fault ("unrecognized option '--" ++ text ++ "'"), rest)
  | .error why => (.fault ("option '--" ++ text ++ "'" ++ why), rest)
  | .ok (full, arity, key) =>
    match arity, value, rest with
    | .none, some _, rest => (.fault ("option '--" ++ full ++ "' doesn't allow an argument"), rest)
    | .required, none, [] => (.fault ("option '--" ++ full ++ "' requires an argument"), [])
    | .required, none, v :: rest => (.option key (some v), rest)
    | _, value, rest => (.option key value, rest)

/-- Read arguments; what has been read so far is given, last one first. -/
def readFrom (spec : OptionSpec) : (fuel : Nat) → List String → Reading → Reading
  | 0, _, r => r
  | _, [], r => r
  | fuel + 1, arg :: rest, r =>
    /- What has been taken of the arguments, down to those that are left. -/
    let taken (left : List String) : List String := (arg :: rest).take (rest.length + 1 - left.length)
    match arg.toList with
    | ['-', '-'] => { r with operands := rest.reverse ++ r.operands, words := arg :: r.words }
    | '-' :: '-' :: cs =>
      let (g, left) := spec.readName (String.ofList cs) rest
      readFrom spec fuel left
        { r with given := g :: r.given, words := (taken left).reverse ++ r.words }
    | '-' :: c :: cs =>
      let (given, left) := spec.readLetters (c :: cs) rest r.given
      readFrom spec fuel left { r with given, words := (taken left).reverse ++ r.words }
    | _ =>
      if spec.strict then { r with operands := rest.reverse ++ arg :: r.operands }
      else readFrom spec fuel rest { r with operands := arg :: r.operands }

def read (spec : OptionSpec) (args : List String) : Reading :=
  let r := spec.readFrom (args.length + 1) args {}
  { given := r.given.reverse, operands := r.operands.reverse, words := r.words.reverse }

end OptionSpec

namespace UtilityM

/-- Read the arguments, and go through the options in order; the operands remain.
A fault is reported when its turn comes. -/
def options {α : Type} (spec : OptionSpec) (args : List String) (start : α)
    (step : α → String → Option String → UtilityM α) : UtilityM (α × List String) := do
  let s ← get
  let r := { spec with strict := spec.strict || s.isPosix }.read args
  let a ← r.given.foldlM (fun a g =>
    match g with
    | .option key value => step a key value
    | .fault message => do
      report message
      refuse) start
  return (a, r.operands)

/-- The choice that a text stands for, by its name or the start of it. -/
def choice? {α : Type} [DecidableEq α] (choices : List (String × α)) (text : String) :
    Except String α :=
  match choices.find? fun c => c.1 = text with
  | some c => .ok c.2
  | none =>
    match choices.filter fun c => text.toList.isPrefixOf c.1.toList with
    | [] => .error "invalid"
    | c :: more => if more.all fun m => m.2 = c.2 then .ok c.2 else .error "ambiguous"

/-- Names of choices in rows, those of the same meaning in one. -/
def choiceRows {α : Type} [DecidableEq α] (show_ : String → String) :
    List (String × α) → Option α → String
  | [], _ => "\n"
  | (name, a) :: rest, last =>
    (if last = some a then ", " else "\n  - ") ++ show_ name ++ choiceRows show_ rest (some a)

/-- Choose what a text stands for; `context` is what the choice is for. -/
def choose {α : Type} [DecidableEq α] (context : String) (choices : List (String × α))
    (text : String) : UtilityM α := do
  match choice? choices text with
  | .ok a => return a
  | .error problem =>
    let utf8 := (← get).isUtf8
    report (problem ++ " argument " ++ (← marked text) ++ " for " ++ (← marked context))
    let rows := choiceRows (Quote.marked utf8) choices none
    complain ("Valid arguments are:" ++ String.ofList rows.toList.dropLast)
    complain (hint (← get).name)
    throw 1

end UtilityM

end Assay.Sandbox

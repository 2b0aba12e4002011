import Assay.Cli.Usage

/-! # Reading the command line

The arguments are read one after the other.  A setting is open from its name
until the next option: only then, or at the end, its value is checked, that it
is there first, that the setting was not given before second.  An argument that
cannot be an option is refused at once, before any open setting is checked.

After `--` every argument is refused, since there is nothing but options.
-/

namespace Assay.Cli

/-- The least and the greatest number of 64 bits. -/
def int64Min : Int := -9223372036854775808

def int64Max : Int := 9223372036854775807

/-- Read digits from the left onto the number `n`, which stays within 64 bits. -/
def readDigits (negative : Bool) : Int → List Char → Except CodeFault Int
  | n, [] => .ok n
  | n, c :: rest =>
    if c.isDigit then
      let digit : Int := c.toNat - '0'.toNat
      let next := if negative then n * 10 - digit else n * 10 + digit
      if next < int64Min then .error .tooSmall
      else if int64Max < next then .error .tooLarge
      else readDigits negative next rest
    else .error .invalidDigit

/-- Read a return code: a sign or none, then digits; the number has 32 bits. -/
def readCode (text : String) : Except CodeFault Int := do
  let n ← match text.toList with
    | [] => throw .empty
    | ['+'] | ['-'] => throw .invalidDigit
    | '+' :: digits => readDigits false 0 digits
    | '-' :: digits => readDigits true 0 digits
    | digits => readDigits false 0 digits
  if n < -2147483648 || 2147483647 < n then throw (.outOfRange n)
  return n

/-- What follows a hyphen in a negative number: digits, with one point after the
first digit and then, perhaps, an exponent. -/
def looksNumeric (text : List Char) : Bool :=
  let mantissa := text.takeWhile fun c => c != 'e' && c != 'E'
  let whole := mantissa.takeWhile (· != '.')
  let fraction := (mantissa.drop whole.length).drop 1
  let exponent := text.drop mantissa.length
  whole.all Char.isDigit && fraction.all Char.isDigit &&
    (!whole.isEmpty || mantissa.isEmpty) &&
    (exponent.isEmpty || (!mantissa.isEmpty && exponent.length > 1 && (exponent.drop 1).all Char.isDigit))

namespace Options

/-- The setting was given. -/
def has (o : Options) : Setting → Bool
  | .tool => o.tool.isSome
  | .inputDir => o.inputDir.isSome
  | .extension => o.extension.isSome
  | .artifactSuffix => o.artifactSuffix.isSome
  | .referenceSuffix => o.referenceSuffix.isSome
  | .toolFlag => false
  | .traceVar => o.traceVar.isSome
  | .diffTool => o.diffTool.isSome
  | .matchCommand => o.matchCommand.isSome
  | .matchReturn => o.matchReturn.isSome
  | .matchStdout => o.matchStdout.isSome
  | .matchStderr => o.matchStderr.isSome
  | .format => o.format.isSome

/-- Give a setting its value.  Paths must not be empty. -/
def assign (o : Options) (s : Setting) (value : String) : Except Refusal Options :=
  match s with
  | .tool => if value.isEmpty then .error (.missingValue s) else .ok { o with tool := value }
  | .inputDir => if value.isEmpty then .error (.missingValue s) else .ok { o with inputDir := value }
  | .extension => .ok { o with extension := value }
  | .artifactSuffix => .ok { o with artifactSuffix := value }
  | .referenceSuffix => .ok { o with referenceSuffix := value }
  | .toolFlag => .ok { o with toolFlags := o.toolFlags ++ [value] }
  | .traceVar => .ok { o with traceVar := value }
  | .diffTool => .ok { o with diffTool := value }
  | .matchCommand => .ok { o with matchCommand := value }
  | .matchReturn =>
    match readCode value with
    | .ok n => .ok { o with matchReturn := n }
    | .error fault => .error (.badCode value fault)
  | .matchStdout => .ok { o with matchStdout := value }
  | .matchStderr => .ok { o with matchStderr := value }
  | .format =>
    if value.isEmpty then .error (.missingValue s)
    else if value = ReportFormat.console.key then .ok { o with format := some .console }
    else if value = ReportFormat.json.key then .ok { o with format := some .json }
    else .error (.unknownFormat value)

/-- Give a setting its value, if it has none yet. -/
def set (o : Options) (s : Setting) (value : String) : Except Refusal Options :=
  if o.has s then .error (.repeated s.display) else o.assign s value

/-- Turn a switch on, if it is off.  Help and version end the reading. -/
def raise (o : Options) (s : Switch) : Except Refusal Options :=
  match s with
  | .verbose => if o.verbose then .error (.repeated s.display) else .ok { o with verbose := true }
  | .exitFirst =>
    if o.exitFirst then .error (.repeated s.display) else .ok { o with exitFirst := true }
  | .noColor => if o.noColor then .error (.repeated s.display) else .ok { o with noColor := true }
  | .help => .error .help
  | .version => .error .version

end Options

/-- How far the arguments have been read. -/
structure Reading where
  options : Options := {}
  /-- The options given so far, each at its first place. -/
  given : List Argument := []
  /-- The open setting, with its value once that is there. -/
  current : Option (Setting × Option String) := none
  /-- The argument `--` has been read. -/
  closed : Bool := false
  deriving Repr, DecidableEq

namespace Reading

/-- Note that an option was given. -/
def mark (r : Reading) (a : Argument) : Reading :=
  if r.given.contains a then r else { r with given := r.given ++ [a] }

/-- Give a setting its value. -/
def set (r : Reading) (s : Setting) (value : String) : Except Refusal Reading := do
  return { r.mark (.setting s) with options := ← r.options.set s value }

/-- Close the open setting. -/
def close (r : Reading) : Except Refusal Reading :=
  match r.current with
  | none => .ok r
  | some (s, none) => .error (.missingValue s)
  | some (s, some value) => do return { ← r.set s value with current := none }

/-- The options given so far, the open setting included.  A setting that was
given twice is left out. -/
def givenSoFar (r : Reading) : List Argument :=
  match r.current with
  | some (s, some _) =>
    if r.options.has s then r.given.erase (.setting s) else (r.mark (.setting s)).given
  | _ => r.given

/-- The setting that waits for its value. -/
def waiting? (r : Reading) : Option Setting :=
  match r.current with
  | some (s, none) => some s
  | _ => none

/-- Take an argument as the value of the setting that waits. -/
def take (r : Reading) (s : Setting) (argument : String) : Reading :=
  { r with current := some (s, some argument) }

/-- Close the open setting and turn a switch on. -/
def switch (r : Reading) (s : Switch) : Except Refusal Reading := do
  let r ← r.close
  return { r.mark (.switch s) with options := ← r.options.raise s }

/-- An option with its long name, and the value behind the equals sign. -/
def long (r : Reading) (name : String) (value : Option String) : Except Refusal Reading :=
  match Setting.find? name, Switch.find? name, value with
  | some s, _, some v => do (← r.close).set s v
  | some s, _, none => do return { ← r.close with current := some (s, none) }
  | none, some s, some v => .error (.unneededValue s v r.given)
  | none, some s, none => r.switch s
  | none, none, _ => .error (.unknownName name r.givenSoFar)

/-- Switches by their letters. -/
def letters (r : Reading) : List Char → Except Refusal Reading
  | [] => .ok r
  | c :: rest =>
    match Switch.ofLetter? c with
    | some s => do (← r.switch s).letters rest
    | none => .error (.unknownArgument ("-" ++ c.toString))

/-- Read one argument. -/
def step (r : Reading) (argument : String) : Except Refusal Reading :=
  if r.closed then .error (.unknownArgument argument)
  else
    match r.waiting?, argument.toList with
    | some s, '-' :: '-' :: name =>
      if s.takesAnything then .ok (r.take s argument) else dashes r name
    | some s, '-' :: c :: rest =>
      if s.takesAnything || (s.takesNegative && looksNumeric (c :: rest)) then
        .ok (r.take s argument)
      else r.letters (c :: rest)
    | some s, _ => .ok (r.take s argument)
    | none, '-' :: '-' :: name => dashes r name
    | none, '-' :: c :: rest => r.letters (c :: rest)
    | none, _ => .error (.unknownArgument argument)
where
  /-- An argument that begins with two hyphens. -/
  dashes (r : Reading) (name : List Char) : Except Refusal Reading :=
    if name.isEmpty then .ok { r with closed := true }
    else
      let key := name.takeWhile (· != '=')
      match name.drop key.length with
      | [] => r.long (String.ofList key) none
      | _ :: value => r.long (String.ofList key) (some (String.ofList value))

end Reading

/-- Read a command line, the name of the program left out. -/
def parse (args : List String) : Except Refusal Options := do
  let r ← args.foldlM Reading.step {}
  return (← r.close).options

end Assay.Cli

import Assay.Sandbox.Shell.Builtin.Options
import Assay.Sandbox.Shell.Field

/-! # Builtin commands about variables and arguments -/

namespace Assay.Sandbox.Shell.Builtin

/-- Show variables as commands that set them. -/
def showVariables (lead : String) (shown : Variable → Bool) : ShellM Unit := do
  for (name, v) in (← get).sorted do
    if shown v then
      let value := match v.value with
        | some text => "=" ++ quote text
        | none => ""
      print (lead ++ name ++ value ++ "\n")

/-- Mark variables, or show those that are marked. -/
def mark (command : String) (isMarked : Variable → Bool) (change : Variable → Variable)
    (args : List String) : ShellM Nat := do
  let p ← plainOptions "p" args
  if p.has 'p' || p.rest.isEmpty then
    showVariables (command ++ " ") isMarked
    return 0
  for text in p.rest do
    let (name, value) := splitText text
    match value, (← get).named? name with
    | none, some v => modify fun s => s.put name (change v)
    | value, _ =>
      checkName name
      let marks := change { value := none }
      assignNamed name value marks.exported marks.fixed false
  return 0

def export_ (args : List String) : ShellM Nat :=
  mark "export" (·.exported) (fun v => { v with exported := true }) args

def readonly (args : List String) : ShellM Nat :=
  mark "readonly" (·.fixed) (fun v => { v with fixed := true }) args

def local_ (args : List String) : ShellM Nat := do
  if (← get).locals.isEmpty then fail "not in a function"
  args.forM fun text => makeLocal text false
  return 0

def unset (args : List String) : ShellM Nat := do
  let p ← plainOptions "vf" args
  let functions := (p.options.getLast?.map (·.1)) = some 'f'
  for name in p.rest do
    if functions then
      modify fun s => { s with functions := dropEntry s.functions name }
    else unassign name
  return 0

/-! ## Options of the shell -/

/-- Show or set an option by its name. -/
def namedOption (name : Option String) (on : Bool) : ShellM Unit := do
  match name with
  | some name =>
    if optionTable.any fun o => o.1 = name then setOption name on
    else fail ("Illegal option -o " ++ name)
  | none =>
    let s ← get
    if on then
      print "Current option settings\n"
      for (name, _) in optionTable do
        let blanks := String.ofList (List.replicate (16 - name.length) ' ')
        print (name ++ blanks ++ (if s.has name then "on" else "off") ++ "\n")
    else
      for (name, _) in optionTable do
        print ("set " ++ (if s.has name then "-o " else "+o ") ++ name ++ "\n")

/-- The letters of one argument, with the arguments that follow it.  The result
tells whether a script was announced. -/
def optionLetters (atStart on : Bool) : List Char → List String → (script : Bool) →
    ShellM (List String × Bool)
  | [], rest, script => return (rest, script)
  | c :: cs, rest, script => do
    if c == 'c' && atStart then optionLetters atStart on cs rest true
    else if c == 'l' && atStart then optionLetters atStart on cs rest script
    else if c == 'o' then
      namedOption rest.head? on
      optionLetters atStart on cs rest.tail script
    else
      setLetter c on
      optionLetters atStart on cs rest script

/-- Set options as arguments say, at the start of a shell or later.  The result is
the arguments left, and whether a script was announced. -/
def setOptions (atStart : Bool) : (fuel : Nat) → List String → (script : Bool) →
    ShellM (List String × Bool)
  | 0, args, script => return (args, script)
  | _, [], script => return ([], script)
  | fuel + 1, arg :: rest, script => do
    match arg.toList with
    | ['-'] =>
      unless atStart do
        setOption "xtrace" false
        setOption "verbose" false
      return (rest, script)
    | ['-', '-'] =>
      if !atStart && rest.isEmpty then modify fun s => { s with arguments := {} }
      return (rest, script)
    | '-' :: cs =>
      let (rest, script) ← optionLetters atStart true cs rest script
      setOptions atStart fuel rest script
    | '+' :: cs =>
      let (rest, script) ← optionLetters atStart false cs rest script
      setOptions atStart fuel rest script
    | _ => return (arg :: rest, script)

def set_ (args : List String) : ShellM Nat := do
  if args.isEmpty then
    showVariables "" fun v => v.value.isSome
    return 0
  let (rest, _) ← setOptions false (args.length + 1) args false
  unless rest.isEmpty do modify fun s => { s with arguments := { list := rest } }
  return 0

def shift (args : List String) : ShellM Nat := do
  let n ← match args with
    | text :: _ => number text
    | [] => pure 1
  let s ← get
  if s.arguments.list.length < n then fail "can't shift that many"
  set { s with arguments := { list := s.arguments.list.drop n } }
  return 0

/-! ## Options of scripts -/

/-- What an option string says of a letter: whether it takes an argument; nothing
if it does not know the letter. -/
def letterKind (spec : List Char) (c : Char) : Option Bool :=
  match spec with
  | [] => none
  | d :: ':' :: rest => if c == d then some true else letterKind rest c
  | d :: rest => if c == d then some false else letterKind rest c

/-- Read the next option of `words`. -/
def nextOption (spec name : String) (words : List String) : ShellM Nat := do
  let a := (← get).arguments
  let silent := spec.toList.head? == some ':'
  let current := match a.offset with
    | some offset => if a.next ≤ 1 then [] else ((words[a.next - 2]?).getD "").toList.drop offset
    | none => []
  /- What is left of the word with the option, and the number of the word after it. -/
  let place : Option (List Char × Nat) × Nat :=
    if !current.isEmpty then (some (current, a.next), a.next)
    else match (words[a.next - 1]?).map String.toList with
      | some ['-', '-'] => (none, a.next + 1)
      | some ('-' :: c :: cs) => (some (c :: cs, a.next + 1), a.next)
      | _ => (none, a.next)
  /- Tell the letter, and how far the words have been read. -/
  let finish (letter : Char) (next : Nat) (left : Option (List Char)) (status : Nat) : ShellM Nat := do
    modify fun s => s.put "OPTIND"
      { (s.named? "OPTIND").getD { value := none } with value := some (toString next) }
    assign name letter.toString
    let offset := left.map fun cs => ((words[next - 2]?).getD "").length - cs.length
    modify fun s => { s with arguments := { s.arguments with next := next, offset := offset } }
    return status
  match place with
  | (none, next) => finish '?' next none 1
  | (some ([], next), _) => finish '?' next none 1
  | (some (c :: cs, next), _) =>
    match letterKind spec.toList c with
    | none =>
      if silent then assign "OPTARG" c.toString
      else
        printOn 2 ("Illegal option -" ++ c.toString ++ "\n")
        unassign "OPTARG"
      finish '?' next (some cs) 0
    | some false =>
      assign "OPTARG" ""
      finish c next (some cs) 0
    | some true =>
      if !cs.isEmpty then
        assign "OPTARG" (String.ofList cs)
        finish c next none 0
      else match words[next - 1]? with
        | some value =>
          assign "OPTARG" value
          finish c (next + 1) none 0
        | none =>
          if silent then
            assign "OPTARG" c.toString
            finish ':' next none 0
          else
            printOn 2 ("No arg for -" ++ c.toString ++ " option\n")
            unassign "OPTARG"
            finish '?' next none 0

def getopts (args : List String) : ShellM Nat := do
  match (← plainOptions "" args).rest with
  | spec :: name :: words =>
    let a := (← get).arguments
    let words := if words.isEmpty then a.list else words
    if words.length + 1 < a.next then
      modify fun s => { s with arguments := { s.arguments with next := 1, offset := none } }
    nextOption spec name words
  | _ => fail "Usage: getopts optstring var [arg...]"

/-! ## Reading -/

/-- A line while it is read. -/
structure Line where
  glyphs : Array Glyph := #[]
  regions : List Region := []
  /-- Where the current region starts. -/
  start : Nat := 0
  /-- Where a backslash stands whose character is still to come. -/
  backslash : Option Nat := none

/-- Add the region up to an index, and start a new one after the glyphs. -/
def Line.cut (l : Line) (stop : Nat) : Line :=
  { l with regions := l.regions ++ [⟨l.start, stop, false⟩], start := l.glyphs.size, backslash := none }

/-- Read a line byte by byte; the result tells whether it had an end. -/
def readLine (raw : Bool) : (rounds : Nat) → Line → ShellM (Line × Bool)
  | 0, l => return (l, false)
  | rounds + 1, l => do
    match ← Proc.read 0 1 with
    | .error _ | .ok [] => return (l, false)
    | .ok (b :: _) =>
      let c := Char.ofNat b.toNat
      if c == '\x00' then return ← readLine raw rounds l
      let added := { l with glyphs := l.glyphs.push (.plain c) }
      match l.backslash with
      | some stop =>
        readLine raw rounds ((if c == '\n' then l else added).cut stop)
      | none =>
        if !raw && c == '\\' then readLine raw rounds { l with backslash := some l.glyphs.size }
        else if c == '\n' then return (l, true)
        else readLine raw rounds added

def read (args : List String) : ShellM Nat := do
  let p ← readOptions [⟨'p', true⟩, ⟨'r', false⟩] args []
  if p.rest.isEmpty then fail "arg count"
  let (line, ended) ← readLine (p.has 'r') loopBound {}
  let line := line.cut line.glyphs.size
  let fields := cutFields (← get).separators line.glyphs line.regions (some p.rest.length)
  for (name, i) in p.rest.zipIdx do
    assign name (Glyph.text ((fields[i]?).getD []))
  return if ended then 0 else 1

end Assay.Sandbox.Shell.Builtin

import Assay.Sandbox.Shell.Field
import Assay.Sandbox.Shell.State

/-! # Expansion

What words stand for.  Parts of a word are replaced one after the other by the
values of parameters, by what commands print and by the values of arithmetic
expressions.  What the result is good for is a `Mode`: in `full` mode it is then
cut into fields, which are read as patterns of file names.

Commands whose output is asked for are run by a function that is given.
-/

namespace Assay.Sandbox.Shell

/-- What a word is expanded for. -/
structure Mode where
  /-- To be cut into fields. -/
  full : Bool := false
  /-- To be read as a pattern. -/
  pattern : Bool := false
  /-- A tilde at the start stands for a directory. -/
  tilde : Bool := false
  /-- A tilde after the first equals sign, and after colons, does too. -/
  assignment : Bool := false
  /-- The equals sign of an assignment has been passed. -/
  assigned : Bool := false
  /-- The word belongs to a parameter. -/
  word : Bool := false
  /-- Within double quotes. -/
  quoted : Bool := false
  /-- The result does not matter. -/
  discard : Bool := false
  deriving Repr, DecidableEq

/-- Glyphs keep whether they are escaped. -/
def Mode.escapes (m : Mode) : Bool := m.full || m.pattern

/-- An expanded word. -/
structure Expanded where
  glyphs : Array Glyph := #[]
  /-- The regions that are cut into fields, in order. -/
  regions : Array Region := #[]

namespace Expanded

def size (e : Expanded) : Nat := e.glyphs.size

def add (e : Expanded) (gs : List Glyph) : Expanded := { e with glyphs := e.glyphs.appendList gs }

/-- Add a text. -/
def addText (e : Expanded) (m : Mode) (text : List Char) : Expanded :=
  e.add (text.map (Glyph.of (m.quoted && m.escapes)))

/-- What has been added since `start` is cut into fields. -/
def mark (e : Expanded) (start : Nat) (arguments : Bool) : Expanded :=
  { e with regions := e.regions.push ⟨start, e.size, arguments⟩ }

/-- Drop what has been added since `start`. -/
def cut (e : Expanded) (start : Nat) : Expanded :=
  { glyphs := e.glyphs.take start
    regions := e.regions.filter fun r => r.start < start }

/-- The glyphs from `start` on. -/
def since (e : Expanded) (start : Nat) : List Glyph := (e.glyphs.extract start e.size).toList

end Expanded

/-- A stretch of a word. -/
inductive Piece where
  /-- Characters and marks, and whether the word ends after them. -/
  | text (parts : List Glyph) (last : Bool)
  | part (p : Part)
  /-- All arguments in double quotes, and nothing else in them. -/
  | arguments

/-- The glyph that a simple part stands for. -/
def Part.glyph? : Part → Option Glyph
  | .char c => some (.plain c)
  | .escaped c => some (.escaped c)
  | .mark => some .mark
  | _ => none

/-- The stretches of a word; `run` has been read, last glyph first. -/
def piecesFrom : (quoted : Bool) → (run : List Glyph) → Word → List Piece
  | _, run, [] => [.text run.reverse true]
  | false, run, .mark :: .parameter "@" .value false [] :: .mark :: rest =>
    .text run.reverse false :: .arguments :: piecesFrom false [] rest
  | quoted, run, p :: rest =>
    match p.glyph? with
    | some .mark => piecesFrom (!quoted) (.mark :: run) rest
    | some g => piecesFrom quoted (g :: run) rest
    | none => .text run.reverse false :: .part p :: piecesFrom quoted [] rest

/-- The stretches of a word. -/
def pieces (w : Word) : List Piece := piecesFrom false [] w

/-- The directory that a tilde with a name after it stands for. -/
def homeOf (s : State) (name : List Char) : Option String :=
  let home := if name.isEmpty then s.value? "HOME"
    else if name = "root".toList then some "/root" else none
  home.filter fun h => !h.isEmpty

/-- The name after a tilde and what follows it; nothing if it has no end. -/
def tildeName (m : Mode) (last : Bool) : List Glyph → List Char → Option (List Char × List Glyph)
  | [], name => if last then some (name.reverse, []) else none
  | .plain '/' :: rest, name => some (name.reverse, .plain '/' :: rest)
  | .plain ':' :: rest, name =>
    if m.assignment then some (name.reverse, .plain ':' :: rest)
    else tildeName m last rest (':' :: name)
  | .plain c :: rest, name => tildeName m last rest (c :: name)
  | _, _ => none

/-- Where an expansion is in a word. -/
structure Position where
  quoted : Bool := false
  /-- A tilde here stands for a directory. -/
  tilde : Bool
  /-- The equals sign of an assignment has been passed. -/
  assigned : Bool

/-- Add a stretch of simple glyphs.  `run` is the start of the current region. -/
def addGlyphs (s : State) (m : Mode) (last : Bool) :
    (fuel : Nat) → Position → (run : Option Nat) → List Glyph → Expanded → Position × Expanded
  | 0, pos, _, _, e => (pos, e)
  | fuel + 1, pos, run, gs, e =>
    let cutting := m.word && !m.quoted && !m.discard
    let finish (e : Expanded) : Expanded :=
      match run with
      | some start => if cutting && start < e.size then e.mark start false else e
      | none => e
    let plain (pos : Position) (c : Char) (rest : List Glyph) : Position × Expanded :=
      let run := if cutting && !pos.quoted then some (run.getD e.size) else none
      let e := if m.discard then e else e.add [.plain c]
      addGlyphs s m last fuel pos run rest e
    match gs with
    | [] => (pos, finish e)
    | .mark :: rest =>
      let e := finish e
      let e := if m.escapes && !m.discard then e.add [.mark] else e
      addGlyphs s m last fuel { pos with quoted := !pos.quoted, tilde := false } none rest e
    | .escaped c :: rest =>
      let e := finish e
      let e := if m.discard then e else e.add [if m.escapes then .escaped c else .plain c]
      addGlyphs s m last fuel { pos with tilde := false } none rest e
    | .plain c :: rest =>
      if c == '~' && pos.tilde then
        match tildeName m last rest [] with
        | none => plain { pos with tilde := false } c rest
        | some (name, rest') =>
          if m.discard then addGlyphs s m last fuel { pos with tilde := false } none rest' (finish e)
          else
            match homeOf s name with
            | none => plain { pos with tilde := false } c rest
            | some home =>
              let e := (finish e).addText { m with quoted := true } home.toList
              addGlyphs s m last fuel { pos with tilde := false } none rest' e
      else
        let isEquals := c == '=' && !pos.assigned
        let opens := m.assignment && (isEquals || c == ':')
        plain { pos with tilde := opens, assigned := pos.assigned || (m.assignment && isEquals) } c rest

/-- The value of a parameter: the text, in which arguments may be joined by a
separator, or nothing. -/
def parameterValue (s : State) (m : Mode) (name : String) : Option (List Char) :=
  let args := s.arguments.list
  let joined (separator : Option Char) : List Char :=
    match separator with
    | some c => (args.map String.toList).intersperse [c] |>.flatten
    | none => (args.map String.toList).flatten
  let first : Option Char :=
    match s.value? "IFS" with
    | some ifs => ifs.toList.head?
    | none => some ' '
  let every (isStar : Bool) : List Char :=
    if m.full then
      if m.quoted then
        if isStar then joined first else joined (some Cutting.separator)
      else joined (if (s.value? "IFS").isSome then some Cutting.separator else some ' ')
    else joined first
  match name with
  | "$" => some (toString s.rootPid).toList
  | "?" => some (toString s.status).toList
  | "#" => some (toString args.length).toList
  | "!" => if s.background = 0 then none else some (toString s.background).toList
  | "-" => some s.letters.toList
  | "@" => some (every false)
  | "*" => some (every true)
  | name =>
    match name.toList with
    | c :: _ =>
      if c.isDigit then
        let n := Digits.number 10 name.toList
        if n = 0 then some s.name.toList else (args[n - 1]?).map String.toList
      else (s.value? name).map String.toList
    | [] => none

/-- Refuse a parameter that has no value. -/
def unsetParameter {α : Type} (name message : String) : ShellM α := fail (name ++ ": " ++ message)

section Parts

-- What a command prints, without newlines at its end.
variable (output : Option Command → ShellM String)

/-- Expand a word within another one. -/
abbrev Inner := Mode → Word → Expanded → ShellM Expanded

/-- Expand a parameter. -/
def expandParameter (inner : Inner) (m : Mode) (name : String) (form : Form) (orEmpty : Bool)
    (w : Word) (e : Expanded) : ShellM Expanded := do
  let s ← get
  let start := e.size
  if form = .bad then
    if m.discard then return e
    fail "Bad substitution"
  let measured := form = .length || form = .alternative
  let value := parameterValue s { m with full := m.full && !measured } name
  let present := value.any fun v => !(orEmpty && v.isEmpty)
  /- What has been added is cut into fields, unless it is quoted. -/
  let record (e : Expanded) : Expanded :=
    if m.quoted then
      if name = "@" && !s.arguments.list.isEmpty then e.mark start true else e
    else e.mark start false
  let withValue : Expanded :=
    if m.discard then e else record (e.addText m (value.getD []))
  match form with
  | .fallback =>
    let wordMode := { m with tilde := true, word := true, discard := m.discard || present }
    let e := if present && !m.discard then e.addText m (value.getD []) else e
    let e ← inner wordMode w e
    return if present && !m.discard then record e else e
  | .alternative =>
    inner { m with tilde := true, word := true, discard := m.discard || !present } w e
  | .assign | .demand =>
    let wordMode : Mode := { tilde := true, discard := m.discard || present }
    let word ← inner wordMode w {}
    if m.discard then return e
    if present then return withValue
    let text := Glyph.text word.glyphs.toList
    if form = .demand then
      if w.isEmpty then
        unsetParameter name (if orEmpty then "parameter not set or null" else "parameter not set")
      else unsetParameter name text
    assign name text
    let value := parameterValue (← get) m name
    return record (e.addText m (value.getD []))
  | form =>
    if !present && !m.discard && s.has "nounset" then unsetParameter name "parameter not set"
    match form with
    | .length =>
      if m.discard then return e
      return record (e.addText m (toString (value.getD []).length).toList)
    | .value => return if present then withValue else e
    | form =>
      let discard := m.discard || !present
      let pattern ← inner { tilde := true, pattern := true, discard := discard } w {}
      if discard then return e
      let text := value.getD []
      let atEnd := form = .trimEnd || form = .trimEndMost
      let longest := form = .trimEndMost || form = .trimStartMost
      let left := Pattern.trim atEnd longest (Glyph.pattern pattern.glyphs.toList) text
      return record (e.addText m left)

/-- Expand an arithmetic expression. -/
def expandArithmetic (inner : Inner) (m : Mode) (w : Word) (e : Expanded) : ShellM Expanded := do
  let start := e.size
  let text ← inner { discard := m.discard } w {}
  if m.discard then return e
  let s ← get
  let vars : Arithmetic.Variables :=
    { value := s.value?, isFixed := fun name => (s.named? name).any (·.fixed) }
  let cs := text.glyphs.toList.filterMap Glyph.char?
  let (result, assigned) := Arithmetic.evaluate vars cs
  for (name, n) in assigned do
    assign name (toString n)
  match result with
  | .ok n =>
    let e := e.addText m (toString n).toList
    return if m.quoted then e else e.mark start false
  | .error (.expression why) =>
    fail ("arithmetic expression: " ++ why ++ ": \"" ++ String.ofList cs ++ "\"")
  | .error (.badNumber text) => badNumber text
  | .error (.fixed name) => fail (name ++ ": is read only")
  | .error .overflow =>
    flush
    Proc.leave (.signal 8)

/-- Expand the stretches of a word one after the other. -/
def expandPieces (inner : Inner) (m : Mode) : Position → List Piece → Expanded → ShellM Expanded
  | _, [], e => return e
  | pos, .text gs last :: rest, e => do
    let (pos, e) := addGlyphs (← get) m last (gs.length + 1) pos none gs e
    expandPieces inner m pos rest e
  | pos, .arguments :: rest, e => do
    let e ← expandParameter inner { m with quoted := true } "@" .value false [] e
    expandPieces inner m { pos with tilde := false } rest e
  | pos, .part p :: rest, e => do
    let m' := { m with quoted := m.quoted || pos.quoted, assigned := pos.assigned }
    let e ← match p with
      | .parameter name form orEmpty w => expandParameter inner m' name form orEmpty w e
      | .arithmetic w => expandArithmetic inner m' w e
      | .output body =>
        if m'.discard then pure e
        else
          let start := e.size
          let text ← output body
          let e := e.addText m' text.toList
          pure (if m'.quoted then e else e.mark start false)
      | _ => pure e
    expandPieces inner m { pos with tilde := false } rest e

/-- Expand a word, in which others stand in each other up to a depth. -/
def expandWord : (depth : Nat) → Inner
  | 0, _, _, e => return e
  | depth + 1, m, w, e => do
    expandPieces output (expandWord depth) m { tilde := m.tilde, assigned := m.assigned } (pieces w) e

/-- How deep words may stand in each other. -/
def wordDepth : Nat := 1000000

/-- Expand a word to a text. -/
def expandText (m : Mode) (w : Word) : ShellM String := do
  let e ← expandWord output wordDepth m w {}
  return Glyph.text e.glyphs.toList

/-- Expand a word to a pattern. -/
def expandPattern (w : Word) : ShellM (List Char) := do
  let e ← expandWord output wordDepth { tilde := true, pattern := true } w {}
  return Glyph.pattern e.glyphs.toList

/-- The glyph has a meaning in patterns of file names. -/
def Glyph.isActive (g : Glyph) : Bool := g == .plain '*' || g == .plain '?' || g == .plain '['

/-- The file names that a field stands for, or the field itself. -/
def fieldNames (field : List Glyph) : ShellM (List String) := do
  let itself := [Glyph.text field]
  if (← isSet "noglob") || !field.any Glyph.isActive then return itself
  let names ← Proc.ask fun pid s => Pattern.pathnames s pid (Glyph.pattern field)
  return if names.isEmpty then itself else names

/-- Expand a word to fields. -/
def expandFields (w : Word) : ShellM (List String) := do
  let e ← expandWord output wordDepth { full := true, tilde := true } w {}
  let s ← get
  let fields := cutFields s.separators e.glyphs e.regions.toList none
  let names ← fields.mapM fieldNames
  return names.flatten

end Parts

end Assay.Sandbox.Shell

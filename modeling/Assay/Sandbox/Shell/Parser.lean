import Assay.Sandbox.Shell.Lexer

/-! # Reading commands

The grammar of the shell over its tokens.  A list of commands holds pipelines,
a pipeline holds commands, and commands hold lists; the readers here are given
the reader of lists they need.

`parse` reads one complete command, as much as stands on a line, and tells how
much of the script is left.
-/

namespace Assay.Sandbox.Shell.Parser

/-- Where a list of commands stands. -/
inductive ListKind where
  /-- On its own: it ends with the line. -/
  | toplevel
  /-- Within a command: it has at least one command. -/
  | inner
  /-- Within a choice or a substitution: it may be empty. -/
  | optional
  deriving Repr, DecidableEq

/-- A reader of lists. -/
abbrev ListParser := ListKind → ParserM (Option Command)

/-- The commands of a substitution: of a text between backquotes, in which tokens
left over do not matter, or of what follows up to a closing parenthesis. -/
def substitution (lists : ListParser) (nested : Option (List Char) → ParserM (Option Command))
    (text : Option (List Char)) : ParserM (Option Command) := do
  let announced := (← get).announced
  modify fun s => { s with announced := [] }
  match text with
  | some text =>
    let outer ← get
    set { outer with segments := [⟨text, none⟩], ended := true, line := 1 }
    let body ← lists .optional
    modify fun s => { s with
      segments := outer.segments
      ended := outer.ended
      line := outer.line
      again := false
      announced := announced }
    return body
  | none =>
    let body ← lists .optional
    if (← readToken nested) ≠ .closing then unexpected (some .closing)
    let outer ← get
    set { outer with segments := [], ended := true }
    readDocuments nested
    modify fun s => { s with
      segments := outer.segments, ended := outer.ended, line := outer.line, announced := announced }
    return body

/-- The substitutions within words, read with the given reader of lists. -/
def nestedWith (lists : ListParser) : (depth : Nat) → Option (List Char) → ParserM (Option Command)
  | 0, _ => fault "too deep"
  | depth + 1, text => substitution lists (nestedWith lists depth) text

/-- How deep substitutions may stand in each other before their lists are read. -/
def nestingBound : Nat := 100000

section Grammar

variable (lists : ListParser)

/-- The next token. -/
def token : ParserM Token := readToken (nestedWith lists nestingBound)

/-- The next token has to be the given one. -/
def expect (t : Token) : ParserM Unit := do
  if (← token lists) ≠ t then unexpected (some t)

/-- A list that is never empty, unless the script ends, which the next token then
shows. -/
def innerList : ParserM Command := return (← lists .inner).getD default

/-- The operand of the redirection that has just been read. -/
def redirectionOperand : ParserM Redirection := do
  let s ← get
  let r := s.redirection
  let doc := s.opensDocument
  if doc.isSome then modify fun s => { s with checks := { endMark := true } }
  if (← token lists) ≠ .word then unexpected none
  let s ← get
  match r, doc with
  | .document fd _ _, some strip =>
    let expanded := !s.quoted
    let index := s.documents.size
    let mark := s.word.filterMap fun
      | .char c | .escaped c => some c
      | _ => none
    let doc : Announced := { index, mark, stripTabs := strip, expanded }
    set { s with documents := s.documents.push [], announced := s.announced ++ [doc] }
    return .document fd index expanded
  | .copyNamed fd _, _ =>
    match s.word with
    | [.char '-'] => return .copy fd none
    | [.char d] => if d.isDigit then return .copy fd (some (d.toNat - '0'.toNat))
    | _ => pure ()
    return .copyNamed fd s.word
  | .file fd opening _, _ => return .file fd opening s.word
  | r, _ => return r

/-- Redirections after a command. -/
def redirections : (rounds : Nat) → List Redirection → ParserM (List Redirection)
  | 0, sofar => return sofar.reverse
  | rounds + 1, sofar => do
    if (← token lists) = .redirection then
      let r ← redirectionOperand lists
      redirections rounds (r :: sofar)
    else
      readAgain
      return sofar.reverse

/-- The commands that cannot be names of functions, since they are special. -/
def reservedNames : List String :=
  ["break", ":", "continue", ".", "eval", "exec", "exit", "export", "readonly", "local", "return",
    "set", "shift", "times", "trap", "unset"]

/-- Words, assignments and redirections of a simple command, or the definition of
a function, whose body is read by `body`. -/
def simpleParts (body : ParserM Command) (line : Nat) :
    (rounds : Nat) → (assigning : Bool) → List Word → List Word → List Redirection →
    ParserM Command
  | 0, _, _, _, _ => unexpected none
  | rounds + 1, assigning, assignments, words, redirs => do
    check false false assigning
    let finish : ParserM Command := do
      readAgain
      return .simple line assignments.reverse words.reverse redirs.reverse
    match ← token lists with
    | .word =>
      let w := (← get).word
      if assigning && Word.isAssignment w then
        simpleParts body line rounds true (w :: assignments) words redirs
      else simpleParts body line rounds false assignments (w :: words) redirs
    | .redirection =>
      let r ← redirectionOperand lists
      simpleParts body line rounds assigning assignments words (r :: redirs)
    | .opening =>
      match words, assignments, redirs with
      | [name], [], [] =>
        expect lists .closing
        match Word.plain? name with
        | some text =>
          if !isName text || reservedNames.contains (String.ofList text) then
            fault "Bad function name"
          check true true true
          let line := (← get).line
          return .define line (String.ofList text) (← body)
        | none => fault "Bad function name"
      | _, _, _ => finish
    | _ => finish

/-- The branches of a condition after its first word. -/
def conditional : (rounds : Nat) → ParserM Command
  | 0 => unexpected none
  | rounds + 1 => do
    let condition ← innerList lists
    expect lists (.keyword "then")
    let success ← innerList lists
    match ← token lists with
    | .keyword "elif" => return .branch condition success (some (← conditional rounds))
    | .keyword "else" => return .branch condition success (some (← innerList lists))
    | _ =>
      readAgain
      return .branch condition success none

/-- Words up to another token. -/
def wordsUpTo : (rounds : Nat) → List Word → ParserM (List Word)
  | 0, sofar => return sofar.reverse
  | rounds + 1, sofar => do
    if (← token lists) = .word then
      let w := (← get).word
      wordsUpTo rounds (w :: sofar)
    else return sofar.reverse

/-- Every argument of the script. -/
def everyArgument : Word := [.mark, .parameter "@" .value false [], .mark]

/-- A loop over words. -/
def iteration (line : Nat) : ParserM Command := do
  let t ← token lists
  let s ← get
  let name := (Word.plain? s.word).getD []
  if t ≠ .word || s.quoted || !isName name then fault "Bad for loop variable"
  check true true true
  let words ←
    if (← token lists) = .keyword "in" then
      let words ← wordsUpTo lists roundBound []
      let t := (← get).token
      if t ≠ .newline && t ≠ .semicolon then unexpected none
      pure words
    else
      if (← get).token ≠ .semicolon then readAgain
      pure [everyArgument]
  check true true true
  expect lists (.keyword "do")
  return .each line (String.ofList name) words (← innerList lists)

/-- The patterns of a choice, the first one having been read. -/
def patterns : (rounds : Nat) → List Word → ParserM (List Word)
  | 0, sofar => return sofar.reverse
  | rounds + 1, sofar => do
    let w := (← get).word
    if (← token lists) = .pipe then
      let _ ← token lists
      patterns rounds (w :: sofar)
    else return (w :: sofar).reverse

/-- The choices of a selection. -/
def choices : (rounds : Nat) → List Choice → ParserM (List Choice)
  | 0, sofar => return sofar.reverse
  | rounds + 1, sofar => do
    check true true false
    let t ← token lists
    if t = .keyword "esac" then return sofar.reverse
    if t = .opening then
      let _ ← token lists
    let ps ← patterns lists roundBound []
    if (← get).token ≠ .closing then unexpected (some .closing)
    let body ← lists .optional
    let sofar := .mk ps body :: sofar
    check true true false
    match ← token lists with
    | .keyword "esac" => return sofar.reverse
    | .endOfCase => choices rounds sofar
    | _ => unexpected (some .endOfCase)

/-- A selection by patterns. -/
def selection (line : Nat) : ParserM Command := do
  if (← token lists) ≠ .word then unexpected (some .word)
  let subject := (← get).word
  check true true true
  expect lists (.keyword "in")
  return .select line subject (← choices lists roundBound [])

/-- Redirections after a compound command. -/
def withRedirections (line : Nat) (c : Command) : ParserM Command := do
  check false true true
  let rs ← redirections lists roundBound []
  if rs.isEmpty then return c
  match c with
  | .subshell line body _ => return .subshell line body rs
  | c => return .redirected line c rs

/-- A command. -/
def command : (depth : Nat) → ParserM Command
  | 0 => unexpected none
  | depth + 1 => do
    let line := (← get).line
    match ← token lists with
    | .keyword "if" =>
      let c ← conditional lists roundBound
      expect lists (.keyword "fi")
      withRedirections lists line c
    | .keyword "while" | .keyword "until" =>
      let isUntil := (← get).token = .keyword "until"
      let condition ← innerList lists
      expect lists (.keyword "do")
      let body ← innerList lists
      expect lists (.keyword "done")
      withRedirections lists line (.loop isUntil condition body)
    | .keyword "for" =>
      let c ← iteration lists line
      expect lists (.keyword "done")
      withRedirections lists line c
    | .keyword "case" => withRedirections lists line (← selection lists line)
    | .opening =>
      let body ← innerList lists
      expect lists .closing
      withRedirections lists line (.subshell line body [])
    | .keyword "\x7b" =>
      let body ← innerList lists
      expect lists (.keyword "\x7d")
      withRedirections lists line body
    | .word | .redirection =>
      readAgain
      simpleParts lists (command depth) (← get).line roundBound true [] [] []
    | _ => unexpected none

/-- Commands joined by pipes after the first one. -/
def pipes : (rounds : Nat) → List Command → ParserM (List Command)
  | 0, sofar => return sofar.reverse
  | rounds + 1, sofar => do
    if (← token lists) = .pipe then
      check true true true
      let c ← command lists nestingBound
      pipes rounds (c :: sofar)
    else
      readAgain
      return sofar.reverse

/-- A pipeline, negated or not. -/
def pipeline : ParserM Command := do
  let negated ←
    if (← token lists) = .keyword "!" then
      check false true true
      pure true
    else
      readAgain
      pure false
  let first ← command lists nestingBound
  let c ← match ← pipes lists roundBound [first] with
    | [single] => pure single
    | parts => pure (.pipeline false parts)
  return if negated then .negate c else c

/-- Pipelines joined by `&&` and `||`, from the left. -/
def conjunction : (rounds : Nat) → Command → ParserM Command
  | 0, c => return c
  | rounds + 1, c => do
    match ← token lists with
    | .both =>
      check true true true
      let d ← pipeline lists
      conjunction rounds (.both c d)
    | .either =>
      check true true true
      let d ← pipeline lists
      conjunction rounds (.either c d)
    | _ =>
      readAgain
      return c

/-- The command runs in the background. -/
def inBackground : Command → Command
  | .pipeline _ parts => .pipeline true parts
  | .redirected line body redirs => .background line body redirs
  | c => .background 0 c []

/-- Commands one after the other; `first` tells that none has been read. -/
def items (kind : ListKind) : (rounds : Nat) → (first : Bool) → Option Command →
    ParserM (Option Command)
  | 0, _, sofar => return sofar
  | rounds + 1, first, sofar => do
    let nested := nestedWith lists nestingBound
    let atTop := kind = .toplevel
    let finishFile : ParserM (Option Command) := do
      readDocuments nested
      modify fun s => { s with again := true, token := .endOfFile }
      return sofar
    check (!atTop) true true
    match ← token lists with
    | .newline =>
      readDocuments nested
      return sofar
    | .endOfFile => finishFile
    | t =>
      readAgain
      if !atTop && (kind = .optional || !first) && t.endsList then return sofar
      let c ← conjunction lists roundBound (← pipeline lists)
      let t ← token lists
      let c := if t = .background then inBackground c else c
      let sofar := match sofar with
        | some before => Command.sequence before c
        | none => c
      match t with
      | .endOfFile =>
        readDocuments nested
        modify fun s => { s with again := true, token := .endOfFile }
        return some sofar
      | .newline =>
        readAgain
        items kind rounds false (some sofar)
      | .background | .semicolon => items kind rounds false (some sofar)
      | _ =>
        if atTop then unexpected none
        readAgain
        return some sofar

end Grammar

/-- Lists within each other, up to a depth. -/
def list : (depth : Nat) → ListParser
  | 0, _ => fault "too deep"
  | depth + 1, kind => items (list depth) kind roundBound true none

/-- What stands at the start of a script. -/
inductive Portion where
  /-- Nothing more. -/
  | finished
  /-- A line, which may be empty. -/
  | line (c : Option Command)

/-- Read one complete command. -/
def portion : ParserM Portion := do
  modify fun s => { s with again := false, checks := {}, announced := [] }
  match ← list nestingBound .toplevel with
  | some c => return .line (some c)
  | none =>
    let s ← get
    if s.again && s.token = .endOfFile then return .finished else return .line none

/-- The parts of a text that is expanded like one in double quotes. -/
def quotedText (text : String) : ParserM Word := do
  let nested := nestedWith (list nestingBound) nestingBound
  modify fun s => { s with segments := [⟨text.toList, none⟩], ended := true }
  let level : Level := { context := .double, doubled := true }
  let (_, r) ← readWord nested .text roundBound false (← getJoined) { top := level }
  checkClosed r false
  return r.parts.reverse

end Assay.Sandbox.Shell.Parser

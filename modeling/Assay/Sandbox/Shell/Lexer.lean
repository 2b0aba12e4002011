import Assay.Sandbox.Shell.Syntax

/-! # Words and signs of a script

A script is read one token at a time.  What a character means depends on where it
stands: outside of quotes, in single or double quotes, or in an arithmetic
expression; parameters with a word, and arithmetic expressions, open a place of
their own.  `Level` is such a place, `Frame` what it will be a part of.

Reading stops when the text at hand is used up before a command is complete: then
more of the script is needed, and the command is read again from its start.
-/

namespace Assay.Sandbox.Shell.Parser

/-- Why reading stops. -/
inductive Stop where
  /-- More of the script is needed. -/
  | more
  /-- The script is wrong in a line. -/
  | fault (line : Nat) (message : String)
  deriving Repr, DecidableEq

/-- Text that is still to be read; that of an alias knows its name. -/
structure Segment where
  text : List Char
  aliasName : Option String := none
  deriving Repr, DecidableEq

/-- A token. -/
inductive Token where
  | endOfFile
  | newline
  | semicolon
  | background
  | both
  | either
  | pipe
  | opening
  | closing
  | endOfCase
  | redirection
  | word
  | keyword (text : String)
  deriving Repr, DecidableEq

namespace Token

/-- The token as messages show it. -/
def display : Token → String
  | .endOfFile => "end of file"
  | .newline => "newline"
  | .semicolon => "\";\""
  | .background => "\"&\""
  | .both => "\"&&\""
  | .either => "\"||\""
  | .pipe => "\"|\""
  | .opening => "\"(\""
  | .closing => "\")\""
  | .endOfCase => "\";;\""
  | .redirection => "redirection"
  | .word => "word"
  | .keyword text => "\"" ++ text ++ "\""

/-- The token ends a list of commands. -/
def endsList : Token → Bool
  | .endOfFile | .closing | .endOfCase => true
  | .keyword text => ["do", "done", "elif", "else", "esac", "fi", "then", "\x7d"].contains text
  | _ => false

end Token

/-- The words with a meaning of their own. -/
def keywords : List String :=
  ["!", "case", "do", "done", "elif", "else", "esac", "fi", "for", "if", "in", "then", "until",
    "while", "\x7b", "\x7d"]

/-- What the next token is checked for. -/
structure Checks where
  /-- Newlines are passed over. -/
  newlines : Bool := false
  keywords : Bool := false
  aliases : Bool := false
  /-- The token is the end mark of a document, in which nothing is expanded. -/
  endMark : Bool := false
  deriving Repr, DecidableEq

/-- A document that has been announced and is still to be read. -/
structure Announced where
  index : Nat
  mark : List Char
  stripTabs : Bool
  expanded : Bool
  deriving Repr, DecidableEq

/-- How far a script has been read. -/
structure Input where
  segments : List Segment
  /-- Nothing comes after the text at hand. -/
  ended : Bool
  line : Nat := 1
  /-- The latest character of an alias. -/
  latest : Char := ' '
  /-- The latest token is to be read again. -/
  again : Bool := false
  token : Token := .newline
  word : Word := []
  /-- Something in the word was quoted. -/
  quoted : Bool := false
  redirection : Redirection := .copy 0 none
  /-- The latest redirection opens a document: tabs are dropped or not. -/
  opensDocument : Option Bool := none
  checks : Checks := {}
  announced : List Announced := []
  documents : Array Word := #[]
  aliases : List (String × String) := []
  /-- Aliases that are being read. -/
  inUse : List String := []

/-- Reading a script. -/
abbrev ParserM := EStateM Stop Input

/-- How often a loop goes round at most. -/
def roundBound : Nat := 1000000000

/-- The script is wrong. -/
def fault {α : Type} (message : String) : ParserM α := do
  throw (.fault (← get).line ("Syntax error: " ++ message))

/-- A token that has no place here, where another one may be expected. -/
def unexpected {α : Type} (expected : Option Token) : ParserM α := do
  let found := (← get).token.display ++ " unexpected"
  match expected with
  | some t => fault (found ++ " (expecting " ++ t.display ++ ")")
  | none => fault found

/-! ## Characters -/

/-- The next character of the segments.  When an alias has been read to its end
it is free again, and if it ended with a blank the next word may be one. -/
def nextIn (s : Input) : List Segment → Option (Option Char × Input)
  | [] => if s.ended then some (none, { s with segments := [] }) else none
  | ⟨c :: text, a⟩ :: rest =>
    some (some c, { s with segments := ⟨text, a⟩ :: rest, latest := if a.isSome then c else s.latest })
  | ⟨[], some a⟩ :: rest =>
    let blank := s.latest == ' ' || s.latest == '\t'
    let checks := if blank then { s.checks with aliases := true } else s.checks
    nextIn { s with inUse := s.inUse.erase a, checks := checks } rest
  | ⟨[], none⟩ :: rest => nextIn s rest

/-- The next character, or nothing at the end. -/
def getChar : ParserM (Option Char) := do
  let s ← get
  match nextIn s s.segments with
  | some (c, s) =>
    set s
    return c
  | none => throw .more

/-- Put a character back. -/
def putBack (c : Option Char) : ParserM Unit :=
  match c with
  | none => pure ()
  | some c => modify fun s =>
    match s.segments with
    | ⟨text, a⟩ :: rest => { s with segments := ⟨c :: text, a⟩ :: rest }
    | [] => { s with segments := [⟨[c], none⟩] }

/-- A line has been read. -/
def countLine : ParserM Unit := modify fun s => { s with line := s.line + 1 }

/-- The next character, where a backslash joins a line with the one after it. -/
def getJoinedIn : (rounds : Nat) → ParserM (Option Char)
  | 0 => getChar
  | rounds + 1 => do
    let c ← getChar
    if c != some '\\' then return c
    let next ← getChar
    if next == some '\n' then
      countLine
      getJoinedIn rounds
    else
      putBack next
      return c

/-- The next character, where a backslash joins a line with the one after it. -/
def getJoined : ParserM (Option Char) := getJoinedIn roundBound

/-! ## Places in a word -/

/-- Where in a word a character stands. -/
inductive Context where
  | base
  | double
  | single
  | arithmetic
  deriving Repr, DecidableEq

/-- A place in a word. -/
structure Level where
  context : Context
  /-- Within double quotes. -/
  doubled : Bool := false
  /-- The number of parameters with a word that are open here. -/
  nested : Nat := 0
  /-- Of those, the ones in double quotes. -/
  nestedDouble : Nat := 0
  /-- Double quotes within the word of a parameter are open. -/
  innerDouble : Bool := false
  /-- The level was opened for a parameter. -/
  forParameter : Bool := false
  /-- Open parentheses of an arithmetic expression. -/
  parens : Nat := 0
  deriving Repr, DecidableEq

/-- What an open place will be a part of, with the parts before it, last one
first. -/
inductive Frame where
  | parameter (name : String) (form : Form) (orEmpty : Bool) (before : List Part)
  | arithmetic (before : List Part)

/-- A word while it is read. -/
structure Reading where
  top : Level
  outer : List Level := []
  frames : List Frame := []
  /-- The parts read so far, last one first. -/
  parts : List Part := []
  quoted : Bool := false

namespace Reading

def add (r : Reading) (p : Part) : Reading := { r with parts := p :: r.parts }

/-- Open a level. -/
def push (r : Reading) (l : Level) : Reading := { r with top := l, outer := r.top :: r.outer }

/-- Close the innermost level. -/
def pop (r : Reading) : Reading :=
  match r.outer with
  | l :: rest => { r with top := l, outer := rest }
  | [] => r

/-- Close the innermost frame: it becomes a part. -/
def close (r : Reading) : Reading :=
  match r.frames with
  | .parameter name form orEmpty before :: rest =>
    { r with frames := rest, parts := .parameter name form orEmpty r.parts.reverse :: before }
  | .arithmetic before :: rest =>
    { r with frames := rest, parts := .arithmetic r.parts.reverse :: before }
  | [] => r

end Reading

/-- What a character means. -/
inductive Meaning where
  | plain
  | nothing
  | newline
  /-- A character that is special in patterns and the like, but not in quotes. -/
  | guarded
  | backslash
  | singleQuote
  | doubleQuote
  | endQuote
  | dollar
  | closeBrace
  | openParen
  | closeParen
  | backquote
  | endOfFile
  | separator
  deriving Repr, DecidableEq

/-- Stands at the end of an alias, where a word ends too. -/
def aliasEnd : Char := '\uE000'

/-- Characters that quotes protect. -/
def guardedChars : List Char := "!*?[=~:/-]".toList

def meaning (context : Context) (c : Option Char) : Meaning :=
  match c with
  | none => .endOfFile
  | some c =>
    if c == aliasEnd then if context = .base then .separator else .nothing
    else match context with
    | .base =>
      match c with
      | '\n' => .newline
      | '\\' => .backslash
      | '\'' => .singleQuote
      | '"' => .doubleQuote
      | '`' => .backquote
      | '$' => .dollar
      | '}' => .closeBrace
      | '<' | '>' | '(' | ')' | ';' | '&' | '|' | ' ' | '\t' => .separator
      | _ => .plain
    | .double =>
      match c with
      | '\n' => .newline
      | '\\' => .backslash
      | '"' => .endQuote
      | '`' => .backquote
      | '$' => .dollar
      | '}' => .closeBrace
      | c => if guardedChars.contains c then .guarded else .plain
    | .single =>
      match c with
      | '\n' => .newline
      | '\'' => .endQuote
      | '\\' => .guarded
      | c => if guardedChars.contains c then .guarded else .plain
    | .arithmetic =>
      match c with
      | '\n' => .newline
      | '\\' => .backslash
      | '`' => .backquote
      | '$' => .dollar
      | '}' => .closeBrace
      | '(' => .openParen
      | ')' => .closeParen
      | _ => .plain

/-- A parameter that is no variable. -/
def isSpecial (c : Char) : Bool := c.isDigit || "!#*?-@$".toList.contains c

/-- Read characters while they satisfy `part`; the first one that does not is the
result as well. -/
def takeChars (part : Char → Bool) : (rounds : Nat) → Option Char → List Char →
    ParserM (List Char × Option Char)
  | 0, c, sofar => return (sofar.reverse, c)
  | rounds + 1, c, sofar =>
    match c with
    | some x => if part x then do takeChars part rounds (← getJoined) (x :: sofar)
      else return (sofar.reverse, c)
    | none => return (sofar.reverse, c)

/-- The kind of a parameter as far as it is known while it is read. -/
inductive Stage where
  /-- After a dollar sign only. -/
  | bare
  /-- After an opening brace. -/
  | braced
  | length
  deriving Repr, DecidableEq

/-- The name of a parameter whose first character is `c`: the name, the stage, and
the character after it; nothing if there is no name. -/
def parameterName (stage : Stage) (c : Option Char) :
    ParserM (Option String × Stage × Option Char) := do
  match c with
  | none => return (none, stage, none)
  | some x =>
    if isNameStart x then
      let (name, c) ← takeChars isNameChar roundBound c []
      return (some (String.ofList name), stage, c)
    else if x.isDigit then
      if stage = .bare then return (some (String.ofList [x]), stage, ← getJoined)
      let (name, c) ← takeChars Char.isDigit roundBound c []
      return (some (String.ofList name), stage, c)
    else if x = '}' then return (none, stage, c)
    else
      let next ← getJoined
      if isSpecial x then return (some (String.ofList [x]), stage, next)
      return (none, stage, next)

/-- The name after an opening brace; a number sign may ask for the length. -/
def bracedName (c : Option Char) : ParserM (Option String × Stage × Option Char) := do
  if c != some '#' then return ← parameterName .braced c
  let next ← getJoined
  if next.any isNameChar then return ← parameterName .length next
  let after ← getJoined
  if next == some '}' || after != some '}' then
    putBack after
    return (some "#", .braced, next)
  match next with
  | some x =>
    if isSpecial x then return (some (String.ofList [x]), .length, after)
    return (none, .braced, after)
  | none => return (none, .braced, after)

/-- The form that a sign after the name of a parameter asks for. -/
def formOf (c : Option Char) : Form :=
  match c with
  | some '}' => .value
  | some '-' => .fallback
  | some '+' => .alternative
  | some '?' => .demand
  | some '=' => .assign
  | _ => .bad

/-- A parameter after a dollar sign, whose first character is `c`. -/
def readParameter (r : Reading) (c : Option Char) : ParserM Reading := do
  let braced := c == some '{'
  let (name, stage, c) ←
    if braced then do bracedName (← getJoined) else parameterName .bare c
  let context := r.top.context
  let shown := name.getD ""
  let (form, orEmpty, context) ←
    match name, stage with
    | some _, .bare =>
      putBack c
      pure (Form.value, false, context)
    | none, _ =>
      putBack c
      pure (.bad, false, context)
    | some _, .length =>
      putBack c
      if c == some '}' then pure (.length, false, context) else pure (.bad, false, context)
    | some _, .braced =>
      match c with
      | some ':' => do pure (formOf (← getJoined), true, context)
      | some '%' =>
        let next ← getJoined
        if next == some '%' then pure (.trimEndMost, false, .base)
        else
          putBack next
          pure (.trimEnd, false, .base)
      | some '#' =>
        let next ← getJoined
        if next == some '#' then pure (.trimStartMost, false, .base)
        else
          putBack next
          pure (.trimStart, false, .base)
      | c => pure (formOf c, false, context)
  if form = .value && !orEmpty then return r.add (.parameter shown .value false [])
  let context := if context = .arithmetic then .double else context
  let r :=
    if context ≠ r.top.context || r.top.innerDouble then
      r.push { context := context, forParameter := true, doubled := context ≠ .base }
    else r
  let top := { r.top with
    nested := r.top.nested + 1
    nestedDouble := r.top.nestedDouble + if r.top.doubled then 1 else 0 }
  return { r with
    top := top
    frames := .parameter shown form orEmpty r.parts :: r.frames
    parts := [] }

/-- The text up to a closing backquote, in which some backslashes are dropped. -/
def backquoted (doubled : Bool) : (rounds : Nat) → List Char → ParserM (List Char)
  | 0, sofar => return sofar.reverse
  | rounds + 1, sofar => do
    match ← getJoined with
    | some '`' => return sofar.reverse
    | none => fault "EOF in backquote substitution"
    | some '\\' =>
      match ← getChar with
      | none => fault "EOF in backquote substitution"
      | some c =>
        let dropped := c == '\\' || c == '`' || c == '$' || (doubled && c == '"')
        backquoted doubled rounds (c :: if dropped then sofar else '\\' :: sofar)
    | some c =>
      if c == '\n' then countLine
      backquoted doubled rounds (c :: sofar)

/-- Compare the text at the start of a line, of which `c` has been read, with the
end mark of a document.  If it is another text all but its first character is put
back. -/
def matchMark : List Char → Option Char → List (Option Char) → ParserM Bool
  | m :: mark, c, taken => do
    if c == some m then matchMark mark (← getChar) (c :: taken)
    else
      ((c :: taken).dropLast).forM putBack
      return false
  | [], c, taken => do
    if c == some '\n' || c.isNone then
      countLine
      return true
    ((c :: taken).dropLast).forM putBack
    return false

/-- Pass over tabs. -/
def skipTabs : (rounds : Nat) → Option Char → ParserM (Option Char)
  | 0, c => return c
  | rounds + 1, c => if c == some '\t' then do skipTabs rounds (← getChar) else return c

/-- What a word is read from: the script itself, a document, or a text that ends
where it ends. -/
inductive Source where
  | script
  | document (mark : List Char) (stripTabs : Bool)
  | text
  deriving Repr, DecidableEq

/-- The next character of a word. -/
def getTop (r : Reading) : ParserM (Option Char) :=
  if r.top.context = .single then getChar else getJoined

/-- Read on in a word from the character `c`; `fresh` tells that it is the first
one of a line.  `nested` reads the commands of a substitution, given as a text or
following. -/
def readWord (nested : Option (List Char) → ParserM (Option Command)) (source : Source) :
    (rounds : Nat) → (fresh : Bool) → Option Char → Reading → ParserM (Option Char × Reading)
  | 0, _, c, r => return (c, r)
  | rounds + 1, fresh, c, r => do
    let c ← match source, fresh with
      | .document mark stripTabs, true =>
        let c ← if stripTabs then skipTabs roundBound c else pure c
        if ← matchMark mark c [] then pure none else pure c
      | _, _ => pure c
    let top := r.top
    let inScript := source = .script
    let go (r : Reading) : ParserM (Option Char × Reading) := do
      readWord nested source rounds false (← getTop r) r
    let mark (r : Reading) : Reading := if inScript then r.add .mark else r
    match meaning top.context c with
    | .endOfFile => return (c, r)
    | .newline =>
      if top.context = .base && top.nested = 0 then return (c, r)
      countLine
      let r := r.add (.char '\n')
      readWord nested source rounds true (← getTop r) r
    | .plain => go (r.add (.char (c.getD ' ')))
    | .nothing => go r
    | .guarded =>
      let x := c.getD ' '
      go (r.add (if inScript || top.doubled then .escaped x else .char x))
    | .backslash =>
      match ← getChar with
      | none => go (r.add (.escaped '\\'))
      | some x =>
        let kept := top.doubled && x != '\\' && x != '`' && x != '$' &&
          (x != '"' || (!inScript && top.nested = 0)) && (x != '}' || top.nested = 0)
        let r := if kept then r.add (.escaped '\\') else r
        go { r.add (.escaped x) with quoted := true }
    | .singleQuote => go (mark { r with top := { top with context := .single } })
    | .doubleQuote =>
      let inner := if 0 < top.nested then !top.innerDouble else top.innerDouble
      go (mark { r with
        top := { top with context := .double, doubled := true, innerDouble := inner } })
    | .endQuote =>
      if !inScript && top.nested = 0 then go (r.add (.char (c.getD ' ')))
      else
        let top := if top.nestedDouble = 0 then { top with context := .base, doubled := false } else top
        let inner := if c == some '"' && 0 < top.nested then !top.innerDouble else top.innerDouble
        go (mark { r with top := { top with innerDouble := inner }, quoted := true })
    | .dollar =>
      let x ← getJoined
      let opensName := x == some '(' || x == some '{' || x.any fun x => isNameStart x || isSpecial x
      if (← get).checks.endMark || !opensName then
        putBack x
        go (r.add (.char '$'))
      else if x == some '(' then
        let y ← getJoined
        if y == some '(' then
          let r := r.push { context := .arithmetic, doubled := true }
          go { r with frames := .arithmetic r.parts :: r.frames, parts := [] }
        else
          putBack y
          let body ← nested none
          go (r.add (.output body))
      else go (← readParameter r x)
    | .closeBrace =>
      if !top.innerDouble && 0 < top.nested then
        let r := { r with top := { top with nested := top.nested - 1 } }
        let r :=
          if r.top.nested = 0 && top.forParameter then r.pop
          else { r with top := { r.top with nestedDouble := top.nestedDouble - 1 } }
        go r.close
      else go (r.add (.char '}'))
    | .openParen => go ({ r with top := { top with parens := top.parens + 1 } }.add (.char '('))
    | .closeParen =>
      if 0 < top.parens then
        go ({ r with top := { top with parens := top.parens - 1 } }.add (.char ')'))
      else
        let x ← getJoined
        if x == some ')' then go r.pop.close
        else
          putBack x
          go (r.add (.char ')'))
    | .backquote =>
      if (← get).checks.endMark then go (r.add (.char '`'))
      else
        let text ← backquoted top.doubled roundBound []
        let body ← nested (some text)
        go (r.add (.output body))
    | .separator =>
      if top.nested = 0 then return (c, r)
      else if c == some aliasEnd then go r
      else go (r.add (.char (c.getD ' ')))

/-- Refuse a word that has not been closed. -/
def checkClosed (r : Reading) (inScript : Bool) : ParserM Unit := do
  if r.top.context = .arithmetic then fault "Missing '))'"
  if r.top.context ≠ .base && inScript then fault "Unterminated quoted string"
  if r.top.nested ≠ 0 then fault "Missing '\x7d'"

/-- A redirection whose sign begins with `sign`, of the descriptor `fd` if one was
written.  Its operand follows. -/
def readSign (sign : Char) (fd : Option Nat) : ParserM Unit := do
  let c ← getJoined
  let put (r : Redirection) (doc : Option Bool) : ParserM Unit :=
    modify fun s => { s with redirection := r, opensDocument := doc }
  if sign = '>' then
    let fd := fd.getD 1
    match c with
    | some '>' => put (.file fd .append []) none
    | some '|' => put (.file fd .overwrite []) none
    | some '&' => put (.copyNamed fd []) none
    | c =>
      putBack c
      put (.file fd .write []) none
  else
    let fd := fd.getD 0
    match c with
    | some '<' =>
      let next ← getJoined
      let strip := next == some '-'
      if !strip then putBack next
      put (.document fd 0 true) (some strip)
    | some '&' => put (.copyNamed fd []) none
    | some '>' => put (.file fd .update []) none
    | c =>
      putBack c
      put (.file fd .read []) none

/-- The token that begins with the character `c` of a word. -/
def wordToken (nested : Option (List Char) → ParserM (Option Command)) (c : Option Char) :
    ParserM Token := do
  let (c, r) ← readWord nested .script roundBound false c { top := { context := .base } }
  checkClosed r true
  let sign := match c with
    | some '<' => some '<'
    | some '>' => some '>'
    | _ => none
  let fd : Option (Option Nat) := match r.parts with
    | [] => some none
    | [.char d] => if d.isDigit then some (some (d.toNat - '0'.toNat)) else none
    | _ => none
  match sign, fd, r.quoted with
  | some x, some fd, false =>
    readSign x fd
    return .redirection
  | _, _, _ =>
    putBack c
    modify fun s => { s with word := r.parts.reverse, quoted := r.quoted }
    return .word

/-- Pass over a comment. -/
def skipComment : (rounds : Nat) → ParserM Unit
  | 0 => pure ()
  | rounds + 1 => do
    match ← getChar with
    | none => pure ()
    | some '\n' => putBack (some '\n')
    | some _ => skipComment rounds

/-- The next token as it stands. -/
def rawToken (nested : Option (List Char) → ParserM (Option Command)) :
    (rounds : Nat) → ParserM Token
  | 0 => return .endOfFile
  | rounds + 1 => do
    let c ← getJoined
    let doubled (x : Char) (two one : Token) : ParserM Token := do
      let next ← getJoined
      if next == some x then return two
      putBack next
      return one
    match c with
    | none => return .endOfFile
    | some ' ' | some '\t' => rawToken nested rounds
    | some '#' =>
      skipComment roundBound
      rawToken nested rounds
    | some '\uE000' => rawToken nested rounds
    | some '\n' =>
      countLine
      return .newline
    | some '&' => doubled '&' .both .background
    | some '|' => doubled '|' .either .pipe
    | some ';' => doubled ';' .endOfCase .semicolon
    | some '(' => return .opening
    | some ')' => return .closing
    | c => wordToken nested c

/-- The next token, which may be the latest one again. -/
def nextToken (nested : Option (List Char) → ParserM (Option Command)) : ParserM Token := do
  let s ← get
  if s.again then
    set { s with again := false }
    return s.token
  let t ← rawToken nested roundBound
  modify fun s => { s with token := t }
  return t

/-- Read the documents that have been announced. -/
def readDocuments (nested : Option (List Char) → ParserM (Option Command)) : ParserM Unit := do
  let announced := (← get).announced
  modify fun s => { s with announced := [] }
  for d in announced do
    let level : Level :=
      if d.expanded then { context := .double, doubled := true } else { context := .single }
    let c ← if d.expanded then getJoined else getChar
    let (_, r) ← readWord nested (.document d.mark d.stripTabs) roundBound true c { top := level }
    checkClosed r false
    let word := r.parts.reverse
    modify fun s => { s with documents := s.documents.setIfInBounds d.index word }

/-- Pass over newlines, reading the documents announced before them. -/
def skipNewlines (nested : Option (List Char) → ParserM (Option Command)) :
    (rounds : Nat) → Token → ParserM Token
  | 0, t => return t
  | rounds + 1, t =>
    if t = .newline then do
      readDocuments nested
      skipNewlines nested rounds (← nextToken nested)
    else return t

/-- The next token, checked for what the reader has asked for. -/
def readTokenIn (nested : Option (List Char) → ParserM (Option Command)) (checks : Checks) :
    (rounds : Nat) → ParserM Token
  | 0 => return .endOfFile
  | rounds + 1 => do
    let t ← nextToken nested
    let t ← if checks.newlines then skipNewlines nested roundBound t else pure t
    let s ← get
    let finish (t : Token) : ParserM Token := do
      modify fun s => { s with token := t, checks := {} }
      return t
    if t ≠ .word || s.quoted then return ← finish t
    match (Word.plain? s.word).map String.ofList with
    | none => finish t
    | some text =>
      if checks.keywords && keywords.contains text then return ← finish (.keyword text)
      if s.checks.aliases && !s.inUse.contains text then
        match s.aliases.lookup text with
        | some value =>
          let cs := value.toList
          let blank := cs.getLast?.any fun c => c == ' ' || c == '\t'
          let cs := if blank then cs else cs ++ [aliasEnd]
          set { s with segments := ⟨cs, some text⟩ :: s.segments, inUse := text :: s.inUse }
          return ← readTokenIn nested checks rounds
        | none => pure ()
      finish t

/-- The next token. -/
def readToken (nested : Option (List Char) → ParserM (Option Command)) : ParserM Token := do
  readTokenIn nested (← get).checks roundBound

/-- The latest token is to be read again. -/
def readAgain : ParserM Unit := modify fun s => { s with again := true }

/-- Ask for checks of the next token. -/
def check (newlines keywords aliases : Bool) : ParserM Unit :=
  modify fun s => { s with checks := { newlines, keywords, aliases } }

end Assay.Sandbox.Shell.Parser

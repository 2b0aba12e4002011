/-! # Terminal sequences

A text may hold escape sequences that steer a terminal instead of being shown.
`visible` leaves out every such sequence and every control character that is
not white space.  A sequence begins with the escape character; what follows says
how it goes on and where it ends, and a new escape character always begins
afresh.
-/

namespace Assay.Text

/-- Where a reader of terminal text stands. -/
inductive TerminalState where
  | ground
  | escape
  /-- After an escape and one or more of the characters from blank to slash. -/
  | escapeIntermediate
  /-- Right after the opening bracket of a control sequence. -/
  | controlStart
  | controlParameter
  | controlIntermediate
  | controlIgnored
  /-- Right after the opening of a device string. -/
  | deviceStart
  | deviceParameter
  | deviceIntermediate
  | deviceString
  | deviceIgnored
  /-- In a title or another command of the operating system. -/
  | commandString
  /-- In a text for an application, a private message or a bare string. -/
  | applicationString
  deriving Repr, DecidableEq

namespace TerminalState

/-- A control character has its own effect in this state, also within a
sequence. -/
def obeysControls : TerminalState → Bool
  | .deviceStart | .deviceParameter | .deviceIntermediate | .deviceString | .deviceIgnored
  | .commandString | .applicationString => false
  | _ => true

/-- The state after the character `c` of a sequence, a control character or an
escape apart. -/
def next (s : TerminalState) (c : Char) : TerminalState :=
  let intermediate := ' ' ≤ c && c ≤ '/'
  let parameter := '0' ≤ c && c ≤ ';'
  let marker := '<' ≤ c && c ≤ '?'
  let final := '@' ≤ c && c ≤ '~'
  match s with
  | .ground => .ground
  | .escape =>
    if intermediate then .escapeIntermediate
    else if c = '[' then .controlStart
    else if c = ']' then .commandString
    else if c = 'P' then .deviceStart
    else if c = 'X' || c = '^' || c = '_' then .applicationString
    else if '0' ≤ c && c ≤ '~' then .ground
    else s
  | .escapeIntermediate => if '0' ≤ c && c ≤ '~' then .ground else s
  | .controlStart =>
    if intermediate then .controlIntermediate
    else if parameter || marker then .controlParameter
    else if final then .ground
    else s
  | .controlParameter =>
    if intermediate then .controlIntermediate
    else if marker then .controlIgnored
    else if final then .ground
    else s
  | .controlIntermediate =>
    if parameter || marker then .controlIgnored else if final then .ground else s
  | .controlIgnored => if final then .ground else s
  | .deviceStart =>
    if intermediate then .deviceIntermediate
    else if parameter || marker then .deviceParameter
    else if final then .deviceString
    else s
  | .deviceParameter =>
    if intermediate then .deviceIntermediate
    else if marker then .deviceIgnored
    else if final then .deviceString
    else s
  | .deviceIntermediate =>
    if parameter || marker then .deviceIgnored else if final then .deviceString else s
  | .deviceString | .deviceIgnored | .commandString | .applicationString => s

/-- Read one character: the next state, and whether the character is shown. -/
def step (s : TerminalState) (c : Char) : TerminalState × Bool :=
  let layout := c = '\t' || c = '\n' || c = '\x0c' || c = '\r'
  if c = '\x1b' then (.escape, false)
  else if c = '\x18' || c = '\x1a' then (.ground, false)
  else if c < ' ' then
    if s = .commandString && c = '\x07' then (.ground, false)
    else if layout && s.obeysControls then (.ground, true)
    else (s, false)
  else if c = '\x7f' then (s, false)
  else if s = .ground then (s, true)
  else (s.next c, false)

end TerminalState

/-- The characters of a text that a terminal shows, read from the state `s`. -/
def visibleFrom (s : TerminalState) : List Char → List Char
  | [] => []
  | c :: rest =>
    let (next, shown) := s.step c
    if shown then c :: visibleFrom next rest else visibleFrom next rest

/-- What a terminal shows of a text. -/
def visible (text : String) : String := String.ofList (visibleFrom .ground text.toList)

end Assay.Text

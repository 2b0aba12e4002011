/-! # The language of the shell

Scripts as data.  A word is a list of parts; a part is a character, or stands
for text that is found out when the word is expanded.  Quotation marks stay in a
word as marks, between which nothing is split or read as a pattern.
-/

namespace Assay.Sandbox.Shell

/-- What is asked of a parameter. -/
inductive Form where
  | value
  /-- The word, unless there is a value. -/
  | fallback
  /-- The word, if there is a value. -/
  | alternative
  /-- An error with the word as its message, unless there is a value. -/
  | demand
  /-- The word becomes the value, unless there is one. -/
  | assign
  /-- The value without the shortest match of the word at its end. -/
  | trimEnd
  /-- The value without the longest match of the word at its end. -/
  | trimEndMost
  | trimStart
  | trimStartMost
  | length
  /-- Nothing that has a meaning. -/
  | bad
  deriving Repr, DecidableEq

/-- How a file is opened by a redirection. -/
inductive Opening where
  | read
  | write
  /-- Write, also if the file is there and must be kept otherwise. -/
  | overwrite
  | append
  | update
  deriving Repr, DecidableEq

mutual

/-- A part of a word. -/
inductive Part where
  | char (c : Char)
  /-- A character that stands for itself whatever it is. -/
  | escaped (c : Char)
  /-- A quotation mark. -/
  | mark
  /-- A parameter; with `orEmpty` an empty value counts as none. -/
  | parameter (name : String) (form : Form) (orEmpty : Bool) (word : List Part)
  /-- What a command prints. -/
  | output (body : Option Command)
  | arithmetic (expression : List Part)

/-- A redirection of a descriptor. -/
inductive Redirection where
  | file (fd : Nat) (opening : Opening) (name : List Part)
  /-- The descriptor becomes a copy of another one, or is closed if that is
  `none`. -/
  | copy (fd : Nat) (source : Option Nat)
  /-- The descriptor becomes a copy of the one that a word names. -/
  | copyNamed (fd : Nat) (source : List Part)
  /-- The text of a document, which is expanded or not. -/
  | document (fd : Nat) (index : Nat) (expanded : Bool)

/-- A command. -/
inductive Command where
  | simple (line : Nat) (assignments : List (List Part)) (words : List (List Part))
      (redirections : List Redirection)
  | pipeline (background : Bool) (parts : List Command)
  | negate (body : Command)
  | both (first second : Command)
  | either (first second : Command)
  | sequence (first second : Command)
  | background (line : Nat) (body : Command) (redirections : List Redirection)
  | subshell (line : Nat) (body : Command) (redirections : List Redirection)
  | redirected (line : Nat) (body : Command) (redirections : List Redirection)
  | branch (condition success : Command) (failure : Option Command)
  /-- Repeat the body while the condition succeeds, or until it does. -/
  | loop (until_ : Bool) (condition body : Command)
  | each (line : Nat) (name : String) (words : List (List Part)) (body : Command)
  | select (line : Nat) (subject : List Part) (cases : List Choice)
  | define (line : Nat) (name : String) (body : Command)

/-- A choice of a selection: its patterns and what is done. -/
inductive Choice where
  | mk (patterns : List (List Part)) (body : Option Command)

end

/-- A word. -/
abbrev Word := List Part

instance : Inhabited Command := ⟨.simple 0 [] [] []⟩

/-- A word of plain characters. -/
def Word.ofText (text : String) : Word := text.toList.map .char

/-- The characters of a word that has nothing but plain ones. -/
def Word.plain? : Word → Option (List Char)
  | [] => some []
  | .char c :: rest => (Word.plain? rest).map (c :: ·)
  | _ => none

/-- A letter or an underscore. -/
def isNameStart (c : Char) : Bool := c.isAlpha || c == '_'

/-- A letter, a digit or an underscore. -/
def isNameChar (c : Char) : Bool := c.isAlphanum || c == '_'

/-- A text that can be the name of a variable. -/
def isName (text : List Char) : Bool :=
  match text with
  | c :: rest => isNameStart c && rest.all isNameChar
  | [] => false

/-- The name and the value of a text that looks like an assignment. -/
def splitAssignment (text : String) : Option (String × String) :=
  let cs := text.toList
  let name := cs.takeWhile isNameChar
  match cs.drop name.length with
  | '=' :: value => if isName name then some (String.ofList name, String.ofList value) else none
  | _ => none

/-- The plain characters at the start of a word. -/
def Word.start : Word → List Char
  | .char c :: rest => c :: Word.start rest
  | _ => []

/-- The word looks like an assignment. -/
def Word.isAssignment (w : Word) : Bool := (splitAssignment (String.ofList (Word.start w))).isSome

end Assay.Sandbox.Shell

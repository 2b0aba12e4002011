import Assay.Host.Path

/-! # Command templates

A template is a command with two kinds of gaps: one for the inputs of a call and
one for the flags that trail behind.  Filling the gaps is a plain function, so
the exact command of any call is known without running it.
-/

namespace Assay

/-- One element of a template. -/
inductive Token where
  | literal (text : String)
  | inputs
  | trailing
  deriving Repr, DecidableEq

/-- What one call puts into the gaps of a template. -/
structure ToolArgs where
  inputs : List String := []
  trailing : List String := []
  deriving Repr, DecidableEq

namespace ToolArgs

/-- The inputs of a call that are files, each by the text of its path. -/
def ofPaths (paths : List Path) : ToolArgs := { inputs := paths.map Path.shown }

end ToolArgs

/-- A command with gaps.  The first word it renders to is the program. -/
structure Template where
  tokens : List Token := []
  deriving Repr, DecidableEq

namespace Token

/-- The words an element stands for in one call. -/
def render (args : ToolArgs) : Token → List String
  | .literal text => [text]
  | .inputs => args.inputs
  | .trailing => args.trailing

end Token

namespace Template

/-- The template of a program without arguments. -/
def program (name : String) : Template := ⟨[.literal name]⟩

def add (t : Template) (token : Token) : Template := ⟨t.tokens ++ [token]⟩

def literal (t : Template) (text : String) : Template := t.add (.literal text)

def literals (t : Template) (texts : List String) : Template :=
  ⟨t.tokens ++ texts.map .literal⟩

def inputs (t : Template) : Template := t.add .inputs

def trailing (t : Template) : Template := t.add .trailing

/-- The words of one call.  A gap that occurs more than once is filled each
time. -/
def render (t : Template) (args : ToolArgs) : List String := t.tokens.flatMap (Token.render args)

end Template

end Assay

import Assay.Sandbox.Shell.State

/-! # Options of builtin commands -/

namespace Assay.Sandbox.Shell.Builtin

/-- What a letter is to a command: it may take an argument. -/
structure Letter where
  letter : Char
  argument : Bool := false
  deriving Repr, DecidableEq

/-- The options at the start of the arguments, each with its own argument, and
the arguments after them. -/
structure Parsed where
  options : List (Char × String) := []
  rest : List String

namespace Parsed

def has (p : Parsed) (letter : Char) : Bool := p.options.any fun o => o.1 == letter

end Parsed

/-- Read the letters of a cluster.  The result tells the argument that the last
one of them still needs. -/
def cluster (known : List Letter) : List Char → List (Char × String) →
    ShellM (List (Char × String) × Option Char)
  | [], sofar => return (sofar, none)
  | c :: cs, sofar => do
    match known.find? fun l => l.letter == c with
    | none => fail ("Illegal option -" ++ c.toString)
    | some l =>
      if l.argument then
        if cs.isEmpty then return (sofar, some c)
        else return ((c, String.ofList cs) :: sofar, none)
      else cluster known cs ((c, "") :: sofar)

/-- Read options. -/
def readOptions (known : List Letter) : List String → List (Char × String) → ShellM Parsed
  | [], sofar => return { options := sofar.reverse, rest := [] }
  | arg :: rest, sofar => do
    match arg.toList with
    | ['-', '-'] => return { options := sofar.reverse, rest }
    | '-' :: c :: cs =>
      let (found, needs) ← cluster known (c :: cs) sofar
      match needs, rest with
      | none, rest => readOptions known rest found
      | some l, value :: rest => readOptions known rest ((l, value) :: found)
      | some l, [] => fail ("No arg for -" ++ l.toString ++ " option")
    | _ => return { options := sofar.reverse, rest := arg :: rest }

/-- The options with the given letters, none of which takes an argument. -/
def plainOptions (letters : String) (args : List String) : ShellM Parsed :=
  readOptions (letters.toList.map fun c => { letter := c }) args []

end Assay.Sandbox.Shell.Builtin

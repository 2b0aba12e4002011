import Assay.Config

/-! # Command-line options

The names the command line knows.  A `Setting` takes a value; a `Switch` takes
none and may have a short name.  Names are written out in full, and every option
but the repeatable `--tool-flag` may be given once.

A command line is taken to be made of texts.  The paths among them become paths
of the configuration by their encoding.
-/

namespace Assay.Cli

open Text (utf8)

/-- An option that takes a value. -/
inductive Setting where
  | tool
  | inputDir
  | extension
  | artifactSuffix
  | referenceSuffix
  | toolFlag
  | traceVar
  | diffTool
  | matchCommand
  | matchReturn
  | matchStdout
  | matchStderr
  | format
  deriving Repr, DecidableEq

namespace Setting

/-- All settings, in the order the help text shows them. -/
def all : List Setting :=
  [.tool, .inputDir, .extension, .artifactSuffix, .referenceSuffix, .toolFlag, .traceVar, .diffTool,
    .matchCommand, .matchReturn, .matchStdout, .matchStderr, .format]

/-- The name after the two hyphens. -/
def name : Setting → String
  | .tool => "tool"
  | .inputDir => "input-dir"
  | .extension => "extension"
  | .artifactSuffix => "artifact-suffix"
  | .referenceSuffix => "reference-suffix"
  | .toolFlag => "tool-flag"
  | .traceVar => "trace-var"
  | .diffTool => "diff-tool"
  | .matchCommand => "match-command"
  | .matchReturn => "match-return"
  | .matchStdout => "match-stdout"
  | .matchStderr => "match-stderr"
  | .format => "format"

/-- A second name, if there is one. -/
def alias? : Setting → Option String
  | .tool => some "rewriter"
  | _ => none

/-- The word that stands for the value in messages. -/
def valueName : Setting → String
  | .tool => "PATH"
  | .inputDir => "DIR"
  | .extension => "EXT"
  | .artifactSuffix | .referenceSuffix => "SUFFIX"
  | .toolFlag => "FLAG"
  | .traceVar => "NAME"
  | .diffTool => "PROGRAM"
  | .matchCommand | .matchStdout | .matchStderr => "PATTERN"
  | .matchReturn => "CODE"
  | .format => "FORMAT"

/-- The setting as messages show it. -/
def display (s : Setting) : String := "--" ++ s.name ++ " <" ++ s.valueName ++ ">"

/-- The next argument is the value, whatever it looks like. -/
def takesAnything : Setting → Bool
  | .toolFlag => true
  | _ => false

/-- The next argument is the value also if it is a negative number. -/
def takesNegative : Setting → Bool
  | .matchReturn => true
  | _ => false

/-- The setting with a given name. -/
def find? (name : String) : Option Setting :=
  all.find? fun s => s.name = name || s.alias? = some name

end Setting

/-- An option without a value. -/
inductive Switch where
  | verbose
  | exitFirst
  | noColor
  | help
  | version
  deriving Repr, DecidableEq

namespace Switch

def all : List Switch := [.verbose, .exitFirst, .noColor, .help, .version]

/-- The name after the two hyphens. -/
def name : Switch → String
  | .verbose => "verbose"
  | .exitFirst => "exitfirst"
  | .noColor => "no-color"
  | .help => "help"
  | .version => "version"

/-- The letter after one hyphen. -/
def letter? : Switch → Option Char
  | .verbose => some 'v'
  | .exitFirst => some 'x'
  | .noColor => none
  | .help => some 'h'
  | .version => some 'V'

/-- The switch as messages show it. -/
def display (s : Switch) : String := "--" ++ s.name

/-- The switch with a given name. -/
def find? (name : String) : Option Switch := all.find? (·.name = name)

/-- The switch with a given letter. -/
def ofLetter? (c : Char) : Option Switch := all.find? (·.letter? = some c)

end Switch

/-- An option of either kind. -/
inductive Argument where
  | setting (s : Setting)
  | switch (s : Switch)
  deriving Repr, DecidableEq

namespace Argument

/-- The option as messages show it. -/
def display : Argument → String
  | .setting s => s.display
  | .switch s => s.display

/-- All options, in the order the help text shows them. -/
def all : List Argument :=
  [.setting .tool, .setting .inputDir, .setting .extension, .setting .artifactSuffix,
    .setting .referenceSuffix, .setting .toolFlag, .setting .traceVar, .setting .diffTool,
    .setting .matchCommand, .setting .matchReturn, .setting .matchStdout, .setting .matchStderr,
    .switch .verbose, .switch .exitFirst, .setting .format, .switch .noColor, .switch .help,
    .switch .version]

/-- The option asks for a text instead of a run. -/
def isQuestion : Argument → Bool
  | .switch .help | .switch .version => true
  | _ => false

/-- The names after two hyphens. -/
def names : Argument → List String
  | .setting s => s.name :: s.alias?.toList
  | .switch s => [s.name]

/-- The option with a given name. -/
def find? (name : String) : Option Argument := all.find? (·.names.contains name)

end Argument

/-- The options of a command line. -/
structure Options where
  tool : Option String := none
  inputDir : Option String := none
  extension : Option String := none
  artifactSuffix : Option String := none
  referenceSuffix : Option String := none
  toolFlags : List String := []
  traceVar : Option String := none
  diffTool : Option String := none
  matchCommand : Option String := none
  matchReturn : Option Int := none
  matchStdout : Option String := none
  matchStderr : Option String := none
  format : Option ReportFormat := none
  verbose : Bool := false
  exitFirst : Bool := false
  noColor : Bool := false
  deriving Repr, DecidableEq

namespace Options

/-- The configuration that the options ask for: what is not given keeps its
default.  There is color only on a terminal. -/
def toConfig (o : Options) (terminal : Bool) : Config :=
  let base : Config := {}
  { toolPath := (o.tool.map utf8).getD base.toolPath
    inputDir := (o.inputDir.map utf8).getD base.inputDir
    extension := o.extension.getD base.extension
    layout :=
      { artifactSuffix := o.artifactSuffix.getD base.layout.artifactSuffix
        referenceSuffix := o.referenceSuffix.getD base.layout.referenceSuffix }
    toolFlags := if o.toolFlags.isEmpty then base.toolFlags else o.toolFlags
    traceVar := o.traceVar.getD base.traceVar
    diffProgram := o.diffTool.getD base.diffProgram
    policy :=
      { command := o.matchCommand
        returnCode := o.matchReturn
        stdout := o.matchStdout
        stderr := o.matchStderr }
    stopOnFail := o.exitFirst
    verbose := o.verbose
    format := o.format.getD .console
    color := !o.noColor && terminal }

end Options

end Assay.Cli

import Assay.Cli.Option
import Assay.Text.Lines
import Assay.Text.Similarity
import Assay.Text.Terminal

/-! # Help, version and usage errors

The texts that answer a command line which asks for no run, or for one that
cannot be understood.  What stood on the command line is quoted as a terminal
shows it.
-/

namespace Assay.Cli

open Text (line visible)

/-- Why a return code on the command line is refused. -/
inductive CodeFault where
  | empty
  | invalidDigit
  | tooLarge
  | tooSmall
  /-- A number, but not one of 32 bits. -/
  | outOfRange (n : Int)
  deriving Repr, DecidableEq

namespace CodeFault

def message : CodeFault → String
  | .empty => "cannot parse integer from empty string"
  | .invalidDigit => "invalid digit found in string"
  | .tooLarge => "number too large to fit in target type"
  | .tooSmall => "number too small to fit in target type"
  | .outOfRange n => toString n ++ " is not in -2147483648..=2147483647"

end CodeFault

/-- Why a command line leads to no run. -/
inductive Refusal where
  /-- An argument that is no option, as far as messages show it. -/
  | unknownArgument (argument : String)
  /-- A long name that no option has, after the options that were given. -/
  | unknownName (name : String) (given : List Argument)
  | missingValue (setting : Setting)
  | unknownFormat (value : String)
  | badCode (value : String) (fault : CodeFault)
  /-- An option that was given before. -/
  | repeated (option : String)
  /-- A switch that was given a value, after the options that were given. -/
  | unneededValue (switch : Switch) (value : String) (given : List Argument)
  | help
  | version
  deriving Repr, DecidableEq

def helpText : String := String.join <| List.map line
  ["Run a source rewriting tool over categorized fixtures and check its artifacts",
   "",
   "Usage: rewrite-conformance [OPTIONS]",
   "",
   "Options:",
   "      --tool <PATH>                Executable under test (default: ./rewriter) [alias: --rewriter]",
   "      --input-dir <DIR>            Directory containing good_no_fix/, good_can_fix/, bad_with_fix/, bad_without_fix/",
   "      --extension <EXT>            Extension of fixture inputs (default: cpp)",
   "      --artifact-suffix <SUFFIX>   Suffix the tool appends to rewritten files (default: generated)",
   "      --reference-suffix <SUFFIX>  Suffix of reference files (default: fixed)",
   "      --tool-flag <FLAG>           Flag passed to the tool after `--`; repeat to pass several (default: -std=c++0x -w)",
   "      --trace-var <NAME>           Environment variable set to 1 to enable tracing in the tool (default: REWRITE_TRACE)",
   "      --diff-tool <PROGRAM>        Program used to compare artifacts with reference files (default: diff)",
   "      --match-command <PATTERN>    Only count cases with an invocation whose command line contains PATTERN",
   "      --match-return <CODE>        Only count cases with an invocation that returned CODE",
   "      --match-stdout <PATTERN>     Only count cases with an invocation whose stdout contains PATTERN",
   "      --match-stderr <PATTERN>     Only count cases with an invocation whose stderr contains PATTERN",
   "  -v, --verbose                    Verbose output (per-case timing, invocation logs of failures)",
   "  -x, --exitfirst                  Stop on first failure",
   "      --format <FORMAT>            Report format [default: console] [possible values: console, json]",
   "      --no-color                   Disable ANSI colors",
   "  -h, --help                       Print help",
   "  -V, --version                    Print version"]

def versionText : String := line "rewrite-conformance 0.1.0"

namespace Refusal

/-- What is wrong, or the text that was asked for. -/
def headline : Refusal → String
  | .unknownArgument a => line ("error: unexpected argument '" ++ visible a ++ "' found")
  | .unknownName n _ => line ("error: unexpected argument '--" ++ visible n ++ "' found")
  | .missingValue s =>
    line ("error: a value is required for '" ++ s.display ++ "' but none was supplied")
  | .unknownFormat v =>
    line ("error: invalid value '" ++ visible v ++ "' for '" ++ Setting.format.display ++ "'")
  | .badCode v fault =>
    line ("error: invalid value '" ++ visible v ++ "' for '" ++ Setting.matchReturn.display ++
      "': " ++ fault.message)
  | .repeated o => line ("error: the argument '" ++ o ++ "' cannot be used multiple times")
  | .unneededValue s v _ =>
    line ("error: unexpected value '" ++ visible v ++ "' for '" ++ s.display ++
      "' found; no more were expected")
  | .help => helpText
  | .version => versionText

/-- The values to choose from, where there is a choice. -/
def choices : Refusal → String
  | .unknownFormat _ | .missingValue .format => line "  [possible values: console, json]"
  | _ => ""

/-- The name that may have been meant by an unknown one. -/
def meantName? (name : String) : Option String :=
  Text.closest? name (Argument.all.flatMap Argument.names)

/-- What may have been meant. -/
def tip : Refusal → String
  | .unknownName name _ =>
    match meantName? name with
    | some other => line "" ++ line ("  tip: a similar argument exists: '--" ++ other ++ "'")
    | none => ""
  | .unknownFormat v =>
    match Text.closest? v [ReportFormat.console.key, ReportFormat.json.key] with
    | some other => line "" ++ line ("  tip: a similar value exists: '" ++ other ++ "'")
    | none => ""
  | _ => ""

/-- A line on how to use the program, with the options that the command line is
about. -/
def usageLine (shown : List String) : String :=
  line ("Usage: rewrite-conformance " ++
    if shown.isEmpty then "[OPTIONS]" else " ".intercalate shown) ++ line ""

/-- The choice of all options. -/
def anyOption : String :=
  "<" ++ "|".intercalate ((Argument.all.filter fun a => !a.isQuestion).map Argument.display) ++ ">"

/-- How the program is used, where the fault is in the shape of the command
line.  With an unknown name the options given so far are shown and the one that
may have been meant. -/
def usage : Refusal → String
  | .unknownArgument _ | .repeated _ => usageLine []
  | .unknownName name given =>
    let meant := ((meantName? name).bind Argument.find?).toList
    usageLine ((given ++ meant.filter fun a => !given.contains a).map Argument.display)
  | .unneededValue s _ given =>
    let question := (Argument.switch s).isQuestion
    usageLine (if given.isEmpty then [s.display]
      else if question then [s.display, anyOption] else [anyOption])
  | _ => ""

/-- Whether the text was asked for. -/
def isAnswer : Refusal → Bool
  | .help | .version => true
  | _ => false

/-- All that is printed. -/
def text (r : Refusal) : String :=
  if r.isAnswer then r.headline
  else
    r.headline ++ r.choices ++ r.tip ++ line "" ++ r.usage ++
      line "For more information, try '--help'."

def exitCode (r : Refusal) : Nat := if r.isAnswer then 0 else 2

end Refusal

end Assay.Cli

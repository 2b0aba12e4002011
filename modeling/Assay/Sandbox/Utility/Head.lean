import Assay.Sandbox.Utility.Options
import Assay.Sandbox.Utility.Size

/-! # The start of files -/

namespace Assay.Sandbox.Utility

open UtilityM
open Text (Bytes)

/-- How much of a file is shown. -/
structure HeadStyle where
  /-- Lines are counted, not bytes. -/
  lines : Bool := true
  count : Nat := 10
  /-- So many are left out at the end instead. -/
  fromEnd : Bool := false
  /-- Whether names are shown; without a choice they are if there are several. -/
  headers : Option Bool := none
  /-- What ends a line. -/
  lineEnd : UInt8 := 10

/-- How many bytes are read at once. -/
def headBlock : Nat := 8192

/-- The bytes up to so many line ends; how many line ends are missing. -/
def takeLines (lineEnd : UInt8) : Nat → Bytes → Bytes → Bytes × Nat
  | 0, _, sofar => (sofar.reverse, 0)
  | n, [], sofar => (sofar.reverse, n)
  | n + 1, b :: rest, sofar => takeLines lineEnd (if b = lineEnd then n else n + 1) rest (b :: sofar)

/-- What is left of a text without its last so many lines. -/
def dropLastLines (lineEnd : UInt8) (n : Nat) (data : Bytes) : Bytes :=
  if n = 0 then data
  else
    let reversed := data.reverse
    /- A last line without an end counts too. -/
    let ends := if reversed.head? = some lineEnd || reversed.isEmpty then n + 1 else n
    let (_, kept) := skip lineEnd ends reversed
    kept.reverse
where
  /-- Pass so many line ends; what follows begins with the last of them. -/
  skip (lineEnd : UInt8) : Nat → Bytes → Unit × Bytes
    | 0, rest => ((), rest)
    | _, [] => ((), [])
    | n + 1, b :: rest =>
      if b = lineEnd then if n = 0 then ((), b :: rest) else skip lineEnd n rest
      else skip lineEnd (n + 1) rest

/-- Move back in a file that can be read anew. -/
def moveBack (fd n : Nat) : UtilityM Unit :=
  Proc.perform fun pid s => ((), match s.file? pid fd with
    | some (index, f) =>
      match f.channel with
      | .file _ => s.seek index (f.position - n)
      | _ => s
    | none => s)

/-- Show so many lines or bytes of a descriptor. -/
def headDescriptor (style : HeadStyle) (fd : Nat) :
    (rounds : Nat) → (left : Nat) → UtilityM (Except IoError Unit)
  | 0, _ => return .ok ()
  | rounds + 1, left => do
    if left = 0 then return .ok ()
    let limit := if style.lines then headBlock else min headBlock left
    match ← Proc.read fd limit with
    | .error e => return .error e
    | .ok [] => return .ok ()
    | .ok data =>
      let (shown, left) :=
        if style.lines then takeLines style.lineEnd left data [] else (data, left - data.length)
      print (Octets.ofBytes shown)
      spill ("error writing " ++ (← quoted "standard output"))
      if left = 0 && style.lines then moveBack fd (data.length - shown.length)
      headDescriptor style fd rounds left

/-- Show all but the end of a descriptor. -/
def headAllBut (style : HeadStyle) (fd : Nat) : UtilityM (Except IoError Unit) := do
  match ← Proc.readToEnd fd with
  | .error e => return .error e
  | .ok data =>
    let shown := if style.lines then dropLastLines style.lineEnd style.count data
      else data.take (data.length - style.count)
    print (Octets.ofBytes shown)
    return .ok ()

/-- Show the start of each operand; `first` tells that no name has been shown. -/
def headOperands (style : HeadStyle) (headers : Bool) : (first : Bool) → List String → UtilityM Unit
  | _, [] => pure ()
  | first, name :: rest => do
    let shownName := if name = "-" then "standard input" else name
    let opened ← if name = "-" then pure (.ok 0) else Proc.openInput name
    match opened with
    | .error e =>
      warn ("cannot open " ++ (← quoted name) ++ " for reading: " ++ plainError e)
      headOperands style headers first rest
    | .ok fd =>
      if headers then print ((if first then "" else "\n") ++ "==> " ++ shownName ++ " <==\n")
      let result ← if style.fromEnd then headAllBut style fd
        else headDescriptor style fd Proc.pieceBound style.count
      match result with
      | .ok () => pure ()
      | .error e => warn ("error reading " ++ (← quoted shownName) ++ ": " ++ plainError e)
      if name ≠ "-" then Proc.close fd
      headOperands style headers (first && !headers) rest

/-- A number of lines or bytes, with a minus sign for those left out. -/
def headCount (style : HeadStyle) (lines : Bool) (text : String) : UtilityM HeadStyle := do
  let (fromEnd, digits) := match text.toList with
    | '-' :: rest => (true, String.ofList rest)
    | _ => (false, text)
  let what := if lines then "invalid number of lines" else "invalid number of bytes"
  return { style with lines, fromEnd, count := ← demandSize what digits }

/-- Letters after the number in the old form of the option. -/
def headLetters : List Char → HeadStyle → Option Char → UtilityM (HeadStyle × Option Char)
  | [], style, scale => return (style, scale)
  | c :: cs, style, scale => do
    match c with
    | 'c' => headLetters cs { style with lines := false } none
    | 'b' | 'k' | 'm' => headLetters cs { style with lines := false } (some c)
    | 'l' => headLetters cs { style with lines := true } scale
    | 'q' => headLetters cs { style with headers := some false } scale
    | 'v' => headLetters cs { style with headers := some true } scale
    | 'z' => headLetters cs { style with lineEnd := 0 } scale
    | c =>
      report ("invalid trailing option -- " ++ c.toString)
      refuse

/-- The old form of the option, in which the number stands for itself. -/
def headOldForm (args : List String) : UtilityM (HeadStyle × List String) := do
  match args with
  | arg :: rest =>
    match arg.toList with
    | '-' :: d :: cs =>
      if d.isDigit then
        let (digits, letters) := Digits.split 10 (cs.length + 1) (d :: cs)
        let (style, scale) ← headLetters letters {} none
        let text := String.ofList (digits ++ scale.toList)
        let what := if style.lines then "invalid number of lines" else "invalid number of bytes"
        return ({ style with count := ← demandSize what text }, rest)
      return ({}, args)
    | _ => return ({}, args)
  | [] => return ({}, args)

def headSpec : OptionSpec where
  letters := OptionSpec.ofLetters "qvz0123456789" "cn"
  names := [("bytes", .required, "c"), ("lines", .required, "n"), ("quiet", .none, "q"),
    ("silent", .none, "q"), ("verbose", .none, "v"), ("zero-terminated", .none, "z")]

/-- Show the start of files. -/
def head : Utility := fun args => do
  let (style, args) ← headOldForm args
  let (style, operands) ← options headSpec args style fun style key value => do
    match key with
    | "c" => headCount style false (value.getD "")
    | "n" => headCount style true (value.getD "")
    | "q" => return { style with headers := some false }
    | "v" => return { style with headers := some true }
    | "z" => return { style with lineEnd := 0 }
    | digit =>
      report ("invalid trailing option -- " ++ digit)
      refuse
  let operands := if operands.isEmpty then ["-"] else operands
  headOperands style (style.headers.getD (1 < operands.length)) true operands
  closeInput "-" operands
  outcome

end Assay.Sandbox.Utility

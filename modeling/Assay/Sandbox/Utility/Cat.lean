import Assay.Sandbox.Utility.Options

/-! # Joining files -/

namespace Assay.Sandbox.Utility

open UtilityM
open Text (Bytes)

/-- How lines are shown. -/
structure CatStyle where
  number : Bool := false
  numberFilled : Bool := false
  squeeze : Bool := false
  ends : Bool := false
  controls : Bool := false
  tabs : Bool := false
  deriving Repr, DecidableEq

/-- Where the joining stands. -/
structure CatState where
  /-- How many line ends have been read in a row; nothing within a line. -/
  ends : Option Nat := some 0
  line : Nat := 0
  /-- A carriage return has been read and not shown. -/
  pendingReturn : Bool := false

/-- A byte that is shown by marks. -/
def shownByte (tabs : Bool) (n : Nat) : List Char :=
  let low (n : Nat) : List Char :=
    if n < 32 then ['^', Char.ofNat (n + 64)] else if n = 127 then ['^', '?'] else [Char.ofNat n]
  if n = 9 && !tabs then ['\t']
  else if n < 128 then low n
  else 'M' :: '-' :: low (n - 128)

/-- A line number before its line. -/
def lineLabel (n : Nat) : List Char :=
  let digits := (toString n).toList
  List.replicate (6 - digits.length) ' ' ++ digits ++ ['\t']

/-- Show one byte; the output is kept last character first. -/
def catByte (style : CatStyle) (state : CatState × List Char) (b : UInt8) : CatState × List Char :=
  let (s, out) := state
  let n := b.toNat
  let put (out text : List Char) : List Char := text.reverse ++ out
  if n = 10 then
    let ends := match s.ends with
      | some k => min (k + 1) 2
      | none => 0
    let blankNumber := style.number && !style.numberFilled && 0 < ends
    if 2 ≤ ends && style.squeeze then ({ s with ends := some ends, pendingReturn := false }, out)
    else
      let line := if blankNumber then s.line + 1 else s.line
      let out := if s.pendingReturn then put out ['^', 'M'] else out
      let out := if blankNumber then put out (lineLabel line) else out
      let out := if style.ends then '$' :: out else out
      ({ ends := some ends, line, pendingReturn := false }, '\n' :: out)
  else
    let out := if s.pendingReturn then '\r' :: out else out
    let starts := s.ends.isSome && (style.number || style.numberFilled)
    let line := if starts then s.line + 1 else s.line
    let out := if starts then put out (lineLabel line) else out
    let pending := n = 13 && style.ends && !style.controls
    let text :=
      if pending then []
      else if style.controls then shownByte style.tabs n
      else if n = 9 && style.tabs then ['^', 'I']
      else [Char.ofNat n]
    ({ ends := none, line, pendingReturn := pending }, put out text)

/-- How many bytes are read at once. -/
def catBlock : Nat := 131072

/-- Copy a descriptor to the output. -/
def catDescriptor (style : CatStyle) (name : String) (fd : Nat) :
    (rounds : Nat) → CatState → UtilityM CatState
  | 0, s => return s
  | rounds + 1, s => do
    match ← Proc.read fd catBlock with
    | .error e =>
      warn ((← named name) ++ ": " ++ plainError e)
      return s
    | .ok [] => return s
    | .ok data =>
      let (s, data) :=
        if style = {} then (s, data)
        else
          let (s, out) := data.foldl (catByte style) (s, [])
          (s, Octets.toBytes (String.ofList out.reverse))
      match ← Proc.write 1 data with
      | .ok () => catDescriptor style name fd rounds s
      | .error e => fail ("write error: " ++ plainError e)

/-- Writing what is read would never come to an end. -/
def readsItself (fd : Nat) : UtilityM Bool :=
  Proc.ask fun pid s =>
    match s.file? pid fd, s.file? pid 1 with
    | some (_, input), some (_, output) =>
      match input.channel, output.channel with
      | .file a, .file b =>
        a = b && (s.node? a).any fun e => input.position < e.data.length
      | _, _ => false
    | _, _ => false

/-- Copy the operands one after the other. -/
def catOperands (style : CatStyle) : List String → CatState → UtilityM CatState
  | [], s => return s
  | name :: rest, s => do
    let opened ← if name = "-" then pure (.ok 0) else Proc.openInput name
    match opened with
    | .error e =>
      warn ((← named name) ++ ": " ++ plainError e)
      catOperands style rest s
    | .ok fd =>
      let s ←
        if ← readsItself fd then
          warn ((← named name) ++ ": input file is output file")
          pure s
        else catDescriptor style name fd Proc.pieceBound s
      if name ≠ "-" then Proc.close fd
      catOperands style rest s

def catSpec : OptionSpec where
  letters := OptionSpec.ofLetters "benstuvAET" ""
  names := [("number-nonblank", .none, "b"), ("number", .none, "n"), ("squeeze-blank", .none, "s"),
    ("show-nonprinting", .none, "v"), ("show-ends", .none, "E"), ("show-tabs", .none, "T"),
    ("show-all", .none, "A")]

/-- Copy files to the output. -/
def cat : Utility := fun args => do
  let (style, operands) ← options catSpec args ({} : CatStyle) fun s key _ =>
    return match key with
      | "b" => { s with number := true, numberFilled := true }
      | "e" => { s with ends := true, controls := true }
      | "n" => { s with number := true }
      | "s" => { s with squeeze := true }
      | "t" => { s with tabs := true, controls := true }
      | "v" => { s with controls := true }
      | "A" => { s with controls := true, ends := true, tabs := true }
      | "E" => { s with ends := true }
      | "T" => { s with tabs := true }
      | _ => s
  if !(← Proc.isOpen 1) then fail ("standard output: " ++ plainError .badDescriptor)
  let operands := if operands.isEmpty then ["-"] else operands
  let s ← catOperands style operands {}
  if s.pendingReturn then print "\r"
  closeInput "closing standard input" operands
  outcome

end Assay.Sandbox.Utility

import Assay.Sandbox.Date
import Assay.Sandbox.Utility.Options

/-! # Changing the times of files

Files that are not there are created.  Only the time of the last change of the
contents is kept.
-/

namespace Assay.Sandbox.Utility

open UtilityM

/-- What is changed, and how. -/
structure TouchStyle where
  access : Bool := false
  change : Bool := false
  create : Bool := true
  follow : Bool := true
  date : Option String := none
  reference : Option String := none
  stamp : Option Moment := none

def touchSpec : OptionSpec where
  letters := OptionSpec.ofLetters "acfhm" "drt"
  names := [("time", .required, "time"), ("no-create", .none, "c"), ("date", .required, "d"),
    ("reference", .required, "r"), ("no-dereference", .none, "h")]

/-- Names of the two times; the time of the last access is `false`. -/
def touchTimes : List (String × Bool) :=
  [("atime", false), ("access", false), ("use", false), ("mtime", true), ("modify", true)]

/-- Refuse a date. -/
def badDate {α : Type} (text : String) : UtilityM α := do
  fail ("invalid date format " ++ (← marked text))

/-- The moment that is asked for; `none` is the present. -/
def TouchStyle.moment (style : TouchStyle) : UtilityM (Option Moment) := do
  if style.stamp.isSome && (style.reference.isSome || style.date.isSome) then
    report "cannot specify times from more than one source"
    refuse
  let base ← match style.reference with
    | none => pure none
    | some path =>
      match ← if style.follow then Proc.stat path else Proc.lstat path with
      | .ok e => pure (some e.attributes.modified)
      | .error e => fail ("failed to get attributes of " ++ (← quoted path) ++ ": " ++ plainError e)
  match style.date with
  | none => return style.stamp <|> base
  | some text =>
    let now ← Proc.ask fun _ s => s.now
    match Date.read text (base.getD now) with
    | some m => return some m
    | none => badDate text

/-- Set the times of a file. -/
def touchFile (style : TouchStyle) (moment : Option Moment) (path : String) : UtilityM Unit := do
  let set (a : Attributes) (now : Moment) : Attributes :=
    if style.change then { a with modified := moment.getD now } else a
  if path = "-" then
    let isOpen ← Proc.isOpen 1
    if isOpen then
      Proc.perform fun pid s => ((), match s.file? pid 1 with
        | some (_, f) =>
          match f.channel with
          | .file node => s.updateNode node fun e => e.withAttributes (set e.attributes s.now)
          | _ => s
        | none => s)
    else if style.create then warn ("setting times of " ++ (← quoted path) ++ ": Bad file descriptor")
  else
    let opened ←
      if !style.create || !style.follow then pure (.ok ())
      else Proc.change fun pid s =>
        (s.openPath pid path { writing := true, creating := true } 0o666).map Prod.snd
    match ← Proc.change fun pid s => s.setAttributes pid path style.follow (set · s.now) with
    | .ok () => pure ()
    | .error e =>
      match opened with
      | .error e' =>
        if e' = .isDirectory then warn ("setting times of " ++ (← quoted path) ++ ": " ++ plainError e)
        else warn ("cannot touch " ++ (← quoted path) ++ ": " ++ plainError e')
      | .ok () =>
        unless !style.create && e = .notFound do
          warn ("setting times of " ++ (← quoted path) ++ ": " ++ plainError e)

/-- Change the times of files. -/
def touch : Utility := fun args => do
  let now ← Proc.ask fun _ s => s.now
  let (style, operands) ← options touchSpec args ({} : TouchStyle) fun style key value => do
    let text := value.getD ""
    match key with
    | "a" => return { style with access := true }
    | "m" => return { style with change := true }
    | "c" => return { style with create := false }
    | "h" => return { style with follow := false }
    | "d" => return { style with date := value }
    | "r" => return { style with reference := value }
    | "t" =>
      match Date.stamp text now with
      | some m => return { style with stamp := some m }
      | none => badDate text
    | "time" =>
      if ← choose "--time" touchTimes text then return { style with change := true }
      return { style with access := true }
    | _ => return style
  let style := if style.access || style.change then style else { style with change := true }
  let moment ← style.moment
  if operands.isEmpty then
    report "missing file operand"
    refuse
  operands.forM (touchFile style moment)
  outcome

end Assay.Sandbox.Utility

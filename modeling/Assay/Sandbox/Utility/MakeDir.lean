import Assay.Sandbox.Mode
import Assay.Sandbox.Utility.Options

/-! # Creating directories -/

namespace Assay.Sandbox.Utility

open UtilityM

/-- How directories are created. -/
structure MakeDirStyle where
  parents : Bool := false
  verbose : Bool := false
  mode : Option String := none

/-- The parts of a path that lead to its last name, each from its start on. -/
def ancestors (path : String) : List String :=
  let cs := path.toList
  let cuts := (List.range cs.length).filter fun i =>
    0 < i && cs[i]? == some '/' && cs[i - 1]? != some '/' && (cs.drop i).any (· != '/')
  cuts.map fun i => String.ofList (cs.take i)

/-- The last name of a path. -/
def lastName (path : String) : String :=
  String.ofList (path.toList.reverse.takeWhile (· != '/')).reverse

/-- Say that a directory has been created, if that is asked for. -/
def announceDir (style : MakeDirStyle) (path : String) : UtilityM Unit := do
  if style.verbose then
    print ((← get).name ++ ": created directory " ++ (← quoted path) ++ "\n")

/-- Create what leads to a directory; the path that could not be created, and
why. -/
def makeAncestors (style : MakeDirStyle) : List String → UtilityM (Option (String × IoError))
  | [] => return none
  | path :: rest => do
    let name := lastName path
    if name = "." then makeAncestors style rest
    else
      let made ← if name = ".." then pure (.ok ())
        else Proc.change fun pid s =>
          let mask := (s.process pid).mask
          let s' := s.updateProcess pid fun p => { p with mask := Mode.without mask 0o300 }
          (s'.makeDir pid path 0o777).map fun s => s.updateProcess pid fun p => { p with mask := mask }
      match made with
      | .ok () => if name ≠ ".." then announceDir style path
      | .error _ => pure ()
      match ← Proc.stat path with
      | .ok (.dir _) => makeAncestors style rest
      | .ok _ => return some (path, .notDirectory)
      | .error e =>
        match made with
        | .error e' => return some (path, if e = .notFound then e' else e)
        | .ok () => return some (path, e)

/-- Create a directory with the given permissions, if there are any. -/
def makeDirectory (style : MakeDirStyle) (mode : Option Nat) (path : String) : UtilityM Unit := do
  let refuseWith (path : String) (e : IoError) : UtilityM Unit := do
    warn ("cannot create directory " ++ (← marked path) ++ ": " ++ plainError e)
  let obstacle ← if style.parents then makeAncestors style (ancestors path) else pure none
  match obstacle with
  | some (path, e) => refuseWith path e
  | none =>
    match ← Proc.change fun pid s => s.makeDir pid path 0o777 with
    | .ok () =>
      announceDir style path
      match mode with
      | some mode =>
        let _ ← Proc.change fun pid s => s.setAttributes pid path true fun a => { a with mode := mode }
      | none => pure ()
    | .error e =>
      if style.parents && e ≠ .notFound then
        match ← Proc.stat path with
        | .ok (.dir _) => pure ()
        | .error e' =>
          if e = .alreadyExists && e' ≠ .notFound && e' ≠ .notDirectory then
            warn ("cannot stat " ++ (← marked path) ++ ": " ++ plainError e')
          else refuseWith path e
        | .ok _ => refuseWith path e
      else refuseWith path e

def makeDirSpec : OptionSpec where
  letters := OptionSpec.ofLetters "pvZ" "m"
  names := [("context", .optional, "context"), ("mode", .required, "m"), ("parents", .none, "p"),
    ("verbose", .none, "v")]

/-- Create directories. -/
def mkdir : Utility := fun args => do
  let (style, operands) ← options makeDirSpec args ({} : MakeDirStyle) fun style key value => do
    match key, value with
    | "p", _ => return { style with parents := true }
    | "v", _ => return { style with verbose := true }
    | "m", _ => return { style with mode := value }
    | "context", some _ =>
      report "warning: ignoring --context; it requires an SELinux/SMACK-enabled kernel"
      return style
    | _, _ => return style
  if operands.isEmpty then
    report "missing operand"
    refuse
  let mode ← match style.mode with
    | none => pure none
    | some text =>
      match Mode.parse? text with
      | none => fail ("invalid mode " ++ (← marked text))
      | some changes =>
        let mask ← Proc.ask fun pid s => (s.process pid).mask
        pure (some (Mode.ofNewDir changes mask))
  operands.forM (makeDirectory style mode)
  outcome

end Assay.Sandbox.Utility

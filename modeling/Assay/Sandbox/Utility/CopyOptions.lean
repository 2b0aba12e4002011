import Assay.Sandbox.Utility.Copy

/-! # The command line of copying -/

namespace Assay.Sandbox.Utility

open UtilityM

def copySpec : OptionSpec where
  letters := OptionSpec.ofLetters "abdfHilLnprsuvxPRTZ" "tS"
  names := [("archive", .none, "a"), ("attributes-only", .none, "attributes-only"),
    ("backup", .optional, "b"), ("copy-contents", .none, "copy-contents"), ("dereference", .none, "L"),
    ("force", .none, "f"), ("interactive", .none, "i"), ("link", .none, "l"),
    ("no-clobber", .none, "n"), ("no-dereference", .none, "P"),
    ("no-preserve", .required, "no-preserve"), ("no-target-directory", .none, "T"),
    ("one-file-system", .none, "x"), ("parents", .none, "parents"), ("path", .none, "parents"),
    ("preserve", .optional, "preserve"), ("recursive", .none, "R"),
    ("remove-destination", .none, "remove-destination"), ("sparse", .required, "sparse"),
    ("reflink", .optional, "reflink"), ("strip-trailing-slashes", .none, "strip-trailing-slashes"),
    ("suffix", .required, "S"), ("symbolic-link", .none, "s"), ("target-directory", .required, "t"),
    ("update", .none, "u"), ("verbose", .none, "v"), ("context", .optional, "context")]

def keptNames : List (String × Kept) :=
  [("mode", .mode), ("timestamps", .timestamps), ("ownership", .ownership), ("links", .links),
    ("context", .context), ("xattr", .extended), ("all", .all)]

/-- Keep an attribute, or drop it. -/
def CopyStyle.keep (x : CopyStyle) (on : Bool) : Kept → CopyStyle
  | .mode => { x with keepMode := on, dropMode := !on }
  | .timestamps => { x with keepTimes := on }
  | .ownership => { x with keepOwner := on }
  | .links => { x with keepLinks := on }
  | .context | .extended => x
  | .all => { x with keepMode := on, keepTimes := on, keepOwner := on, keepLinks := on, dropMode := !on }

/-- Keep or drop the attributes of a list. -/
def keepListed (x : CopyStyle) (on : Bool) (text : String) : UtilityM CopyStyle := do
  let words := (text.toList.splitOn ',').map String.ofList
  words.foldlM (fun x w => do
    let k ← choose (if on then "--preserve" else "--no-preserve") keptNames w
    if k = .context && on then
      fail "cannot preserve security context without an SELinux-enabled kernel"
    return x.keep on k) x

/-- Keep what a copy keeps by the plain option. -/
def CopyStyle.keepPlain (x : CopyStyle) : CopyStyle :=
  { x with keepMode := true, keepTimes := true, keepOwner := true }

/-- Take note of an option. -/
def copyOption (x : CopyStyle) (key : String) (value : Option String) : UtilityM CopyStyle := do
  match key with
  | "a" => return { x.keepPlain with following := some .never, keepLinks := true, recursive := true }
  | "attributes-only" => return { x with dataWanted := false }
  | "b" =>
    let o := x.backupOptions
    return { x with backupOptions := { o with wanted := true, control := value <|> o.control } }
  | "copy-contents" => return { x with contents := true }
  | "d" => return { x with keepLinks := true, following := some .never }
  | "f" => return { x with force := true }
  | "H" => return { x with following := some .named }
  | "i" => return { x with clobber := .ask }
  | "l" => return { x with hardLink := true }
  | "L" => return { x with following := some .always }
  | "n" => return { x with clobber := .skip }
  | "no-preserve" => keepListed x false (value.getD "")
  | "P" => return { x with following := some .never }
  | "parents" => return { x with parents := true }
  | "p" => return x.keepPlain
  | "preserve" =>
    match value with
    | some text => keepListed x true text
    | none => return x.keepPlain
  | "r" | "R" => return { x with recursive := true }
  | "reflink" =>
    let always ← match value with
      | none => pure true
      | some text => choose "--reflink" [("auto", false), ("always", true), ("never", false)] text
    return { x with cloneOnly := always }
  | "remove-destination" => return { x with removeFirst := true }
  | "s" => return { x with symbolicLink := true }
  | "S" => return { x with backupOptions := { x.backupOptions with wanted := true, suffix := value } }
  | "sparse" =>
    let mode ← choose "--sparse" [("never", 0), ("auto", 1), ("always", 2)] (value.getD "")
    return { x with sparse := mode ≠ 1 }
  | "strip-trailing-slashes" => return { x with stripSlashes := true }
  | "t" =>
    if x.target.isSome then fail "multiple target directories specified"
    return { x with target := value }
  | "T" => return { x with noTarget := true }
  | "u" => return { x with update := true }
  | "v" => return { x with verbose := true }
  | "context" =>
    if value.isSome then report "warning: ignoring --context; it requires an SELinux-enabled kernel"
    return x
  | _ => return x

/-- Report a fault in the arguments. -/
def refuseWith {α : Type} (message : String) : UtilityM α := do
  report message
  refuse

/-- Check that options go together, and complete them. -/
def CopyStyle.checked (x : CopyStyle) : UtilityM CopyStyle := do
  if x.hardLink && x.symbolicLink then refuseWith "cannot make both hard and symbolic links"
  let x := if x.clobber = .skip then { x with update := false } else x
  if x.backupOptions.wanted && x.clobber = .skip then
    refuseWith "options --backup and --no-clobber are mutually exclusive"
  if x.cloneOnly && x.sparse then refuseWith "--reflink can be used only with --sparse=auto"
  let backup ← x.backupOptions.choice
  let linking := x.hardLink || x.symbolicLink
  return { x with
    backup := backup
    removeFirst := x.removeFirst || (x.force && linking)
    throughDangling := (← get).isPosix }

/-- The directory that a path leads to can be entered. -/
def isEntered (path : String) : UtilityM (Except IoError Unit) := do
  match ← stat path with
  | .ok e => return if e.isDir then .ok () else .error .notDirectory
  | .error e => return .error e

/-- The directory that operands are copied into, and the operands; without a
directory there are a source and a destination. -/
def copyPlan (x : CopyStyle) (operands : List String) : UtilityM (Option String × List String) := do
  if operands.length ≤ (if x.target.isSome then 0 else 1) then
    match operands with
    | [only] => refuseWith ("missing destination file operand after " ++ (← quoted only))
    | _ => refuseWith "missing file operand"
  if x.noTarget then
    if x.target.isSome then
      fail "cannot combine --target-directory (-t) and --no-target-directory (-T)"
    match operands[2]? with
    | some extra => refuseWith ("extra operand " ++ (← quoted extra))
    | none => return (none, operands)
  match x.target with
  | some dir =>
    match ← isEntered dir with
    | .ok () => return (some dir, operands)
    | .error e => fail ("target directory " ++ (← quoted dir) ++ ": " ++ plainError e)
  | none =>
    let last := operands.getLastD ""
    match ← isEntered last with
    | .ok () => return (some last, operands.dropLast)
    | .error e =>
      if 2 < operands.length then fail ("target " ++ (← quoted last) ++ ": " ++ plainError e)
      return (none, operands)

/-- Copy files. -/
def cp : Utility := fun args => do
  let (x, operands) ← options copySpec args ({} : CopyStyle) copyOption
  let x ← x.checked
  let (dir, operands) ← copyPlan x operands
  match dir, operands with
  | some dir, sources =>
    let several := 1 < sources.length
    let start : CopyState :=
      { sources := if several then some [] else none, made := if several then some [] else none }
    let _ ← (CopyM.copyInto x dir sources).run start
  | none, source :: path :: _ =>
    if x.parents then refuseWith "with --parents, the destination must be a directory"
    let isFile := ((← stat path).toOption.map Entry.isFile).getD false
    /- A file that is copied onto itself with a backup becomes its own backup. -/
    if x.force && x.backup.kind ≠ .none && source = path && isFile then
      let kept ← x.backup.path path
      let _ ← (CopyM.copyOperand { x with backup := { x.backup with kind := .none } } source kept).run {}
    else
      let _ ← (CopyM.copyOperand x source path).run {}
  | none, _ => pure ()
  outcome

end Assay.Sandbox.Utility

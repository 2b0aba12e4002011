import Assay.Sandbox.Utility.Backup

/-! # Creating links -/

namespace Assay.Sandbox

namespace System

/-- The names on the way to what a path leads to, with links on it replaced by
their targets.  Nothing on the way has to be there. -/
def canonicalFrom (s : System) : (fuel : Nat) → Location → List Path → Location
  | 0, dir, _ => dir
  | _, dir, [] => dir
  | fuel + 1, dir, name :: rest =>
    if name = Path.self then canonicalFrom s fuel dir rest
    else if name = Path.above then canonicalFrom s fuel dir.dropLast rest
    else
      match s.tree.get? (dir ++ [name]) with
      | some (.link target _) =>
        canonicalFrom s fuel (if Path.isAbsolute target then [] else dir) (Path.steps target ++ rest)
      | _ => canonicalFrom s fuel (dir ++ [name]) rest

def canonical (s : System) (pid : Nat) (path : String) : Location :=
  let path := Octets.toBytes path
  let start := if Path.isAbsolute path then [] else (s.process pid).cwd
  s.canonicalFrom (path.length + 1000) start (Path.steps path)

end System

namespace Utility

open UtilityM

/-- How links are created. -/
structure LinkStyle where
  symbolic : Bool := false
  relative : Bool := false
  /-- A hard link leads to what a symbolic link leads to. -/
  logical : Bool := false
  dirs : Bool := false
  force : Bool := false
  interactive : Bool := false
  followTarget : Bool := true
  target : Option String := none
  noTarget : Bool := false
  verbose : Bool := false
  backup : BackupOptions := {}

/-- The way from one place to another. -/
def relativePath (source dir : Location) : String :=
  match source, dir with
  | a :: source', b :: dir' =>
    if a = b then relativePath source' dir' else spell (a :: source') (b :: dir')
  | source, dir => spell source dir
where
  spell (source dir : Location) : String :=
    let names := dir.map (fun _ => Path.above) ++ source
    if names.isEmpty then "." else Octets.ofLocation names

/-- Create a link, with nothing in its way. -/
def plainLink (style : LinkStyle) (source path : String) : UtilityM (Except IoError Unit) :=
  Proc.change fun pid s =>
    if style.symbolic then s.makeSymbolicLink pid source path
    else s.makeHardLink pid source path style.logical

/-- Create a link in place of what is there. -/
def forcedLink (style : LinkStyle) (source path : String) : UtilityM (Except IoError Unit) := do
  match ← plainLink style source path with
  | .error e =>
    if e ≠ .alreadyExists then return .error e
    match ← Proc.change fun pid s => s.unlink pid path with
    | .error e => return .error e
    | .ok () => plainLink style source path
  | .ok () => return .ok ()

/-- The message about a link that could not be created. -/
def linkMessage (style : LinkStyle) (source path : String) (e : IoError) : UtilityM String := do
  let from_ ← quoted path
  let target ← quoted source
  let what :=
    if style.symbolic then
      if e ≠ .nameTooLong && !source.isEmpty then "symbolic link " ++ from_
      else "symbolic link " ++ from_ ++ " -> " ++ target
    else if e = .alreadyExists then "hard link " ++ from_
    else "hard link " ++ from_ ++ " => " ++ target
  return "failed to create " ++ what ++ ": " ++ plainError e

/-- Both paths lead to one file, and it has no name that would be left. -/
def isLastName (style : LinkStyle) (source path : String) (there : Entry) : UtilityM Bool := do
  let given ← if style.symbolic || style.logical then Proc.stat source else Proc.lstat source
  match given with
  | .error _ => return false
  | .ok e =>
    if e.node ≠ there.node then return false
    if (← linkCount e.node) = 1 then return true
    sameName source path

/-- What is to be done about what stands in the way of a link. -/
inductive Obstacle where
  | none
  | replaced (backup : Option String)
  /-- The link is not created. -/
  | stop

/-- Deal with what stands in the way of a link.  `made` are the paths of the
links that have been created. -/
def clearWay (style : LinkStyle) (b : Backup) (made : List (String × Nat)) (source path : String) :
    UtilityM Obstacle := do
  if !(style.force || style.interactive || b.kind ≠ .none) then return .none
  match ← Proc.lstat path with
  | .error e =>
    if e = .notFound then return .none
    warn ("failed to access " ++ (← quoted path) ++ ": " ++ plainError e)
    return .stop
  | .ok there =>
    if made.contains (path, there.node) then
      warn ("will not overwrite just-created " ++ (← quoted path) ++ " with " ++ (← quoted source))
      return .stop
    if (style.force || (!style.symbolic && b.kind ≠ .none)) && (b.kind = .none || !style.symbolic) then
      if ← isLastName style source path there then
        warn ((← quoted source) ++ " and " ++ (← quoted path) ++ " are the same file")
        return .stop
    if there.isDir then
      warn ((← named path) ++ ": cannot overwrite directory")
      return .stop
    if style.interactive then
      let agreed ← confirm ("replace " ++ (← quoted path) ++ "? ")
      if !agreed then return .stop
    if b.kind = .none then return .replaced none
    let kept ← b.path path
    match ← Proc.change fun pid s => s.rename pid path kept with
    | .ok () => return .replaced (some kept)
    | .error e =>
      warn ("cannot backup " ++ (← quoted path) ++ ": " ++ plainError e)
      return .stop

/-- The text of a link, seen from where it stands. -/
def linkText (style : LinkStyle) (source path : String) : UtilityM String := do
  if !style.relative then return source
  Proc.ask fun pid s =>
    relativePath (s.canonical pid source) (s.canonical pid (Name.parent path))

/-- Create one link.  `tried` is how an attempt has ended already.  The result are
the links that have been created. -/
def makeLink (style : LinkStyle) (b : Backup) (made : List (String × Nat)) (source path : String)
    (tried : Option (Except IoError Unit)) : UtilityM (List (String × Nat)) := do
  let first ← match tried with
    | some result => pure (some result)
    | none => if style.symbolic && style.relative then pure none else some <$> plainLink style source path
  let done (backup : Option String) (shown : String) : UtilityM (List (String × Nat)) := do
    if style.verbose then
      let kept ← match backup with
        | some k => pure ((← quoted k) ++ " ~ ")
        | none => pure ""
      print (kept ++ (← quoted path) ++ (if style.symbolic then " -> " else " => ") ++
        (← quoted shown) ++ "\n")
    match ← Proc.lstat path with
    | .ok e => return if style.symbolic then made else (path, e.node) :: made
    | .error _ => return made
  match first with
  | some (.ok ()) => done none source
  | _ =>
    if !style.symbolic then
      match ← if style.logical then Proc.stat source else Proc.lstat source with
      | .error e =>
        warn ("failed to access " ++ (← quoted source) ++ ": " ++ plainError e)
        return made
      | .ok e =>
        if e.isDir && !style.dirs then
          warn ((← named source) ++ ": hard link not allowed for directory")
          return made
    let text ← linkText style source path
    match ← clearWay style b made text path with
    | .stop => return made
    | obstacle =>
      let backup := match obstacle with
        | .replaced kept => kept
        | _ => none
      let result ← match obstacle, first with
        | .replaced _, _ => forcedLink style text path
        | _, some result => pure result
        | _, none => plainLink style text path
      match result with
      | .ok () => done backup text
      | .error e =>
        warn (← linkMessage style text path e)
        match backup with
        | some kept =>
          let _ ← Proc.change fun pid s => s.rename pid kept path
        | none => pure ()
        return made

def linkSpec : OptionSpec where
  letters := OptionSpec.ofLetters "bdfFinrsvLPT" "tS"
  names := [("backup", .optional, "b"), ("directory", .none, "d"), ("no-dereference", .none, "n"),
    ("no-target-directory", .none, "T"), ("force", .none, "f"), ("interactive", .none, "i"),
    ("suffix", .required, "S"), ("target-directory", .required, "t"), ("logical", .none, "L"),
    ("physical", .none, "P"), ("relative", .none, "r"), ("symbolic", .none, "s"),
    ("verbose", .none, "v")]

/-- Take note of an option. -/
def linkOption (style : LinkStyle) (key : String) (value : Option String) : UtilityM LinkStyle := do
  match key with
  | "b" =>
    return { style with backup := { style.backup with wanted := true, control := value <|> style.backup.control } }
  | "S" => return { style with backup := { style.backup with wanted := true, suffix := value } }
  | "d" | "F" => return { style with dirs := true }
  | "f" => return { style with force := true, interactive := false }
  | "i" => return { style with force := false, interactive := true }
  | "L" => return { style with logical := true }
  | "P" => return { style with logical := false }
  | "n" => return { style with followTarget := false }
  | "r" => return { style with relative := true }
  | "s" => return { style with symbolic := true }
  | "T" => return { style with noTarget := true }
  | "v" => return { style with verbose := true }
  | "t" =>
    let dir := value.getD ""
    if style.target.isSome then fail "multiple target directories specified"
    match ← Proc.stat dir with
    | .error e => fail ("failed to access " ++ (← quoted dir) ++ ": " ++ plainError e)
    | .ok e =>
      if !e.isDir then fail ("target " ++ (← quoted dir) ++ " is not a directory")
      return { style with target := some dir }
  | _ => return style

/-- The directory that a path leads to can be entered; a link at its end is
followed or not. -/
def entersDir (path : String) (follow : Bool) : UtilityM (Except IoError Unit) :=
  Proc.ask fun pid s =>
    match s.resolve pid path follow with
    | .error e => .error e
    | .ok ⟨_, some (.dir _)⟩ => .ok ()
    | .ok ⟨_, some _⟩ => .error .notDirectory
    | .ok ⟨_, none⟩ => .error .notFound

/-- Create links in a directory. -/
def linkInto (style : LinkStyle) (b : Backup) (dir : String) :
    List String → List (String × Nat) → UtilityM Unit
  | [], _ => pure ()
  | source :: rest, made => do
    let path := Name.under dir (Name.base source)
    let protects := style.force && !style.symbolic && b.kind ≠ .numbered
    let made ← makeLink style b (if protects then made else []) source path none
    linkInto style b dir rest made

/-- Create links. -/
def ln : Utility := fun args => do
  let (style, operands) ← options linkSpec args ({} : LinkStyle) linkOption
  if operands.isEmpty then
    report "missing file operand"
    refuse
  if style.relative && !style.symbolic then fail "cannot do --relative without --symbolic"
  if style.noTarget then
    if style.target.isSome then fail "cannot combine --target-directory and --no-target-directory"
    match operands with
    | [only] =>
      report ("missing destination file operand after " ++ (← quoted only))
      refuse
    | _ :: _ :: extra :: _ =>
      report ("extra operand " ++ (← quoted extra))
      refuse
    | _ => pure ()
  let pair := match operands with
    | [a, b] => if style.target.isSome then none else some (a, b)
    | _ => none
  let tried ← match pair with
    | some (source, path) =>
      if style.noTarget || (style.symbolic && style.relative) then pure none
      else some <$> plainLink style source path
    | none => pure none
  let last := operands.getLastD ""
  let (dir, sources) ←
    if style.noTarget then pure (none, operands)
    else match style.target, operands with
      | some dir, _ => pure (some dir, operands)
      | none, [_] => pure (some ".", operands)
      | none, _ =>
        match tried with
        | some (.ok ()) => pure (none, operands)
        | _ =>
          let blocked := match tried with
            | some (.error e) => e = .alreadyExists || e = .notDirectory || e = .os 22
            | _ => true
          if !blocked then pure (none, operands)
          else match ← entersDir last style.followTarget with
            | .ok () => pure (some last, operands.dropLast)
            | .error e =>
              if pair.isNone then fail ("target " ++ (← quoted last) ++ ": " ++ plainError e)
              pure (none, operands)
  let b ← style.backup.choice
  match dir, sources with
  | some dir, sources => linkInto style b dir sources []
  | none, source :: path :: _ =>
    let _ ← makeLink style b [] source path tried
  | none, _ => pure ()
  outcome

end Utility

end Assay.Sandbox

import Assay.Sandbox.Utility.Names

/-! # Backups

Before a file is replaced it may be kept under another name: the same one with a
suffix, or with a number that grows.
-/

namespace Assay.Sandbox

/-- How backups are named. -/
inductive BackupKind where
  | none
  | simple
  /-- Numbered if there are numbered ones. -/
  | existing
  | numbered
  deriving Repr, DecidableEq

/-- Whether backups are made and how. -/
structure Backup where
  kind : BackupKind := .none
  suffix : String := "~"
  deriving Repr, DecidableEq

/-- What the options say about backups. -/
structure BackupOptions where
  wanted : Bool := false
  control : Option String := none
  suffix : Option String := none

namespace Backup

def kinds : List (String × BackupKind) :=
  [("none", .none), ("off", .none), ("simple", .simple), ("never", .simple), ("existing", .existing),
    ("nil", .existing), ("numbered", .numbered), ("t", .numbered)]

/-- The number in the name of a backup of a file. -/
def number? (base name : String) : Option Nat :=
  let lead := (base ++ ".~").toList
  let cs := name.toList
  if !lead.isPrefixOf cs then none
  else
    let rest := cs.drop lead.length
    let digits := rest.takeWhile Char.isDigit
    if digits.isEmpty || digits.head? == some '0' || rest.drop digits.length != ['~'] then none
    else some (digits.foldl (fun n c => n * 10 + (c.toNat - '0'.toNat)) 0)

/-- The path of the next backup of a file. -/
def path (b : Backup) (file : String) : UtilityM String := do
  let dir := Name.parent file
  let names ← Proc.ask fun pid s => (s.listing pid dir).toOption.getD []
  let last := (names.filterMap (number? (Name.base file))).foldl max 0
  let stem := Octets.withoutSlashes file
  let numbered := stem ++ ".~" ++ toString (last + 1) ++ "~"
  match b.kind with
  | .numbered => return numbered
  | .existing => return if last = 0 then stem ++ b.suffix else numbered
  | _ => return stem ++ b.suffix

end Backup

namespace BackupOptions

/-- What is done about backups, from the options and the environment. -/
def choice (o : BackupOptions) : UtilityM Backup := do
  let s ← get
  let kind ←
    if !o.wanted then pure .none
    else match o.control.filter (!·.isEmpty) with
      | some text => UtilityM.choose "backup type" Backup.kinds text
      | none =>
        match (s.setting "VERSION_CONTROL").filter (!·.isEmpty) with
        | some text => UtilityM.choose "$VERSION_CONTROL" Backup.kinds text
        | none => pure .existing
  let suffix := (o.suffix <|> s.setting "SIMPLE_BACKUP_SUFFIX").filter fun t =>
    !t.isEmpty && !t.toList.contains '/'
  return { kind, suffix := suffix.getD "~" }

end BackupOptions

end Assay.Sandbox

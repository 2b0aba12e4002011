import Assay.Text.Utf8

/-! # Paths as written

A path is a byte string, and so are the names it goes through: the host gives
bytes no meaning but for the slash, which stands between names, and the zero
byte, which stands in none.  A path need not be the encoding of any text.
`utf8` leads from a text to the path that is written so, and `shown` from a path
to the text that a reader, or a program that is handed texts, gets to see.

Joining puts a slash between two parts where one is missing and normalises
nothing, so a path is shown as it was given.  `steps` reads a path as the names
it goes through.
-/

namespace Assay

open Text (Bytes utf8)

/-- A path, or a name on one. -/
abbrev Path := Bytes

namespace Path

/-- The byte between two names. -/
def slash : UInt8 := 0x2F

/-- The byte before a suffix. -/
def dot : UInt8 := 0x2E

/-- The name that a directory has for itself. -/
def self : Path := [dot]

/-- The name that a directory has for the one above. -/
def above : Path := [dot, dot]

/-- The text of a path.  Bytes that are not the encoding of any text are
replaced, so that different paths may be shown alike. -/
def shown (path : Path) : String := Text.lossy path

/-- The parts of a path between slashes. -/
def parts (path : Path) : List Path := path.splitOn slash

def isAbsolute (path : Path) : Bool := path.head? == some slash

def endsWithSlash (path : Path) : Bool := path.getLast? == some slash

/-- The names a path goes through.  Repeated slashes count once, and a path that
ends with a slash goes on into what it names. -/
def steps (path : Path) : List Path :=
  let names := (parts path).filter fun p => !p.isEmpty
  if endsWithSlash path && !names.isEmpty then names ++ [self] else names

/-- The path without the slashes at its end; a path of slashes only is the
root. -/
def withoutSlashes (path : Path) : Path :=
  let stem := (path.reverse.dropWhile (· == slash)).reverse
  if stem.isEmpty && isAbsolute path then [slash] else stem

/-- `dir` and a name in it: a slash is put between them unless `dir` is empty or
ends with one. -/
def join (dir name : Path) : Path :=
  if dir.isEmpty || endsWithSlash dir then dir ++ name else dir ++ slash :: name

/-- A path with a suffix behind a dot. -/
def suffixed (path : Path) (suffix : String) : Path := path ++ dot :: utf8 suffix

/-- The extension of a file name: what follows its last dot, if something stands
before that dot. -/
def extension? (name : Path) : Option Path :=
  let tail := name.reverse.takeWhile (· != dot)
  let rest := name.reverse.dropWhile (· != dot)
  match rest with
  | [] => none
  | _ :: stem => if stem.isEmpty || name == above then none else some tail.reverse

/-- The order of paths by their bytes: the first that differs decides, and a
beginning comes before the whole. -/
def le : Path → Path → Bool
  | [], _ => true
  | _ :: _, [] => false
  | a :: as, b :: bs => if a = b then le as bs else a.toNat < b.toNat

end Path

end Assay

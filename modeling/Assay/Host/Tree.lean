import Assay.Host.Path

/-! # File trees

A tree maps locations to entries.  A location is the list of names on the way
down from the root, so a directory holds no list of its own: its children are
the entries one name further down.  No location has two entries.

Entries with the same node number are names of one file: whoever writes to the
file changes them all.

The operations are stated on locations alone; how a path that a program writes
is led to a location is the subject of `Assay.Host.Resolve`.  An entry has
permissions, but nobody is refused for want of them: whoever works on a tree owns
all of it.
-/

namespace Assay

/-- A place in a file tree: the names on the way down from the root. -/
abbrev Location := List Path

/-- A moment: seconds from the start of 1970 on, and the nanoseconds after
them. -/
structure Moment where
  seconds : Int
  nanos : Nat
  deriving Repr, DecidableEq

namespace Moment

/-- The first moment comes before the second. -/
def before (a b : Moment) : Bool :=
  a.seconds < b.seconds || (a.seconds = b.seconds && a.nanos < b.nanos)

/-- The moment at which the sandbox is set up. -/
def present : Moment := ⟨1735689600, 0⟩

end Moment

/-- What is known of an entry besides its contents. -/
structure Attributes where
  /-- The permissions. -/
  mode : Nat
  /-- When the contents were last changed. -/
  modified : Moment
  /-- The number of the node. -/
  node : Nat
  deriving Repr, DecidableEq

namespace Attributes

/-- Someone may run the file. -/
def executable (a : Attributes) : Bool := a.mode &&& 0o111 != 0

end Attributes

/-- A file behind which stands something else than stored bytes. -/
inductive Device where
  /-- Nothing to read, and all that is written is lost. -/
  | null
  /-- Zero bytes without end. -/
  | zero
  /-- Zero bytes without end, and no room to write. -/
  | full
  /-- What a descriptor of the process leads to. -/
  | descriptor (n : Nat)
  deriving Repr, DecidableEq

/-- What can stand at a location. -/
inductive Entry where
  | file (data : List UInt8) (attributes : Attributes)
  | dir (attributes : Attributes)
  | link (target : Path) (attributes : Attributes)
  | special (device : Device) (attributes : Attributes)
  deriving Repr, DecidableEq

namespace Entry

def isFile : Entry → Bool
  | .file .. => true
  | _ => false

def isDir : Entry → Bool
  | .dir _ => true
  | _ => false

def isLink : Entry → Bool
  | .link .. => true
  | _ => false

def attributes : Entry → Attributes
  | .file _ a | .dir a | .link _ a | .special _ a => a

def withAttributes (a : Attributes) : Entry → Entry
  | .file data _ => .file data a
  | .dir _ => .dir a
  | .link target _ => .link target a
  | .special device _ => .special device a

/-- The number of the node. -/
def node (e : Entry) : Nat := e.attributes.node

/-- The stored bytes. -/
def data : Entry → List UInt8
  | .file data _ => data
  | _ => []

end Entry

/-- A file tree: entries by location, at most one for each. -/
structure Tree where
  entries : List (Location × Entry)
  nodup : (entries.map Prod.fst).Nodup

namespace Tree

instance : DecidableEq Tree := fun s t =>
  if h : s.entries = t.entries then .isTrue (by cases s; cases t; simp_all)
  else .isFalse fun e => h (e ▸ rfl)

/-- The tree with nothing in it but the root. -/
def empty : Tree := ⟨[], List.Pairwise.nil⟩

/-- The root is always a directory. -/
def root : Entry := .dir ⟨0o755, .present, 0⟩

/-- What stands at a location. -/
def get? (t : Tree) (loc : Location) : Option Entry :=
  if loc = [] then some root else t.entries.lookup loc

/-- Put `e` at `loc`: in place of what is there, or as a new last entry. -/
def insertEntry (loc : Location) (e : Entry) :
    List (Location × Entry) → List (Location × Entry)
  | [] => [(loc, e)]
  | x :: xs => if x.1 = loc then (loc, e) :: xs else x :: insertEntry loc e xs

theorem map_fst_insertEntry (loc : Location) (e : Entry) (xs : List (Location × Entry)) :
    (insertEntry loc e xs).map Prod.fst =
      if loc ∈ xs.map Prod.fst then xs.map Prod.fst else xs.map Prod.fst ++ [loc] := by
  induction xs with
  | nil => simp [insertEntry]
  | cons x xs ih =>
    by_cases h : x.1 = loc
    · simp [insertEntry, h]
    · have h' : loc ≠ x.1 := fun e => h e.symm
      simp only [insertEntry, h, if_false, List.map_cons, ih, List.mem_cons, h', false_or]
      split <;> simp

/-- The tree with `e` at `loc`. -/
def insert (t : Tree) (loc : Location) (e : Entry) : Tree where
  entries := insertEntry loc e t.entries
  nodup := by
    rw [map_fst_insertEntry]
    split
    · exact t.nodup
    · next h =>
      rw [List.nodup_append]
      refine ⟨t.nodup, by simp, ?_⟩
      intro a ha b hb
      simp only [List.mem_singleton] at hb
      subst hb
      exact fun e => h (e ▸ ha)

/-- The tree without an entry at `loc`. -/
def erase (t : Tree) (loc : Location) : Tree where
  entries := t.entries.filter fun x => x.1 ≠ loc
  nodup := by
    have h := t.nodup
    rw [List.Nodup, List.pairwise_map] at h ⊢
    exact h.filter _

/-- The tree with `f` applied to every entry. -/
def mapEntries (t : Tree) (f : Entry → Entry) : Tree where
  entries := t.entries.map fun x => (x.1, f x.2)
  nodup := by
    have h : (t.entries.map fun x => (x.1, f x.2)).map Prod.fst = t.entries.map Prod.fst := by
      rw [List.map_map]
      rfl
    rw [h]
    exact t.nodup

/-- The tree with `f` applied to the entries of a node. -/
def mapNode (t : Tree) (node : Nat) (f : Entry → Entry) : Tree :=
  t.mapEntries fun e => if e.node = node then f e else e

/-- An entry of a node. -/
def ofNode? (t : Tree) (node : Nat) : Option Entry :=
  (t.entries.find? fun x => x.2.node = node).map Prod.snd

/-- How many names a node has. -/
def linkCount (t : Tree) (node : Nat) : Nat :=
  (t.entries.filter fun x => x.2.node = node).length

/-- A node number that no entry has. -/
def freshNode (t : Tree) : Nat := t.entries.foldl (fun n x => max n x.2.node) 0 + 1

/-- The name of a location that is directly below `loc`. -/
def nameBelow? (loc child : Location) : Option Path :=
  match child.getLast? with
  | some name => if child.dropLast = loc then some name else none
  | none => none

/-- The names directly inside the directory at `loc`, in the order of entry. -/
def names (t : Tree) (loc : Location) : List Path :=
  t.entries.filterMap fun x => nameBelow? loc x.1

/-- Everything strictly below `loc`, by the names on the way down from there. -/
def below (t : Tree) (loc : Location) : List (Location × Entry) :=
  t.entries.filterMap fun x =>
    if loc.isPrefixOf x.1 && loc.length < x.1.length then some (x.1.drop loc.length, x.2)
    else none

end Tree

end Assay

/-! # Similar words

How alike two words are: characters count as shared if they are equal and not far
apart, and shared characters out of order count half.  The likeness is the mean
of three ratios, kept here as an exact fraction.
-/

namespace Assay.Text

/-- A fraction. -/
structure Likeness where
  numerator : Nat
  denominator : Nat
  deriving Repr, DecidableEq

namespace Likeness

/-- The first fraction is at most the second one; denominators are positive. -/
def le (p q : Likeness) : Bool := p.numerator * q.denominator ≤ q.numerator * p.denominator

/-- Words this much alike are taken for each other. -/
def isClose (p : Likeness) : Bool := 7 * p.denominator < 10 * p.numerator

end Likeness

/-- The place of the first free `c` among `word`, whose first character has the
place `j`, at the places from `low` to below `high`. -/
def sharedPlace (c : Char) (low high : Nat) (taken : List Nat) : Nat → List Char → Option Nat
  | _, [] => none
  | j, d :: rest =>
    if high ≤ j then none
    else if low ≤ j && d = c && !taken.contains j then some j
    else sharedPlace c low high taken (j + 1) rest

/-- The places of the characters that `word`, from place `i` on, shares with
`other`: pairs of its character and the place in `other`. -/
def sharedPlaces (range : Nat) (other : List Char) (taken : List Nat) :
    Nat → List Char → List (Char × Nat)
  | _, [] => []
  | i, c :: rest =>
    match sharedPlace c (i - range) (i + range + 1) taken 0 other with
    | some j => (c, j) :: sharedPlaces range other (j :: taken) (i + 1) rest
    | none => sharedPlaces range other taken (i + 1) rest

/-- How alike two words are. -/
def likeness (a b : String) : Likeness :=
  let word := a.toList
  let other := b.toList
  if word.isEmpty && other.isEmpty then ⟨1, 1⟩
  else
    let shared := sharedPlaces (max word.length other.length / 2 - 1) other [] 0 word
    let places := shared.map (·.2)
    let inOrder := ((List.range other.length).zip other).filter fun p => places.contains p.1
    let moved := ((shared.zip inOrder).filter fun p => p.1.1 != p.2.2).length / 2
    let m := shared.length
    if m = 0 then ⟨0, 1⟩
    else
      let n := word.length
      let k := other.length
      ⟨m * k * m + m * n * m + (m - moved) * n * k, 3 * n * k * m⟩

/-- The word among `candidates` closest to `word`, the last one of several, if
any is close. -/
def closest? (word : String) (candidates : List String) : Option String :=
  let scored := (candidates.map fun c => (likeness word c, c)).filter (·.1.isClose)
  (scored.foldl (fun (best : Option (Likeness × String)) next =>
    match best with
    | some b => if b.1.le next.1 then some next else some b
    | none => some next) none).map (·.2)

end Assay.Text

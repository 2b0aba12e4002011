/-! # The difference of two sequences

Two sequences are compared by the shortest way from one to the other that
deletes and inserts elements.  The way is found by searching from both ends until
the two searches meet, and then on either side of the meeting point.

Before that, elements that the other sequence does not have are set aside, and
with them elements among them that the other sequence has too often to be of
help.  In the end each run of changes is moved towards the end as far as the
elements allow, unless it can be made to stand beside a run of changes in the
other sequence.

Elements are given by numbers: the same number means the same element.
`changes` is the result: the places where the sequences differ, in order.
-/

namespace Assay.Sandbox.Difference

/-! ## Where the two searches meet -/

/-- The part of the two sequences that is compared: from `x₀` to `x₁` in the
first and from `y₀` to `y₁` in the second. -/
structure Region where
  x₀ : Int
  x₁ : Int
  y₀ : Int
  y₁ : Int

def Region.size (r : Region) : Nat := (r.x₁ - r.x₀ + (r.y₁ - r.y₀)).toNat

/-- How far the search from one end has come on each diagonal, from the lowest
diagonal to the highest; diagonals are counted from `origin` on. -/
structure Front where
  low : Int
  high : Int
  origin : Int
  reach : Array Int

namespace Front

/-- How far the search has come on a diagonal. -/
def get (f : Front) (diagonal : Int) : Int := f.reach.getD (diagonal - f.origin).toNat 0

def set (f : Front) (diagonal x : Int) : Front :=
  { f with reach := f.reach.setIfInBounds (diagonal - f.origin).toNat x }

/-- Let the front grow by one diagonal on either side, within `least` and
`greatest`; `beyond` stands for a diagonal that has not been reached. -/
def widen (f : Front) (least greatest beyond : Int) : Front :=
  let f := if least < f.low then { f.set (f.low - 2) beyond with low := f.low - 1 }
    else { f with low := f.low + 1 }
  if f.high < greatest then { f.set (f.high + 2) beyond with high := f.high + 1 }
  else { f with high := f.high - 1 }

/-- Every second diagonal from the highest down. -/
def diagonals (f : Front) : List Int :=
  if f.high < f.low then []
  else (List.range ((f.high - f.low) / 2 + 1).toNat).map fun (k : Nat) => f.high - 2 * (k : Int)

end Front

section Search

variable (same : Int → Int → Bool)

/-- Go forward along a diagonal while the elements are the same. -/
def slideForward (r : Region) : (fuel : Nat) → Int → Int → Int
  | 0, x, _ => x
  | fuel + 1, x, y =>
    if x < r.x₁ && y < r.y₁ && same x y then slideForward r fuel (x + 1) (y + 1) else x

/-- Go back along a diagonal while the elements are the same. -/
def slideBack (r : Region) : (fuel : Nat) → Int → Int → Int
  | 0, x, _ => x
  | fuel + 1, x, y =>
    if r.x₀ < x && r.y₀ < y && same (x - 1) (y - 1) then slideBack r fuel (x - 1) (y - 1) else x

/-- One step forward on each of the diagonals; it ends where `meets` holds. -/
def advanceForward (r : Region) (meets : Int → Int → Bool) :
    List Int → Front → Front × Option (Int × Int)
  | [], f => (f, none)
  | d :: ds, f =>
    let lo := f.get (d - 1)
    let hi := f.get (d + 1)
    let start := if lo < hi then hi else lo + 1
    let x := slideForward same r r.size start (start - d)
    let f := f.set d x
    if meets d x then (f, some (x, x - d)) else advanceForward r meets ds f

/-- One step back on each of the diagonals; it ends where `meets` holds. -/
def advanceBack (r : Region) (meets : Int → Int → Bool) :
    List Int → Front → Front × Option (Int × Int)
  | [], f => (f, none)
  | d :: ds, f =>
    let lo := f.get (d - 1)
    let hi := f.get (d + 1)
    let start := if lo < hi then lo else hi - 1
    let x := slideBack same r r.size start (start - d)
    let f := f.set d x
    if meets d x then (f, some (x, x - d)) else advanceBack r meets ds f

/-- Let the two fronts approach each other until they meet. -/
def meeting (r : Region) (odd : Bool) : (fuel : Nat) → Front → Front → Int × Int
  | 0, _, _ => (r.x₀, r.y₀)
  | fuel + 1, forward, back =>
    let least := r.x₀ - r.y₁
    let greatest := r.x₁ - r.y₀
    let forward := forward.widen least greatest (-1)
    let meets (d x : Int) : Bool := odd && back.low ≤ d && d ≤ back.high && back.get d ≤ x
    match advanceForward same r meets forward.diagonals forward with
    | (_, some point) => point
    | (forward, none) =>
      let back := back.widen least greatest (r.x₁ + r.y₁ + 1)
      let meets (d x : Int) : Bool :=
        !odd && forward.low ≤ d && d ≤ forward.high && x ≤ forward.get d
      match advanceBack same r meets back.diagonals back with
      | (_, some point) => point
      | (back, none) => meeting r odd fuel forward back

/-- A point on a shortest way through a region. -/
def middle (r : Region) : Int × Int :=
  let first := r.x₀ - r.y₀
  let last := r.x₁ - r.y₁
  let origin := r.x₀ - r.y₁ - 2
  let reach := Array.replicate (r.size + 5) (0 : Int)
  let front (d x : Int) : Front := Front.set ⟨d, d, origin, reach⟩ d x
  meeting same r ((first - last) % 2 ≠ 0) (r.size + 1) (front first r.x₀) (front last r.x₁)

/-- The numbers from `a` up to `b`. -/
def span (a b : Int) : List Nat := (List.range (b - a).toNat).map fun k => a.toNat + k

/-- The elements to delete and the elements to insert in a region. -/
def edits : (fuel : Nat) → Region → List Nat × List Nat
  | 0, r => (span r.x₀ r.x₁, span r.y₀ r.y₁)
  | fuel + 1, r =>
    let x := slideForward same r r.size r.x₀ r.y₀
    let r := { r with x₀ := x, y₀ := r.y₀ + (x - r.x₀) }
    let x := slideBack same r r.size r.x₁ r.y₁
    let r := { r with x₁ := x, y₁ := r.y₁ - (r.x₁ - x) }
    if r.x₀ = r.x₁ then ([], span r.y₀ r.y₁)
    else if r.y₀ = r.y₁ then (span r.x₀ r.x₁, [])
    else
      let (x, y) := middle same r
      let (deleted, inserted) := edits fuel { r with x₁ := x, y₁ := y }
      let (deleted', inserted') := edits fuel { r with x₀ := x, y₀ := y }
      (deleted ++ deleted', inserted ++ inserted')

end Search

/-! ## Elements that are set aside -/

/-- What is thought of an element. -/
inductive Worth where
  | kept
  /-- The other sequence does not have it. -/
  | lost
  /-- The other sequence has it too often. -/
  | common
  deriving Repr, DecidableEq

/-- The number doubled once for each time that `n` can be divided by four. -/
def scaled (start : Nat) : (fuel : Nat) → (n : Nat) → Nat
  | 0, _ => start
  | fuel + 1, n => if 0 < n / 4 then scaled (start * 2) fuel (n / 4) else start

/-- How often each number occurs. -/
def tally (size : Nat) (xs : Array Nat) : Array Nat :=
  xs.foldl (fun counts x => counts.modify x (· + 1)) (Array.replicate size 0)

/-- What is thought of each element at first sight; `counts` tells how often the
other sequence has it. -/
def appraise (counts : Array Nat) (xs : Array Nat) : Array Worth :=
  let many := scaled 5 64 (xs.size / 64)
  xs.map fun x =>
    let n := counts.getD x 0
    if n = 0 then .lost else if many < n then .common else .kept

/-- Keep the common elements in runs of so many of them, in a run of elements that
are set aside. -/
def keepRuns (least : Nat) (run : List Worth) : List Worth :=
  run.zipIdx.map fun (w, i) =>
    if w ≠ .common then w
    else
      let before := ((run.take i).reverse.takeWhile (· = .common)).length
      let after := ((run.drop i).takeWhile (· = .common)).length
      if least ≤ before + after then .kept else w

/-- Keep the common elements at the start of a run, until three elements that are
lost follow each other or one comes after eight. -/
def keepStart : (index consecutive : Nat) → List Worth → List Worth
  | _, _, [] => []
  | index, consecutive, w :: rest =>
    if 8 ≤ index && w = .lost then w :: rest
    else match w with
      | .common => .kept :: keepStart (index + 1) 0 rest
      | .kept => .kept :: keepStart (index + 1) 0 rest
      | .lost => if consecutive = 2 then .lost :: rest else .lost :: keepStart (index + 1) (consecutive + 1) rest

/-- What is thought of a run of elements to be set aside, the first and the last
of which are lost. -/
def reviseRun (run : List Worth) : List Worth :=
  let length := run.length
  let commons := (run.filter (· = .common)).length
  let spared := run.map fun w => if w = .common then Worth.kept else w
  if length < commons * 4 then spared
  else
    let least := scaled 1 64 (length / 4) + 1
    let run := keepRuns least run
    let run := keepStart 0 0 run
    (keepStart 0 0 run.reverse).reverse

/-- Common elements are only set aside between ones that are lost. -/
def reviseFrom : (fuel : Nat) → List Worth → List Worth
  | 0, ws => ws
  | _, [] => []
  | fuel + 1, w :: rest =>
    match w with
    | .kept | .common => .kept :: reviseFrom fuel rest
    | .lost =>
      let whole := (w :: rest).takeWhile (· ≠ .kept)
      let run := (whole.reverse.dropWhile (· = .common)).reverse
      let tail := List.replicate (whole.length - run.length) Worth.kept
      reviseRun run ++ tail ++ reviseFrom fuel ((w :: rest).drop whole.length)

/-- What is thought of each element in the end. -/
def revise (ws : Array Worth) : Array Worth := (reviseFrom (ws.size + 1) ws.toList).toArray

/-! ## Where runs of changes stand -/

/-- Which elements of a sequence are changed. -/
abbrev Marks := Array Bool

namespace Marks

def at_ (m : Marks) (i : Nat) : Bool := m.getD i false

def put (m : Marks) (i : Nat) (b : Bool) : Marks := m.setIfInBounds i b

/-- The first unmarked element from `i` on. -/
def skip (m : Marks) : (fuel : Nat) → Nat → Nat
  | 0, i => i
  | fuel + 1, i => if m.at_ i then m.skip fuel (i + 1) else i

/-- The start of the marked run that ends before `i`. -/
def runStart (m : Marks) : Nat → Nat
  | 0 => 0
  | i + 1 => if m.at_ i then m.runStart i else i + 1

/-- The last unmarked element before `i`. -/
def previous (m : Marks) : Nat → Nat
  | 0 => 0
  | i + 1 => if m.at_ i then m.previous i else i

end Marks

/-- A run of changed elements, `start` to `stop`, and the element of the other
sequence that it stands before. -/
structure Run where
  marks : Marks
  start : Nat
  stop : Nat
  other : Nat

section Shift

variable (xs : Array Nat) (others : Marks)

/-- Move a run towards the start as far as the elements allow, joining runs it
meets. -/
def moveBack : (fuel : Nat) → Run → Run
  | 0, r => r
  | fuel + 1, r =>
    if 0 < r.start && xs[r.start - 1]? == xs[r.stop - 1]? then
      let marks := (r.marks.put (r.start - 1) true).put (r.stop - 1) false
      moveBack fuel
        ⟨marks, marks.runStart (r.start - 1), r.stop - 1, others.previous r.other⟩
    else r

/-- Move a run towards the end as far as the elements allow, joining runs it meets.
`beside` is the last end at which the run stood beside changes of the other
sequence. -/
def moveForward : (fuel : Nat) → Run → (beside : Nat) → Run × Nat
  | 0, r, beside => (r, beside)
  | fuel + 1, r, beside =>
    if r.stop < xs.size && xs[r.start]? == xs[r.stop]? then
      let marks := (r.marks.put r.start false).put r.stop true
      let stop := marks.skip xs.size (r.stop + 1)
      let other := others.skip others.size (r.other + 1)
      moveForward fuel ⟨marks, r.start + 1, stop, other⟩
        (if r.other + 1 < other then stop else beside)
    else (r, beside)

/-- Move a run back to where it stood beside changes of the other sequence. -/
def moveBeside (beside : Nat) : (fuel : Nat) → Run → Run
  | 0, r => r
  | fuel + 1, r =>
    if beside < r.stop then
      moveBeside beside fuel
        ⟨(r.marks.put (r.start - 1) true).put (r.stop - 1) false, r.start - 1, r.stop - 1,
          others.previous r.other⟩
    else r

/-- Move a run back and forth until it grows no more. -/
def settle : (fuel : Nat) → Run → Run
  | 0, r => r
  | fuel + 1, r =>
    let length := r.stop - r.start
    let bound := xs.size + 1
    let r := moveBack xs others bound r
    let beside := if 0 < r.other && others.at_ (r.other - 1) then r.stop else xs.size
    let (r, beside) := moveForward xs others bound r beside
    if r.stop - r.start = length then moveBeside others beside bound r
    else settle fuel r

/-- Move every run of a sequence, from element `i` on, which stands before element
`other` of the other sequence. -/
def shiftRuns : (fuel : Nat) → Marks → (i other : Nat) → Marks
  | 0, marks, _, _ => marks
  | fuel + 1, marks, i, other =>
    if xs.size ≤ i then marks
    else if marks.at_ i then
      let run : Run :=
        ⟨marks, i, marks.skip xs.size (i + 1), others.skip others.size other⟩
      let run := settle xs others (xs.size + 1) run
      shiftRuns fuel run.marks run.stop run.other
    else shiftRuns fuel marks (i + 1) (others.skip others.size other + 1)

end Shift

/-! ## Changes -/

/-- A place where the sequences differ: `deleted` elements of the first one from
`old` on give way to `inserted` elements of the second one from `new` on. -/
structure Change where
  old : Nat
  deleted : Nat
  new : Nat
  inserted : Nat
  deriving Repr, DecidableEq

/-- Gather marked elements into changes, from element `i` of the first sequence and
element `j` of the second on. -/
def gather (sizes : Nat × Nat) (deleted inserted : Marks) : (fuel : Nat) → (i j : Nat) → List Change
  | 0, _, _ => []
  | fuel + 1, i, j =>
    let i' := deleted.skip sizes.1 i
    let j' := inserted.skip sizes.2 j
    if i < i' || j < j' then
      ⟨i, i' - i, j, j' - j⟩ :: gather sizes deleted inserted fuel i' j'
    else if sizes.1 ≤ i && sizes.2 ≤ j then []
    else gather sizes deleted inserted fuel (i + 1) (j + 1)

/-- The marks of the elements with the given numbers. -/
def markAll (size : Nat) (numbers : List Nat) : Marks :=
  numbers.foldl (fun m i => m.put i true) (Array.replicate size false)

/-- Where two sequences differ.  When the way has to be the shortest one, nothing
is set aside.  All elements are less than `bound`. -/
def changes (shortest : Bool) (bound : Nat) (xs ys : Array Nat) : List Change :=
  let worth (xs ys : Array Nat) : Array Worth :=
    if shortest then xs.map fun _ => .kept else revise (appraise (tally bound ys) xs)
  let wx := worth xs ys
  let wy := worth ys xs
  let indices (ws : Array Worth) (f : Worth → Bool) : List Nat :=
    (List.range ws.size).filter fun i => f (ws.getD i .kept)
  let kx := (indices wx (· = .kept)).toArray
  let ky := (indices wy (· = .kept)).toArray
  let same (i j : Int) : Bool := xs.getD (kx.getD i.toNat 0) 0 == ys.getD (ky.getD j.toNat 0) 0
  let (deleted, inserted) := edits same (kx.size + ky.size + 1) ⟨0, kx.size, 0, ky.size⟩
  let marksX := markAll xs.size (indices wx (· ≠ .kept) ++ deleted.filterMap (kx[·]?))
  let marksY := markAll ys.size (indices wy (· ≠ .kept) ++ inserted.filterMap (ky[·]?))
  let fuel := xs.size + ys.size + 1
  let marksX := shiftRuns xs marksY fuel marksX 0 0
  let marksY := shiftRuns ys marksX fuel marksY 0 0
  gather (xs.size, ys.size) marksX marksY (fuel + fuel) 0 0

end Assay.Sandbox.Difference

/-! # The order of versions

Names are compared part by part: parts without digits by their characters, parts
of digits by their numbers, so that `a2` comes before `a10`.
-/

namespace Assay.Sandbox.VersionOrder

/-- The rank of the character at the start of a text: a tilde comes before the
end, letters before other signs. -/
def rank (cs : List Char) : Int :=
  match cs with
  | [] => -1
  | c :: _ =>
    if c.isDigit then 0 else if c.isAlpha then c.toNat else if c == '~' then -2 else c.toNat + 256

/-- Compare what comes before digits; what is left of both texts if it is the
same. -/
def compareSigns : (fuel : Nat) → List Char → List Char → Int × List Char × List Char
  | 0, a, b => (0, a, b)
  | fuel + 1, a, b =>
    let isSign (cs : List Char) : Bool := cs.head?.any fun c => !c.isDigit
    if isSign a || isSign b then
      if rank a ≠ rank b then (rank a - rank b, a, b) else compareSigns fuel a.tail b.tail
    else (0, a, b)

/-- Compare digits; the first difference counts if there are as many. -/
def compareDigits : List Char → List Char → (difference : Int) → Int × List Char × List Char
  | a, b, d =>
    let x := a.takeWhile Char.isDigit
    let y := b.takeWhile Char.isDigit
    let rest := (a.drop x.length, b.drop y.length)
    if x.length ≠ y.length then (if x.length < y.length then -1 else 1, rest)
    else
      let first := (x.zip y).find? fun (p, q) => p ≠ q
      match first with
      | some (p, q) => ((p.toNat : Int) - q.toNat + d, rest)
      | none => (d, rest)

/-- Compare two texts as versions: below zero if the first one comes before. -/
def compareParts : (fuel : Nat) → List Char → List Char → Int
  | 0, _, _ => 0
  | fuel + 1, a, b =>
    if a.isEmpty && b.isEmpty then 0
    else
      let (d, a, b) := compareSigns (a.length + b.length + 1) a b
      if d ≠ 0 then d
      else
        let (d, a, b) := compareDigits (a.dropWhile (· == '0')) (b.dropWhile (· == '0')) 0
        if d ≠ 0 then d else compareParts fuel a b

/-- The text is an ending such as `.tar`. -/
def isEnding (cs : List Char) : Bool :=
  match cs with
  | '.' :: c :: rest => (c.isAlpha || c == '~') && rest.all fun c => c.isAlphanum || c == '~'
  | _ => false

/-- A name without the endings it has. -/
def stem : (fuel : Nat) → List Char → List Char
  | 0, cs => cs
  | fuel + 1, cs =>
    let tail := (cs.reverse.takeWhile (· != '.')).reverse
    let before := cs.take (cs.length - tail.length - 1)
    if tail.length < cs.length && isEnding ('.' :: tail) && !before.isEmpty then stem fuel before else cs

/-- Compare two names: below zero if the first one comes before. -/
def compare (a b : String) : Int :=
  let x := a.toList
  let y := b.toList
  let number (b : Bool) : Int := if b then 1 else 0
  if x.isEmpty then -(number !y.isEmpty)
  else if y.isEmpty then 1
  else
    let hidden (cs : List Char) : Bool := cs.head? == some '.'
    let special := [".", ".."].findSome? fun d =>
      if a = d then some (-(number (b ≠ d))) else if b = d then some 1 else none
    if hidden x && !hidden y then -1
    else if hidden y && !hidden x then 1
    else match if hidden x then special else none with
      | some d => d
      | none =>
        let x' := stem x.length x
        let y' := stem y.length y
        let d := compareParts (x.length + y.length + 1) x' y'
        if d ≠ 0 || (x' = x && y' = y) then d else compareParts (x.length + y.length + 1) x y

end Assay.Sandbox.VersionOrder

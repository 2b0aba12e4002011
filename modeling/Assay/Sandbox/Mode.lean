/-! # Permissions

Permissions are twelve bits: three that are special, then three each for the
owner, the group and the others.  They are written as an octal number or as
changes such as `u+x,go-w`.
-/

namespace Assay.Sandbox.Mode

/-- All bits. -/
def all : Nat := 0o7777

/-- The bits of a change that are not among others. -/
def without (mode bits : Nat) : Nat := mode &&& (all ^^^ (bits &&& all))

/-- What a change stands for. -/
inductive Source where
  /-- Bits as they are written. -/
  | bits
  /-- The bits that someone has already. -/
  | copied
  /-- Running too, if that makes sense. -/
  | running
  deriving Repr, DecidableEq

/-- A change of permissions. -/
structure Change where
  /-- How the bits are changed: `=`, `+` or `-`. -/
  sign : Char
  source : Source
  /-- The bits that can be changed; none of them means all but masked ones. -/
  affected : Nat
  value : Nat
  /-- The bits that are spoken of. -/
  mentioned : Nat
  deriving Repr, DecidableEq

/-- The bits of the people before a sign, and the rest from the sign on. -/
def people : List Char → Nat → Option (Nat × List Char)
  | 'u' :: cs, n => people cs (n ||| 0o4700)
  | 'g' :: cs, n => people cs (n ||| 0o2070)
  | 'o' :: cs, n => people cs (n ||| 0o1007)
  | 'a' :: cs, n => people cs (n ||| all)
  | c :: cs, n => if c == '=' || c == '+' || c == '-' then some (n, c :: cs) else none
  | [], _ => none

/-- The bits of letters for permissions; whether running depends. -/
def letters : List Char → Nat → Bool → Nat × Bool × List Char
  | 'r' :: cs, n, x => letters cs (n ||| 0o444) x
  | 'w' :: cs, n, x => letters cs (n ||| 0o222) x
  | 'x' :: cs, n, x => letters cs (n ||| 0o111) x
  | 'X' :: cs, n, _ => letters cs n true
  | 's' :: cs, n, x => letters cs (n ||| 0o6000) x
  | 't' :: cs, n, x => letters cs (n ||| 0o1000) x
  | cs, n, x => (n, x, cs)

/-- An octal digit. -/
def isOctal (c : Char) : Bool := '0' ≤ c && c < '8'

/-- The number of octal digits, unless it is too large. -/
def octal? (digits : List Char) : Option Nat :=
  let n := digits.foldl (fun n c => n * 8 + (c.toNat - '0'.toNat)) 0
  if n ≤ all then some n else none

/-- One sign and what follows it, for people with the given bits. -/
def change? (who : Nat) (sign : Char) (cs : List Char) : Option (Change × List Char) :=
  let mentioned (value : Nat) : Nat := if who = 0 then value else who &&& value
  let copied (bits : Nat) (rest : List Char) : Option (Change × List Char) :=
    some (⟨sign, .copied, who, bits, mentioned bits⟩, rest)
  match cs with
  | 'u' :: rest => copied 0o700 rest
  | 'g' :: rest => copied 0o070 rest
  | 'o' :: rest => copied 0o007 rest
  | cs =>
    let digits := cs.takeWhile isOctal
    if digits.isEmpty then
      let (value, running, rest) := letters cs 0 false
      some (⟨sign, if running then .running else .bits, who, value, mentioned value⟩, rest)
    else
      let rest := cs.drop digits.length
      match octal? digits with
      | none => none
      | some n =>
        if who ≠ 0 || !(rest.isEmpty || rest.head? == some ',') then none
        else some (⟨sign, .bits, all, n, all⟩, rest)

/-- Changes for the same people, one after the other. -/
def changesFor (who : Nat) : (fuel : Nat) → List Char → List Change → Option (List Change × List Char)
  | 0, _, _ => none
  | fuel + 1, cs, sofar =>
    match cs with
    | c :: rest =>
      if c == '=' || c == '+' || c == '-' then
        match change? who c rest with
        | none => none
        | some (change, rest) => changesFor who fuel rest (sofar ++ [change])
      else some (sofar, cs)
    | [] => some (sofar, [])

/-- Changes between commas. -/
def changes? : (fuel : Nat) → List Char → List Change → Option (List Change)
  | 0, _, _ => none
  | fuel + 1, cs, sofar =>
    match people cs 0 with
    | none => none
    | some (who, cs) =>
      match changesFor who (cs.length + 1) cs sofar with
      | none => none
      | some (sofar, []) => some sofar
      | some (sofar, ',' :: rest) => changes? fuel rest sofar
      | some _ => none

/-- The changes that a text stands for. -/
def parse? (text : String) : Option (List Change) :=
  let cs := text.toList
  if (cs.head?.any isOctal) then
    if !cs.all isOctal then none
    else match octal? cs with
      | none => none
      | some n =>
        let mentioned := if cs.length < 5 then (n &&& 0o6000) ||| 0o1777 else all
        some [⟨'=', .bits, all, n, mentioned⟩]
  else changes? (cs.length + 1) cs []

/-- The permissions after a change, for a directory or not, and the bits that it
sets or clears; `mask` are bits that nobody gets without being asked for. -/
def Change.apply (c : Change) (dir : Bool) (mask : Nat) (mode : Nat) : Nat × Nat :=
  let omitted := without (if dir then 0o6000 else 0) c.mentioned
  let value := match c.source with
    | .bits => c.value
    | .copied =>
      let bits := c.value &&& mode
      let spread (n : Nat) : Nat := if bits &&& n = 0 then 0 else n
      bits ||| spread 0o444 ||| spread 0o222 ||| spread 0o111
    | .running => if mode &&& 0o111 ≠ 0 || dir then c.value ||| 0o111 else c.value
  let value := if c.affected = 0 then without value mask else value &&& c.affected
  let value := without value omitted
  if c.sign == '=' then
    let kept := (if c.affected = 0 then 0 else all ^^^ c.affected) ||| omitted
    ((mode &&& kept) ||| value, without all kept)
  else if c.sign == '+' then (mode ||| value, value)
  else (without mode value, value)

/-- The permissions after changes, and the bits that they set or clear. -/
def adjust (changes : List Change) (dir : Bool) (mask : Nat) (mode : Nat) : Nat × Nat :=
  changes.foldl (fun (mode, bits) c =>
    let (mode, more) := c.apply dir mask mode
    (mode, bits ||| more)) (mode, 0)

/-- The permissions of a new directory for which changes are given.  Bits that let
others write are only kept if no special bits are set afterwards. -/
def ofNewDir (changes : List Change) (mask : Nat) : Nat :=
  let (mode, bits) := adjust changes true mask 0o777
  let special := (bits &&& 0o6000) ||| (mode &&& 0o1000)
  if special = 0 then mode &&& 0o1777
  else (mode &&& bits) ||| without (without mode 0o022 &&& 0o1777) bits

/-- The three letters of three bits; `special` is shown in place of the last one,
as a small letter if running is allowed too. -/
def triple (bits : Nat) (special : Option Char) : List Char :=
  let letter (n : Nat) (c : Char) : Char := if bits &&& n = 0 then '-' else c
  let last := match special with
    | none => letter 1 'x'
    | some c => if bits &&& 1 = 0 then c.toUpper else c
  [letter 4 'r', letter 2 'w', last]

/-- Permissions in letters. -/
def text (mode : Nat) : String :=
  let special (n : Nat) (c : Char) : Option Char := if mode &&& n = 0 then none else some c
  String.ofList (triple (mode / 64) (special 0o4000 's') ++ triple (mode / 8) (special 0o2000 's') ++
    triple mode (special 0o1000 't'))

end Assay.Sandbox.Mode

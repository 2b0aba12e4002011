import Assay.Sandbox.Octets
import Assay.Sandbox.Utility.Options

/-! # Translating characters

Sets of characters are written as lists of characters, ranges, classes and
repetitions.  Characters of the first set are translated to those of the second
one in the same place, or deleted, or squeezed where they are repeated.
-/

namespace Assay.Sandbox.Utility

open UtilityM
open Text (Bytes)

/-- A character of a set as it is written: taken literally or not. -/
structure SetChar where
  char : Char
  escaped : Bool := false
  deriving Repr, DecidableEq

/-- An element of a set. -/
inductive SetElement where
  | char (c : Char)
  | range (first last : Char)
  | kind (name : String)
  | equivalents (c : Char)
  /-- A character so many times; without a number as often as it takes. -/
  | repeated (c : Char) (count : Option Nat)
  deriving Repr, DecidableEq

/-- All characters of a byte. -/
def everyChar : List Char := (List.range 256).map Char.ofNat

/-- The classes of characters. -/
def charKinds : List (String × (Char → Bool)) :=
  let isGraph (c : Char) : Bool := '!' ≤ c && c ≤ '~'
  [("alnum", Char.isAlphanum), ("alpha", Char.isAlpha), ("blank", fun c => c == ' ' || c == '\t'),
    ("cntrl", fun c => c < ' ' || c == '\x7f'), ("digit", Char.isDigit), ("graph", isGraph),
    ("lower", Char.isLower), ("print", fun c => isGraph c || c == ' '),
    ("punct", fun c => isGraph c && !c.isAlphanum),
    ("space", fun c => c == ' ' || ('\t' ≤ c && c ≤ '\r')), ("upper", Char.isUpper),
    ("xdigit", fun c => c.isDigit || ('a' ≤ c && c ≤ 'f') || ('A' ≤ c && c ≤ 'F'))]

/-- The characters of a class. -/
def kindChars (name : String) : List Char :=
  match charKinds.lookup name with
  | some f => everyChar.filter f
  | none => []

/-- Resolve the backslashes of a set, with warnings about those that are not
clear. -/
def setChars : (fuel : Nat) → List Char → List SetChar → List String → List SetChar × List String
  | 0, _, sofar, warnings => (sofar.reverse, warnings.reverse)
  | _, [], sofar, warnings => (sofar.reverse, warnings.reverse)
  | fuel + 1, '\\' :: cs, sofar, warnings =>
    let put (c : Char) (rest : List Char) : List SetChar × List String :=
      setChars fuel rest (⟨c, true⟩ :: sofar) warnings
    match cs with
    | [] =>
      let warning := "warning: an unescaped backslash at end of string is not portable"
      ((⟨'\\', false⟩ :: sofar).reverse, (warning :: warnings).reverse)
    | 'a' :: rest => put '\x07' rest
    | 'b' :: rest => put '\x08' rest
    | 'f' :: rest => put '\x0c' rest
    | 'n' :: rest => put '\n' rest
    | 'r' :: rest => put '\r' rest
    | 't' :: rest => put '\t' rest
    | 'v' :: rest => put '\x0b' rest
    | c :: rest =>
      if Digits.isDigit 8 c then
        let (digits, after) := Digits.split 8 3 cs
        let n := Digits.number 8 digits
        if n < 256 then put (Char.ofNat n) after
        else
          let two := digits.take 2
          let text := String.ofList digits
          let pair := String.ofList two
          let last := String.ofList (digits.drop 2)
          let warning := "warning: the ambiguous octal escape \\" ++ text ++
            " is being\n\tinterpreted as the 2-byte sequence \\0" ++ pair ++ ", " ++ last
          setChars fuel (digits.drop 2 ++ after) (⟨Char.ofNat (Digits.number 8 two), true⟩ :: sofar)
            (warning :: warnings)
      else put c rest
  | fuel + 1, c :: cs, sofar, warnings => setChars fuel cs (⟨c, false⟩ :: sofar) warnings

/-- The first character is the given one, with its meaning. -/
def isSign (c : Char) : List SetChar → Bool
  | x :: _ => x.char == c && !x.escaped
  | [] => false

/-- The characters before a sign and a closing bracket, and what follows them. -/
def upToClosing (sign : Char) : List SetChar → List SetChar → Option (List SetChar × List SetChar)
  | x :: y :: rest, sofar =>
    if isSign sign [x] && isSign ']' [y] then some (sofar.reverse, rest)
    else upToClosing sign (y :: rest) (x :: sofar)
  | _, _ => none

/-- The characters of a set as a text. -/
def setText (cs : List SetChar) : List Char := cs.map (·.char)

/-- A character as messages show it. -/
def shownChar (c : Char) : List Char :=
  if ' ' ≤ c && c ≤ '~' then [c] else Quote.octal c

/-- Characters as messages show them. -/
def shownChars (cs : List Char) : String :=
  String.ofList (cs.flatMap fun c =>
    if c == '\\' then ['\\', '\\']
    else match Quote.letter? c with
      | some l => ['\\', l]
      | none => shownChar c)

/-- The text after the sign of a repetition up to the closing bracket, in which
nothing is taken literally, and what follows. -/
def upToBracket : List SetChar → List SetChar → Option (List SetChar × List SetChar)
  | x :: rest, sofar =>
    if x.escaped then none
    else if x.char == ']' then some (sofar.reverse, rest)
    else upToBracket rest (x :: sofar)
  | [], _ => none

/-- The most often that a character can be repeated. -/
def repeatLimit : Nat := Nat.pow 2 63 - 1

/-- A repetition after its opening bracket; `none` if there is none. -/
def repetition (cs : List SetChar) : UtilityM (Option (SetElement × List SetChar)) := do
  match cs with
  | c :: star :: rest =>
    if !isSign '*' [star] then return none
    match upToBracket rest [] with
    | none => return none
    | some (digits, after) =>
      let text := setText digits
      if text.isEmpty then return some (.repeated c.char none, after)
      let base := if text.head? == some '0' then 8 else 10
      match Digits.number? base text with
      | some n =>
        if n ≤ repeatLimit then
          return some (.repeated c.char (if n = 0 then none else some n), after)
        fail ("invalid repeat count " ++ (← marked (shownChars text)) ++ " in [c*n] construct")
      | none => fail ("invalid repeat count " ++ (← marked (shownChars text)) ++ " in [c*n] construct")
  | _ => return none

/-- A star, digits and a closing bracket follow. -/
def looksRepeated (cs : List SetChar) : Bool :=
  isSign '*' cs && isSign ']' (cs.tail.dropWhile fun x => x.char.isDigit)

/-- A class or equivalents after the opening bracket and the sign. -/
def bracketed (sign : Char) (cs : List SetChar) : UtilityM (Option (SetElement × List SetChar)) := do
  match upToClosing sign cs [] with
  | none => return none
  | some (inner, after) =>
    let text := setText inner
    let isKind := sign == ':'
    if text.isEmpty then
      fail (if isKind then "missing character class name '[::]'"
        else "missing equivalence class character '[==]'")
    if isKind then
      let name := String.ofList text
      if (charKinds.lookup name).isSome then return some (.kind name, after)
      if looksRepeated cs then return none
      fail ("invalid character class " ++ (← marked (shownChars text)))
    else
      match text with
      | [c] => return some (.equivalents c, after)
      | _ =>
        if looksRepeated cs then return none
        fail (shownChars text ++ ": equivalence class operand must be a single character")

/-- An element in brackets, after the opening one. -/
def bracketElement (cs : List SetChar) : UtilityM (Option (SetElement × List SetChar)) := do
  let sign := if isSign ':' cs then some ':' else if isSign '=' cs then some '=' else none
  match sign with
  | some sign =>
    match ← bracketed sign cs.tail with
    | some found => return some found
    | none => repetition cs
  | none => repetition cs

/-- The elements of a set. -/
def setElements : (fuel : Nat) → List SetChar → List SetElement → UtilityM (List SetElement)
  | 0, _, sofar => return sofar.reverse
  | fuel + 1, cs, sofar => do
    match cs with
    | a :: b :: c :: rest =>
      let found ← if isSign '[' cs then bracketElement cs.tail else pure none
      match found with
      | some (e, rest) => setElements fuel rest (e :: sofar)
      | none =>
        if isSign '-' [b] then
          if c.char < a.char then
            fail ("range-endpoints of '" ++ String.ofList (shownChar a.char) ++ "-" ++
              String.ofList (shownChar c.char) ++ "' are in reverse collating sequence order")
          setElements fuel rest (.range a.char c.char :: sofar)
        else setElements fuel cs.tail (.char a.char :: sofar)
    | cs => return sofar.reverse ++ cs.map fun x => .char x.char

/-- Read a set. -/
def readSet (text : String) : UtilityM (List SetElement) := do
  let (cs, warnings) := setChars (text.length + 1) text.toList [] []
  warnings.forM report
  setElements (cs.length + 1) cs []

namespace SetElement

/-- The characters of an element. -/
def chars : SetElement → List Char
  | .char c | .equivalents c => [c]
  | .range first last => (List.range (last.toNat - first.toNat + 1)).map fun i => Char.ofNat (first.toNat + i)
  | .kind name => kindChars name
  | .repeated c n => List.replicate (min (n.getD 0) 512) c

/-- How many characters an element has. -/
def size : SetElement → Nat
  | .repeated _ n => n.getD 0
  | e => e.chars.length

/-- The class of letters of one case. -/
def caseKind? : SetElement → Option String
  | .kind name => if name = "upper" || name = "lower" then some name else none
  | _ => none

def isEndless : SetElement → Bool
  | .repeated _ none => true
  | _ => false

def isKind : SetElement → Bool
  | .kind _ => true
  | _ => false

def isEquivalents : SetElement → Bool
  | .equivalents _ => true
  | _ => false

end SetElement

/-- All characters of a set. -/
def allChars (es : List SetElement) : List Char := es.flatMap SetElement.chars

def setSize (es : List SetElement) : Nat := (es.map SetElement.size).foldl (· + ·) 0

/-- What is asked for. -/
structure TranslateStyle where
  complement : Bool := false
  delete : Bool := false
  squeeze : Bool := false
  truncate : Bool := false

/-- A character of a set in its place: the class of one case that it begins or
belongs to, and whether it is the first of its element. -/
structure PlacedChar where
  char : Char
  case : Option String
  first : Bool

/-- The characters of a set in order; a class of one case counts as one of them
when `folded`. -/
def placed (es : List SetElement) : List PlacedChar :=
  es.flatMap fun e => (e.chars.zipIdx).map fun (c, i) => ⟨c, e.caseKind?, i = 0⟩

/-- What is left after the element that the first character belongs to. -/
def skipElement : List PlacedChar → List PlacedChar
  | _ :: rest => rest.dropWhile fun p => !p.first
  | [] => []

/-- Refuse classes of one case in the second set that have no counterpart in the
first; how many characters do not count in each set. -/
def checkCases : (fuel : Nat) → List PlacedChar → List PlacedChar → (a b : Nat) → UtilityM (Nat × Nat)
  | 0, _, _, a, b => return (a, b)
  | fuel + 1, first, second, a, b => do
    match second with
    | [] => return (a, b)
    | y :: _ =>
      let x := first.head?
      let fits := x.any fun x => x.first && x.case.isSome
      if y.first && y.case.isSome && !fits then
        fail "misaligned [:upper:] and/or [:lower:] construct"
      if first.isEmpty then return (a, b)
      if y.case.isSome then
        checkCases fuel (skipElement first) (skipElement second) (a + 25) (b + 25)
      else checkCases fuel first.tail second.tail a b

/-- The last character of a set, to be repeated. -/
def lastChar (es : List SetElement) : UtilityM Char := do
  match es.getLast? with
  | some (.char c) | some (.equivalents c) | some (.repeated c _) => return c
  | some (.range _ last) => return last
  | some (.kind _) =>
    fail ("when translating with string1 longer than string2,\nthe latter string must not end " ++
      "with a character class")
  | none => fail "when not truncating set1, string2 must be non-empty"

/-- The set with its endless repetition filled up to a size. -/
def fillSet (es : List SetElement) (n : Nat) : List SetElement :=
  if (es.filter SetElement.isEndless).length = 1 && setSize es ≤ n then
    es.map fun
      | .repeated c none => .repeated c (some (n - setSize es))
      | e => e
  else es

/-- Check two sets; the second one as it is used. -/
def checkSets (style : TranslateStyle) (first : List SetElement) (second : Option (List SetElement)) :
    UtilityM (Option (List SetElement)) := do
  if first.any SetElement.isEndless then fail "the [c*] repeat construct may not appear in string1"
  match second with
  | none => return none
  | some given =>
    let translating := !style.delete
    let members := (allChars first).eraseDups
    let size := if style.complement then 256 - members.length else setSize first
    let filled := fillSet given size
    if 1 < (given.filter SetElement.isEndless).length then
      fail "only one [c*] repeat construct may appear in string2"
    if !translating then
      if given.any SetElement.isEndless then
        fail "the [c*] construct may appear in string2 only when translating"
      return some filled
    if filled.any SetElement.isEquivalents then
      fail "[=c=] expressions may not appear in string2 when translating"
    if filled.any fun e => e.isKind && e.caseKind?.isNone then
      fail ("when translating, the only character classes that may appear in\nstring2 are " ++
        "'upper' and 'lower'")
    let (a, b) ←
      if style.complement || !filled.any SetElement.isKind then pure (0, 0)
      else checkCases 1024 (placed first) (placed filled) 0 0
    let size := size - a
    let size' := setSize filled - b
    let extended ←
      if size' < size && !style.truncate then
        if setSize filled = 0 then fail "when not truncating set1, string2 must be non-empty"
        let c ← lastChar filled
        pure (filled ++ [.repeated c (some (size - size'))])
      else pure filled
    if style.complement && first.any SetElement.isKind then
      let targets := (allChars extended).eraseDups
      if !(setSize extended = size && targets.length ≤ 1) then
        fail ("when translating with complemented character classes,\nstring2 must map all " ++
          "characters in the domain to one")
    return some extended

/-- Pairs of characters that are translated to each other. -/
def pairs : (fuel : Nat) → List PlacedChar → List PlacedChar → List (Char × Char) → List (Char × Char)
  | 0, _, _, sofar => sofar
  | fuel + 1, first, second, sofar =>
    match first, second with
    | x :: first', y :: second' =>
      if x.case = some "lower" && y.case = some "upper" then
        pairs fuel (skipElement first) (skipElement second)
          ((kindChars "lower").map (fun c => (c, c.toUpper)) ++ sofar)
      else if x.case = some "upper" && y.case = some "lower" then
        pairs fuel (skipElement first) (skipElement second)
          ((kindChars "upper").map (fun c => (c, c.toLower)) ++ sofar)
      else if y.case.isSome then
        pairs fuel (skipElement first) (skipElement second) ((x.char, y.char) :: sofar)
      else pairs fuel first' second' ((x.char, y.char) :: sofar)
    | _, _ => sofar

/-- A table for each byte. -/
def table {α : Type} (f : Char → α) : Array α := (everyChar.map f).toArray

/-- What each character is translated to. -/
def translation (style : TranslateStyle) (first second : List SetElement) : Array Char :=
  let ps :=
    if style.complement then
      let members := allChars first
      ((everyChar.filter fun c => !members.contains c).zip (allChars second)).reverse
    else pairs 100000 (placed first) (placed second) []
  table fun c => (ps.lookup c).getD c

/-- Filters for the characters of the input. -/
structure Filters where
  deleted : Array Bool
  translated : Array Char
  squeezed : Array Bool

/-- Pass bytes through the filters; the last character that has passed is known. -/
def Filters.apply (f : Filters) (last : Option Char) (data : Bytes) : Option Char × String :=
  let step (state : Option Char × List Char) (b : UInt8) : Option Char × List Char :=
    let (last, out) := state
    let n := b.toNat
    if f.deleted.getD n false then state
    else
      let c := f.translated.getD n (Char.ofNat n)
      if f.squeezed.getD c.toNat false && last = some c then state else (some c, c :: out)
  let (last, out) := data.foldl step (last, [])
  (last, String.ofList out.reverse)

/-- Pass the input through the filters. -/
def filterInput (f : Filters) : (rounds : Nat) → Option Char → UtilityM Unit
  | 0, _ => pure ()
  | rounds + 1, last => do
    match ← Proc.read 0 65536 with
    | .error e => fail ("read error: " ++ plainError e)
    | .ok [] => pure ()
    | .ok data =>
      let (last, text) := f.apply last data
      print text
      spill "write error"
      filterInput f rounds last

def translateSpec : OptionSpec where
  letters := OptionSpec.ofLetters "AcCdst" ""
  names := [("complement", .none, "c"), ("delete", .none, "d"), ("squeeze-repeats", .none, "s"),
    ("truncate-set1", .none, "t")]
  strict := true

/-- Refuse the wrong number of sets. -/
def checkOperands (style : TranslateStyle) (operands : List String) : UtilityM Unit := do
  let least := if style.delete == style.squeeze then 2 else 1
  let most := if style.delete && !style.squeeze then 1 else 2
  if operands.length < least then
    match operands.getLast? with
    | none => report "missing operand"
    | some last =>
      report ("missing operand after " ++ (← marked last))
      complain (if style.squeeze then
          "Two strings must be given when both deleting and squeezing repeats."
        else "Two strings must be given when translating.")
    refuse
  match operands[most]? with
  | none => pure ()
  | some extra =>
    report ("extra operand " ++ (← marked extra))
    if operands.length = 2 then
      complain "Only one string may be given when deleting without squeezing repeats."
    refuse

/-- Translate, delete or squeeze characters of the input. -/
def tr : Utility := fun args => do
  let (style, operands) ← options translateSpec args ({} : TranslateStyle) fun s key _ =>
    return match key with
      | "c" | "C" => { s with complement := true }
      | "d" => { s with delete := true }
      | "s" => { s with squeeze := true }
      | "t" => { s with truncate := true }
      | _ => s
  checkOperands style operands
  let first ← readSet (operands.headD "")
  let second ← match operands[1]? with
    | some text => some <$> readSet text
    | none => pure none
  let second ← checkSets style first second
  let members := table fun c => (allChars first).contains c != style.complement
  let others := match second with
    | some es => table (allChars es).contains
    | none => members
  let none_ := table fun _ => false
  let filters : Filters :=
    { deleted := if style.delete then members else none_
      squeezed := if style.squeeze then others else none_
      translated := match second with
        | some es => if style.delete then table id else translation style first es
        | none => table id }
  filterInput filters Proc.pieceBound none
  outcome

end Assay.Sandbox.Utility

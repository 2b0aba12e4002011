import Assay.Host.Tree
import Assay.Sandbox.Calendar
import Assay.Sandbox.Octets

/-! # Reading dates

Moments as people write them: dates, times of day, days of the week, zones and
spans of time such as `2 days ago`, in any order, each sort at most once.  What
is left out is taken from the present moment.
-/

namespace Assay.Sandbox.Date

/-- A span of time that words stand for. -/
inductive Unit_ where
  | year
  | month
  /-- So many days. -/
  | day (n : Int)
  | hour
  | minute
  | second
  deriving Repr, DecidableEq

/-- A number as it is written. -/
structure Numeral where
  value : Int
  digits : Nat
  negative : Bool := false
  deriving Repr, DecidableEq

/-- The words and numbers of a date. -/
inductive Token where
  | unsigned (n : Numeral)
  | signed (n : Numeral)
  /-- Seconds and nanoseconds, with a sign or without. -/
  | fraction (isSigned : Bool) (seconds : Int) (nanos : Nat)
  | month (n : Int)
  | weekday (n : Int)
  /-- The first or the second half of the day. -/
  | half (afternoon : Bool)
  | unit (u : Unit_)
  | ordinal (n : Int)
  /-- The direction of a span. -/
  | direction (n : Int)
  | shift (days : Int)
  /-- A zone so many seconds to the east. -/
  | zone (seconds : Int)
  | summer
  | char (c : Char)
  deriving Repr, DecidableEq

/-! ## Words -/

def months : List String :=
  ["JANUARY", "FEBRUARY", "MARCH", "APRIL", "MAY", "JUNE", "JULY", "AUGUST", "SEPTEMBER", "OCTOBER",
    "NOVEMBER", "DECEMBER"]

def weekdays : List String :=
  ["SUNDAY", "MONDAY", "TUESDAY", "WEDNESDAY", "THURSDAY", "FRIDAY", "SATURDAY"]

/-- Months and days of the week, also by names that are not quite their own. -/
def calendarWords : List (String × Token) :=
  (months.zipIdx.map fun (w, i) => (w, Token.month (i + 1))) ++
    [("SEPT", .month 9)] ++
    (weekdays.zipIdx.map fun (w, i) => (w, Token.weekday i)) ++
    [("TUES", .weekday 2), ("WEDNES", .weekday 3), ("THUR", .weekday 4), ("THURS", .weekday 4)]

def unitWords : List (String × Token) :=
  [("YEAR", .unit .year), ("MONTH", .unit .month), ("FORTNIGHT", .unit (.day 14)),
    ("WEEK", .unit (.day 7)), ("DAY", .unit (.day 1)), ("HOUR", .unit .hour),
    ("MINUTE", .unit .minute), ("MIN", .unit .minute), ("SECOND", .unit .second),
    ("SEC", .unit .second)]

def relativeWords : List (String × Token) :=
  [("TOMORROW", .shift 1), ("YESTERDAY", .shift (-1)), ("TODAY", .shift 0), ("NOW", .shift 0),
    ("LAST", .ordinal (-1)), ("THIS", .ordinal 0), ("NEXT", .ordinal 1), ("FIRST", .ordinal 1),
    ("THIRD", .ordinal 3), ("FOURTH", .ordinal 4), ("FIFTH", .ordinal 5), ("SIXTH", .ordinal 6),
    ("SEVENTH", .ordinal 7), ("EIGHTH", .ordinal 8), ("NINTH", .ordinal 9), ("TENTH", .ordinal 10),
    ("ELEVENTH", .ordinal 11), ("TWELFTH", .ordinal 12), ("AGO", .direction (-1)),
    ("HENCE", .direction 1)]

/-- Zones by name, with their hours to the east. -/
def zoneHours : List (String × Int) :=
  [("GMT", 0), ("UT", 0), ("UTC", 0), ("WET", 0), ("WEST", 1), ("BST", 1), ("ART", -3), ("BRT", -3),
    ("BRST", -2), ("AST", -4), ("ADT", -3), ("CLT", -4), ("CLST", -3), ("EST", -5), ("EDT", -4),
    ("CST", -6), ("CDT", -5), ("MST", -7), ("MDT", -6), ("PST", -8), ("PDT", -7), ("AKST", -9),
    ("AKDT", -8), ("HST", -10), ("HAST", -10), ("HADT", -9), ("SST", -12), ("WAT", 1), ("CET", 1),
    ("CEST", 2), ("MET", 1), ("MEZ", 1), ("MEST", 2), ("MESZ", 2), ("EET", 2), ("EEST", 3),
    ("CAT", 2), ("SAST", 2), ("EAT", 3), ("MSK", 3), ("MSD", 4), ("SGT", 8), ("KST", 9), ("JST", 9),
    ("GST", 10), ("NZST", 12), ("NZDT", 13)]

/-- The zone of a single letter, in hours to the east. -/
def letterZone (c : Char) : Option Token :=
  if c == 'T' then some (.char 'T')
  else if 'A' ≤ c && c ≤ 'I' then some (.zone ((c.toNat - 'A'.toNat + 1 : Nat) * 3600))
  else if 'K' ≤ c && c ≤ 'M' then some (.zone ((c.toNat - 'A'.toNat : Nat) * 3600))
  else if 'N' ≤ c && c ≤ 'Y' then some (.zone (-((c.toNat - 'N'.toNat + 1 : Nat) : Int) * 3600))
  else if c == 'Z' then some (.zone 0)
  else none

/-- What a word stands for. -/
def word? (text : List Char) : Option Token :=
  let w := text.map Char.toUpper
  let s := String.ofList w
  let short := w.length = 3 || (w.length = 4 && w[3]? == some '.')
  let calendar := calendarWords.find? fun (name, _) =>
    if short then name.toList.take 3 == w.take 3 else name = s
  let zone (s : String) : Option Token := (zoneHours.lookup s).map fun h => .zone (h * 3600)
  let singular := if w.getLast? == some 'S' then unitWords.lookup (String.ofList w.dropLast) else none
  if s = "AM" || s = "A.M." then some (.half false)
  else if s = "PM" || s = "P.M." then some (.half true)
  else match calendar with
    | some (_, t) => some t
    | none =>
      let letter := match w with
        | [c] => letterZone c
        | _ => none
      let plain := String.ofList (w.filter (· != '.'))
      zone s <|> (if s = "DST" then some .summer else none) <|> unitWords.lookup s <|> singular <|>
        relativeWords.lookup s <|> letter <|> (if plain = s then none else zone plain)

/-- A blank of any sort. -/
def isBlank (c : Char) : Bool := Digits.isSpace c

/-- The nanoseconds that digits after a point stand for, and whether there are
any beyond those. -/
def nanosOf (digits : List Char) : Nat × Bool :=
  let shown := digits.take 9
  (Digits.number 10 (shown ++ List.replicate (9 - shown.length) '0'), (digits.drop 9).any (· != '0'))

/-- The number at the start of a text after a sign. -/
def numberToken (sign : Option Bool) (cs : List Char) : Option (Token × List Char) :=
  let digits := cs.takeWhile Char.isDigit
  let rest := cs.drop digits.length
  let n := Digits.number 10 digits
  let negative := sign == some true
  if Nat.pow 2 63 ≤ n then none
  else match rest with
    | mark :: d :: more =>
      if (mark == '.' || mark == ',') && d.isDigit then
        let fraction := (d :: more).takeWhile Char.isDigit
        let (nanos, beyond) := nanosOf fraction
        /- Numbers below zero are rounded down. -/
        let nanos := if negative && beyond then nanos + 1 else nanos
        let value : Int × Nat :=
          if !negative then (n, nanos)
          else if nanos = 0 then (-(n : Int), 0)
          else (-(n : Int) - 1, 1000000000 - nanos)
        some (.fraction sign.isSome value.1 value.2, (d :: more).drop fraction.length)
      else some (plain n digits.length negative, rest)
    | _ => some (plain n digits.length negative, rest)
where
  plain (n digits : Nat) (negative : Bool) : Token :=
    let numeral : Numeral := ⟨if negative then -(n : Int) else n, digits, negative⟩
    if sign.isSome then .signed numeral else .unsigned numeral

/-- Skip a remark in parentheses, in which others may stand. -/
def skipRemark : (depth : Nat) → List Char → List Char
  | _, [] => []
  | depth, '(' :: cs => skipRemark (depth + 1) cs
  | depth, ')' :: cs => if depth ≤ 1 then cs else skipRemark (depth - 1) cs
  | depth, _ :: cs => skipRemark depth cs

/-- The tokens of a text. -/
def tokens : (fuel : Nat) → List Char → List Token → Option (List Token)
  | 0, _, _ => none
  | _, [], sofar => some sofar.reverse
  | fuel + 1, c :: cs, sofar =>
    if isBlank c then tokens fuel cs sofar
    else if c.isDigit then
      match numberToken none (c :: cs) with
      | some (t, rest) => tokens fuel rest (t :: sofar)
      | none => none
    else if c == '-' || c == '+' then
      let after := cs.dropWhile isBlank
      if after.head?.any Char.isDigit then
        match numberToken (some (c == '-')) after with
        | some (t, rest) => tokens fuel rest (t :: sofar)
        | none => none
      else tokens fuel after sofar
    else if c.isAlpha then
      let text := (c :: cs).takeWhile fun c => c.isAlpha || c == '.'
      match word? (text.take 19) with
      | some t => tokens fuel ((c :: cs).drop text.length) (t :: sofar)
      | none => none
    else if c == '(' then tokens fuel (skipRemark 0 (c :: cs)) sofar
    else tokens fuel cs (.char c :: sofar)

/-! ## Phrases -/

/-- What has been understood so far. -/
structure Reading where
  year : Numeral
  month : Int
  day : Int
  hour : Int
  minute : Int
  seconds : Int
  nanos : Int
  half : Option Bool := none
  weekday : Int := 0
  weekdayOrdinal : Int := 0
  zone : Int := 0
  /-- How often each sort of phrase has been seen. -/
  dates : Nat := 0
  times : Nat := 0
  weekdays : Nat := 0
  zones : Nat := 0
  spans : Nat := 0
  /-- Spans to be added. -/
  years : Int := 0
  months : Int := 0
  days : Int := 0
  hours : Int := 0
  minutes : Int := 0
  moreSeconds : Int := 0
  moreNanos : Int := 0

namespace Reading

def withTime (r : Reading) (hour minute seconds : Int) (nanos : Nat) (half : Option Bool) : Reading :=
  { r with times := r.times + 1, hour, minute, seconds, nanos, half }

def withDate (r : Reading) (year : Option Numeral) (month day : Int) : Reading :=
  { r with dates := r.dates + 1, year := year.getD r.year, month, day }

def withZone (r : Reading) (seconds : Int) : Reading :=
  { r with zones := r.zones + 1, zone := seconds }

/-- Add a span so many times. -/
def withSpan (r : Reading) (u : Unit_) (n : Int) : Reading :=
  let r := { r with spans := 1 }
  match u with
  | .year => { r with years := r.years + n }
  | .month => { r with months := r.months + n }
  | .day k => { r with days := r.days + n * k }
  | .hour => { r with hours := r.hours + n }
  | .minute => { r with minutes := r.minutes + n }
  | .second => { r with moreSeconds := r.moreSeconds + n }

/-- Add a fraction of seconds, so many times. -/
def withFraction (r : Reading) (seconds : Int) (nanos : Nat) (n : Int) : Reading :=
  { r with spans := 1, moreSeconds := r.moreSeconds + n * seconds, moreNanos := r.moreNanos + n * nanos }

/-- A number on its own is a year, a date or a time of day. -/
def withNumber (r : Reading) (n : Numeral) : Reading :=
  if r.dates > 0 && r.year.digits = 0 && r.spans = 0 && (r.times > 0 || 2 < n.digits) then
    { r with year := n }
  else if 4 < n.digits then
    r.withDate (some ⟨n.value / 10000, n.digits - 4, false⟩) (n.value / 100 % 100) (n.value % 100)
  else if n.digits ≤ 2 then r.withTime n.value 0 0 0 none
  else r.withTime (n.value / 100) (n.value % 100) 0 0 none

end Reading

/-- The seconds to the east that the hours and minutes of a zone stand for. -/
def zoneOffset (hours : Numeral) (minutes : Option Int) : Option Int :=
  let total : Int := match minutes with
    | none =>
      let v := if hours.digits ≤ 2 then hours.value * 100 else hours.value
      Int.tdiv v 100 * 60 + Int.tmod v 100
    | some m => hours.value * 60 + (if hours.negative then -m else m)
  if -1440 ≤ total && total ≤ 1440 then some (total * 60) else none

/-- A zone after a time of day, if there is one. -/
def zoneAfter (r : Reading) : List Token → Option (Reading × List Token)
  | .signed h :: .char ':' :: .unsigned m :: rest =>
    (zoneOffset h (some m.value)).map fun z => (r.withZone z, rest)
  | .signed h :: .char ':' :: rest => some (r, .signed h :: .char ':' :: rest)
  | .signed h :: .unit u :: rest => some (r, .signed h :: .unit u :: rest)
  | .signed h :: rest => (zoneOffset h none).map fun z => (r.withZone z, rest)
  | rest => some (r, rest)

/-- A time of day after its hour and a colon. -/
def timeAfter (r : Reading) (hour : Int) : List Token → Option (Reading × List Token)
  | .unsigned m :: .half h :: rest => some (r.withTime hour m.value 0 0 (some h), rest)
  | .unsigned m :: .char ':' :: .unsigned s :: .half h :: rest =>
    some (r.withTime hour m.value s.value 0 (some h), rest)
  | .unsigned m :: .char ':' :: .fraction false s n :: .half h :: rest =>
    some (r.withTime hour m.value s n (some h), rest)
  | .unsigned m :: .char ':' :: .unsigned s :: rest =>
    zoneAfter (r.withTime hour m.value s.value 0 none) rest
  | .unsigned m :: .char ':' :: .fraction false s n :: rest =>
    zoneAfter (r.withTime hour m.value s n none) rest
  | .unsigned _ :: .char ':' :: _ => none
  | .unsigned m :: rest => zoneAfter (r.withTime hour m.value 0 0 none) rest
  | _ => none

/-- A date and a time of day with a letter between them. -/
def afterDate (r : Reading) : List Token → Option (Reading × List Token)
  | .char 'T' :: .unsigned h :: .char ':' :: rest => timeAfter r h.value rest
  | .char 'T' :: .unsigned h :: .signed z :: rest =>
    zoneAfter (r.withTime h.value 0 0 0 none) (.signed z :: rest)
  | rest => some (r, rest)

/-- The direction after a span. -/
def directionAfter (ts : List Token) : Int × List Token :=
  match ts with
  | .direction n :: rest => (n, rest)
  | ts => (1, ts)

/-- A span so many times, with its direction. -/
def spanAfter (r : Reading) (u : Unit_) (n : Int) (ts : List Token) : Reading × List Token :=
  let (d, rest) := directionAfter ts
  (r.withSpan u (n * d), rest)

/-- The phrase that begins with a number. -/
def numberPhrase (r : Reading) (n : Numeral) (ts : List Token) : Option (Reading × List Token) :=
  match ts with
  | .half h :: rest => some (r.withTime n.value 0 0 0 (some h), rest)
  | .char ':' :: rest => timeAfter r n.value rest
  | .char '/' :: .unsigned a :: .char '/' :: .unsigned b :: rest =>
    if 4 ≤ n.digits then some (r.withDate (some n) a.value b.value, rest)
    else some (r.withDate (some b) n.value a.value, rest)
  | .char '/' :: .unsigned a :: rest => some (r.withDate none n.value a.value, rest)
  | .month m :: .signed y :: rest =>
    some (r.withDate (some { y with value := -y.value, negative := false }) m n.value, rest)
  | .month m :: .unsigned y :: rest => some (r.withDate (some y) m n.value, rest)
  | .month m :: rest => some (r.withDate none m n.value, rest)
  | .weekday d :: rest =>
    some ({ r with weekdays := r.weekdays + 1, weekday := d, weekdayOrdinal := n.value }, rest)
  | .unit u :: rest => some (spanAfter r u n.value rest)
  | .signed a :: .signed b :: rest =>
    afterDate (r.withDate (some n) (-a.value) (-b.value)) rest
  | .signed a :: .unit u :: rest => some (spanAfter (r.withNumber n) u a.value rest)
  | .signed a :: rest => zoneAfter (r.withTime n.value 0 0 0 none) (.signed a :: rest)
  | rest => some (r.withNumber n, rest)

/-- One phrase. -/
def phrase (r : Reading) : List Token → Option (Reading × List Token)
  | .unsigned n :: rest => numberPhrase r n rest
  | .signed n :: .unit u :: rest => some (spanAfter r u n.value rest)
  | .fraction _ s n :: .unit .second :: rest =>
    let (d, rest) := directionAfter rest
    some (r.withFraction s n d, rest)
  | .unit u :: rest => some (spanAfter r u 1 rest)
  | .ordinal n :: .unit u :: rest => some (spanAfter r u n rest)
  | .ordinal n :: .weekday d :: rest =>
    some ({ r with weekdays := r.weekdays + 1, weekday := d, weekdayOrdinal := n }, rest)
  | .weekday d :: .char ',' :: rest | .weekday d :: rest =>
    some ({ r with weekdays := r.weekdays + 1, weekday := d, weekdayOrdinal := 0 }, rest)
  | .month m :: .signed d :: .signed y :: rest =>
    some (r.withDate (some { y with value := -y.value, negative := false }) m (-d.value), rest)
  | .month m :: .unsigned d :: .char ',' :: .unsigned y :: rest =>
    some (r.withDate (some y) m d.value, rest)
  | .month m :: .unsigned d :: rest => some (r.withDate none m d.value, rest)
  | .shift n :: rest => some ({ r with spans := 1, days := r.days + n }, rest)
  | .zone z :: .signed n :: .unit u :: rest => some (spanAfter (r.withZone z) u n.value rest)
  | .zone z :: .signed h :: .char ':' :: .unsigned m :: rest =>
    (zoneOffset h (some m.value)).map fun o => (r.withZone (z + o), rest)
  | .zone z :: .signed h :: rest => (zoneOffset h none).map fun o => (r.withZone (z + o), rest)
  | .zone z :: .summer :: rest => some (r.withZone (z + 3600), rest)
  | .zone z :: rest => some (r.withZone z, rest)
  | .char 'T' :: rest => some (r.withZone (-7 * 3600), rest)
  | _ => none

/-- All phrases. -/
def phrases : (fuel : Nat) → Reading → List Token → Option Reading
  | 0, _, _ => none
  | _, r, [] => some r
  | fuel + 1, r, ts =>
    match phrase r ts with
    | some (r, rest) => phrases fuel r rest
    | none => none

/-- The hour of the day. -/
def fullHour (hour : Int) (half : Option Bool) : Option Int :=
  match half with
  | none => if 0 ≤ hour && hour < 24 then some hour else none
  | some afternoon =>
    if 0 < hour && hour < 12 then some (if afternoon then hour + 12 else hour)
    else if hour = 12 then some (if afternoon then 12 else 0)
    else none

/-- A year in full. -/
def fullYear (y : Numeral) : Int :=
  if y.digits = 2 then y.value + (if y.value < 69 then 2000 else 1900) else y.value

/-- The moment that a reading stands for. -/
def Reading.moment (r : Reading) : Option Moment := do
  if 1 < r.times || 1 < r.dates || 1 < r.weekdays || 1 < r.zones then none
  let timed := r.times > 0 || (r.spans > 0 && r.dates = 0 && r.weekdays = 0)
  let hour ← if timed then fullHour r.hour r.half else some 0
  let start : Civil :=
    { year := fullYear r.year, month := r.month, day := r.day, hour
      minute := if timed then r.minute else 0
      second := if timed then r.seconds else 0 }
  /- A leap second is the first second of the next minute. -/
  let proper := start.isProper ||
    (start.second = 60 && { start with second := 59 : Civil }.isProper)
  if !proper then none
  let nanos := if timed then r.nanos else 0
  let shifted :=
    if r.weekdays > 0 && r.dates = 0 then
      let w := start.weekday
      let ordinal := if 0 < r.weekdayOrdinal && w ≠ r.weekday then r.weekdayOrdinal - 1 else r.weekdayOrdinal
      { start with day := start.day + (r.weekday - w + 7) % 7 + 7 * ordinal }
    else start
  let moved := { shifted with
    year := shifted.year + r.years, month := shifted.month + r.months, day := shifted.day + r.days }
  let seconds := moved.toSeconds - r.zone + r.hours * 3600 + r.minutes * 60 + r.moreSeconds
  let total := nanos + r.moreNanos
  return ⟨seconds + total / 1000000000, (total % 1000000000).toNat⟩

/-- The moment that a text stands for, when it is `now`. -/
def read (text : String) (now : Moment) : Option Moment := do
  let cs := text.toList.dropWhile isBlank
  let cs := if cs.isEmpty then ['0'] else cs
  match ← tokens (cs.length + 1) cs [] with
  | [.char '@', .unsigned n] | [.char '@', .signed n] => some ⟨n.value, 0⟩
  | [.char '@', .fraction _ s n] => some ⟨s, n⟩
  | ts =>
    let c := Civil.ofSeconds now.seconds
    let start : Reading :=
      { year := ⟨c.year, 0, false⟩, month := c.month, day := c.day, hour := c.hour, minute := c.minute
        seconds := c.second, nanos := now.nanos }
    (← phrases (ts.length + 1) start ts).moment

/-- The moment of a stamp, which is month, day, hour and minute in two digits
each, with a year before it and seconds after a point. -/
def stamp (text : String) (now : Moment) : Option Moment := do
  let cs := text.toList
  let digits := cs.takeWhile (· != '.')
  let seconds ← match cs.drop digits.length with
    | [] => some 0
    | [_, a, b] => if a.isDigit && b.isDigit then some (Digits.number 10 [a, b]) else none
    | _ => none
  if !digits.all Char.isDigit then none
  let field (i : Nat) : Int := Digits.number 10 ((digits.drop i).take 2)
  let fromYear (year : Int) (i : Nat) : Option Moment :=
    let c : Civil := { year, month := field i, day := field (i + 2), hour := field (i + 4)
                       minute := field (i + 6), second := seconds }
    let plain := if c.second = 60 then { c with second := 59 } else c
    if plain.isProper then some ⟨c.toSeconds, 0⟩ else none
  match digits.length with
  | 8 => fromYear (Civil.ofSeconds now.seconds).year 0
  | 10 => fromYear (if field 0 < 69 then 2000 + field 0 else 1900 + field 0) 2
  | 12 => fromYear (field 0 * 100 + field 2) 4
  | _ => none

end Assay.Sandbox.Date

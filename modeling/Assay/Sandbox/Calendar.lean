/-! # The calendar

Seconds from the start of 1970 on, and the dates and times of day they stand
for.  Days are counted from the first of March of the year zero, so that a leap
day comes last in its year.
-/

namespace Assay.Sandbox

/-- A date and a time of day.  Fields may lie out of their usual range until they
are normalised. -/
structure Civil where
  year : Int
  month : Int
  day : Int
  hour : Int := 0
  minute : Int := 0
  second : Int := 0
  deriving Repr, DecidableEq

namespace Civil

/-- The day of a date, counted from the start of 1970 on.  Months beyond the
twelfth belong to the years after. -/
def dayNumber (c : Civil) : Int :=
  let months := c.year * 12 + (c.month - 1)
  let year := months / 12
  let month := months % 12
  /- Years begin in March. -/
  let year := if month < 2 then year - 1 else year
  let month := (month + 10) % 12
  let dayOfYear := (153 * month + 2) / 5
  365 * year + year / 4 - year / 100 + year / 400 + dayOfYear + (c.day - 1) - 719468

/-- Seconds from the start of 1970 on. -/
def toSeconds (c : Civil) : Int :=
  c.dayNumber * 86400 + c.hour * 3600 + c.minute * 60 + c.second

/-- The date and the time of day of a second. -/
def ofSeconds (s : Int) : Civil :=
  let days := s / 86400 + 719468
  let rest := s % 86400
  let era := days / 146097
  let dayOfEra := days % 146097
  let yearOfEra := (dayOfEra - dayOfEra / 1460 + dayOfEra / 36524 - dayOfEra / 146096) / 365
  let dayOfYear := dayOfEra - (365 * yearOfEra + yearOfEra / 4 - yearOfEra / 100)
  let month := (5 * dayOfYear + 2) / 153
  let day := dayOfYear - (153 * month + 2) / 5 + 1
  let month := if month < 10 then month + 3 else month - 9
  { year := yearOfEra + era * 400 + (if month ≤ 2 then 1 else 0), month, day
    hour := rest / 3600, minute := rest / 60 % 60, second := rest % 60 }

/-- The day of the week; Sunday is zero. -/
def weekday (c : Civil) : Int := (c.dayNumber + 4) % 7

/-- All fields are in their range. -/
def isProper (c : Civil) : Bool := ofSeconds c.toSeconds = c

/-- A number in at least so many digits. -/
def digits (width : Nat) (fill : Char) (n : Int) : List Char :=
  let text := (toString n.natAbs).toList
  (if n < 0 then ['-'] else []) ++ List.replicate (width - text.length) fill ++ text

def monthNames : List String :=
  ["January", "February", "March", "April", "May", "June", "July", "August", "September", "October",
    "November", "December"]

def weekdayNames : List String :=
  ["Sunday", "Monday", "Tuesday", "Wednesday", "Thursday", "Friday", "Saturday"]

/-- The name of a month. -/
def monthName (c : Civil) : String := monthNames[(c.month - 1).toNat]?.getD ""

/-- The name of a day of the week. -/
def weekdayName (c : Civil) : String := weekdayNames[c.weekday.toNat]?.getD ""

/-- The hour on a clock face. -/
def clockHour (c : Civil) : Int := if c.hour % 12 = 0 then 12 else c.hour % 12

/-- What a letter after a percent sign stands for in a pattern. -/
def field? (c : Civil) (nanos : Nat) (letter : Char) : Option (List Char) :=
  let date := digits 4 '0' c.year ++ ['-'] ++ digits 2 '0' c.month ++ ['-'] ++ digits 2 '0' c.day
  let minutes := digits 2 '0' c.hour ++ [':'] ++ digits 2 '0' c.minute
  match letter with
  | 'Y' => some (digits 4 '0' c.year)
  | 'C' => some (digits 2 '0' (c.year / 100))
  | 'y' => some (digits 2 '0' (c.year % 100))
  | 'm' => some (digits 2 '0' c.month)
  | 'd' => some (digits 2 '0' c.day)
  | 'e' => some (digits 2 ' ' c.day)
  | 'H' => some (digits 2 '0' c.hour)
  | 'k' => some (digits 2 ' ' c.hour)
  | 'I' => some (digits 2 '0' c.clockHour)
  | 'l' => some (digits 2 ' ' c.clockHour)
  | 'M' => some (digits 2 '0' c.minute)
  | 'S' => some (digits 2 '0' c.second)
  | 'N' => some (digits 9 '0' nanos)
  | 'p' => some (if c.hour < 12 then "AM".toList else "PM".toList)
  | 'P' => some (if c.hour < 12 then "am".toList else "pm".toList)
  | 'b' | 'h' => some (c.monthName.toList.take 3)
  | 'B' => some c.monthName.toList
  | 'a' => some (c.weekdayName.toList.take 3)
  | 'A' => some c.weekdayName.toList
  | 'u' => some (digits 1 '0' (if c.weekday = 0 then 7 else c.weekday))
  | 'w' => some (digits 1 '0' c.weekday)
  | 'j' => some (digits 3 '0' (c.dayNumber - { c with month := 1, day := 1 : Civil }.dayNumber + 1))
  | 's' => some (digits 1 '0' c.toSeconds)
  | 'z' => some "+0000".toList
  | 'Z' => some "UTC".toList
  | 'F' => some date
  | 'T' => some (minutes ++ [':'] ++ digits 2 '0' c.second)
  | 'R' => some minutes
  | 'D' => some (digits 2 '0' c.month ++ ['/'] ++ digits 2 '0' c.day ++ ['/'] ++ digits 2 '0' (c.year % 100))
  | 'n' => some ['\n']
  | 't' => some ['\t']
  | '%' => some ['%']
  | _ => none

/-- A date and a time of day in a pattern with percent signs. -/
def format (c : Civil) (nanos : Nat) : List Char → List Char
  | '%' :: letter :: rest =>
    match c.field? nanos letter with
    | some text => text ++ format c nanos rest
    | none => '%' :: letter :: format c nanos rest
  | x :: rest => x :: format c nanos rest
  | [] => []

end Civil

end Assay.Sandbox

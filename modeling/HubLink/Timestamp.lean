import HubLink.Text.Blank
import HubLink.Text.Decimal

/-! # Timestamps

Points in time read from their date and time of day with an offset from universal time, such as
`2026-10-14T08:00:00Z`. Blanks may stand between the parts, months to seconds may have one digit,
and a year may be signed. The calendar is Gregorian throughout. -/

namespace HubLink

/-- A point in time. -/
structure Timestamp where
  /-- Seconds since the start of 1970, universal time. -/
  seconds : Int
  /-- Nanoseconds beside them; a billion and more in a leap second. -/
  nanos : Nat
  deriving DecidableEq, Repr

namespace Timestamp

/-! ## Calendar -/

/-- Whether a year has a leap day. -/
def isLeapYear (year : Int) : Bool := year % 4 = 0 && (year % 100 ≠ 0 || year % 400 = 0)

/-- Number of days of a month. -/
def daysOfMonth (year : Int) (month : Nat) : Nat :=
  if month = 2 then if isLeapYear year then 29 else 28
  else if month = 4 || month = 6 || month = 9 || month = 11 then 30
  else 31

/-- Number of days from the start of year zero to the start of a year. -/
def daysBeforeYear (year : Int) : Int :=
  let last := year - 1
  year * 365 + (last / 4 - last / 100 + last / 400) + 1

/-- Number of days from the start of a year to the start of a month. -/
def daysBeforeMonth (year : Int) (month : Nat) : Nat :=
  (List.range (month - 1)).foldl (fun days m => days + daysOfMonth year (m + 1)) 0

/-- Number of days from the start of 1970 to a date. -/
def dayNumber (year : Int) (month day : Nat) : Int :=
  daysBeforeYear year - daysBeforeYear 1970 + daysBeforeMonth year month + day - 1

/-- The first year of the calendar. -/
def firstYear : Int := -262143

/-- The last year of the calendar. -/
def lastYear : Int := 262142

/-- Whether there is such a date. -/
def isDate (year : Int) (month day : Nat) : Bool :=
  firstYear ≤ year && year ≤ lastYear && 1 ≤ month && month ≤ 12 && 1 ≤ day
    && day ≤ daysOfMonth year month

/-- Whether a number of seconds from the start of 1970 lies in the calendar's years. -/
def isInCalendar (seconds : Int) : Bool :=
  dayNumber firstYear 1 1 * 86400 ≤ seconds && seconds < dayNumber (lastYear + 1) 1 1 * 86400

/-! ## Reading -/

/-- Read at most `width` digits, at least one: the value, how many they were and the rest. -/
def digits? : (width : Nat) → List Char → Option (Nat × Nat × List Char)
  | width, text =>
    let digits := (text.take width).takeWhile fun c => (Text.digit? c).isSome
    if digits.isEmpty then none
    else
      some (digits.foldl (fun n c => n * 10 + (Text.digit? c).getD 0) 0, digits.length,
        text.drop digits.length)

/-- Read a number of at most two digits after blanks. -/
def pair? (text : List Char) : Option (Nat × List Char) := do
  let (n, _, rest) ← digits? 2 (Text.trimStart text)
  return (n, rest)

/-- Read a year after blanks: four digits, or any number of digits after a sign. -/
def year? (text : List Char) : Option (Int × List Char) :=
  match Text.trimStart text with
  | '-' :: rest => (digits? rest.length rest).map fun (n, _, rest) => (-(n : Int), rest)
  | '+' :: rest => (digits? rest.length rest).map fun (n, _, rest) => ((n : Int), rest)
  | text => (digits? 4 text).map fun (n, _, rest) => ((n : Int), rest)

/-- Read a mark after blanks. -/
def mark? (mark : Char) (text : List Char) : Option (List Char) :=
  match Text.trimStart text with
  | c :: rest => if c = mark then some rest else none
  | [] => none

/-- Read the nanoseconds after the seconds; digits beyond the ninth do not count. -/
def fraction? (text : List Char) : Option (Nat × List Char) :=
  match text with
  | '.' :: rest => do
    let (n, count, rest) ← digits? 9 rest
    return (n * Nat.pow 10 (9 - count), rest.dropWhile fun c => (Text.digit? c).isSome)
  | _ => some (0, text)

/-- Read exactly two digits. -/
def twoDigits? : List Char → Option (Nat × List Char)
  | a :: b :: rest => do return ((← Text.digit? a) * 10 + (← Text.digit? b), rest)
  | _ => none

/-- Read hours and minutes of an offset, in seconds; colons and blanks may stand between. -/
def hoursAndMinutes? (text : List Char) : Option (Nat × List Char) := do
  let (hours, rest) ← twoDigits? text
  let (minutes, rest) ← twoDigits? (rest.dropWhile fun c => c = ':' || Text.isBlank c)
  if minutes < 60 then some (hours * 3600 + minutes * 60, rest) else none

/-- Read an offset from universal time, in seconds: less than a day either way. -/
def offset? (text : List Char) : Option (Int × List Char) :=
  let signed (sign : Int) (text : List Char) : Option (Int × List Char) := do
    let (n, rest) ← hoursAndMinutes? text
    if n < 86400 then some (sign * n, rest) else none
  if (text.take 3).map Char.toUpper = "UTC".toList then some (0, text.drop 3)
  else
    match text with
    | 'Z' :: rest | 'z' :: rest => some (0, rest)
    | '+' :: rest => signed 1 rest
    | '-' :: rest | '\u2212' :: rest => signed (-1) rest
    | _ => none

/-- Read what divides the date from the time of day. -/
def divider? : List Char → Option (List Char)
  | 'T' :: rest | 't' :: rest | ' ' :: rest => some rest
  | _ => none

/-- The seconds and nanoseconds of a day at a time of day; second 60 is a leap second. -/
def timeOfDay? (hour minute second nanos : Nat) : Option (Nat × Nat) :=
  if hour < 24 && minute < 60 && second ≤ 60 then
    if second = 60 then some (hour * 3600 + minute * 60 + 59, 1000000000 + nanos)
    else some (hour * 3600 + minute * 60 + second, nanos)
  else none

/-- Read a point in time. -/
def parse? (s : String) : Option Timestamp := do
  let (year, rest) ← year? s.toList
  let (month, rest) ← pair? (← mark? '-' rest)
  let (day, rest) ← pair? (← mark? '-' rest)
  let (hour, rest) ← pair? (← divider? rest)
  let (minute, rest) ← pair? (← mark? ':' rest)
  let (second, rest) ← pair? (← mark? ':' rest)
  let (nanos, rest) ← fraction? rest
  let (offset, rest) ← offset? (Text.trimStart rest)
  let (time, nanos) ← timeOfDay? hour minute second nanos
  let seconds := dayNumber year month day * 86400 + time - offset
  if isDate year month day && isInCalendar seconds && (Text.trimStart rest).isEmpty then
    some ⟨seconds, nanos⟩
  else none

end Timestamp

end HubLink

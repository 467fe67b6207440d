import Escrow.Text.Numeral

/-!
# Dates and instants

Dates of the Gregorian calendar from year 1 to 9999, and times of day on them with or without an
offset from universal time.  An instant keeps its fields as they were given, because it is shown
that way; it is compared by its tick count, in microseconds.
-/

namespace Escrow

/-- A day of the Gregorian calendar. -/
structure Date where
  year : Nat
  month : Nat
  day : Nat
  deriving DecidableEq, Inhabited

namespace Date

/-- Does the year have a 29 February? -/
def isLeap (year : Nat) : Bool := year % 4 == 0 && (year % 100 != 0 || year % 400 == 0)

/-- How many days a month of a year has. -/
def daysInMonth (year month : Nat) : Nat :=
  if month == 2 then (if isLeap year then 29 else 28)
  else if month == 4 || month == 6 || month == 9 || month == 11 then 30 else 31

/-- How many days lie before 1 January of a year, counted from 1 January of year 1. -/
def daysBeforeYear (year : Nat) : Nat :=
  let past := year - 1
  past * 365 + past / 4 - past / 100 + past / 400

/-- How many days of a year lie before the first of a month. -/
def daysBeforeMonth (year : Nat) : Nat → Nat
  | 0 => 0
  | 1 => 0
  | month + 1 => daysBeforeMonth year month + daysInMonth year month

/-- The number of a day, from 0 for 1 January of year 1. -/
def number (date : Date) : Nat :=
  daysBeforeYear date.year + daysBeforeMonth date.year date.month + (date.day - 1)

/-- Is this a day of the calendar? -/
def isValid (date : Date) : Bool :=
  1 ≤ date.year && date.year ≤ 9999 && 1 ≤ date.month && date.month ≤ 12 && 1 ≤ date.day &&
    date.day ≤ daysInMonth date.year date.month

/-- The number of the first day after year 9999. -/
def numberLimit : Nat := daysBeforeYear 10000

/-- The year of a day number. -/
def yearOfNumber (n : Nat) : Nat :=
  let eras := n / 146097
  let inEra := n % 146097
  let centuries := min (inEra / 36524) 3
  let inCentury := inEra - centuries * 36524
  let cycles := inCentury / 1461
  let inCycle := inCentury % 1461
  eras * 400 + centuries * 100 + cycles * 4 + min (inCycle / 365) 3 + 1

/-- The last of the months 1, …, `month` that starts at or before a day of the year. -/
def monthOfDay (year dayOfYear : Nat) : Nat → Nat
  | 0 => 1
  | month + 1 =>
    if daysBeforeMonth year (month + 1) ≤ dayOfYear then month + 1
    else monthOfDay year dayOfYear month

/-- The date of a day number. -/
def ofNumber (n : Nat) : Date :=
  let year := yearOfNumber n
  let dayOfYear := n - daysBeforeYear year
  let month := monthOfDay year dayOfYear 12
  ⟨year, month, dayOfYear - daysBeforeMonth year month + 1⟩

end Date

/-- A number with at least `width` digits. -/
def paddedNumber (width n : Nat) : String :=
  let shown := Nat.toDigits 10 n
  String.ofList (List.replicate (width - shown.length) '0' ++ shown)

/-- The text `YYYY-MM-DD` of a date. -/
def Date.text (date : Date) : String :=
  paddedNumber 4 date.year ++ "-" ++ paddedNumber 2 date.month ++ "-" ++ paddedNumber 2 date.day

/-- A time of day on a date. -/
structure Instant where
  date : Date
  hour : Nat
  minute : Nat
  second : Nat
  micro : Nat
  /-- Seconds that the clock is ahead of universal time; a clock without a zone has none. -/
  offset : Option Int
  deriving DecidableEq, Inhabited

namespace Instant

/-- Microseconds of a day. -/
def dayLength : Nat := 86400000000

/-- Microseconds on the clock since the start of year 1. -/
def clockTicks (t : Instant) : Int :=
  t.date.number * dayLength + ((t.hour * 60 + t.minute) * 60 + t.second) * 1000000 + t.micro

/-- Microseconds since the start of year 1 in universal time; a clock without a zone is read as
showing universal time. -/
def ticks (t : Instant) : Int := t.clockTicks - t.offset.getD 0 * 1000000

/-- Is the instant in the calendar and its time of day on the clock? -/
def isValid (t : Instant) : Bool :=
  t.date.isValid && t.hour < 24 && t.minute < 60 && t.second < 60 && t.micro < 1000000 &&
    match t.offset with
    | some seconds => -86400 < seconds && seconds < 86400
    | none => true

/-- The instant whose clock shows a number of microseconds since the start of year 1. -/
def ofClockTicks (n : Nat) (offset : Option Int) : Instant :=
  let inDay := n % dayLength
  { date := Date.ofNumber (n / dayLength)
    hour := inDay / 3600000000
    minute := inDay / 60000000 % 60
    second := inDay / 1000000 % 60
    micro := inDay % 1000000
    offset := offset }

/-- The instant a number of microseconds later on the same clock, if the calendar reaches it. -/
def after? (t : Instant) (micros : Int) : Option Instant :=
  let n := t.clockTicks + micros
  if 0 ≤ n ∧ n < Date.numberLimit * dayLength then some (ofClockTicks n.toNat t.offset) else none

/-- The same instant on a clock that shows universal time, if the calendar reaches it. -/
def toUniversal? (t : Instant) : Option Instant :=
  ({ t with offset := some 0 } : Instant).after? (-(t.offset.getD 0 * 1000000))

/-- The instant on its clock, without the zone. -/
def withoutZone (t : Instant) : Instant := { t with offset := none }

/-- Is the first instant at or before the second?  There is no answer between a clock with a zone
and one without. -/
def atOrBefore? (t u : Instant) : Option Bool :=
  if t.offset.isSome = u.offset.isSome then some (decide (t.ticks ≤ u.ticks)) else none

/-- The offset as text: `+HH:MM`, with seconds if there are any. -/
def offsetText (seconds : Int) : String :=
  let distance := seconds.natAbs
  (if seconds < 0 then "-" else "+") ++ paddedNumber 2 (distance / 3600) ++ ":" ++
    paddedNumber 2 (distance / 60 % 60) ++
    if distance % 60 = 0 then "" else ":" ++ paddedNumber 2 (distance % 60)

/-- The text of an instant with the given separator of date and time.  Microseconds are shown only
when there are any, and then with six digits. -/
def textWith (separator : String) (t : Instant) : String :=
  t.date.text ++ separator ++ paddedNumber 2 t.hour ++ ":" ++ paddedNumber 2 t.minute ++ ":" ++
    paddedNumber 2 t.second ++ (if t.micro = 0 then "" else "." ++ paddedNumber 6 t.micro) ++
    match t.offset with
    | some seconds => offsetText seconds
    | none => ""

/-- The text `YYYY-MM-DDTHH:MM:SS[.ffffff][+HH:MM[:SS]]`. -/
def text (t : Instant) : String := t.textWith "T"

/-- A number of exactly `width` digits at the front. -/
def takeDigits (width : Nat) (chars : List Char) : Option (Nat × List Char) :=
  (Text.natural? (chars.take width)).bind fun value =>
    if (chars.take width).length = width then some (value, chars.drop width) else none

/-- One given character at the front. -/
def takeChar (c : Char) : List Char → Option (List Char)
  | [] => none
  | head :: rest => if head = c then some rest else none

/-- The first six digits of a fraction as microseconds. -/
def fractionMicros (digits : List Char) : Nat :=
  Text.digitsValue ((digits ++ List.replicate 6 '0').take 6)

/-- A fraction of a second, if there is one. -/
def takeFraction : List Char → Option (Nat × List Char)
  | '.' :: rest =>
    let digits := rest.takeWhile Char.isDigit
    if digits.isEmpty then none else some (fractionMicros digits, rest.dropWhile Char.isDigit)
  | chars => some (0, chars)

/-- The offset at the end of a text. -/
def readOffset? : List Char → Option (Option Int)
  | [] => some none
  | ['Z'] => some (some 0)
  | sign :: rest => do
    if sign != '+' && sign != '-' then none
    let (hours, rest) ← takeDigits 2 rest
    let (minutes, rest) ← takeDigits 2 (← takeChar ':' rest)
    let seconds ←
      match rest with
      | [] => some 0
      | _ => do
        let (seconds, rest) ← takeDigits 2 (← takeChar ':' rest)
        if rest.isEmpty then some seconds else none
    let distance : Int := (hours * 60 + minutes) * 60 + seconds
    return some (if sign == '-' then -distance else distance)

/-- A date at the front of a text. -/
def takeDate (chars : List Char) : Option (Date × List Char) := do
  let (year, rest) ← takeDigits 4 chars
  let (month, rest) ← takeDigits 2 (← takeChar '-' rest)
  let (day, rest) ← takeDigits 2 (← takeChar '-' rest)
  return (⟨year, month, day⟩, rest)

/-- The instant that a text stands for; a date alone is its midnight. -/
def ofText? (text : String) : Option Instant := do
  let (date, rest) ← takeDate text.toList
  let instant ←
    match rest with
    | [] => some ⟨date, 0, 0, 0, 0, none⟩
    | separator :: rest => do
      if separator != 'T' && separator != ' ' then none
      let (hour, rest) ← takeDigits 2 rest
      let (minute, rest) ← takeDigits 2 (← takeChar ':' rest)
      let (second, rest) ← takeDigits 2 (← takeChar ':' rest)
      let (micro, rest) ← takeFraction rest
      some ⟨date, hour, minute, second, micro, ← readOffset? rest⟩
  if instant.isValid then some instant else none

end Instant
end Escrow

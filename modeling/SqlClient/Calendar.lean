/-! # Dates and times

The proleptic Gregorian calendar with a year zero, times of day up to a leap second, and local
times at a fixed distance from UTC.
-/
namespace SqlClient

structure Date where
  year : Int
  month : Nat
  day : Nat
  deriving DecidableEq

/-- A nanosecond of one thousand million or more stands in a leap second. -/
structure TimeOfDay where
  hour : Nat
  minute : Nat
  second : Nat
  nanosecond : Nat
  deriving DecidableEq

structure DateTime where
  date : Date
  time : TimeOfDay
  deriving DecidableEq

/-- A moment in UTC, and how many seconds to the east of it the clock stands that shows it. -/
structure ZonedDateTime where
  utc : DateTime
  offset : Int
  deriving DecidableEq

namespace Date

def isLeap (year : Int) : Bool :=
  year % 4 == 0 && (year % 100 != 0 || year % 400 == 0)

def daysIn (year : Int) (month : Nat) : Nat :=
  if month = 2 then if isLeap year then 29 else 28
  else if month = 4 || month = 6 || month = 9 || month = 11 then 30
  else 31

def inRange (year : Int) : Bool := -262143 ≤ year && year ≤ 262142

def ofFields? (year : Int) (month day : Nat) : Option Date :=
  if inRange year && 1 ≤ month && month ≤ 12 && 1 ≤ day && day ≤ daysIn year month then
    some ⟨year, month, day⟩
  else none

/-- Days since the first of March of the year zero. A year is counted from March, so that the leap
day is its last. -/
def number (d : Date) : Int :=
  let year := if d.month ≤ 2 then d.year - 1 else d.year
  let month : Int := if d.month ≤ 2 then d.month + 9 else d.month - 3
  let ofCycle := year % 400
  year / 400 * 146097 + ofCycle * 365 + ofCycle / 4 - ofCycle / 100 + (153 * month + 2) / 5 +
    (d.day - 1)

def ofNumber (n : Int) : Date :=
  let inCycle := n % 146097
  let ofCycle := (inCycle - inCycle / 1460 + inCycle / 36524 - inCycle / 146096) / 365
  let inYear := inCycle - (365 * ofCycle + ofCycle / 4 - ofCycle / 100)
  let month := (5 * inYear + 2) / 153
  let year := n / 146097 * 400 + ofCycle
  { year := if 10 ≤ month then year + 1 else year
    month := (if 10 ≤ month then month - 9 else month + 3).toNat
    day := (inYear - (153 * month + 2) / 5 + 1).toNat }

end Date

namespace TimeOfDay

def ofFields? (hour minute second nanosecond : Nat) : Option TimeOfDay :=
  if hour < 24 && minute < 60 && second < 60 &&
      (nanosecond < 1000000000 || (second == 59 && nanosecond < 2000000000)) then
    some ⟨hour, minute, second, nanosecond⟩
  else none

/-- The second of the minute as it is shown: a leap second is the sixtieth after a fifty-ninth. -/
def shownSecond (t : TimeOfDay) : Nat :=
  if 1000000000 ≤ t.nanosecond then t.second + 1 else t.second

end TimeOfDay

/-- The moment at which a clock shows `t`; the clock is less than a day away from UTC, and the date
there has to be in range. A leap second stays one. -/
def ZonedDateTime.ofLocal? (t : DateTime) (offset : Int) : Option ZonedDateTime :=
  let seconds : Int := t.time.hour * 3600 + t.time.minute * 60 + t.time.second - offset
  let date := Date.ofNumber (t.date.number + seconds / 86400)
  let ofDay := (seconds % 86400).toNat
  if offset.natAbs < 86400 && Date.inRange date.year then
    some ⟨⟨date, ⟨ofDay / 3600, ofDay / 60 % 60, ofDay % 60, t.time.nanosecond⟩⟩, offset⟩
  else none

def padded (width n : Nat) : String :=
  let digits := (Nat.repr n).toList
  String.ofList (List.replicate (width - digits.length) '0' ++ digits)

/-- Year, month and day; a year outside `0 … 9999` has a sign. -/
def Date.text (d : Date) : String :=
  let sign := if d.year < 0 then "-" else if 9999 < d.year then "+" else ""
  sign ++ padded 4 d.year.natAbs ++ "-" ++ padded 2 d.month ++ "-" ++ padded 2 d.day

def TimeOfDay.text (t : TimeOfDay) : String :=
  padded 2 t.hour ++ ":" ++ padded 2 t.minute ++ ":" ++ padded 2 t.shownSecond

def DateTime.text (t : DateTime) : String := t.date.text ++ " " ++ t.time.text

end SqlClient

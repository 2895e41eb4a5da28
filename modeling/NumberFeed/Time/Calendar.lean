/-!
# The proleptic Gregorian calendar

Dates by year, month and day, extended without end to both sides, and their numbers as days since
1 January of year 1. `Date.dayNumber` counts the days before the year and before the month;
`Date.ofDayNumber` takes cycles of 400, 100, 4 and 1 years off a number and then walks the months.
-/

namespace NumberFeed

/-- A day of the calendar. -/
structure Date where
  /-- The year, of which year 0 is the one before year 1. -/
  year : Int
  /-- The month, from 1 to 12. -/
  month : Nat
  /-- The day of the month, from 1 on. -/
  day : Nat
  deriving DecidableEq, Repr

namespace Calendar

/-- Whether a year has 366 days. -/
def isLeap (year : Int) : Bool :=
  year % 4 = 0 && (year % 100 ≠ 0 || year % 400 = 0)

/-- The numbers of days of the twelve months. -/
def monthLengths (leap : Bool) : List Nat :=
  [31, if leap then 29 else 28, 31, 30, 31, 30, 31, 31, 30, 31, 30, 31]

/-- The number of days from 1 January of year 1 to 1 January of a year. -/
def daysBeforeYear (year : Int) : Int :=
  let before := year - 1
  365 * before + before / 4 - before / 100 + before / 400

/-- The month and the day of the month of a day that lies `rest` days after the first of `month`,
where `lengths` are the months from there on. -/
def monthAndDay : List Nat → Nat → Nat → Nat × Nat
  | [], month, rest => (month, rest + 1)
  | length :: lengths, month, rest =>
    if rest < length then (month, rest + 1) else monthAndDay lengths (month + 1) (rest - length)

/-- The year of a day number, and the days since its first day. -/
def yearAndRest (number : Int) : Int × Int :=
  let inCycle := number % 146097
  let century := min 3 (inCycle / 36524)
  let inCentury := inCycle - 36524 * century
  let inQuad := inCentury % 1461
  let year := min 3 (inQuad / 365)
  (400 * (number / 146097) + 100 * century + 4 * (inCentury / 1461) + year + 1, inQuad - 365 * year)

/-- The day number of the epoch, 1 January 1970. -/
def epochDay : Int := 719162

end Calendar

namespace Date

open Calendar

/-- The days since 1 January of year 1. -/
def dayNumber (date : Date) : Int :=
  let months := (monthLengths (isLeap date.year)).take (date.month - 1)
  let daysBeforeMonth : Nat := months.foldl (· + ·) 0
  daysBeforeYear date.year + daysBeforeMonth + date.day - 1

/-- The date that lies a number of days after 1 January of year 1. -/
def ofDayNumber (number : Int) : Date :=
  let (year, rest) := yearAndRest number
  let (month, day) := monthAndDay (monthLengths (isLeap year)) 1 rest.toNat
  ⟨year, month, day⟩

end Date

end NumberFeed

/-!
# Calendar dates

The proleptic Gregorian calendar over years 1 to 9999.  A date corresponds to
its ordinal, the count of days from 1 January of year 1, which is day 1.
-/

namespace BucketAccess.Calendar

/-- A year that has 29 February. -/
def isLeap (year : Nat) : Bool :=
  year % 4 = 0 && (year % 100 ≠ 0 || year % 400 = 0)

/-- The lengths of the months of a year. -/
def monthLengths (year : Nat) : List Nat :=
  [31, if isLeap year then 29 else 28, 31, 30, 31, 30, 31, 31, 30, 31, 30, 31]

/-- The length of a month counted from 1; no month has number 0 or 13. -/
def daysInMonth (year month : Nat) : Nat :=
  match month with
  | 0 => 0
  | month + 1 => (monthLengths year).getD month 0

/-- A year, a month from 1 and a day of the month from 1. -/
structure Date where
  year : Nat
  month : Nat
  day : Nat
deriving DecidableEq, Repr

/-- The calendar has the date, and its year is between 1 and 9999. -/
def Date.isValid (date : Date) : Bool :=
  1 ≤ date.year && date.year ≤ 9999 && 1 ≤ date.month && date.month ≤ 12 &&
    1 ≤ date.day && date.day ≤ daysInMonth date.year date.month

/-- Days in the years before a year. -/
def daysBeforeYear (year : Nat) : Nat :=
  365 * (year - 1) + (year - 1) / 4 - (year - 1) / 100 + (year - 1) / 400

/-- Days in the months before a month of the same year. -/
def daysBeforeMonth (year month : Nat) : Nat :=
  ((monthLengths year).take (month - 1)).foldr (· + ·) 0

/-- The count of days up to a date, from 1 January of year 1 on. -/
def Date.ordinal (date : Date) : Nat :=
  daysBeforeYear date.year + daysBeforeMonth date.year date.month + date.day

/-- The month and the day that a day counted from 0 falls on, in months of the
given lengths of which the first has the given number. -/
def monthAndDay (month : Nat) : List Nat → Nat → Nat × Nat
  | [], day => (month, day + 1)
  | length :: lengths, day =>
      if day < length then (month, day + 1)
      else monthAndDay (month + 1) lengths (day - length)

/-- The year of an ordinal, and the day of that year counted from 0.  Whole
cycles of 400, 100, 4 and 1 years are taken off in turn; the last day of a
cycle that ends in a leap year would open a fifth part, and belongs to the
fourth. -/
def yearAndDay (ordinal : Nat) : Nat × Nat :=
  let days := ordinal - 1
  let in400 := days % 146097
  let centuries := min 3 (in400 / 36524)
  let in100 := in400 - 36524 * centuries
  let quads := in100 / 1461
  let in4 := in100 % 1461
  let years := min 3 (in4 / 365)
  (400 * (days / 146097) + 100 * centuries + 4 * quads + years + 1, in4 - 365 * years)

/-- The date of an ordinal. -/
def Date.ofOrdinal (ordinal : Nat) : Date :=
  let (year, day) := yearAndDay ordinal
  let (month, day) := monthAndDay 1 (monthLengths year) day
  ⟨year, month, day⟩

/-- The ordinal of the last day of year 9999. -/
def lastOrdinal : Nat := 3652059

/-- The ordinal of 1 January 1970. -/
def epochOrdinal : Nat := 719163

/-- The day of the week, Monday being 0. -/
def Date.weekday (date : Date) : Nat := (date.ordinal + 6) % 7

example : (Date.mk 9999 12 31).ordinal = lastOrdinal := by decide
example : (Date.mk 1970 1 1).ordinal = epochOrdinal := by decide
example : Date.ofOrdinal 730179 = ⟨2000, 2, 29⟩ := by decide

end BucketAccess.Calendar

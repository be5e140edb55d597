import BucketAccess.Calendar.Date
import BucketAccess.Text.Numeral

/-!
# Moments

A moment is a date and a time of day with, when it is known, the offset of the
clock from UTC.  An instant is a count of microseconds from the start of year 1
in UTC; moments with an offset of zero and instants within years 1 to 9999
correspond one to one.
-/

namespace BucketAccess.Calendar

/-- What a calendar and a clock show. -/
structure Moment where
  date : Date
  hour : Nat
  minute : Nat
  second : Nat
  microsecond : Nat
  /-- Seconds by which the clock is ahead of UTC. -/
  offset : Option Int
deriving DecidableEq, Repr

def microsPerSecond : Nat := 1000000
def microsPerDay : Nat := 86400000000

/-- An offset lies within a day either way. -/
def isOffset (seconds : Int) : Bool := -86400 < seconds && seconds < 86400

namespace Moment

/-- The calendar has the date, the clock has the time, and the offset is one. -/
def isValid (moment : Moment) : Bool :=
  moment.date.isValid && moment.hour < 24 && moment.minute < 60 && moment.second < 60 &&
    moment.microsecond < microsPerSecond && moment.offset.all isOffset

/-- Microseconds since midnight. -/
def timeOfDay (moment : Moment) : Nat :=
  ((moment.hour * 60 + moment.minute) * 60 + moment.second) * microsPerSecond +
    moment.microsecond

/-- The instant at which the clock shows the moment.  A clock of unknown offset
is taken to show UTC. -/
def instant (moment : Moment) : Int :=
  ((moment.date.ordinal - 1) * microsPerDay + moment.timeOfDay : Nat) -
    moment.offset.getD 0 * microsPerSecond

/-- The first instant after year 9999. -/
def instantEnd : Int := lastOrdinal * microsPerDay

/-- The instant of the epoch, 1 January 1970. -/
def epoch : Int := (epochOrdinal - 1) * microsPerDay

/-- The moment of an instant on a clock that shows UTC. -/
def ofInstant? (instant : Int) : Option Moment :=
  if 0 ≤ instant && instant < instantEnd then
    let time := instant.toNat % microsPerDay
    let seconds := time / microsPerSecond
    some {
      date := Date.ofOrdinal (instant.toNat / microsPerDay + 1)
      hour := seconds / 3600
      minute := seconds / 60 % 60
      second := seconds % 60
      microsecond := time % microsPerSecond
      offset := some 0 }
  else none

/-- The same instant on a clock that shows UTC, if it has a date there. -/
def inUtc? (moment : Moment) : Option Moment := ofInstant? moment.instant

def dateText (date : Date) : String :=
  Text.paddedText 4 date.year ++ "-" ++ Text.paddedText 2 date.month ++ "-" ++
    Text.paddedText 2 date.day

def clockText (moment : Moment) : String :=
  Text.paddedText 2 moment.hour ++ ":" ++ Text.paddedText 2 moment.minute ++ ":" ++
    Text.paddedText 2 moment.second

/-- An offset with its sign; seconds are shown when there are any. -/
def offsetText (seconds : Int) : String :=
  let size := seconds.natAbs
  (if seconds < 0 then "-" else "+") ++ Text.paddedText 2 (size / 3600) ++ ":" ++
    Text.paddedText 2 (size / 60 % 60) ++
    (if size % 60 = 0 then "" else ":" ++ Text.paddedText 2 (size % 60))

/-- Date, time and offset, largest unit first.  Microseconds are shown when
there are any. -/
def text (moment : Moment) : String :=
  dateText moment.date ++ "T" ++ moment.clockText ++
    (if moment.microsecond = 0 then "" else "." ++ Text.paddedText 6 moment.microsecond) ++
    (match moment.offset with
      | some seconds => offsetText seconds
      | none => "")

def dayNames : List String := ["Mon", "Tue", "Wed", "Thu", "Fri", "Sat", "Sun"]

def monthNames : List String :=
  ["Jan", "Feb", "Mar", "Apr", "May", "Jun", "Jul", "Aug", "Sep", "Oct", "Nov", "Dec"]

/-- The form of a date in HTTP headers, for a clock that shows UTC.  Fractions
of a second are dropped. -/
def httpText (moment : Moment) : String :=
  dayNames.getD moment.date.weekday "" ++ ", " ++ Text.paddedText 2 moment.date.day ++ " " ++
    monthNames.getD (moment.date.month - 1) "" ++ " " ++
    Text.paddedText 4 moment.date.year ++ " " ++ moment.clockText ++ " GMT"

end Moment

end BucketAccess.Calendar

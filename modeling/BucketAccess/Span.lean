import BucketAccess.Text.Numeral

/-!
# Time spans

A span is a signed count of microseconds of less than a thousand million days
either way.  Services count spans in whole seconds or whole milliseconds.
-/

namespace BucketAccess

/-- The least count of microseconds a span has. -/
def leastMicroseconds : Int := -86399999913600000000

/-- The greatest count of microseconds a span has. -/
def greatestMicroseconds : Int := 86399999999999999999

/-- A count of microseconds within range. -/
structure Span where
  microseconds : Int
  least_le : leastMicroseconds ≤ microseconds
  le_greatest : microseconds ≤ greatestMicroseconds
deriving DecidableEq, Repr

namespace Span

/-- The span of a count of microseconds, if the count is in range. -/
def ofMicroseconds? (count : Int) : Option Span :=
  if bounds : leastMicroseconds ≤ count ∧ count ≤ greatestMicroseconds then
    some ⟨count, bounds.1, bounds.2⟩
  else none

def microsecondsPerSecond : Int := 1000000
def microsecondsPerDay : Int := 86400000000

/-- The span of a number of seconds. -/
def ofSeconds? (count : Int) : Option Span := ofMicroseconds? (count * microsecondsPerSecond)

/-- The span of a number of days. -/
def ofDays? (count : Int) : Option Span := ofMicroseconds? (count * microsecondsPerDay)

/-- Whole days, which may be negative; the rest of the span is not. -/
def days (span : Span) : Int := span.microseconds / microsecondsPerDay

/-- Microseconds beyond the whole days. -/
def withinDay (span : Span) : Nat := (span.microseconds % microsecondsPerDay).toNat

/-- Days, if any, then hours, minutes and seconds, then microseconds, if any. -/
def text (span : Span) : String :=
  let seconds := span.withinDay / 1000000
  let micros := span.withinDay % 1000000
  let dayWord := if span.days.natAbs = 1 then " day, " else " days, "
  (if span.days = 0 then "" else Text.intText span.days ++ dayWord) ++
    Text.natText (seconds / 3600) ++ ":" ++ Text.paddedText 2 (seconds / 60 % 60) ++ ":" ++
    Text.paddedText 2 (seconds % 60) ++
    (if micros = 0 then "" else "." ++ Text.paddedText 6 micros)

end Span

/-- The units in which a service counts spans. -/
inductive SpanUnit where
  | seconds
  | milliseconds
deriving DecidableEq, Repr

namespace SpanUnit

def all : List SpanUnit := [.seconds, .milliseconds]

def name : SpanUnit → String
  | .seconds => "seconds"
  | .milliseconds => "milliseconds"

def microseconds : SpanUnit → Int
  | .seconds => 1000000
  | .milliseconds => 1000

/-- The unit of every span that is sent. -/
def wire : SpanUnit := .milliseconds

end SpanUnit

end BucketAccess

import BucketAccess.Calendar.Moment
import BucketAccess.Decimal.Binary

/-!
# Reading moments

A moment may be given as a number or as a text.  A number counts seconds from
the epoch, or milliseconds when it is too large to be a count of seconds.  A
text is such a number in decimal, a date alone, or a date and a time in the
usual order with an optional offset.
-/

namespace BucketAccess.Calendar

/-- Why a value is no moment. -/
inductive MomentFault where
  /-- The instant or the year is outside years 1 to 9999. -/
  | outOfRange
  /-- The text has none of the accepted forms. -/
  | malformed
deriving DecidableEq, Repr

/-- The largest number that counts seconds. -/
def maxSeconds : Nat := 20000000000

/-- Microseconds in the unit that a number of this size counts. -/
def microsPerUnit (isSeconds : Bool) : Nat := if isSeconds then 1000000 else 1000

namespace Moment

/-- The moment a number of microseconds after the epoch. -/
def ofEpochMicros (micros : Int) : Except MomentFault Moment :=
  match ofInstant? (epoch + micros) with
  | some moment => .ok moment
  | none => .error .outOfRange

/-- The moment that an integer stands for. -/
def ofInt (number : Int) : Except MomentFault Moment :=
  ofEpochMicros (number * microsPerUnit (number.natAbs ≤ maxSeconds))

/-- The moment that a number in binary format stands for, rounded to the
nearest microsecond. -/
def ofBinary (value : Decimal.Binary) : Except MomentFault Moment :=
  match value.fraction? with
  | none => .error .outOfRange
  | some (negative, numerator, denominator) =>
      let scaled : Int := Decimal.Binary.signed negative
        (numerator * microsPerUnit (numerator ≤ maxSeconds * denominator))
      ofEpochMicros (Int.fdiv (2 * scaled + denominator) (2 * denominator))

/-- A run of exactly `count` digits at the front as a number, and the rest. -/
def takeFixed (count : Nat) (chars : List Char) : Option (Nat × List Char) :=
  let run := chars.take count
  if run.length = count && run.all Text.isAsciiDigit then
    some (Text.readDigits run, chars.drop count)
  else none

/-- What follows a given character at the front. -/
def after? (expected : Char) : List Char → Option (List Char)
  | char :: rest => if char = expected then some rest else none
  | [] => none

/-- Year, month and day with hyphens between them. -/
def takeDate (chars : List Char) : Option (Date × List Char) := do
  let (year, rest) ← takeFixed 4 chars
  let rest ← after? '-' rest
  let (month, rest) ← takeFixed 2 rest
  let rest ← after? '-' rest
  let (day, rest) ← takeFixed 2 rest
  if 1 ≤ month && month ≤ 12 && 1 ≤ day && day ≤ daysInMonth year month then
    some (⟨year, month, day⟩, rest)
  else none

/-- Digits of a fraction of a second as microseconds.  Digits beyond the sixth
are dropped. -/
def fractionMicros (digits : List Char) : Nat :=
  Text.readDigits ((digits ++ List.replicate 6 '0').take 6)

/-- Seconds and a fraction, both optional, as seconds and microseconds. -/
def takeSeconds : List Char → Option (Nat × Nat × List Char)
  | ':' :: rest => do
      let (second, rest) ← takeFixed 2 rest
      match rest with
      | mark :: fraction =>
          if mark = '.' || mark = ',' then
            match fraction.takeWhile Text.isAsciiDigit with
            | [] => none
            | digits =>
                some (second, fractionMicros digits, fraction.dropWhile Text.isAsciiDigit)
          else some (second, 0, rest)
      | [] => some (second, 0, [])
  | rest => some (0, 0, rest)

/-- An offset at the end of the text, which may be missing. -/
def readOffset : List Char → Option (Option Int)
  | [] => some none
  | ['Z'] => some (some 0)
  | ['z'] => some (some 0)
  | sign :: rest => do
      if sign ≠ '+' ∧ sign ≠ '-' then none
      else
        let (hours, rest) ← takeFixed 2 rest
        let (minutes, rest) ← takeFixed 2 ((after? ':' rest).getD rest)
        if rest.isEmpty && hours < 24 && minutes < 60 then
          some (some (Decimal.Binary.signed (sign = '-') ((hours * 60 + minutes) * 60)))
        else none

/-- Hours and minutes, then seconds and an offset if given, up to the end. -/
def readTime (date : Date) (chars : List Char) : Option Moment := do
  let (hour, rest) ← takeFixed 2 chars
  let rest ← after? ':' rest
  let (minute, rest) ← takeFixed 2 rest
  let (second, microsecond, rest) ← takeSeconds rest
  let offset ← readOffset rest
  if hour < 24 && minute < 60 && second < 60 then
    some ⟨date, hour, minute, second, microsecond, offset⟩
  else none

/-- A date alone, which means its midnight, or a date and a time. -/
def readDated (chars : List Char) : Option Moment := do
  let (date, rest) ← takeDate chars
  match rest with
  | [] => some ⟨date, 0, 0, 0, 0, none⟩
  | separator :: rest =>
      if separator = 'T' || separator = 't' || separator = ' ' || separator = '_' then
        readTime date rest
      else none

/-- A decimal numeral without blanks, grouping or exponent: its sign, its whole
digits and, behind a point, the digits of its fraction. -/
def readNumeral? (chars : List Char) : Option (Bool × List Char × Option (List Char)) :=
  let (negative, rest) := Text.takeSign chars
  match rest.takeWhile Text.isAsciiDigit, rest.dropWhile Text.isAsciiDigit with
  | [], _ => none
  | whole, [] => some (negative, whole, none)
  | whole, '.' :: fraction =>
      if fraction.isEmpty || !fraction.all Text.isAsciiDigit then none
      else some (negative, whole, some fraction)
  | _, _ => none

/-- The moment that a text stands for. -/
def ofText (text : String) : Except MomentFault Moment :=
  match readNumeral? text.toList with
  | some (negative, whole, none) =>
      ofInt (Decimal.Binary.signed negative (Text.readDigits whole))
  | some (negative, whole, some fraction) =>
      let digits := whole ++ fraction
      ofBinary (Decimal.Binary.ofDecimal negative (Text.readDigits digits) digits.length
        (-fraction.length))
  | none =>
      match readDated text.toList with
      | none => .error .malformed
      | some moment => if moment.date.year = 0 then .error .outOfRange else .ok moment

end Moment

end BucketAccess.Calendar

import BucketAccess.Text.Token

/-!
# Punycode

Code points beyond ASCII as letters and digits.  The ASCII characters of a label
come first, with a hyphen behind them if there are any.  The others follow in
ascending order, each as the distance from the one before it, counted over all
places where a character could be inserted.  The distances are numerals of
varying length whose digits have thresholds that adapt to the distances seen so
far.  Labels are given by their code points.
-/

namespace BucketAccess.Hostname

/-- The threshold of a digit at a place. -/
def threshold (place bias : Nat) : Nat :=
  max 1 (min 26 (36 * (place + 1) - bias))

theorem one_le_threshold (place bias : Nat) : 1 ≤ threshold place bias :=
  Nat.le_max_left ..

/-- Brings a distance below the largest that the bias can tell, and counts the
steps in which it does so. -/
def settle (distance steps : Nat) : Nat × Nat :=
  if 455 < distance then settle (distance / 35) (steps + 1) else (distance, steps)
termination_by distance
decreasing_by exact Nat.div_lt_self (by omega) (by omega)

/-- The bias after a distance, when the label has grown to a length. -/
def adapt (distance length : Nat) (isFirst : Bool) : Nat :=
  let damped := if isFirst then distance / 700 else distance / 2
  let (rest, steps) := settle (damped + damped / length) 0
  36 * steps + 36 * rest / (rest + 38)

/-- The character of a digit: letters, then ASCII digits. -/
def punyChar (digit : Nat) : Char :=
  if digit < 26 then Char.ofNat (0x61 + digit) else Char.ofNat (0x30 + (digit - 26))

/-- The digit of a character in lower case. -/
def punyDigit? (char : Char) : Option Nat :=
  if 'a' ≤ char && char ≤ 'z' then some (char.toNat - 0x61)
  else if Text.isAsciiDigit char then some (char.toNat - 0x30 + 26)
  else none

/-- A distance as digits from a place on. -/
def punyDigits (bias place distance : Nat) : List Char :=
  let limit := threshold place bias
  if distance < limit then [punyChar distance]
  else
    punyChar (limit + (distance - limit) % (36 - limit)) ::
      punyDigits bias (place + 1) ((distance - limit) / (36 - limit))
termination_by distance
decreasing_by
  have := one_le_threshold place bias
  have := Nat.div_le_self (distance - threshold place bias) (36 - threshold place bias)
  omega

/-- The course of writing: the distance since the last code point written, the
bias, how many code points have been written, and the digits, reversed. -/
structure PunyWriter where
  distance : Nat
  bias : Nat
  written : Nat
  digits : List Char

/-- Passes a place of the label while code points of one value are written. -/
def PunyWriter.pass (first value : Nat) (writer : PunyWriter) (code : Nat) : PunyWriter :=
  if code < value then { writer with distance := writer.distance + 1 }
  else if code = value then
    { distance := 0
      bias := adapt writer.distance (writer.written + 1) (writer.written = first)
      written := writer.written + 1
      digits := (punyDigits writer.bias 0 writer.distance).reverse ++ writer.digits }
  else writer

/-- Writes the code points of ascending values. -/
def PunyWriter.run (codes : List Nat) (first : Nat) : Nat → List Nat → PunyWriter → PunyWriter
  | _, [], writer => writer
  | next, value :: values, writer =>
      let ahead :=
        { writer with distance := writer.distance + (value - next) * (writer.written + 1) }
      let after := codes.foldl (pass first value) ahead
      run codes first (value + 1) values { after with distance := after.distance + 1 }

/-- A label as ASCII characters. -/
def punyEncode (codes : List Nat) : List Char :=
  let basic := codes.filter (· < 0x80)
  let values := ((codes.filter (0x80 ≤ ·)).mergeSort (· ≤ ·)).eraseDups
  let start : PunyWriter := ⟨0, 72, basic.length, []⟩
  let writer := start.run codes basic.length 0x80 values
  basic.map Char.ofNat ++ (if basic.isEmpty then [] else ['-']) ++ writer.digits.reverse

/-- The course of reading: the label so far, the value and the place of the last
code point, the bias, and the distance being read with the weight and the place of
its next digit. -/
structure PunyReader where
  codes : List Nat
  value : Nat
  position : Nat
  bias : Nat
  isFirst : Bool
  distance : Nat
  weight : Nat
  place : Nat

/-- The last code point there is. -/
def lastCode : Nat := 0x10FFFF

/-- Inserts the code point that a distance leads to. -/
def PunyReader.insert? (distance : Nat) (reader : PunyReader) : Option PunyReader :=
  let length := reader.codes.length + 1
  let reached := reader.position + distance
  let value := reader.value + reached / length
  let position := reached % length
  if lastCode < value then none
  else some
    { codes := reader.codes.take position ++ value :: reader.codes.drop position
      value
      position := position + 1
      bias := adapt distance length reader.isFirst
      isFirst := false
      distance := 0, weight := 1, place := 0 }

/-- Reads digits up to the end, which has to be the end of a distance. -/
def PunyReader.run : PunyReader → List Char → Option (List Nat)
  | reader, [] => if reader.place = 0 then some reader.codes else none
  | reader, char :: rest =>
      match punyDigit? char with
      | none => none
      | some digit =>
          let limit := threshold reader.place reader.bias
          let distance := reader.distance + digit * reader.weight
          if digit < limit then
            match reader.insert? distance with
            | some reader => reader.run rest
            | none => none
          else
            run { reader with
              distance
              weight := reader.weight * (36 - limit)
              place := reader.place + 1 } rest

/-- What stands before and behind the last hyphen; before it nothing, if there is
none. -/
def splitAtLastHyphen (chars : List Char) : List Char × List Char :=
  let behind := (chars.reverse.takeWhile (· ≠ '-')).reverse
  (chars.take (chars.length - behind.length - 1), behind)

/-- The label that ASCII characters in lower case stand for. -/
def punyDecode (chars : List Char) : Option (List Nat) :=
  let (basic, digits) := splitAtLastHyphen chars
  PunyReader.run ⟨basic.map Char.toNat, 0x80, 0, 72, true, 0, 1, 0⟩ digits

end BucketAccess.Hostname

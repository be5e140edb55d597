import BucketAccess.Json.Value
import BucketAccess.Text.Numeral
import BucketAccess.Text.Wide

/-!
# Reading JSON

The strict grammar of JSON with two additions: the words `NaN`, `Infinity` and
`-Infinity` are numbers, and a key may be repeated, in which case its last
value counts.  Integers are read exactly, up to a limit on their length, and
numbers with a fraction or an exponent are rounded to the binary format.  Two
escapes of surrogates that are partners are one character; any other surrogate,
escaped or not, stays alone.  Arrays and objects may stand inside each other as
often as there is room on the stack of whoever reads.  Reading stops at the first
flaw from the left.
-/

namespace BucketAccess.Json

/-- Why a text is not read as JSON. -/
inductive TextFlaw where
  /-- The text does not follow the grammar. -/
  | malformed
  /-- An integer has more digits than are read. -/
  | longInteger
  /-- Arrays and objects stand inside each other too often. -/
  | deepNesting
deriving DecidableEq, Repr

/-- A part that has to be there. -/
def expect {α : Type} : Option α → Except TextFlaw α
  | some part => .ok part
  | none => .error .malformed

/-- The four blanks that JSON allows between its parts. -/
def isGap (char : Char) : Bool :=
  char = ' ' || char = '\t' || char = '\n' || char = '\r'

/-- What follows the blanks at the front. -/
def skipGap (points : List Point) : List Point := points.dropWhile (Point.isCharOf isGap)

/-- Four hexadecimal digits as a number. -/
def hexQuad? (first second third fourth : Char) : Option Nat := do
  let a ← Text.hexValue? first
  let b ← Text.hexValue? second
  let c ← Text.hexValue? third
  let d ← Text.hexValue? fourth
  pure (((a * 16 + b) * 16 + c) * 16 + d)

/-- An escaped unit in front of what has been read, reversed, right behind an
escape that may have opened a pair. -/
def joinUnit (opened : Option Nat) (unit : Nat) (read : List Point) : List Point :=
  match opened.filter fun _ => Text.isLowSurrogate unit with
  | some high => .char (Char.ofNat (Text.pairedCode high unit)) :: read.tail
  | none => Point.ofCode unit :: read

/-- An escaped unit, if it opens a pair. -/
def opening? (unit : Nat) : Option Nat :=
  if Text.isHighSurrogate unit then some unit else none

/-- The character that a letter after a backslash stands for. -/
def unescape? (letter : Char) : Option Char :=
  if letter = '\x22' || letter = '\x5c' || letter = '/' then some letter
  else if letter = 'b' then some '\x08'
  else if letter = 'f' then some '\x0c'
  else if letter = 'n' then some '\n'
  else if letter = 'r' then some '\r'
  else if letter = 't' then some '\t'
  else none

/-- Reads a text after its opening quote, up to and with the closing one.  The
first argument is the unit of the escape right in front, if it opened a pair, and
what has been read stands reversed in the last. -/
def takeText : Option Nat → List Point → List Point → Option (Loose × List Point)
  | _, .char '\x22' :: rest, read => some (Loose.ofPoints read.reverse, rest)
  | opened, .char '\x5c' :: .char 'u' :: .char a :: .char b :: .char c :: .char d :: rest,
      read => do
      let unit ← hexQuad? a b c d
      takeText (opening? unit) rest (joinUnit opened unit read)
  | _, .char '\x5c' :: .char letter :: rest, read => do
      let char ← unescape? letter
      takeText none rest (.char char :: read)
  | _, .char char :: rest, read =>
      if char.toNat < 0x20 || char = '\x5c' then none
      else takeText none rest (.char char :: read)
  | _, .surrogate index :: rest, read => takeText none rest (.surrogate index :: read)
  | _, [], _ => none

/-- The digits at the front, and what follows them. -/
def takeDigits : List Point → List Char × List Point
  | .char char :: rest =>
      if Text.isAsciiDigit char then
        let (digits, rest) := takeDigits rest
        (char :: digits, rest)
      else ([], .char char :: rest)
  | rest => ([], rest)

/-- The part of a number after its whole digits: a point with digits behind it,
if such follow. -/
def takeFraction : List Point → List Char × List Point
  | .char '.' :: rest =>
      match takeDigits rest with
      | ([], _) => ([], .char '.' :: rest)
      | found => found
  | rest => ([], rest)

/-- Splits off the optional sign in front: whether it is a minus, and the rest. -/
def takeSign : List Point → Bool × List Point
  | .char '-' :: rest => (true, rest)
  | .char '+' :: rest => (false, rest)
  | rest => (false, rest)

/-- An exponent mark with an optional sign and digits behind it, if such
follow. -/
def takeExponent? : List Point → Option (Int × List Point)
  | .char mark :: rest =>
      if mark = 'e' || mark = 'E' then
        let (negative, rest) := takeSign rest
        match takeDigits rest with
        | ([], _) => none
        | (digits, rest) => some (Decimal.Binary.signed negative (Text.readDigits digits), rest)
      else none
  | _ => none

/-- The whole digits of a number: a single zero, or digits that do not start
with zero. -/
def takeWhole : List Point → Option (List Char × List Point)
  | .char '0' :: rest => some (['0'], rest)
  | points =>
      match takeDigits points with
      | ([], _) => none
      | found => some found

/-- Reads a number whose sign has been read. -/
def takeNumber (negative : Bool) (points : List Point) :
    Except TextFlaw (Json × List Point) := do
  let (whole, rest) ← expect (takeWhole points)
  let (fraction, afterFraction) := takeFraction rest
  match fraction, takeExponent? afterFraction with
  | [], none =>
      if whole.length ≤ Text.longestNumeral then
        .ok (.int (Decimal.Binary.signed negative (Text.readDigits whole)), rest)
      else .error .longInteger
  | _, found =>
      let (exponent, rest) := found.getD (0, afterFraction)
      let digits := whole ++ fraction
      .ok (.float (Decimal.Binary.ofDecimal negative (Text.readDigits digits)
        digits.length (exponent - fraction.length)), rest)

/-- The words that are values. -/
def wordValues : List (String × Json) :=
  [("null", .null), ("true", .bool true), ("false", .bool false),
   ("NaN", .float .nan), ("Infinity", .float (.infinite false)),
   ("-Infinity", .float (.infinite true))]

/-- A value that has no parts: a word or a number. -/
def takeAtom (points : List Point) : Except TextFlaw (Json × List Point) :=
  match wordValues.findSome? fun entry =>
      ((entry.1.toList.map .char).isPrefixOf? points).map fun rest => (entry.2, rest) with
  | some found => .ok found
  | none =>
      match points with
      | .char '-' :: rest => takeNumber true rest
      | _ => takeNumber false points

mutual

/-- Reads a value at the front, in which arrays and objects may stand inside
each other as often as there is room.  The fuel bounds the number of nested
steps. -/
def takeValue : Nat → Nat → List Point → Except TextFlaw (Json × List Point)
  | 0, _, _ => .error .malformed
  | fuel + 1, room, points =>
      match points, room with
      | .char '\x22' :: rest, _ =>
          (expect (takeText none rest [])).map fun read => (.str read.1, read.2)
      | .char '[' :: _, 0 => .error .deepNesting
      | .char '[' :: rest, room + 1 =>
          match skipGap rest with
          | .char ']' :: rest => .ok (.arr [], rest)
          | rest => (takeItems fuel room rest).map fun read => (.arr read.1, read.2)
      | .char '\x7b' :: _, 0 => .error .deepNesting
      | .char '\x7b' :: rest, room + 1 =>
          match skipGap rest with
          | .char '\x7d' :: rest => .ok (.obj [], rest)
          | rest => (takeEntries fuel room rest).map fun read => (ofEntries read.1, read.2)
      | _, _ => takeAtom points

/-- Reads the items of an array up to and with the closing bracket. -/
def takeItems : Nat → Nat → List Point → Except TextFlaw (List Json × List Point)
  | 0, _, _ => .error .malformed
  | fuel + 1, room, points => do
      let (item, rest) ← takeValue fuel room points
      match skipGap rest with
      | .char ']' :: rest => .ok ([item], rest)
      | .char ',' :: rest =>
          (takeItems fuel room (skipGap rest)).map fun read => (item :: read.1, read.2)
      | _ => .error .malformed

/-- Reads the entries of an object up to and with the closing brace. -/
def takeEntries : Nat → Nat → List Point →
    Except TextFlaw (List (String × Json) × List Point)
  | 0, _, _ => .error .malformed
  | fuel + 1, room, points =>
      match points with
      | .char '\x22' :: rest => do
          let (name, rest) ← expect (takeText none rest [])
          match skipGap rest with
          | .char ':' :: rest => do
              let (value, rest) ← takeValue fuel room (skipGap rest)
              match skipGap rest with
              | .char '\x7d' :: rest => .ok ([(name.guarded, value)], rest)
              | .char ',' :: rest =>
                  (takeEntries fuel room (skipGap rest)).map fun read =>
                    ((name.guarded, value) :: read.1, read.2)
              | _ => .error .malformed
          | _ => .error .malformed
      | _ => .error .malformed

end

/-- Reads points that hold one value and nothing else.  Every step into a value
consumes a point, so twice the length bounds the steps. -/
def read (room : Nat) (points : List Point) : Except TextFlaw Json := do
  let (value, rest) ← takeValue (2 * points.length + 2) room (skipGap points)
  if (skipGap rest).isEmpty then .ok value else .error .malformed

/-- Reads a text as JSON. -/
def ofText (room : Nat) (text : String) : Except TextFlaw Json := read room (text.toList.map .char)

end BucketAccess.Json

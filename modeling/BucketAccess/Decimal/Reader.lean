import BucketAccess.Decimal.Binary
import BucketAccess.Text.Blank
import BucketAccess.Text.DecimalDigit
import BucketAccess.Text.Numeral

/-!
# Reading decimals

The free form in which a setting may give a number: white space around it, an
optional sign, digits of any script with single underscores between them, a
point anywhere but alone, an exponent, or one of the words for the special
values in any case.
-/

namespace BucketAccess.Decimal

/-- A possibly empty run of digits and underscores at the front, and the rest. -/
def takeDigits (chars : List Char) : Option (List Char × List Char) :=
  let inRun := fun char => Text.isAsciiDigit char || char = '_'
  match chars.takeWhile inRun with
  | [] => some ([], chars)
  | run => (Text.ungroup? false run).map (·, chars.dropWhile inRun)

/-- The exponent, which may be missing, and nothing after it. -/
def takeExponent : List Char → Option Int
  | [] => some 0
  | mark :: rest =>
      if mark = 'e' || mark = 'E' then do
        let (negative, rest) := Text.takeSign rest
        let (digits, rest) ← takeDigits rest
        if digits.isEmpty || !rest.isEmpty then none
        else some (Binary.signed negative (Text.readDigits digits))
      else none

/-- A decimal numeral without its sign. -/
def readUnsigned (negative : Bool) (chars : List Char) : Option Binary := do
  let (whole, rest) ← takeDigits chars
  let (fraction, rest) ← match rest with
    | '.' :: rest => takeDigits rest
    | rest => some ([], rest)
  let exponent ← takeExponent rest
  if whole.isEmpty && fraction.isEmpty then none
  else
    let digits := whole ++ fraction
    some (Binary.ofDecimal negative (Text.readDigits digits) digits.length
      (exponent - fraction.length))

/-- A digit of any script as an ASCII digit. -/
def asciiDigit (char : Char) : Char :=
  match Text.decimalDigit? char with
  | some digit => Text.digitChar digit
  | none => char

/-- Reads a number in free form. -/
def readFree (text : String) : Option Binary :=
  let chars := (Text.trimBy Text.isWhiteSpace text.toList).map asciiDigit
  let (negative, unsigned) := Text.takeSign chars
  match String.ofList (unsigned.map Char.toLower) with
  | "nan" => some .nan
  | "inf" => some (.infinite negative)
  | "infinity" => some (.infinite negative)
  | _ => readUnsigned negative unsigned

end BucketAccess.Decimal

import BucketAccess.Text.Token

/-!
# Decimal numerals

Whole numbers in plain decimal: as they are written, with no plus sign, no
leading zeros and no grouping, and the parts of the freer forms in which they
are read.
-/

namespace BucketAccess.Text

/-- The character of a digit below ten. -/
def digitChar (digit : Nat) : Char := Char.ofNat (0x30 + digit)

/-- The value of an ASCII digit. -/
def digitValue (char : Char) : Nat := char.toNat - 0x30

/-- Digits of a number in front of those already written.  The fuel bounds the
number of digits. -/
def digitsOnto : Nat → Nat → List Char → List Char
  | 0, _, written => written
  | fuel + 1, number, written =>
      if number < 10 then digitChar number :: written
      else digitsOnto fuel (number / 10) (digitChar (number % 10) :: written)

/-- The decimal digits of a natural number. -/
def digits (number : Nat) : List Char := digitsOnto (number + 1) number []

/-- The number a run of digits stands for. -/
def readDigits (chars : List Char) : Nat :=
  chars.foldl (fun value char => 10 * value + digitValue char) 0

/-- Splits off the optional sign in front: whether it is a minus, and the
rest. -/
def takeSign : List Char → Bool × List Char
  | '-' :: rest => (true, rest)
  | '+' :: rest => (false, rest)
  | rest => (false, rest)

/-- Digits with single underscores between them, the underscores removed.  The
flag says whether a digit has just been read. -/
def ungroup? : Bool → List Char → Option (List Char)
  | afterDigit, [] => if afterDigit then some [] else none
  | afterDigit, '_' :: rest => if afterDigit then ungroup? false rest else none
  | _, char :: rest =>
      if isAsciiDigit char then (ungroup? true rest).map (char :: ·) else none

/-- The longest run of digits that is read as an integer, or written for one. -/
def longestNumeral : Nat := 4300

/-- The least number that has more digits. -/
@[irreducible]
def leastUnshown : Nat := Nat.pow 10 longestNumeral

theorem pow_le_leastUnshown {exponent : Nat} (hle : exponent ≤ longestNumeral) :
    Nat.pow 10 exponent ≤ leastUnshown := by
  have hmono : ∀ longer, exponent ≤ longer → Nat.pow 10 exponent ≤ Nat.pow 10 longer :=
    fun _ => Nat.pow_le_pow_right (show 10 > 0 by decide)
  unfold leastUnshown
  exact hmono longestNumeral hle

/-- Twenty digits are never too many. -/
theorem lt_leastUnshown {number : Nat} (hnumber : number < 100000000000000000000) :
    number < leastUnshown :=
  have hleast : 100000000000000000000 ≤ leastUnshown :=
    pow_le_leastUnshown (show 20 ≤ longestNumeral by decide)
  Nat.lt_of_lt_of_le hnumber hleast

/-- A natural number as text. -/
def natText (number : Nat) : String := String.ofList (digits number)

/-- An integer as text, with a hyphen in front when it is negative. -/
def intText : Int → String
  | .ofNat number => natText number
  | .negSucc number => "-" ++ natText (number + 1)

/-- Digits with zeros in front up to a given width. -/
def paddedDigits (width number : Nat) : List Char :=
  List.replicate (width - (digits number).length) '0' ++ digits number

/-- A natural number as text of at least a given width. -/
def paddedText (width number : Nat) : String :=
  String.ofList (paddedDigits width number)

/-- A digit in base sixteen, in lower case. -/
def hexDigit (digit : Nat) : Char :=
  if digit < 10 then Char.ofNat (0x30 + digit) else Char.ofNat (0x57 + digit)

/-- The last `width` hexadecimal digits of a number. -/
def hexDigits : Nat → Nat → List Char
  | 0, _ => []
  | width + 1, number => hexDigits width (number / 16) ++ [hexDigit (number % 16)]

/-- The value of a hexadecimal digit of either case. -/
def hexValue? (char : Char) : Option Nat :=
  if isAsciiDigit char then some (char.toNat - 0x30)
  else if 'a' ≤ char && char ≤ 'f' then some (char.toNat - 0x57)
  else if 'A' ≤ char && char ≤ 'F' then some (char.toNat - 0x37)
  else none

example : natText 86400000 = "86400000" := by decide +kernel
example : intText (-1000000) = "-1000000" := by decide +kernel
example : paddedText 2 5 = "05" := by decide +kernel

end BucketAccess.Text

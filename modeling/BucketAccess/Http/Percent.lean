import BucketAccess.Text.Numeral
import BucketAccess.Text.Utf8

/-!
# Percent encoding

Characters that a part of an address cannot carry are sent as their bytes, each in
two hexadecimal digits behind a percent sign.
-/

namespace BucketAccess.Http

def isHexDigit (char : Char) : Bool := (Text.hexValue? char).isSome

/-- The bytes of a character, each in two upper-case hexadecimal digits behind
a percent sign. -/
def percentChar (char : Char) : List Char :=
  (Text.utf8Bytes char.toNat).flatMap fun byte =>
    '%' :: (Text.hexDigits 2 byte.toNat).map Char.toUpper

/-- Percent-encodes the characters that are not safe.  What is encoded already
is left as it is. -/
def percentEncode (safe : Char → Bool) : List Char → List Char
  | '%' :: high :: low :: rest =>
      if isHexDigit high && isHexDigit low then
        '%' :: high :: low :: percentEncode safe rest
      else
        (if safe '%' then ['%'] else percentChar '%') ++ percentEncode safe (high :: low :: rest)
  | char :: rest =>
      (if safe char then [char] else percentChar char) ++ percentEncode safe rest
  | [] => []

/-- The bytes that a percent-encoded text stands for. -/
def percentBytes : List Char → List UInt8
  | '%' :: high :: low :: rest =>
      match Text.hexValue? high, Text.hexValue? low with
      | some a, some b => UInt8.ofNat (a * 16 + b) :: percentBytes rest
      | _, _ => Text.utf8Bytes '%'.toNat ++ percentBytes (high :: low :: rest)
  | char :: rest => Text.utf8Bytes char.toNat ++ percentBytes rest
  | [] => []

/-- The text that a percent-encoded text stands for.  Bytes that are no text are
replaced by a mark. -/
def percentDecode (chars : List Char) : List Char := Text.utf8Replace (percentBytes chars)

end BucketAccess.Http

/-!
# Header tokens

Header grammars are built from tokens: non-empty runs of visible ASCII
characters that are not delimiters.
-/

namespace BucketAccess.Text

/-- An ASCII letter. -/
def isAsciiLetter (char : Char) : Bool :=
  ('a' ≤ char && char ≤ 'z') || ('A' ≤ char && char ≤ 'Z')

/-- An ASCII digit. -/
def isAsciiDigit (char : Char) : Bool :=
  '0' ≤ char && char ≤ '9'

/-- The marks that may stand in a token beside letters and digits. -/
def tokenMarks : List Char := "!#$%&'*+.^_`|~-".toList

/-- A character that may stand in a token. -/
def isTokenChar (char : Char) : Bool :=
  isAsciiLetter char || isAsciiDigit char || tokenMarks.contains char

/-- The longest token at the front and what follows it, if one stands there. -/
def takeToken (chars : List Char) : Option (List Char × List Char) :=
  match chars.takeWhile isTokenChar with
  | [] => none
  | token => some (token, chars.dropWhile isTokenChar)

end BucketAccess.Text

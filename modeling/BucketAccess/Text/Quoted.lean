import BucketAccess.Text.Numeral
import BucketAccess.Text.Printable

/-!
# Quoted text

Messages show a text between quotes.  Single quotes are used unless the text
holds a single quote and no double quote.  The quote in use and the backslash
are escaped, line feed, carriage return and tab have letters of their own, and
every other character that is not printable is written by its code point.
-/

namespace BucketAccess.Text

def singleQuote : Char := '\x27'
def doubleQuote : Char := '\x22'
def backslash : Char := '\x5c'

/-- The quote that stands around a text. -/
def quoteFor (chars : List Char) : Char :=
  if chars.contains singleQuote && !chars.contains doubleQuote then doubleQuote
  else singleQuote

/-- A code point in two, four or eight hexadecimal digits. -/
def escapeCode (code : Nat) : List Char :=
  if code < 0x100 then backslash :: 'x' :: hexDigits 2 code
  else if code < 0x10000 then backslash :: 'u' :: hexDigits 4 code
  else backslash :: 'U' :: hexDigits 8 code

/-- A character as it stands between the given quotes. -/
def escapeChar (quote char : Char) : List Char :=
  if char = quote || char = backslash then [backslash, char]
  else if char = '\n' then [backslash, 'n']
  else if char = '\r' then [backslash, 'r']
  else if char = '\t' then [backslash, 't']
  else if isPrintable char then [char]
  else escapeCode char.toNat

/-- A text between quotes. -/
def quoted (text : String) : String :=
  let quote := quoteFor text.toList
  String.ofList (quote :: text.toList.flatMap (escapeChar quote) ++ [quote])

end BucketAccess.Text

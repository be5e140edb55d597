import BucketAccess.Text.Ranges

/-!
# Blank characters

Two classes of blanks occur in the formats this library reads.  White space is
the Unicode property of that name, 25 characters.  Blanks are the white space
characters together with the four information separators U+001C to U+001F.
-/

namespace BucketAccess.Text

/-- The Unicode white space property. -/
def whiteSpaceRanges : List (Nat × Nat) :=
  [(0x09, 0x0D), (0x20, 0x20), (0x85, 0x85), (0xA0, 0xA0), (0x1680, 0x1680),
   (0x2000, 0x200A), (0x2028, 0x2029), (0x202F, 0x202F), (0x205F, 0x205F),
   (0x3000, 0x3000)]

/-- A white space character. -/
def isWhiteSpace (char : Char) : Bool :=
  inRanges whiteSpaceRanges char.toNat

/-- White space and the information separators. -/
def isBlank (char : Char) : Bool :=
  isWhiteSpace char || (0x1C ≤ char.toNat && char.toNat ≤ 0x1F)

/-- Characters without those of a class at either end. -/
def trimBy (drop : Char → Bool) (chars : List Char) : List Char :=
  (((chars.dropWhile drop).reverse).dropWhile drop).reverse

example : rangesAscend whiteSpaceRanges = true := by decide
example : rangesCount whiteSpaceRanges = 25 := by decide
example : isBlank '\u200b' = false := by decide

end BucketAccess.Text

import BucketAccess.Text.Ranges
import BucketAccess.Unicode.CombiningClass
import BucketAccess.Unicode.Composite

/-!
# Composed text

Texts that differ only in how marks are spelled have one composed form.  To find
it, composites are taken apart, the marks behind each character are put in
order, and what can be put together is put together again.  A text is composed
if this changes nothing.  Texts are given by their code points.
-/

namespace BucketAccess.Unicode

/-- Syllables of Hangul are numbered by their leading, vowel and trailing
parts, of which the last may be missing. -/
def hangulSyllable : Nat := 0xAC00
def hangulLeading : Nat := 0x1100
def hangulVowel : Nat := 0x1161
/-- Stands before the first trailing part, and for none. -/
def hangulNoTrailing : Nat := 0x11A7
def leadingCount : Nat := 19
def vowelCount : Nat := 21
def trailingCount : Nat := 28

/-- The number of a syllable. -/
def syllableIndex? (code : Nat) : Option Nat :=
  if hangulSyllable ≤ code && code < hangulSyllable + leadingCount * vowelCount * trailingCount
  then some (code - hangulSyllable) else none

/-- The pair that a composite stands for. -/
def pairOf? (code : Nat) : Option (Nat × Nat) :=
  match syllableIndex? code with
  | some index =>
      if index % trailingCount = 0 then
        some (hangulLeading + index / trailingCount / vowelCount,
          hangulVowel + index / trailingCount % vowelCount)
      else some (code - index % trailingCount, hangulNoTrailing + index % trailingCount)
  | none => (composites.find? fun entry => entry.1 = code).map (·.2)

/-- The syllable of a pair of parts, or of a syllable and a trailing part. -/
def syllableOf? (first second : Nat) : Option Nat :=
  if hangulLeading ≤ first && first < hangulLeading + leadingCount &&
      hangulVowel ≤ second && second < hangulVowel + vowelCount then
    some (hangulSyllable +
      ((first - hangulLeading) * vowelCount + (second - hangulVowel)) * trailingCount)
  else if hangulNoTrailing < second && second < hangulNoTrailing + trailingCount then
    match syllableIndex? first with
    | some index =>
        if index % trailingCount = 0 then some (first + (second - hangulNoTrailing)) else none
    | none => none
  else none

/-- The composite that stands for a pair. -/
def compositeOf? (first second : Nat) : Option Nat :=
  match syllableOf? first second with
  | some syllable => some syllable
  | none => (composites.find? fun entry => entry.2 = (first, second)).map (·.1)

/-- More than the number of composites that can be nested in one. -/
def maxNesting : Nat := 8

/-- The parts of a code point, none of them a composite.  The fuel bounds the
nesting. -/
def parts : Nat → Nat → List Nat
  | 0, code => [code]
  | fuel + 1, code =>
      match pairOf? code with
      | some (first, second) => parts fuel first ++ parts fuel second
      | none => [code]

/-- Puts a mark in its place among those that follow: behind those of a lower
class. -/
def placeMark (code : Nat) : List Nat → List Nat
  | [] => [code]
  | next :: rest =>
      if 0 < combiningClass next && combiningClass next < combiningClass code then
        next :: placeMark code rest
      else code :: next :: rest

/-- Puts the marks behind each character in order. -/
def orderMarks : List Nat → List Nat
  | [] => []
  | code :: rest => placeMark code (orderMarks rest)

/-- Nothing stands between a base and a code point behind marks that have stayed
apart from the base, the nearest in front. -/
def isFree (apart : List Nat) (code : Nat) : Bool :=
  match apart with
  | last :: _ => combiningClass last < combiningClass code
  | [] => true

/-- Puts code points together onto a base.  The marks that have stayed apart from
it stand reversed in the second argument. -/
def composeOnto (base : Nat) : List Nat → List Nat → List Nat
  | apart, [] => base :: apart.reverse
  | apart, code :: rest =>
      match if isFree apart code then compositeOf? base code else none with
      | some composite => composeOnto composite apart rest
      | none =>
          if combiningClass code = 0 then base :: apart.reverse ++ composeOnto code [] rest
          else composeOnto base (code :: apart) rest

/-- Puts together what can be put together. -/
def compose : List Nat → List Nat
  | [] => []
  | code :: rest => composeOnto code [] rest

/-- The text is its own composed form. -/
def isComposed (codes : List Nat) : Bool :=
  !codes.any (Text.inRanges uncomposedRanges) &&
    compose (orderMarks (codes.flatMap (parts maxNesting))) = codes

example : isComposed [0x65, 0x301] = false := by decide +kernel
example : isComposed [0xE9] = true := by decide +kernel

end BucketAccess.Unicode

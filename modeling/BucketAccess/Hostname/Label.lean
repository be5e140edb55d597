import BucketAccess.Hostname.Permitted
import BucketAccess.Hostname.Punycode
import BucketAccess.Unicode.Composition
import BucketAccess.Unicode.Direction
import BucketAccess.Unicode.Joining
import BucketAccess.Unicode.Mark
import BucketAccess.Unicode.Script

/-!
# Labels

The parts of a host name between its dots.  A label beyond ASCII is sent as the
mark `xn--` followed by ASCII characters.  What a label stands for has to be
composed, must not have hyphens at certain places or start with a mark, holds
permitted characters only, a few of them only beside certain others, and does not
mix writing directions.  Labels are given by their code points, which need not
be characters.
-/

namespace BucketAccess.Hostname

open Unicode (Direction Joining combiningClass direction joining?)

/-- Why a text is no label. -/
inductive LabelFlaw where
  | malformed
  /-- A character that no label may hold. -/
  | character
  /-- A character that may not stand where it does. -/
  | context
  /-- Writing directions that do not go together. -/
  | direction
deriving DecidableEq, Repr

def hyphen : Nat := 0x2D
def middleDot : Nat := 0xB7
def smallL : Nat := 0x6C
def greekNumeralSign : Nat := 0x375
def hebrewMarks : List Nat := [0x5F3, 0x5F4]
def katakanaDot : Nat := 0x30FB
def nonJoiner : Nat := 0x200C
def joiner : Nat := 0x200D

/-- The digits of the two Arabic series. -/
def isArabicDigit (code : Nat) : Bool := 0x660 ≤ code && code ≤ 0x669
def isExtendedDigit (code : Nat) : Bool := 0x6F0 ≤ code && code ≤ 0x6F9

/-- The nearest of some code points that is not transparent joins in one of the
given ways. -/
def meetsJoining (ways : List Joining) (codes : List Nat) : Bool :=
  match codes.dropWhile fun code => joining? code = some .transparent with
  | code :: _ => ways.any fun way => joining? code = some way
  | [] => false

/-- An invisible joiner may stand behind a sign that takes a vowel away, and one
that keeps letters apart also between letters that would join.  The code points
before it are given from the nearest on. -/
def joinerFits (before : List Nat) (code : Nat) (after : List Nat) : Bool :=
  match before with
  | [] => false
  | last :: _ =>
      if combiningClass last = Unicode.viramaClass then true
      else if combiningClass last = 0 && Text.inRanges unnamedRanges last then false
      else
        code = nonJoiner && meetsJoining [.left, .both] before &&
          meetsJoining [.right, .both] after

/-- Characters that may stand only beside certain others, with the rule of each:
the answer is none for other characters.  The code points before it are given
from the nearest on. -/
def contextFits? (before : List Nat) (code : Nat) (after : List Nat) : Option Bool :=
  if code = middleDot then some (before.head? = some smallL && after.head? = some smallL)
  else if code = greekNumeralSign then some (after.head?.any (Text.inRanges Unicode.greekRanges))
  else if hebrewMarks.contains code then
    some (before.head?.any (Text.inRanges Unicode.hebrewRanges))
  else if code = katakanaDot then
    some ((before ++ after).any fun other =>
      other ≠ katakanaDot && Text.inRanges Unicode.japaneseRanges other)
  else if isArabicDigit code then some (!(before ++ after).any isExtendedDigit)
  else if isExtendedDigit code then some (!(before ++ after).any isArabicDigit)
  else none

/-- What is wrong with a code point where it stands. -/
def codeFlaw? (before : List Nat) (code : Nat) (after : List Nat) : Option LabelFlaw :=
  if isPermitted code then none
  else if code = nonJoiner || code = joiner then
    if joinerFits before code after then none else some .malformed
  else
    match contextFits? before code after with
    | some fits => if fits then none else some .context
    | none => some .character

/-- The first flaw of a code point.  Those already passed stand reversed in the
first argument. -/
def codesFlaw? : List Nat → List Nat → Option LabelFlaw
  | _, [] => none
  | before, code :: after =>
      match codeFlaw? before code after with
      | some flaw => some flaw
      | none => codesFlaw? (code :: before) after

/-- Written from right to left, or a number within such text. -/
def isRightward : Direction → Bool
  | .rightToLeft | .arabicLetter | .arabicNumber => true
  | _ => false

/-- May be the last character of a text from right to left, marks apart. -/
def endsRightward : Direction → Bool
  | .rightToLeft | .arabicLetter | .arabicNumber | .europeanNumber => true
  | _ => false

/-- Directions that go together.  Where something is written from right to left,
the first character is a letter of that direction, none is a letter of the other,
the last one that is no mark is a letter or a number, and the numbers are of one
series. -/
def directionsFit (directions : List Direction) : Bool :=
  !directions.contains .unknown &&
    (!directions.any isRightward ||
      ((directions.head? = some .rightToLeft || directions.head? = some .arabicLetter) &&
        !directions.contains .leftToRight &&
        ((directions.reverse.dropWhile (· = .mark)).head?.any endsRightward) &&
        !(directions.contains .arabicNumber && directions.contains .europeanNumber)))

/-- The longest text that is looked into. -/
def maxNameLength : Nat := 254

/-- What is wrong with what a label stands for. -/
def labelFlaw? (codes : List Nat) : Option LabelFlaw :=
  if codes.isEmpty || maxNameLength < codes.length || !Unicode.isComposed codes ||
      (codes.drop 2).take 2 = [hyphen, hyphen] ||
      codes.head? = some hyphen || codes.getLast? = some hyphen ||
      codes.head?.any Unicode.isMark then
    some .malformed
  else
    match codesFlaw? [] codes with
    | some flaw => some flaw
    | none => if directionsFit (codes.map direction) then none else some .direction

/-- The mark in front of a label that stands for one beyond ASCII. -/
def encodedMark : List Char := "xn--".toList

/-- What is wrong with a label of ASCII characters in lower case. -/
def sentFlaw? (label : List Char) : Option LabelFlaw :=
  match encodedMark.isPrefixOf? label with
  | none => labelFlaw? (label.map Char.toNat)
  | some encoded =>
      if encoded.isEmpty || encoded.getLast? = some '-' then some .malformed
      else
        match punyDecode encoded with
        | some codes => labelFlaw? codes
        | none => some .malformed

/-- The longest label as it is sent. -/
def maxLabelLength : Nat := 63

def isAscii (chars : List Char) : Bool := chars.all fun char => char.toNat < 0x80

/-- A label as it is sent. -/
def encodeLabel (label : List Char) : Except LabelFlaw (List Char) :=
  let (flaw, sent) :=
    if isAscii label then (sentFlaw? label, label)
    else
      let codes := label.map Char.toNat
      (labelFlaw? codes, encodedMark ++ punyEncode codes)
  match flaw with
  | some flaw => .error flaw
  | none => if maxLabelLength < sent.length then .error .malformed else .ok sent

end BucketAccess.Hostname

import BucketAccess.Console.Color
import BucketAccess.Text.Blank
import BucketAccess.Unicode.Lowercase

/-!
# Styles

A style is written as words: traits, some of which have a short form, `not` in
front of a trait, a colour, `on` in front of a colour of the ground, and `link`
in front of an address.  Two texts that name the same style have the
same normal form, in which the words stand in a fixed order.  A text that names
no style is its own normal form, up to case and blanks around it.  Reading
stops at the first word that fits nowhere.
-/

namespace BucketAccess.Console

/-- A trait of the letters, beside their colour. -/
inductive Trait where
  | bold
  | dim
  | italic
  | underline
  | blink
  | blink2
  | reverse
  | conceal
  | strike
  | underline2
  | frame
  | encircle
  | overline
deriving DecidableEq, Repr

namespace Trait

/-- The traits in the order of a normal form. -/
def all : List Trait :=
  [bold, dim, italic, underline, blink, blink2, reverse, conceal, strike, underline2, frame,
   encircle, overline]

def name : Trait → String
  | bold => "bold"
  | dim => "dim"
  | italic => "italic"
  | underline => "underline"
  | blink => "blink"
  | blink2 => "blink2"
  | reverse => "reverse"
  | conceal => "conceal"
  | strike => "strike"
  | underline2 => "underline2"
  | frame => "frame"
  | encircle => "encircle"
  | overline => "overline"

/-- The short form, if there is one. -/
def shortName? : Trait → Option String
  | bold => some "b"
  | dim => some "d"
  | italic => some "i"
  | underline => some "u"
  | reverse => some "r"
  | conceal => some "c"
  | strike => some "s"
  | underline2 => some "uu"
  | overline => some "o"
  | _ => none

/-- The trait that a word names. -/
def ofWord? (word : List Char) : Option Trait :=
  let text := String.ofList word
  all.find? fun trait => trait.name = text || trait.shortName? = some text

end Trait

/-- A style, as far as it says anything. -/
structure Style where
  /-- Traits that are set or cleared; the latest entry of one counts. -/
  traits : List (Trait × Bool) := []
  color : Option (List Char) := none
  ground : Option (List Char) := none
  link : Option (List Char) := none
deriving DecidableEq, Repr

/-- The words of a text, in order. -/
def wordsOf (chars : List Char) : List (List Char) :=
  (chars.splitOnP Text.isBlank).filter fun word => !word.isEmpty

/-- Why a text is not read as a style. -/
inductive StyleFlaw where
  /-- A word fits nowhere, or one is missing. -/
  | unknownWord
  /-- A shade of a colour cannot be read. -/
  | unreadShade
deriving DecidableEq, Repr

/-- The colour that a word names. -/
def readColor (word : List Char) : Except StyleFlaw (List Char) :=
  match colorWord word with
  | .color => .ok word
  | .unknown => .error .unknownWord
  | .unreadShade => .error .unreadShade

namespace Style

/-- Reads the words of a style on top of one already read. -/
def readOnto : Style → List (List Char) → Except StyleFlaw Style
  | style, [] => .ok style
  | style, first :: rest =>
      let word := Unicode.lowercase first
      if word = "on".toList then
        match rest with
        | ground :: rest =>
            match readColor (Unicode.lowercase ground) with
            | .ok ground => readOnto { style with ground := some ground } rest
            | .error flaw => .error flaw
        | [] => .error .unknownWord
      else if word = "not".toList then
        match rest with
        | name :: rest =>
            match Trait.ofWord? name with
            | some trait =>
                readOnto { style with traits := (trait, false) :: style.traits } rest
            | none => .error .unknownWord
        | [] => .error .unknownWord
      else if word = "link".toList then
        match rest with
        | address :: rest => readOnto { style with link := some address } rest
        | [] => .error .unknownWord
      else
        match Trait.ofWord? word with
        | some trait =>
            readOnto { style with traits := (trait, true) :: style.traits } rest
        | none =>
            match readColor word with
            | .ok color => readOnto { style with color := some color } rest
            | .error flaw => .error flaw

/-- The style that a text names. -/
def read (chars : List Char) : Except StyleFlaw Style :=
  if Text.trimBy Text.isBlank chars = "none".toList then .ok {}
  else readOnto {} (wordsOf chars)

/-- The words of a style in the fixed order. -/
def words (style : Style) : List (List Char) :=
  (Trait.all.flatMap fun trait =>
    match style.traits.find? fun entry => entry.1 = trait with
    | some (_, true) => [trait.name.toList]
    | some (_, false) => ["not".toList, trait.name.toList]
    | none => []) ++
  style.color.toList ++
  (match style.ground with
    | some ground => ["on".toList, ground]
    | none => []) ++
  (match style.link with
    | some link => ["link".toList, link]
    | none => [])

/-- The words with blanks between them, or a word for no style at all. -/
def text (style : Style) : List Char :=
  match style.words with
  | [] => "none".toList
  | words => (words.intersperse [' ']).flatten

end Style

/-- The normal form of a text that may name a style, unless a shade in it cannot
be read. -/
def normalName? (chars : List Char) : Option (List Char) :=
  match Style.read chars with
  | .ok style => some style.text
  | .error .unknownWord => some (Unicode.lowercase (Text.trimBy Text.isBlank chars))
  | .error .unreadShade => none

end BucketAccess.Console

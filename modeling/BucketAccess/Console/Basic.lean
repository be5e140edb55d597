import BucketAccess.Console.Emoji
import BucketAccess.Console.Layout
import BucketAccess.Console.Markup

/-!
# Consoles

What is printed depends on the console it is printed on: how many cells its
lines have, and which pictures it knows by name.  A console can write every
text.
-/

namespace BucketAccess

/-- A console, by the cells of a line and by the pictures that names in lower
case stand for.  No picture is plain ASCII. -/
structure Console where
  width : Nat
  emoji? : List Char → Option (List Char)
  not_ascii : ∀ name picture, emoji? name = some picture →
    ∃ char ∈ picture, 0x7F < char.toNat

namespace Console

/-- A console that knows no pictures. -/
def withoutPictures (width : Nat) : Console where
  width := width
  emoji? _ := none
  not_ascii _ _ hpicture := by cases hpicture

/-- Bells, backspaces, vertical tabs, form feeds and carriage returns are not
shown. -/
def isShown (char : Char) : Bool :=
  !(char = '\x07' || char = '\x08' || char = '\x0b' || char = '\x0c' || char = '\x0d')

/-- What a console shows of runs, in one row. -/
def shown (console : Console) (runs : List (List Char)) : List Char :=
  (runs.flatMap (replaceCodes console.emoji?)).filter isShown

/-- The lines in which a console shows runs. -/
def lines (console : Console) (runs : List (List Char)) : List String :=
  (layOut console.width (console.shown runs)).map String.ofList

end Console

end BucketAccess

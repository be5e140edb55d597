import BucketAccess.Decimal.Layout
import BucketAccess.Json.Value

/-!
# Values in messages

A message that refuses a value shows it: texts quoted, arrays and objects in
brackets and braces with a comma and a blank between entries, and `None`,
`True` and `False` for the three constants.
-/

namespace BucketAccess.Json

mutual

/-- A value as a message shows it. -/
def display : Json → String
  | .null => "None"
  | .bool true => "True"
  | .bool false => "False"
  | .int value => Text.intText value
  | .float value => value.text
  | .str value => value.quoted
  | .arr items => "[" ++ displayItems items ++ "]"
  | .obj fields => "\x7b" ++ displayFields fields ++ "\x7d"

def displayItems : List Json → String
  | [] => ""
  | [item] => display item
  | item :: items => display item ++ ", " ++ displayItems items

def displayFields : List (String × Json) → String
  | [] => ""
  | [(name, value)] => (Loose.ofGuarded name).quoted ++ ": " ++ display value
  | (name, value) :: fields =>
      (Loose.ofGuarded name).quoted ++ ": " ++ display value ++ ", " ++ displayFields fields

end

/-- A value as plain text: a text is itself, anything else as in a message. -/
def plainText : Json → Loose
  | .str value => value
  | value => display value

/-- Why a value cannot be shown. -/
inductive Unshown where
  /-- An integer of too many digits. -/
  | longInteger
  /-- The value is nested beyond the room that is left. -/
  | deepNesting
deriving DecidableEq, Repr

/-- What is said of an integer of too many digits. -/
def longIntegerText : String :=
  "Exceeds the limit (" ++ Text.natText Text.longestNumeral ++
    " digits) for integer string conversion; use sys.set_int_max_str_digits() to increase the limit"

mutual

/-- What keeps a value from being shown, the first from the left.  The room is
how many values fit inside each other, none if it never runs out. -/
def unshown? : Option Nat → Json → Option Unshown
  | some 0, _ => some .deepNesting
  | _, .int value =>
      if Text.leastUnshown ≤ value.natAbs then some .longInteger else none
  | room, .arr items => unshownItem? (room.map Nat.pred) items
  | room, .obj fields => unshownField? (room.map Nat.pred) fields
  | _, _ => none

def unshownItem? : Option Nat → List Json → Option Unshown
  | _, [] => none
  | room, item :: items => (unshown? room item).or (unshownItem? room items)

def unshownField? : Option Nat → List (String × Json) → Option Unshown
  | _, [] => none
  | room, (_, value) :: fields => (unshown? room value).or (unshownField? room fields)

end

/-- The word for the kind of a value. -/
def kindName : Json → String
  | .null => "NoneType"
  | .bool _ => "bool"
  | .int _ => "int"
  | .float _ => "float"
  | .str _ => "str"
  | .arr _ => "list"
  | .obj _ => "dict"

end BucketAccess.Json

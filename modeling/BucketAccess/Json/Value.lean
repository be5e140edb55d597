import BucketAccess.Decimal.Binary
import BucketAccess.Text.Loose

/-!
# JSON values

Integers of any size are kept apart from numbers with a fraction or an
exponent, and the fields of an object keep the order in which their keys first
arrived.  A text may hold surrogates; a key is kept behind guards, which changes
none that is ever looked up.
-/

namespace BucketAccess

/-- A value. -/
inductive Json where
  | null
  | bool (value : Bool)
  | int (value : Int)
  | float (value : Decimal.Binary)
  | str (value : Loose)
  | arr (items : List Json)
  | obj (fields : List (String × Json))
deriving Inhabited, Repr

namespace Json

/-- The value of a key in a list of fields. -/
def lookup {α : Type} (name : String) (fields : List (String × α)) : Option α :=
  (fields.find? fun field => field.1 = name).map (·.2)

/-- Sets a field.  A new key goes to the end, a present one keeps its place. -/
def setField (name : String) (value : Json) : List (String × Json) → List (String × Json)
  | [] => [(name, value)]
  | field :: fields =>
      if field.1 = name then (name, value) :: fields
      else field :: setField name value fields

/-- Builds an object from entries in the order in which they were written. -/
def ofEntries (entries : List (String × Json)) : Json :=
  .obj (entries.foldl (fun fields entry => setField entry.1 entry.2 fields) [])

/-- The value of a key, when the value is an object that has it. -/
def field? (name : String) : Json → Option Json
  | .obj fields => lookup name fields
  | _ => none

/-- What one meets in going through a value: the items of an array, the
characters of a text, the keys of an object. -/
def items? : Json → Option (List Json)
  | .arr items => some items
  | .str text => some (text.points.map fun point => .str point.alone)
  | .obj fields => some (fields.map fun field => .str field.1)
  | _ => none

/-- A value is given, that is, it is not null. -/
def isGiven : Json → Bool
  | .null => false
  | _ => true

/-- A value that says nothing: null, false, zero, or empty. -/
def isVoid : Json → Bool
  | .null => true
  | .bool value => !value
  | .int value => value = 0
  | .float value => value.toInt? = some 0
  | .str text => text.isEmpty
  | .arr items => items.isEmpty
  | .obj fields => fields.isEmpty

/-- A truth value counts as a number, zero or one. -/
def ofBit (value : Bool) : Int := if value then 1 else 0

/-- Equality of an integer with a number in binary format. -/
def sameAsInt (number : Int) (value : Decimal.Binary) : Bool :=
  value.toInt? = some number

mutual

/-- Equality of values as values: numbers are compared by size whatever form
they have, and the order of fields does not matter. -/
def equal : Json → Json → Bool
  | .null, .null => true
  | .bool left, .bool right => left = right
  | .bool left, .int right => ofBit left = right
  | .int left, .bool right => left = ofBit right
  | .int left, .int right => left = right
  | .bool left, .float right => sameAsInt (ofBit left) right
  | .float left, .bool right => sameAsInt (ofBit right) left
  | .int left, .float right => sameAsInt left right
  | .float left, .int right => sameAsInt right left
  | .float left, .float right => left.sameNumber right
  | .str left, .str right => left = right
  | .arr left, .arr right => equalItems left right
  | .obj left, .obj right => left.length = right.length && fieldsWithin left right
  | _, _ => false

def equalItems : List Json → List Json → Bool
  | [], [] => true
  | left :: lefts, right :: rights => equal left right && equalItems lefts rights
  | _, _ => false

/-- Each field on the left has an equal one of the same key on the right. -/
def fieldsWithin : List (String × Json) → List (String × Json) → Bool
  | [], _ => true
  | (name, left) :: lefts, rights =>
      (match lookup name rights with
        | some right => equal left right
        | none => false) && fieldsWithin lefts rights

end

mutual

/-- Every value that has no parts, and stands in this one, passes a check. -/
def every (check : Json → Bool) : Json → Bool
  | .arr items => everyItem check items
  | .obj fields => everyField check fields
  | value => check value

def everyItem (check : Json → Bool) : List Json → Bool
  | [] => true
  | item :: items => every check item && everyItem check items

def everyField (check : Json → Bool) : List (String × Json) → Bool
  | [] => true
  | (_, value) :: fields => every check value && everyField check fields

end

/-- No integer in the value has more digits than are read. -/
def isReadable : Json → Bool :=
  every fun
    | .int value => value.natAbs < Text.leastUnshown
    | _ => true

/-- No number in the value is infinite or NaN, or has more digits than are written,
so JSON can write it. -/
def isWritable : Json → Bool :=
  every fun
    | .int value => value.natAbs < Text.leastUnshown
    | .float (.infinite _) => false
    | .float .nan => false
    | _ => true

/-- No text in the value is broken, so an encoding can carry it. -/
def isWhole : Json → Bool :=
  every fun
    | .str text => text.isWhole
    | _ => true

end Json

end BucketAccess

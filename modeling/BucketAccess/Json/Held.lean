import BucketAccess.Json.Decoding
import BucketAccess.Secret

/-!
# Values that are held

A record that has been decoded holds values of its own beside those of JSON:
capabilities, moments and secrets.  Its fields can be decoded once more, now under
their plain names.  A value that is already what a field should hold is kept as it
is; a value of JSON is decoded as it would be in a body.
-/

namespace BucketAccess

/-- A value that a field of a record holds. -/
inductive Held where
  | plain (value : Json)
  | capabilities (members : List Capability)
  | moment (moment : Calendar.Moment)
  | secret (secret : Secret)

namespace Held

variable {α : Type}

/-- A text, which is never held in any form but its own. -/
def readText : Held → Checked Loose
  | .plain value => Json.readText value
  | _ => .flaw .notText

/-- Capabilities, or their names. -/
def readCapabilities : Held → Checked (List Capability)
  | .plain value => Json.readList Json.readCapability value
  | .capabilities decoded => .sound decoded
  | _ => .flaw .notList

/-- Texts.  A capability is the text of its name. -/
def readTexts : Held → Checked (List Loose)
  | .plain value => Json.readList Json.readText value
  | .capabilities decoded => .sound (decoded.map fun capability => capability.name)
  | _ => .flaw .notList

/-- A moment, or a number or a text that stands for one. -/
def readMoment : Held → Checked Calendar.Moment
  | .plain value => Json.readMoment value
  | .moment decoded => .sound decoded
  | _ => .flaw .notMoment

/-- Null for none, else what the given reading makes of the value. -/
def readNullable (reading : Held → Checked α) : Held → Checked (Option α)
  | .plain .null => .sound none
  | value => (reading value).map some

/-- A field that may be absent or null. -/
def optional (name : Json.FieldName) (reading : Held → Checked α)
    (fields : List (String × Held)) : Checked (Option α) :=
  match name.find? fields with
  | some (key, value) => (readNullable reading value).within (.key key)
  | none => .sound none

/-- The value of an optional field: null when there is none. -/
def ofOption (hold : α → Held) : Option α → Held
  | some value => hold value
  | none => .plain .null

/-- The fields of a body as they are held before they are decoded. -/
def ofFields (fields : List (String × Json)) : List (String × Held) :=
  fields.map fun field => (field.1, .plain field.2)

end Held

end BucketAccess

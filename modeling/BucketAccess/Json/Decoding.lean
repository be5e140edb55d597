import BucketAccess.Calendar.Reader
import BucketAccess.Checked
import BucketAccess.Duration
import BucketAccess.Text.Blank

/-!
# Decoding values

Readers of the values that occur in records, and of the fields of an object.
A field is looked up under its wire name and, if that is absent, under its
plain name; a value that is present counts even when it is wrong.  Unknown
fields are ignored.
-/

namespace BucketAccess.Json

/-- A way to decode a value. -/
abbrev Reading (α : Type) := Json → Checked α

/-- A text as it is. -/
def readText : Reading Loose
  | .str text => .sound text
  | _ => .flaw .notText

/-- Null for none, else what the given reading makes of the value. -/
def readNullable {α : Type} (reading : Reading α) : Reading (Option α)
  | .null => .sound none
  | value => (reading value).map some

/-- Reads items in order, numbering them from `position`. -/
def readItems {α : Type} (reading : Reading α) : Nat → List Json → Checked (List α)
  | _, [] => .sound []
  | position, item :: items =>
      List.cons <$> (reading item).within (.index position) <*>
        readItems reading (position + 1) items

/-- All items of an array. -/
def readList {α : Type} (reading : Reading α) : Reading (List α)
  | .arr items => readItems reading 0 items
  | _ => .flaw .notList

/-- What is read of a text that stands for another value.  No broken text does. -/
def readWhole {α : Type} (reading : String → Checked α) : Loose → Checked α
  | .whole text => reading text
  | .broken .. => .flaw .brokenText

/-- A capability by its exact name. -/
def readCapability : Reading Capability
  | .str text =>
      readWhole (fun name =>
        match Capability.ofName? name with
        | some capability => .sound capability
        | none => .flaw .unknownCapability) text
  | _ => .flaw .unknownCapability

/-- Whole digits without a fraction of zeros, which may follow a point. -/
def dropZeroFraction? (chars : List Char) : Option (List Char) :=
  match chars.takeWhile (· ≠ '.'), chars.dropWhile (· ≠ '.') with
  | whole, [] => some whole
  | whole, _ :: fraction =>
      if fraction.isEmpty || !fraction.all (· = '0') then none else some whole

/-- An integer numeral as its sign and digits: white space around it, an
optional sign, digits that may be grouped by underscores, and no fraction but
zeros. -/
def integerNumeral? (text : String) : Option (Bool × List Char) := do
  let (negative, rest) := Text.takeSign (Text.trimBy Text.isWhiteSpace text.toList)
  let whole ← dropZeroFraction? rest
  let digits ← Text.ungroup? false whole
  pure (negative, digits)

/-- Reads an integer from a text. -/
def readIntegerText (text : String) : Checked Int :=
  match integerNumeral? text with
  | none => .flaw .integerText
  | some (negative, digits) =>
      if digits.length ≤ Text.longestNumeral then
        .sound (Decimal.Binary.signed negative (Text.readDigits digits))
      else .flaw .integerSize

/-- Numbers in binary format become integers strictly within 64 signed bits. -/
def fitsWord (number : Int) : Bool :=
  -9223372036854775808 < number && number < 9223372036854775808

/-- An integer: as it is, from a truth value, from a number without a fraction,
or from a text. -/
def readInteger : Reading Int
  | .int value => .sound value
  | .bool value => .sound (ofBit value)
  | .float value =>
      match value with
      | .finite .. =>
          match value.toInt? with
          | none => .flaw .integerFraction
          | some number => if fitsWord number then .sound number else .flaw .integerSize
      | _ => .flaw .integerInfinite
  | .str text => readWhole readIntegerText text
  | _ => .flaw .notInteger

/-- The flaw of a value that stands for no moment. -/
def momentFlaw : Calendar.MomentFault → Flaw
  | .outOfRange => .momentRange
  | .malformed => .momentText

/-- The result of reading a moment. -/
def ofMoment : Except Calendar.MomentFault Calendar.Moment → Checked Calendar.Moment
  | .ok moment => .sound moment
  | .error fault => .flaw (momentFlaw fault)

/-- A moment given as a number or as a text. -/
def readMoment : Reading Calendar.Moment
  | .int value => ofMoment (Calendar.Moment.ofInt value)
  | .float value => ofMoment (Calendar.Moment.ofBinary value)
  | .str text => readWhole (fun text => ofMoment (Calendar.Moment.ofText text)) text
  | _ => .flaw .notMoment

/-- A duration given as a count on the wire. -/
def readDuration (room : Nat) : Reading Duration := fun value =>
  match Duration.ofWire room .wire value with
  | .ok duration => .sound duration
  | .error flaw => .flaw flaw.flaw

/-- The names of a field: on the wire, and plain, if it may be given so. -/
structure FieldName where
  wire : String
  plain : Option String
deriving DecidableEq, Repr

/-- The name that the record itself has for a field. -/
def FieldName.own (name : FieldName) : String := name.plain.getD name.wire

/-- The value given for a field, with the name it was given under. -/
def FieldName.find? {ν : Type} (name : FieldName) (fields : List (String × ν)) :
    Option (String × ν) :=
  match lookup name.wire fields with
  | some value => some (name.wire, value)
  | none => name.plain.bind fun plain => (lookup plain fields).map (plain, ·)

/-- A field that has to be there. -/
def required {ν α : Type} (name : FieldName) (reading : ν → Checked α)
    (fields : List (String × ν)) : Checked α :=
  match name.find? fields with
  | some (key, value) => (reading value).within (.key key)
  | none => .flawed [⟨.missing, [.key name.wire]⟩]

/-- A field that may be absent or null. -/
def optional {α : Type} (name : FieldName) (reading : Reading α)
    (fields : List (String × Json)) : Checked (Option α) :=
  match name.find? fields with
  | some (key, value) => (readNullable reading value).within (.key key)
  | none => .sound none

/-- A value that was handed in for a field without being looked into. -/
def readGiven {α : Type} (name : String) (reading : Reading α) (value : Json) : Checked α :=
  (reading value).within (.key name)

/-- A record is read from the fields of an object. -/
def readObject {α : Type} (record : List (String × Json) → Checked α) : Reading α
  | .obj fields => record fields
  | _ => .flaw .notObject

/-- The entry of a field that is set. -/
def entry {α : Type} (name : FieldName) (write : α → Json) : Option α → List (String × Json)
  | some value => [(name.wire, write value)]
  | none => []

end BucketAccess.Json

import BucketAccess.Fault
import BucketAccess.Json.Decoding

/-!
# Answers

The body of a response is either the record that the call promises or a
refusal, and carries no tag that says which.  It is read as the promised record
first, and as a refusal only when that fails; a body that is both counts as the
record.
-/

namespace BucketAccess

/-- A value that was handed in and has to be sound.  What is nested too deeply to
be shown ends the check. -/
def Checked.orIllFormed {α : Type} : Checked α → Except Fault α
  | .sound value => .ok value
  | .flawed problems =>
      .error (if problems.any Problem.isTooDeep then .tooDeep else .illFormed problems)

namespace Refusal

def codeField : Json.FieldName := ⟨"code", none⟩
def statusField : Json.FieldName := ⟨"status", none⟩
def messageField : Json.FieldName := ⟨"message", none⟩

/-- A refusal is read under its wire names alone. -/
def ofFields (fields : List (String × Json)) : Checked Refusal :=
  Refusal.mk <$> Json.required codeField Json.readText fields
    <*> Json.required statusField Json.readInteger fields
    <*> Json.required messageField Json.readText fields

/-- A refusal needs all three of its fields. -/
def reading : Json.Reading Refusal := Json.readObject ofFields

/-- The fault of a refusal.  What is said of it shows its status, and a status of
too many digits cannot be shown. -/
def fault (refusal : Refusal) : Fault :=
  if refusal.status.natAbs < Text.leastUnshown then .refused refusal else .badValue

end Refusal

/-- A kind of record that a call promises: its name and how it is read. -/
structure RecordKind (α : Type) where
  name : String
  reading : Json.Reading α

/-- What a body turned out to be. -/
inductive Answer (α : Type) where
  | record (value : α)
  | refusal (refusal : Refusal)

namespace RecordKind

variable {α : Type}

/-- Reads a body as the promised record, else as a refusal.  When it is
neither, the problems reported are those of the record.  What is nested too deeply
to be shown ends the reading. -/
def parse (kind : RecordKind α) (body : Json) : Except Fault (Answer α) :=
  match kind.reading body with
  | .sound value => .ok (.record value)
  | .flawed problems =>
      if problems.any Problem.isTooDeep then .error .tooDeep
      else
        match Refusal.reading body with
        | .sound refusal => .ok (.refusal refusal)
        | .flawed _ => .error (.unexpected kind.name problems)

/-- As `parse`, but a refusal is a fault. -/
def decode (kind : RecordKind α) (body : Json) : Except Fault α :=
  match kind.parse body with
  | .ok (.record value) => .ok value
  | .ok (.refusal refusal) => .error refusal.fault
  | .error fault => .error fault

/-- Reads a value that the caller vouches for as the record. -/
def ofValue (kind : RecordKind α) (value : Json) : Except Fault α :=
  (kind.reading value).orIllFormed

end RecordKind

/-- The record of a refusal, for a caller who expects one. -/
def Refusal.kind : RecordKind Refusal := ⟨"B2ErrorResponse", Refusal.reading⟩

/-- The fault of a body that can only be a refusal. -/
def Refusal.faultOf (body : Json) : Fault :=
  match Refusal.kind.decode body with
  | .ok refusal => refusal.fault
  | .error fault => fault

end BucketAccess

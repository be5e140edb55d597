import BucketAccess.Key.Request

/-!
# Drafts of a key

A request for a key is drafted step by step.  Each setting checks its own value
and gives a new draft; what concerns more than one setting is checked when the
request is built.  A bucket and a prefix of names are kept as they were given,
null meaning none, and have to be texts when the request is built.
-/

namespace BucketAccess

/-- The settings made so far. -/
structure KeyDraft where
  name : String
  capabilities : Option (List Capability)
  duration : Option Duration
  bucketId : Json
  namePrefix : Json
deriving Repr

/-- The longest name of a key, in characters. -/
def maxKeyNameLength : Nat := 100

/-- The shortest time a key may last: one second. -/
def minKeyDuration : Duration := .second

/-- A key has to last less than this: a thousand days. -/
def endKeyDuration : Duration := ⟨⟨86400000000000, by decide, by decide⟩, by decide⟩

/-- Letters and digits of ASCII and the hyphen. -/
def isKeyNameChar (char : Char) : Bool :=
  Text.isAsciiLetter char || Text.isAsciiDigit char || char = '-'

/-- The first rule that a name of a key breaks: its length, then its first
character that may not stand in one. -/
def keyNameViolation? (name : String) : Option Violation :=
  if maxKeyNameLength < name.length then some (.keyNameTooLong maxKeyNameLength)
  else (name.toList.find? fun char => !isKeyNameChar char).map .keyNameCharacter

/-- A name that a key may have. -/
def checkKeyName (name : String) : Except Fault String :=
  match keyNameViolation? name with
  | some violation => .error (.violation violation)
  | none => .ok name

/-- The capabilities that values name, or the first value that names none. -/
def capabilitiesOf : List Json → Except Violation (List Capability)
  | [] => .ok []
  | value :: values =>
      match Capability.ofJson? value with
      | none => .error (.unknownCapability value)
      | some capability => (capabilitiesOf values).map (capability :: ·)

/-- A duration that a key may last. -/
def checkKeyDuration (span : Span) : Except Violation Duration := do
  let duration ← Duration.ofSpan span
  if endKeyDuration ≤ duration then .error .keyLastsTooLong
  else if duration < minKeyDuration then .error .keyLastsTooShort
  else .ok duration

/-- One step in drafting a key. -/
inductive KeySetting where
  | capabilities (values : Json)
  | duration (span : Span)
  | bucketId (value : Json)
  | namePrefix (value : Json)

namespace KeyDraft

/-- The draft of a key with a name and nothing else. -/
def named (name : String) : Except Fault KeyDraft :=
  (checkKeyName name).map fun name => ⟨name, none, none, .null, .null⟩

/-- Sets the capabilities, of which at least one is required. -/
def withCapabilities (values : Json) (draft : KeyDraft) : Except Fault KeyDraft :=
  match values.items? with
  | none => .error .wrongKind
  | some items =>
      match capabilitiesOf items with
      | .error violation => .error (.violation violation)
      | .ok [] => .error (.violation .emptyCapabilities)
      | .ok capabilities => .ok { draft with capabilities := some capabilities }

/-- Makes the key expire this long after it is created. -/
def expiringAfter (span : Span) (draft : KeyDraft) : Except Fault KeyDraft :=
  match checkKeyDuration span with
  | .error violation => .error (.violation violation)
  | .ok duration => .ok { draft with duration := some duration }

/-- Limits the key to one bucket. -/
def limitedTo (bucketId : Json) (draft : KeyDraft) : KeyDraft :=
  { draft with bucketId := bucketId }

/-- Limits the key to file names that start alike.  Needs a bucket as well. -/
def withNamePrefix (namePrefix : Json) (draft : KeyDraft) : KeyDraft :=
  { draft with namePrefix := namePrefix }

/-- Takes one step. -/
def set (draft : KeyDraft) : KeySetting → Except Fault KeyDraft
  | .capabilities values => draft.withCapabilities values
  | .duration span => draft.expiringAfter span
  | .bucketId value => .ok (draft.limitedTo value)
  | .namePrefix value => .ok (draft.withNamePrefix value)

/-- The rules between settings that a draft breaks. -/
def violations (draft : KeyDraft) : List Violation :=
  (if draft.capabilities.isNone then [.capabilitiesMissing] else []) ++
    (if draft.bucketId.isGiven then
      ((draft.capabilities.getD []).filter fun capability =>
        !capability.isBucketScopable).map .notBucketScopable
    else if draft.namePrefix.isGiven then [.bucketMissing]
    else [])

/-- Builds the request. -/
def build (draft : KeyDraft) : Except Fault KeyRequest :=
  if draft.violations.isEmpty then
    (KeyRequest.mk none (draft.capabilities.getD []) draft.name draft.duration
      <$> Json.readGiven "bucket_id" (Json.readNullable Json.readText) draft.bucketId
      <*> Json.readGiven "name_prefix" (Json.readNullable Json.readText)
        draft.namePrefix).orIllFormed
  else .error (.invalidRequest draft.violations)

end KeyDraft

end BucketAccess

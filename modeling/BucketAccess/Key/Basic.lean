import BucketAccess.Answer
import BucketAccess.Json.Held

/-!
# Application keys

A key as the service describes it.  The description never holds the key's
secret; only the answer to the call that creates a key does, once.  The secret is
split off by decoding a key from the other fields of that answer.
-/

namespace BucketAccess

/-- A key without its secret. -/
structure Key where
  name : Loose
  id : Loose
  capabilities : List Capability
  accountId : Loose
  expiration : Option Calendar.Moment
  bucketId : Option Loose
  namePrefix : Option Loose
  options : Option (List Loose)
deriving DecidableEq, Repr

namespace Key

def nameField : Json.FieldName := ⟨"keyName", some "key_name"⟩
def idField : Json.FieldName := ⟨"applicationKeyId", some "application_key_id"⟩
def capabilitiesField : Json.FieldName := ⟨"capabilities", none⟩
def accountIdField : Json.FieldName := ⟨"accountId", some "account_id"⟩
def expirationField : Json.FieldName := ⟨"expirationTimestamp", some "expiration_timestamp"⟩
def bucketIdField : Json.FieldName := ⟨"bucketId", some "bucket_id"⟩
def namePrefixField : Json.FieldName := ⟨"namePrefix", some "name_prefix"⟩
def optionsField : Json.FieldName := ⟨"options", none⟩

/-- A key is decoded in the same way from the fields of a body and from fields
that have been decoded before. -/
def ofHeld (fields : List (String × Held)) : Checked Key :=
  Key.mk
    <$> Json.required nameField Held.readText fields
    <*> Json.required idField Held.readText fields
    <*> Json.required capabilitiesField Held.readCapabilities fields
    <*> Json.required accountIdField Held.readText fields
    <*> Held.optional expirationField Held.readMoment fields
    <*> Held.optional bucketIdField Held.readText fields
    <*> Held.optional namePrefixField Held.readText fields
    <*> Held.optional optionsField Held.readTexts fields

def ofFields (fields : List (String × Json)) : Checked Key := ofHeld (Held.ofFields fields)

/-- What a key holds, under its own names of the fields. -/
def held (key : Key) : List (String × Held) :=
  [(nameField.own, .plain (.str key.name)), (idField.own, .plain (.str key.id)),
    (capabilitiesField.own, .capabilities key.capabilities),
    (accountIdField.own, .plain (.str key.accountId)),
    (expirationField.own, Held.ofOption .moment key.expiration),
    (bucketIdField.own, Held.ofOption (.plain ∘ .str) key.bucketId),
    (namePrefixField.own, Held.ofOption (.plain ∘ .str) key.namePrefix),
    (optionsField.own, Held.ofOption (fun texts => .plain (.arr (texts.map .str))) key.options)]

def kind : RecordKind Key := ⟨"Key", Json.readObject ofFields⟩

/-- Membership only: no capability implies another. -/
def has (key : Key) (capability : Capability) : Bool := key.capabilities.contains capability

end Key

/-- A key together with its secret, as the service describes it once. -/
structure NewKey where
  key : Key
  secret : Secret
deriving DecidableEq

namespace NewKey

def secretField : Json.FieldName := ⟨"applicationKey", some "application_key"⟩

def ofFields (fields : List (String × Json)) : Checked NewKey :=
  NewKey.mk <$> Key.ofFields fields
    <*> (Secret.mk <$> Json.required secretField Json.readText fields)

def kind : RecordKind NewKey := ⟨"NewlyCreatedKey", Json.readObject ofFields⟩

/-- What a new key holds: what the key does, and its secret behind that. -/
def held (newKey : NewKey) : List (String × Held) :=
  newKey.key.held ++ [(secretField.own, .secret newKey.secret)]

/-- The secret apart from the description of the key. -/
def split (newKey : NewKey) : Secret × Key := (newKey.secret, newKey.key)

/-- Splits off the secret.  The key is decoded once more, from everything that the
new key holds but its secret. -/
def splitSecret (newKey : NewKey) : Except Fault (Secret × Key) :=
  (Key.ofHeld (newKey.held.filter fun field => field.1 ≠ secretField.own)).orIllFormed.map
    fun key => (newKey.secret, key)

end NewKey

end BucketAccess

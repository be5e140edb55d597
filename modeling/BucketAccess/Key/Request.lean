import BucketAccess.Answer

/-!
# Requests for a key

What is asked of the service when a key is created.  The account is filled in
from the authorization under which the request is sent.
-/

namespace BucketAccess

/-- What is asked for.  A duration that is not set means that the key does not
expire, a bucket that is not set that it is not limited to one. -/
structure KeyRequest where
  accountId : Option Loose
  capabilities : List Capability
  name : Loose
  duration : Option Duration
  bucketId : Option Loose
  namePrefix : Option Loose
deriving DecidableEq, Repr

namespace KeyRequest

def accountIdField : Json.FieldName := ⟨"accountId", some "account_id"⟩
def capabilitiesField : Json.FieldName := ⟨"capabilities", none⟩
def nameField : Json.FieldName := ⟨"keyName", some "key_name"⟩
def durationField : Json.FieldName :=
  ⟨"validDurationInSeconds", some "valid_duration_in_seconds"⟩
def bucketIdField : Json.FieldName := ⟨"bucketId", some "bucket_id"⟩
def namePrefixField : Json.FieldName := ⟨"namePrefix", some "name_prefix"⟩

def ofFields (room : Nat) (fields : List (String × Json)) : Checked KeyRequest :=
  KeyRequest.mk
    <$> Json.optional accountIdField Json.readText fields
    <*> Json.required capabilitiesField (Json.readList Json.readCapability) fields
    <*> Json.required nameField Json.readText fields
    <*> Json.optional durationField (Json.readDuration room) fields
    <*> Json.optional bucketIdField Json.readText fields
    <*> Json.optional namePrefixField Json.readText fields

/-- The room is what is left for showing a duration that is refused. -/
def kind (room : Nat) : RecordKind KeyRequest :=
  ⟨"CreateKeyRequest", Json.readObject (ofFields room)⟩

/-- The body that is sent: one entry for each field that is set. -/
def body (request : KeyRequest) : Json :=
  .obj (Json.entry accountIdField .str request.accountId ++
    [(capabilitiesField.wire,
      .arr (request.capabilities.map fun capability => .str capability.name)),
     (nameField.wire, .str request.name)] ++
    Json.entry durationField Duration.toJson request.duration ++
    Json.entry bucketIdField .str request.bucketId ++
    Json.entry namePrefixField .str request.namePrefix)

/-- The request made on behalf of an account. -/
def forAccount (accountId : Loose) (request : KeyRequest) : KeyRequest :=
  { request with accountId := some accountId }

end KeyRequest

end BucketAccess

import BucketAccess.Answer
import BucketAccess.Secret

/-!
# Requests for a download authorization

What is asked of the service when a token for downloading files is issued, and
what it answers.  Beside the bucket, the start of the file names and the length
of time, a request may fix headers that every download has to ask for.
-/

namespace BucketAccess

/-- What is asked for, with the headers that are fixed. -/
structure DownloadRequest where
  bucketId : Loose
  fileNamePrefix : Loose
  duration : Duration
  disposition : Option Loose
  language : Option Loose
  expires : Option Loose
  cacheControl : Option Loose
  encoding : Option Loose
  contentType : Option Loose
deriving DecidableEq, Repr

namespace DownloadRequest

def bucketIdField : Json.FieldName := ⟨"bucketId", some "bucket_id"⟩
def fileNamePrefixField : Json.FieldName := ⟨"fileNamePrefix", some "file_name_prefix"⟩
def durationField : Json.FieldName :=
  ⟨"validDurationInSeconds", some "valid_duration_in_seconds"⟩
def dispositionField : Json.FieldName :=
  ⟨"b2ContentDisposition", some "b2_content_disposition"⟩
def languageField : Json.FieldName := ⟨"b2ContentLanguage", some "b2_content_language"⟩
def expiresField : Json.FieldName := ⟨"b2Expires", some "b2_expires"⟩
def cacheControlField : Json.FieldName := ⟨"b2CacheControl", some "b2_cache_control"⟩
def encodingField : Json.FieldName := ⟨"b2ContentEncoding", some "b2_content_encoding"⟩
def contentTypeField : Json.FieldName := ⟨"b2ContentType", some "b2_content_type"⟩

def ofFields (room : Nat) (fields : List (String × Json)) : Checked DownloadRequest :=
  DownloadRequest.mk
    <$> Json.required bucketIdField Json.readText fields
    <*> Json.required fileNamePrefixField Json.readText fields
    <*> Json.required durationField (Json.readDuration room) fields
    <*> Json.optional dispositionField Json.readText fields
    <*> Json.optional languageField Json.readText fields
    <*> Json.optional expiresField Json.readText fields
    <*> Json.optional cacheControlField Json.readText fields
    <*> Json.optional encodingField Json.readText fields
    <*> Json.optional contentTypeField Json.readText fields

/-- The room is what is left for showing a duration that is refused. -/
def kind (room : Nat) : RecordKind DownloadRequest :=
  ⟨"DownloadAuthorizationRequest", Json.readObject (ofFields room)⟩

/-- The body that is sent: one entry for each field that is set. -/
def body (request : DownloadRequest) : Json :=
  .obj ([(bucketIdField.wire, .str request.bucketId),
      (fileNamePrefixField.wire, .str request.fileNamePrefix),
      (durationField.wire, request.duration.toJson)] ++
    Json.entry dispositionField .str request.disposition ++
    Json.entry languageField .str request.language ++
    Json.entry expiresField .str request.expires ++
    Json.entry cacheControlField .str request.cacheControl ++
    Json.entry encodingField .str request.encoding ++
    Json.entry contentTypeField .str request.contentType)

end DownloadRequest

/-- A token with which files in a bucket can be downloaded. -/
structure DownloadAuthorization where
  bucketId : Loose
  fileNamePrefix : Loose
  token : Secret
deriving DecidableEq

namespace DownloadAuthorization

def bucketIdField : Json.FieldName := ⟨"bucketId", some "bucket_id"⟩
def fileNamePrefixField : Json.FieldName := ⟨"fileNamePrefix", some "file_name_prefix"⟩
def tokenField : Json.FieldName := ⟨"authorizationToken", some "authorization_token"⟩

def ofFields (fields : List (String × Json)) : Checked DownloadAuthorization :=
  DownloadAuthorization.mk
    <$> Json.required bucketIdField Json.readText fields
    <*> Json.required fileNamePrefixField Json.readText fields
    <*> (Secret.mk <$> Json.required tokenField Json.readText fields)

def kind : RecordKind DownloadAuthorization :=
  ⟨"DownloadAuthorization", Json.readObject ofFields⟩

end DownloadAuthorization

end BucketAccess

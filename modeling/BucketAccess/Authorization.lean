import BucketAccess.Answer
import BucketAccess.Secret

/-!
# Authorizations

What the service grants to a login: the account, a token for further calls,
what the token allows, and the addresses to send those calls to.
-/

namespace BucketAccess

/-- What a token allows.  The capabilities stand as the service sent them, in
order and with repetitions.  A bucket's name and a prefix of file names may be
given whether or not there is a bucket, and restrict only within a bucket. -/
structure Allowance where
  capabilities : List Capability
  bucketId : Option Loose
  bucketName : Option Loose
  namePrefix : Option Loose
deriving DecidableEq, Repr

namespace Allowance

/-- Membership only: no capability implies another. -/
def has (allowance : Allowance) (capability : Capability) : Bool :=
  allowance.capabilities.contains capability

def capabilitiesField : Json.FieldName := ⟨"capabilities", none⟩
def bucketIdField : Json.FieldName := ⟨"bucketId", some "bucket_id"⟩
def bucketNameField : Json.FieldName := ⟨"bucketName", some "bucket_name"⟩
def namePrefixField : Json.FieldName := ⟨"namePrefix", some "name_prefix"⟩

def ofFields (fields : List (String × Json)) : Checked Allowance :=
  Allowance.mk
    <$> Json.required capabilitiesField (Json.readList Json.readCapability) fields
    <*> Json.optional bucketIdField Json.readText fields
    <*> Json.optional bucketNameField Json.readText fields
    <*> Json.optional namePrefixField Json.readText fields

def kind : RecordKind Allowance := ⟨"Capabilities", Json.readObject ofFields⟩

end Allowance

/-- The account, the token and the addresses that a login gives, and the sizes of
the parts of a large file. -/
structure Authorization where
  accountId : Loose
  token : Secret
  allowed : Allowance
  apiUrl : Loose
  downloadUrl : Loose
  recommendedPartSize : Int
  minimumPartSize : Int
  s3ApiUrl : Loose
deriving DecidableEq

namespace Authorization

def accountIdField : Json.FieldName := ⟨"accountId", some "account_id"⟩
def tokenField : Json.FieldName := ⟨"authorizationToken", some "authorization_token"⟩
def allowedField : Json.FieldName := ⟨"allowed", none⟩
def apiUrlField : Json.FieldName := ⟨"apiUrl", some "api_url"⟩
def downloadUrlField : Json.FieldName := ⟨"downloadUrl", some "download_url"⟩
def recommendedPartSizeField : Json.FieldName :=
  ⟨"recommendedPartSize", some "recommended_part_size"⟩
def minimumPartSizeField : Json.FieldName :=
  ⟨"absoluteMinimumPartSize", some "absolute_minimum_part_size"⟩
def s3ApiUrlField : Json.FieldName := ⟨"s3ApiUrl", some "s3_api_url"⟩

def ofFields (fields : List (String × Json)) : Checked Authorization :=
  Authorization.mk
    <$> Json.required accountIdField Json.readText fields
    <*> (Secret.mk <$> Json.required tokenField Json.readText fields)
    <*> Json.required allowedField (Json.readObject Allowance.ofFields) fields
    <*> Json.required apiUrlField Json.readText fields
    <*> Json.required downloadUrlField Json.readText fields
    <*> Json.required recommendedPartSizeField Json.readInteger fields
    <*> Json.required minimumPartSizeField Json.readInteger fields
    <*> Json.required s3ApiUrlField Json.readText fields

def kind : RecordKind Authorization :=
  ⟨"AuthorizeAccountResponse", Json.readObject ofFields⟩

/-- The path under which every call lives, at each address. -/
def versionPath : String := "b2api/v2"

/-- The address of a call below a base address. -/
def callUrl (base : Loose) (call : String) : Loose :=
  base ++ (("/" ++ versionPath ++ "/" ++ call : String) : Loose)

/-- The addresses that an authorization names. -/
inductive Base where
  | api
  | download
  | s3
deriving DecidableEq, Repr

/-- The address of a kind. -/
def base (authorization : Authorization) : Base → Loose
  | .api => authorization.apiUrl
  | .download => authorization.downloadUrl
  | .s3 => authorization.s3ApiUrl

/-- The value of the header that carries the token: the token itself.  A broken
token is marked, and with its marks no more fit for a header. -/
def header (authorization : Authorization) : String := authorization.token.value.marked

/-- How an authorization is shown.  The token is not. -/
def shown (authorization : Authorization) : String :=
  "Authorization(account_id=" ++ authorization.accountId.quoted ++ ", api_url=" ++
    authorization.apiUrl.quoted ++ ")"

end Authorization

end BucketAccess

import BucketAccess.Http.Client
import BucketAccess.Session

/-!
# A stand-in for the service

A peer that answers as the service does, for one account with one login.  It
keeps the keys that it has created and not yet deleted, and numbers new keys in
the order in which they are asked for.
-/

namespace BucketAccess

open Http (Reply Request)

/-- The state of the stand-in. -/
structure StandIn where
  /-- What the token of a login allows. -/
  allowed : Json
  /-- The keys that exist, by identifier, each as it is described on the wire. -/
  keys : List (String × Json)
  /-- How many keys have been created. -/
  created : Nat

namespace StandIn

def accountId : String := "abcdefg"
def loginId : String := "002d2e6b27577ea0000000002"
def loginKey : String := "K002superSecretMasterKey"
def token : String :=
  "4_002d2e6b27577ea0000000002_019f9ac2_4af224_acct_BzTNBWOKUVQvIMyHK3tXHG7YqDQ="
def downloadToken : String := "3_20210101000000_abc123_download_token"

/-- All capabilities, and no bucket. -/
def everything : Json :=
  .obj [("capabilities", .arr (Capability.all.map fun capability => .str capability.name)),
    ("bucketId", .null), ("bucketName", .null), ("namePrefix", .null)]

/-- A stand-in with no keys yet.  What a login allows is everything if nothing
is said about it. -/
def start (allowed : Json) : StandIn :=
  ⟨if allowed.isVoid then everything else allowed, [], 0⟩

/-- A response that gives what was asked for, if JSON can carry it. -/
def accept (value : Json) : Reply :=
  if !value.isWritable then .broken (.stray .badValue)
  else if !value.isWhole then .broken (.stray .brokenText)
  else .response 200 (.value value)

/-- A response that refuses, with its status in the body as well. -/
def refuse (status : Nat) (code message : String) : Reply :=
  .response status
    (.value (.obj [("code", .str code), ("message", .str message), ("status", .int status)]))

/-- The identifier of the key created after `count` others. -/
def keyId (count : Nat) : String :=
  "002d2e6b27577ea00000000" ++ Text.paddedText 2 (count + 5)

/-- The secret of a key. -/
def secretFor (keyId : String) : String := "K002secretFor" ++ keyId

/-- Splits at the first colon. -/
def splitLogin (chars : List Char) : List Char × List Char :=
  (chars.takeWhile (· ≠ ':'), (chars.dropWhile (· ≠ ':')).drop 1)

/-- The identifier and the secret that a header for logging in carries. -/
def readLogin (encoded : List Char) : Except Fault (List Char × List Char) :=
  match Text.base64Decode encoded with
  | none => .error .notBase64
  | some bytes =>
      match Text.utf8Decode bytes with
      | none => .error .notUtf8
      | some chars => .ok (splitLogin chars)

/-- What a successful login is told. -/
def welcome (allowed : Json) : Json :=
  .obj [("accountId", .str accountId), ("authorizationToken", .str token),
    ("allowed", allowed), ("apiUrl", .str "https://api000.fake-b2.test"),
    ("downloadUrl", .str "https://f000.fake-b2.test"),
    ("recommendedPartSize", .int 100000000), ("absoluteMinimumPartSize", .int 5000000),
    ("s3ApiUrl", .str "https://s3.us-west-000.fake-b2.test")]

/-- Answers a login. -/
def login (standIn : StandIn) (header : Option String) : Reply :=
  match "Basic ".toList.isPrefixOf? (header.getD "").toList with
  | none => refuse 401 "bad_auth_token" "Missing Basic authorization"
  | some encoded =>
      match readLogin encoded with
      | .error fault => .broken (.stray fault)
      | .ok (id, key) =>
          if id = loginId.toList && key = loginKey.toList then accept (welcome standIn.allowed)
          else refuse 401 "bad_auth_token" ""

/-- A key as it is described on the wire. -/
def describe (name capabilities : Json) (id : String) (body : Json) : List (String × Json) :=
  [("keyName", name), ("applicationKeyId", .str id), ("capabilities", capabilities),
    ("accountId", .str accountId), ("expirationTimestamp", .null),
    ("bucketId", (body.field? "bucketId").getD .null),
    ("namePrefix", (body.field? "namePrefix").getD .null), ("options", .arr [.str "s3"])]

/-- Creates a key and gives its description together with its secret. -/
def createKey (standIn : StandIn) (body : Json) : Reply × StandIn :=
  if !((body.field? "accountId").getD .null).equal (.str accountId) then
    (refuse 400 "bad_request" "accountId is required", standIn)
  else
    let id := keyId standIn.created
    match body.field? "keyName", body.field? "capabilities" with
    | some name, some capabilities =>
        let description := describe name capabilities id body
        (accept (.obj (description ++ [("applicationKey", .str (secretFor id))])),
          { standIn with
            keys := standIn.keys ++ [(id, .obj description)]
            created := standIn.created + 1 })
    | _, _ => (.broken (.stray .missingPart), { standIn with created := standIn.created + 1 })

/-- Deletes a key and gives its description. -/
def deleteKey (standIn : StandIn) (body : Json) : Reply × StandIn :=
  let found := match body.field? "applicationKeyId" with
    | some (.str (.whole id)) => standIn.keys.find? fun key => key.1 = id
    | _ => none
  match found with
  | none => (refuse 400 "bad_request" "applicationKeyId is not valid", standIn)
  | some (id, description) =>
      (accept description,
        { standIn with keys := standIn.keys.filter fun key => key.1 ≠ id })

/-- Issues a token for downloading files. -/
def authorizeDownload (body : Json) : Reply :=
  match body.field? "bucketId", body.field? "fileNamePrefix" with
  | some bucketId, some fileNamePrefix =>
      accept (.obj [("bucketId", bucketId), ("fileNamePrefix", fileNamePrefix),
        ("authorizationToken", .str downloadToken)])
  | _, _ => .broken (.stray .missingPart)

/-- Answers a request that carries the token. -/
def serve (standIn : StandIn) (endpoint : String) (body : Json) : Reply × StandIn :=
  match endpoint with
  | "b2_create_key" => standIn.createKey body
  | "b2_delete_key" => standIn.deleteKey body
  | "b2_get_download_authorization" => (authorizeDownload body, standIn)
  | _ => (refuse 404 "not_found" ("Unknown endpoint: " ++ endpoint), standIn)

/-- Answers a request. -/
def reply : Http.Peer StandIn := fun standIn request =>
  let endpoint := String.ofList request.url.lastSegment
  let header := request.header? Http.authorizationHeader
  if endpoint = "b2_authorize_account" then (standIn.login header, standIn)
  else if header ≠ some token then
    (refuse 401 "bad_auth_token" "Invalid authorization token", standIn)
  else standIn.serve endpoint request.body

end StandIn

end BucketAccess

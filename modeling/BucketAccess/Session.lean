import BucketAccess.Authorization
import BucketAccess.Download.Request
import BucketAccess.Key.Basic
import BucketAccess.Key.Request
import BucketAccess.Operation

/-!
# Sessions

The operations of the service.  Logging in gives an authorization; every other
operation is sent to the address that the authorization names, with its token.
A login opens a client of its own for one operation and closes it again, whatever
became of the operation.
-/

namespace BucketAccess

open Http (Call Client Peer)

/-- The header that carries a login or a token. -/
def authorizationName : String := "Authorization"

/-- An identifier of a key, its secret, and where to log in with them. -/
structure Login where
  keyId : Loose
  key : Secret
  authUrl : Loose

/-- The value of the header for logging in, which can carry any whole texts. -/
def loginHeader : Loose → Loose → Except Fault String
  | .whole keyId, .whole key => .ok (Http.basicHeader keyId.toList key.toList)
  | _, _ => .error .brokenText

/-- Logs in. -/
def Login.operation (login : Login) : Operation Authorization where
  call :=
    (Call.get (Authorization.callUrl login.authUrl "b2_authorize_account")).withMade
      authorizationName (loginHeader login.keyId login.key.value)
  read := Authorization.kind.decode

namespace Authorization

/-- The call of an operation under an authorization. -/
def post (authorization : Authorization) (name : String) (body : Json) : Call :=
  ((Call.post (callUrl authorization.apiUrl name)).withHeader
    authorizationName authorization.header).withBody body

/-- Creates a key in the account of the authorization, whatever account the
request names. -/
def createKey (authorization : Authorization) (request : KeyRequest) :
    Operation (Secret × Key) where
  call := authorization.post "b2_create_key" (request.forAccount authorization.accountId).body
  read answer := (NewKey.kind.decode answer).bind NewKey.splitSecret

/-- Deletes the key of an identifier and gives its description. -/
def deleteKey (authorization : Authorization) (keyId : Loose) : Operation Key where
  call := authorization.post "b2_delete_key" (.obj [("applicationKeyId", .str keyId)])
  read := Key.kind.decode

/-- Issues a token for downloading files. -/
def authorizeDownload (authorization : Authorization) (request : DownloadRequest) :
    Operation DownloadAuthorization where
  call := authorization.post "b2_get_download_authorization" request.body
  read := DownloadAuthorization.kind.decode

end Authorization

namespace Login

variable {σ α : Type} (reply : Peer σ) (login : Login)

/-- Opens a client and logs in over it.  A login that fails closes the client;
else the client stays open and belongs to the authorization. -/
def openSession (peer : σ) : Except Fault Authorization × Client σ :=
  match login.operation.run reply (Client.connect peer) with
  | (.error fault, client) => (.error fault, client.close)
  | (.ok authorization, client) => (.ok authorization, client)

/-- Opens a session, does some work in it, and closes it, whatever became of
the work. -/
def visit (work : Authorization → Client σ → Except Fault α × Client σ) (peer : σ) :
    Except Fault α × Client σ :=
  match login.openSession reply peer with
  | (.error fault, client) => (.error fault, client)
  | (.ok authorization, client) =>
      let (outcome, client) := work authorization client
      (outcome, client.close)

/-- Logs in and gives the authorization.  Its client is already closed. -/
def authorize (peer : σ) : Except Fault Authorization × Client σ :=
  login.visit reply (fun authorization client => (.ok authorization, client)) peer

/-- Logs in and carries out one operation. -/
def perform (operation : Authorization → Operation α) (peer : σ) :
    Except Fault α × Client σ :=
  login.visit reply (fun authorization client => (operation authorization).run reply client) peer

def createKey (request : KeyRequest) (peer : σ) : Except Fault (Secret × Key) × Client σ :=
  login.perform reply (·.createKey request) peer

def deleteKey (keyId : Loose) (peer : σ) : Except Fault Key × Client σ :=
  login.perform reply (·.deleteKey keyId) peer

def authorizeDownload (request : DownloadRequest) (peer : σ) :
    Except Fault DownloadAuthorization × Client σ :=
  login.perform reply (·.authorizeDownload request) peer

end Login

end BucketAccess

import BucketAccess.Fault
import BucketAccess.Http.Url
import BucketAccess.Json.Bytes
import BucketAccess.Text.Base64

/-!
# Exchanges

What passes between a client and its peer.  A call is what a program asks to be
sent, a request is what the peer receives, and a reply is what comes back: a
response, or a breakdown of the exchange.  A call becomes a request only if its
address can be read, its headers are ASCII, its body can be written as JSON and
encoded, and its host can be named in a header, checked in this order.
-/

namespace BucketAccess.Http

/-- The methods in use. -/
inductive Method where
  | get
  | post
deriving DecidableEq, Repr

def Method.name : Method → String
  | .get => "GET"
  | .post => "POST"

/-- What a program asks to be sent.  A null body is none. -/
structure Call where
  method : Method
  url : Loose
  headers : List (String × String)
  body : Json
  /-- Why the call could not be put together, if it could not. -/
  fault? : Option Fault

/-- Sets an entry of a list of named texts.  A new name goes to the end, a
present one keeps its place. -/
def setEntry (name value : String) : List (String × String) → List (String × String)
  | [] => [(name, value)]
  | entry :: entries =>
      if entry.1 = name then (name, value) :: entries
      else entry :: setEntry name value entries

namespace Call

def get (url : Loose) : Call := ⟨.get, url, [], .null, none⟩

def post (url : Loose) : Call := ⟨.post, url, [], .null, none⟩

/-- Sets a header.  A header of exactly this name is replaced. -/
def withHeader (name value : String) (call : Call) : Call :=
  { call with headers := setEntry name value call.headers }

/-- Sets a header to a value, if the value could be made. -/
def withMade (name : String) (value : Except Fault String) (call : Call) : Call :=
  match value with
  | .ok value => call.withHeader name value
  | .error fault => { call with fault? := some fault }

/-- Sets the body. -/
def withBody (body : Json) (call : Call) : Call := { call with body := body }

end Call

/-- What a peer receives.  The names of headers are in lower case, and a null
body is none. -/
structure Request where
  method : Method
  url : Url
  headers : List (String × String)
  body : Json

/-- The value of a header. -/
def Request.header? (name : String) (request : Request) : Option String :=
  (request.headers.find? fun header => header.1 = name).map (·.2)

/-- A text in lower case, as far as it is ASCII. -/
def lowerText (text : String) : String := String.ofList (text.toList.map Char.toLower)

def isAscii (text : String) : Bool := text.toList.all fun char => char.toNat < 0x80

/-- The credentials of a login as a header carries them. -/
def basicHeader (user password : List Char) : String :=
  "Basic " ++ String.ofList (Text.base64Encode (Text.utf8Encode (user ++ ':' :: password)))

def authorizationHeader : String := "authorization"
def contentTypeHeader : String := "content-type"

/-- Adds a header.  One that is named again gets one more value, after a
comma. -/
def joinEntry (name value : String) : List (String × String) → List (String × String)
  | [] => [(name, value)]
  | entry :: entries =>
      if entry.1 = name then (name, entry.2 ++ ", " ++ value) :: entries
      else entry :: joinEntry name value entries

/-- The headers of a call under their names in lower case. -/
def givenHeaders (call : Call) : List (String × String) :=
  call.headers.foldl (fun headers header => joinEntry (lowerText header.1) header.2 headers) []

/-- Headers in lower case, with the type of the body if there is one and none
is given. -/
def requestHeaders (call : Call) : List (String × String) :=
  let given := givenHeaders call
  match call.body with
  | .null => given
  | _ =>
      if given.any fun header => header.1 = contentTypeHeader then given
      else given ++ [(contentTypeHeader, "application/json")]

/-- A login in the address takes the place of every other authorization. -/
def withLogin (login : Option (List Char × List Char)) (headers : List (String × String)) :
    List (String × String) :=
  match login with
  | none => headers
  | some (user, password) =>
      (headers.filter fun header => header.1 ≠ authorizationHeader) ++
        [(authorizationHeader, basicHeader user password)]

def hostHeader : String := "host"

/-- The fault of naming the host of an address in a header, if it cannot be
named. -/
def hostFault? (url : Url) : Option Fault :=
  match url.hostFlaw? with
  | some flaw => some (.badHost flaw)
  | none => if Hostname.isAscii url.host then none else some .headerNotAscii

/-- The fault of the header that names the host, unless one is given. -/
def Call.hostFault? (call : Call) (url : Url) : Option Fault :=
  if call.headers.any fun header => lowerText header.1 = hostHeader then none
  else Http.hostFault? url

/-- The fault of an address that cannot be read. -/
def UrlFlaw.fault : UrlFlaw → Fault
  | .malformed => .badUrl
  | .broken => .brokenText

/-- The request that a call asks for. -/
def Call.toRequest (call : Call) : Except Fault Request :=
  match call.fault?, Url.read call.url with
  | some fault, _ => .error fault
  | none, .error flaw => .error flaw.fault
  | none, .ok url =>
      if !call.headers.all fun header => isAscii header.1 && isAscii header.2 then
        .error .headerNotAscii
      else if !call.body.isWritable then .error .badValue
      else if !call.body.isWhole then .error .brokenText
      else if let some fault := call.hostFault? url then .error fault
      else
        .ok {
          method := call.method
          url
          headers := withLogin url.login? (requestHeaders call)
          body := call.body }

/-- The body of a response: bytes, with the room that is left for arrays and
objects inside each other when they are read, or a value in place of the bytes of
its text.  An integer in that text may be too long to be read. -/
inductive Body where
  | bytes (room : Nat) (content : List UInt8)
  | value (content : Json)

/-- What the body says, if it is JSON. -/
def Body.json : Body → Except Json.TextFlaw Json
  | .bytes room content => Json.ofBytes room content
  | .value content => if content.isReadable then .ok content else .error .longInteger

/-- Why no response came. -/
inductive Breakdown where
  /-- The exchange failed in one of the ways that clients know. -/
  | link (kind : String)
  /-- Something else went wrong below. -/
  | stray (fault : Fault)

/-- What comes back for a request. -/
inductive Reply where
  | response (status : Int) (body : Body)
  | broken (breakdown : Breakdown)

/-- The status of a response. -/
def Reply.status? : Reply → Option Int
  | .response status _ => some status
  | .broken _ => none

/-- What a client makes of a reply: it keeps a response under the site it came
from, and breaks down if the address names none. -/
def Reply.kept (url : Url) : Reply → Reply
  | .response status body =>
      if url.isAbsolute then .response status body else .broken (.stray .noSite)
  | reply => reply

/-- The details of a response that is not JSON. -/
def notJsonText (status : Int) (url : Loose) : String :=
  "HTTP " ++ Text.intText status ++ " response from " ++ url.marked ++ " was not JSON"

/-- What a reply says to the program that asked under an address.  The status
does not matter: a refusal is told from its body.  A body that is nested too
deeply is left unread, so nothing is said about its language. -/
def Reply.read (url : Loose) : Reply → Except Fault Json
  | .response status body =>
      match body.json with
      | .ok value => .ok value
      | .error .deepNesting => .error .tooDeep
      | .error _ => .error (.unreadable "JSON" (some (notJsonText status url)))
  | .broken (.link kind) => .error (.unreachable url.marked (some kind) none)
  | .broken (.stray fault) => .error fault

end BucketAccess.Http

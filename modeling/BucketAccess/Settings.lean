import BucketAccess.Authorization
import BucketAccess.Decimal.Reader

/-!
# Settings

What a program takes from its environment: where to log in, with which key, and
how long to wait for the service.
-/

namespace BucketAccess

/-- The settings of a program.  Whoever logs in may leave out what is set here. -/
structure Settings where
  authUrl : String
  keyId : Option String
  key : Option String
  timeout : Decimal.Binary
deriving DecidableEq, Repr

/-- The version of the client. -/
def version : String := "0.1.0"

/-- Where to log in unless something else is said. -/
def defaultAuthUrl : String := "https://api.backblazeb2.com"

/-- Thirty seconds. -/
def defaultTimeout : Decimal.Binary := Decimal.Binary.ofInt 30

/-- How long a client waits, in seconds, for each stage of an exchange. -/
structure Timeouts where
  connecting : Decimal.Binary
  reading : Decimal.Binary
  writing : Decimal.Binary
  pooling : Decimal.Binary
deriving DecidableEq, Repr

/-- The same time for every stage. -/
def Timeouts.uniform (seconds : Decimal.Binary) : Timeouts :=
  ⟨seconds, seconds, seconds, seconds⟩

/-- An identifier of a key and its secret. -/
structure Credentials where
  keyId : String
  key : Secret
deriving DecidableEq

namespace Settings

/-- Reads the settings from named variables, each of which may be absent. -/
def ofEnvironment (lookup? : String → Option String) : Except Fault Settings :=
  let settings := fun timeout : Decimal.Binary =>
    { authUrl := (lookup? "B2_AUTH_URL").getD defaultAuthUrl
      keyId := lookup? "B2_APPLICATION_KEY_ID"
      key := lookup? "B2_APPLICATION_KEY"
      timeout : Settings }
  match lookup? "B2_HTTP_TIMEOUT" with
  | none => .ok (settings defaultTimeout)
  | some text =>
      match Decimal.readFree text with
      | some timeout => .ok (settings timeout)
      | none => .error .badValue

/-- How long a client waits, when it is made with a time of its own or without
one. -/
def timeouts (settings : Settings) (own : Option Decimal.Binary) : Timeouts :=
  Timeouts.uniform (own.getD settings.timeout)

/-- The credentials to log in with: those that are given, else those in the
settings.  An empty text counts as none. -/
def credentials (settings : Settings) (keyId key : Option String) :
    Except Fault Credentials :=
  match (nonEmpty? keyId).or (nonEmpty? settings.keyId),
      (nonEmpty? key).or (nonEmpty? settings.key) with
  | some keyId, some key => .ok ⟨keyId, ⟨key⟩⟩
  | _, _ => .error (.missingCredentials none)

end Settings

end BucketAccess

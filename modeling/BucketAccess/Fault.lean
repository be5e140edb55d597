import BucketAccess.Hostname.Label
import BucketAccess.Problem

/-!
# Faults

Why an operation gave no result.  The first four are the failures that callers
of an operation are told to expect: a request that breaks a rule, a refusal by
the service, a response that cannot be understood, and an exchange that could
not be completed.  The others come from the caller's own values or from the
layer below.
-/

namespace BucketAccess

/-- The error codes that the service documents. -/
inductive ErrorCode where
  | badRequest
  | unauthorized
  | badAuthToken
  | expiredAuthToken
  | unsupported
  | accessDenied
  | notFound
  | fileNotPresent
  | badBucketId
  | duplicateBucketName
  | tooManyBuckets
  | capExceeded
  | transactionCapExceeded
  | downloadCapExceeded
  | storageCapExceeded
  | tooManyRequests
  | methodNotAllowed
  | requestTimeout
  | outOfRange
  | conflict
  | rangeNotSatisfiable
  | internalError
  | serviceUnavailable
deriving DecidableEq, Repr

namespace ErrorCode

def all : List ErrorCode :=
  [badRequest, unauthorized, badAuthToken, expiredAuthToken, unsupported, accessDenied,
   notFound, fileNotPresent, badBucketId, duplicateBucketName, tooManyBuckets, capExceeded,
   transactionCapExceeded, downloadCapExceeded, storageCapExceeded, tooManyRequests,
   methodNotAllowed, requestTimeout, outOfRange, conflict, rangeNotSatisfiable,
   internalError, serviceUnavailable]

/-- The code on the wire. -/
def name : ErrorCode → String
  | badRequest => "bad_request"
  | unauthorized => "unauthorized"
  | badAuthToken => "bad_auth_token"
  | expiredAuthToken => "expired_auth_token"
  | unsupported => "unsupported"
  | accessDenied => "access_denied"
  | notFound => "not_found"
  | fileNotPresent => "file_not_present"
  | badBucketId => "bad_bucket_id"
  | duplicateBucketName => "duplicate_bucket_name"
  | tooManyBuckets => "too_many_buckets"
  | capExceeded => "cap_exceeded"
  | transactionCapExceeded => "transaction_cap_exceeded"
  | downloadCapExceeded => "download_cap_exceeded"
  | storageCapExceeded => "storage_cap_exceeded"
  | tooManyRequests => "too_many_requests"
  | methodNotAllowed => "method_not_allowed"
  | requestTimeout => "request_timeout"
  | outOfRange => "out_of_range"
  | conflict => "conflict"
  | rangeNotSatisfiable => "range_not_satisfiable"
  | internalError => "internal_error"
  | serviceUnavailable => "service_unavailable"

/-- The documented code of exactly this name. -/
def ofName? (text : String) : Option ErrorCode := all.find? fun code => code.name = text

end ErrorCode

/-- What the service says when it refuses a request.  The code is kept as it
was sent, for the service may add codes. -/
structure Refusal where
  code : Loose
  status : Int
  message : Loose
deriving DecidableEq, Repr

/-- The documented code of a refusal, if it has one. -/
def Refusal.known? (refusal : Refusal) : Option ErrorCode :=
  refusal.code.text?.bind ErrorCode.ofName?

/-- Why there is no result. -/
inductive Fault where
  /-- A request breaks rules; nothing was sent. -/
  | invalidRequest (violations : List Violation)
  /-- The service understood the request and refused it. -/
  | refused (refusal : Refusal)
  /-- A response was not in the expected language at all. -/
  | unreadable (expected : String) (details : Option String)
  /-- A response is neither the expected record nor a refusal. -/
  | unexpected (expected : String) (problems : List Problem)
  /-- The exchange could not be completed. -/
  | unreachable (url : String) (cause : Option String) (note : Option String)
  | missingCredentials (note : Option String)
  /-- A value that was handed in does not decode as the record it should be. -/
  | illFormed (problems : List Problem)
  /-- Something else stands where a time span is expected. -/
  | notASpan (kind : String)
  /-- A value of the wrong kind altogether. -/
  | wrongKind
  /-- A time span or an instant beyond what can be counted. -/
  | overflow
  /-- A value that its destination cannot carry. -/
  | badValue
  /-- A header that is not ASCII. -/
  | headerNotAscii
  /-- A text that no encoding carries. -/
  | brokenText
  | badUrl
  /-- The name of a host that stands for no name. -/
  | badHost (flaw : Hostname.LabelFlaw)
  /-- A response to an address that is a path alone: no site it could be kept
  under. -/
  | noSite
  /-- A part that was expected in an object is missing. -/
  | missingPart
  /-- A text that is not base64. -/
  | notBase64
  /-- Bytes that are not UTF-8. -/
  | notUtf8
  /-- A value that is nested too deeply to be read or shown. -/
  | tooDeep
  /-- A failure of the layer below that clients do not know, by its kind. -/
  | foreign (kind : String)
  /-- The client has been closed. -/
  | clientClosed
  /-- A line of console output closes a tag that is not open, or an action whose
  arguments cannot be read. -/
  | badMarkup
deriving Repr

/-- The sentence that reports an unintelligible response. -/
def unintelligible (expected : String) : String :=
  "Could not decode the B2 response as '" ++ expected ++ "' or as an error response."

/-- The sentence that reports a refusal. -/
def Refusal.text (refusal : Refusal) : String :=
  "B2 API returned an error response (HTTP " ++ Text.intText refusal.status ++ ", code '" ++
    refusal.code.marked ++ "'): " ++ refusal.message.marked

/-- An optional text that counts only when it is not empty. -/
def nonEmpty? : Option String → Option String
  | some text => if text.isEmpty then none else some text
  | none => none

/-- What is said when there is nothing to log in with. -/
def noCredentialsText : String :=
  "No B2 application key provided. " ++
    "Pass --key-id and --key, or set the B2_APPLICATION_KEY_ID and B2_APPLICATION_KEY " ++
    "environment variables."

/-- What a fault is said to be.  Faults from the layer below have no wording
here. -/
def Fault.message : Fault → String
  | .invalidRequest violations => "; ".intercalate (violations.map Violation.message)
  | .refused refusal => refusal.text
  | .unreadable expected details =>
      match nonEmpty? details with
      | some details => unintelligible expected ++ " Details: " ++ details
      | none => unintelligible expected
  | .unexpected expected _ => unintelligible expected
  | .unreachable url _ note =>
      (nonEmpty? note).getD
        ("Unable to connect to the B2 API at '" ++ url ++
          "'. Check the URL and your network connection.")
  | .missingCredentials note => note.getD noCredentialsText
  | .notASpan kind => "Duration expects a timedelta, got " ++ kind
  | _ => ""

/-- A request that breaks one rule. -/
def Fault.violation (violation : Violation) : Fault := .invalidRequest [violation]

end BucketAccess

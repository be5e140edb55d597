import BucketAccess.Capability
import BucketAccess.Json.Display
import BucketAccess.Span

/-!
# Violations

Every rule that a request has to keep before it is sent, as the way in which it
can be broken, with the wording in one place.
-/

namespace BucketAccess

/-- A rule of a request that is broken, with the values that break it. -/
inductive Violation where
  /-- A span that is no whole number of milliseconds. -/
  | subMillisecond (span : Span)
  /-- A count of a span that is no integer. -/
  | notACount (unit : SpanUnit) (value : Json)
  /-- A count beyond the longest span. -/
  | countOutOfRange (unit : SpanUnit) (count : Int)
  /-- A span that is no whole number of a unit. -/
  | notWhole (unit : SpanUnit) (span : Span)
  | keyNameTooLong (limit : Nat)
  | keyNameCharacter (char : Char)
  | unknownCapability (value : Json)
  | emptyCapabilities
  | keyLastsTooLong
  | keyLastsTooShort
  | capabilitiesMissing
  /-- A key limited to a bucket was to hold an account-level capability. -/
  | notBucketScopable (capability : Capability)
  /-- A key was limited to names in a bucket, but to no bucket. -/
  | bucketMissing
  | dispositionType (text : String)
  | dispositionParameter (text : String)
  | starredParameter (name : String)
  | negativeAge (span : Span)
  | noDirectives
  | unknownEncoding (value : Json)
  | mediaType (text : String)
  | downloadLength
  | downloadBucketMissing
  | downloadPrefixMissing
  | downloadLengthMissing
  /-- A rule of the caller's own. -/
  | other (text : String)
deriving Repr

/-- What is said of a value that is none of a kind: that it is none, unless the
value cannot be shown. -/
def notOfKind (kind : String) (value : Json) : String :=
  if (value.unshown? none).isSome then Json.longIntegerText
  else value.display ++ " is not a valid " ++ kind

/-- What a violation is said to be. -/
def Violation.message : Violation → String
  | .subMillisecond span =>
      "Duration " ++ span.text ++ " has sub-millisecond precision, which B2 can't represent"
  | .notACount unit value =>
      "Expected an integer number of " ++ unit.name ++ ", got " ++ value.display
  | .countOutOfRange unit count =>
      "Duration of " ++ Text.intText count ++ " " ++ unit.name ++ " is out of range"
  | .notWhole unit span =>
      "Duration " ++ span.text ++ " is not a whole number of " ++ unit.name
  | .keyNameTooLong limit =>
      "Key name must be no more than " ++ Text.natText limit ++ " characters."
  | .keyNameCharacter char =>
      "Invalid character in key name: '" ++ String.singleton char ++ "'"
  | .unknownCapability value => notOfKind "Capability" value
  | .emptyCapabilities => "Key must have at least one capability."
  | .keyLastsTooLong => "Expiration must be less than 1000 days."
  | .keyLastsTooShort => "Expiration must be a positive number of seconds."
  | .capabilitiesMissing => "A list of capabilities for the key is required."
  | .notBucketScopable capability =>
      "Invalid capability when bucket_id is set: " ++ capability.name
  | .bucketMissing => "bucket_id must be set when name_prefix is given."
  | .dispositionType text => "Invalid Content-Disposition type: '" ++ text ++ "'"
  | .dispositionParameter text => "Invalid Content-Disposition parameter: '" ++ text ++ "'"
  | .starredParameter name =>
      "Content-Disposition parameter names containing '*' are not allowed: '" ++ name ++ "'"
  | .negativeAge span => "Cache-Control ages can't be negative, got " ++ span.text
  | .noDirectives => "At least one Cache-Control directive is required."
  | .unknownEncoding value => notOfKind "ContentEncoding" value
  | .mediaType text => "Invalid media type: '" ++ text ++ "'"
  | .downloadLength => "Duration must be between 1 and 604,800 seconds, inclusive."
  | .downloadBucketMissing => "A bucket ID must be provided."
  | .downloadPrefixMissing => "A filename prefix must be provided."
  | .downloadLengthMissing => "The duration of the authorization token must be set."
  | .other text => text

end BucketAccess

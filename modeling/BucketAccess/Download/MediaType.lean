import BucketAccess.Text.Blank
import BucketAccess.Text.Token
import BucketAccess.Violation

/-!
# Media types

A media type is two tokens with a slash between them.  Parameters may follow
after a semicolon, which blanks may precede; they are not looked into, except
that they hold no line feed.  A single line feed at the very end is let pass.
-/

namespace BucketAccess.Download

open Text (isBlank takeToken)

/-- No line feed stands before the last place. -/
def lineFeedOnlyLast : List Char → Bool
  | [] => true
  | ['\n'] => true
  | char :: rest => char ≠ '\n' && lineFeedOnlyLast rest

/-- What may follow the two tokens. -/
def isMediaTail (chars : List Char) : Bool :=
  chars.isEmpty || chars = ['\n'] ||
    match chars.dropWhile isBlank with
    | ';' :: parameters => lineFeedOnlyLast parameters
    | _ => false

def isMediaType (chars : List Char) : Bool :=
  match takeToken chars with
  | some (_, '/' :: rest) =>
      match takeToken rest with
      | some (_, tail) => isMediaTail tail
      | none => false
  | _ => false

/-- A text that is a media type. -/
def checkMediaType (text : String) : Except Violation String :=
  if isMediaType text.toList then .ok text else .error (.mediaType text)

end BucketAccess.Download

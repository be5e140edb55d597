import BucketAccess.Violation

/-!
# Content encodings

The codings under which a body may be sent.
-/

namespace BucketAccess.Download

/-- The codings that may be asked for. -/
inductive ContentEncoding where
  | gzip
  | compress
  | deflate
  | brotli
  | zstd
  | identity
deriving DecidableEq, Repr

namespace ContentEncoding

def all : List ContentEncoding := [gzip, compress, deflate, brotli, zstd, identity]

/-- The name of a coding in the header. -/
def name : ContentEncoding → String
  | gzip => "gzip"
  | compress => "compress"
  | deflate => "deflate"
  | brotli => "br"
  | zstd => "zstd"
  | identity => "identity"

/-- The coding of exactly this name. -/
def ofName? (text : String) : Option ContentEncoding :=
  all.find? fun encoding => encoding.name = text

/-- The coding that a value names. -/
def ofJson (value : Json) : Except Violation ContentEncoding :=
  match value with
  | .str (.whole text) =>
      match ofName? text with
      | some encoding => .ok encoding
      | none => .error (.unknownEncoding value)
  | _ => .error (.unknownEncoding value)

end ContentEncoding

end BucketAccess.Download

import BucketAccess.Duration

/-!
# Cache control

The value of a Cache-Control header is a list of directives.  Some take no
argument; the ages take a whole number of seconds that is not negative.
-/

namespace BucketAccess.Download

/-- The directives without an argument. -/
inductive CacheDirective where
  | noCache
  | noStore
  | noTransform
  | mustRevalidate
  | proxyRevalidate
  | publicly
  | privately
  | immutable
deriving DecidableEq, Repr

namespace CacheDirective

def all : List CacheDirective :=
  [noCache, noStore, noTransform, mustRevalidate, proxyRevalidate, publicly, privately,
   immutable]

def name : CacheDirective → String
  | noCache => "no-cache"
  | noStore => "no-store"
  | noTransform => "no-transform"
  | mustRevalidate => "must-revalidate"
  | proxyRevalidate => "proxy-revalidate"
  | publicly => "public"
  | privately => "private"
  | immutable => "immutable"

end CacheDirective

/-- The age that a span is, in seconds. -/
def ageSeconds (span : Span) : Except Violation Int :=
  if span.microseconds < 0 then .error (.negativeAge span)
  else (Duration.ofSpan span).bind (Duration.toWire .seconds)

/-- How long any cache may keep a response. -/
def maxAge (span : Span) : Except Violation String :=
  (ageSeconds span).map fun seconds => "max-age=" ++ Text.intText seconds

/-- How long a shared cache may keep a response. -/
def sharedMaxAge (span : Span) : Except Violation String :=
  (ageSeconds span).map fun seconds => "s-maxage=" ++ Text.intText seconds

/-- Directives, at least one, as the value of the header. -/
def cacheControl (directives : List String) : Except Violation String :=
  if directives.isEmpty then .error .noDirectives
  else .ok (", ".intercalate directives)

end BucketAccess.Download

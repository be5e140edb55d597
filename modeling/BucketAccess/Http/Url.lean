import BucketAccess.Decimal.Reader
import BucketAccess.Hostname.Name
import BucketAccess.Hostname.Numeric
import BucketAccess.Http.Percent
import BucketAccess.Unicode.Lowercase

/-!
# Addresses

How a client reads the address it is asked to send a request to.  The scheme
and the host are brought to lower case, the port that a scheme in lower case
implies and dot segments are dropped, hosts beyond ASCII are encoded, and other
characters that an address cannot carry are percent-encoded, which cannot be done
to a surrogate.  An address without a scheme and a host is sent as a path alone.
-/

namespace BucketAccess.Http

/-- The parts of an address.  A missing part differs from an empty one only in
the query and the fragment. -/
structure Url where
  scheme : List Char
  userInfo : List Char
  host : List Char
  port : Option Int
  path : List Char
  query : Option (List Char)
  fragment : Option (List Char)
deriving DecidableEq, Repr

/-- The longest address that is read. -/
def maxUrlLength : Nat := 65536

/-- A visible ASCII character or a blank that is not one of the excluded. -/
def isSafe (excluded : List Char) (char : Char) : Bool :=
  0x20 ≤ char.toNat && char.toNat < 0x7F && !excluded.contains char

def unsafeInFragment : List Char := " \"<>\x60".toList
def unsafeInQuery : List Char := " \"#<>".toList
def unsafeInPath : List Char := " \"#<>?\x60\x7b\x7d".toList
def unsafeInUserInfo : List Char := " \"#<>?\x60\x7b\x7d/;=@[\\]^|".toList

/-- The marks that stand in a host as they are, beside letters and digits. -/
def safeInHost : List Char := "-._~!$&'()*+,;=\"\x60\x7b\x7d%|\\".toList

/-- Splits at the first of some characters, which stays in front of the second
part. -/
def splitAtFirst {α : Type} [BEq α] (stops whole : List α) : List α × List α :=
  (whole.takeWhile fun point => !stops.contains point,
    whole.dropWhile fun point => !stops.contains point)

/-- A character that may stand in a scheme. -/
def inScheme (char : Char) : Bool :=
  Text.isAsciiLetter char || Text.isAsciiDigit char || "+.-".toList.contains char

/-- A scheme with its colon in front, if one stands there. -/
def takeScheme (points : List Point) : List Char × List Point :=
  let front := points.takeWhile (Point.isCharOf inScheme)
  match front.filterMap Point.char?, points.dropWhile (Point.isCharOf inScheme) with
  | [], .char ':' :: rest => ([], rest)
  | first :: scheme, .char ':' :: rest =>
      if Text.isAsciiLetter first then (first :: scheme, rest) else ([], points)
  | _, _ => ([], points)

/-- The part between two slashes and the path, if it stands in front. -/
def takeAuthority : List Point → List Point × List Point
  | .char '/' :: .char '/' :: rest => splitAtFirst [.char '/', .char '?', .char '#'] rest
  | rest => ([], rest)

/-- An optional part behind a mark. -/
def takeMarked (mark : Point) (stops : List Point) :
    List Point → Option (List Point) × List Point
  | point :: rest =>
      if point = mark then
        let (part, rest) := splitAtFirst stops rest
        (some part, rest)
      else (none, point :: rest)
  | [] => (none, [])

/-- What stands before and behind the last of a mark, if it stands there. -/
def splitAtLast (mark : Point) (points : List Point) : Option (List Point × List Point) :=
  let behind := (points.reverse.takeWhile (· ≠ mark)).reverse
  if behind.length < points.length then
    some (points.take (points.length - behind.length - 1), behind)
  else none

/-- A host in brackets, which may hold colons, and the rest. -/
def takeBracketed (address : List Point) : Option (List Point × List Point) :=
  match address with
  | .char '[' :: _ =>
      (splitAtLast (.char ']') address).map fun parts => (parts.1 ++ [.char ']'], parts.2)
  | _ => none

/-- User, host and port of an authority.  The user may hold the mark that ends
it. -/
def splitAuthority (authority : List Point) : List Point × List Point × List Point :=
  let (userInfo, address) := (splitAtLast (.char '@') authority).getD ([], authority)
  let (host, rest) := (takeBracketed address).getD (splitAtFirst [.char ':'] address)
  (userInfo, host, match rest with
    | .char ':' :: port => port
    | port => port)

/-- The port that a scheme in lower case implies. -/
def defaultPort? (scheme : List Char) : Option Int :=
  match String.ofList scheme with
  | "ftp" => some 21
  | "http" => some 80
  | "https" => some 443
  | "ws" => some 80
  | "wss" => some 443
  | _ => none

/-- A port as a number: the outer option says whether it can be read, the inner
one whether it has to be named. -/
def readPort (scheme port : List Char) : Option (Option Int) :=
  if port.isEmpty then some none
  else
    let (negative, unsigned) :=
      Text.takeSign ((Text.trimBy Text.isWhiteSpace port).map Decimal.asciiDigit)
    match Text.ungroup? false unsigned with
    | none => none
    | some digits =>
        if Text.longestNumeral < digits.length then none
        else
          let number := Decimal.Binary.signed negative (Text.readDigits digits)
          if defaultPort? scheme = some number then some none else some (some number)

/-- A character that stands in a host as it is. -/
def isHostChar (char : Char) : Bool :=
  Text.isAsciiLetter char || Text.isAsciiDigit char || safeInHost.contains char

/-- What stands between brackets, if they stand around it. -/
def insideBrackets? : List Char → Option (List Char)
  | '[' :: inner => if inner.getLast? = some ']' then some inner.dropLast else none
  | _ => none

/-- A host as it is sent, or none if it is malformed: a numeric address, or a
name in lower case, which is encoded if it goes beyond ASCII. -/
def readHost (host : List Char) : Option (List Char) :=
  if host.isEmpty then some []
  else if Hostname.looksNumeric host then
    if Hostname.isPointAddress host then some host else none
  else
    match insideBrackets? host with
    | some inner => if Hostname.isColonAddress inner then some inner else none
    | none =>
        if Hostname.isAscii host then some (percentEncode isHostChar (host.map Char.toLower))
        else (Hostname.encodeName (Unicode.lowercase host)).toOption

/-- Drops segments of one dot, and with a segment of two dots the one before
it. -/
def dropDots : List (List Point) → List (List Point) → List (List Point)
  | [], kept => kept.reverse
  | segment :: segments, kept =>
      if segment = [.char '.'] then dropDots segments kept
      else if segment = [.char '.', .char '.'] then
        match kept with
        | [] => dropDots segments []
        | last :: before =>
            if before.isEmpty && last.isEmpty then dropDots segments kept
            else dropDots segments before
      else dropDots segments (segment :: kept)

def joinSegments (segments : List (List Point)) : List Point :=
  (segments.intersperse [.char '/']).flatten

/-- A path without dot segments. -/
def normalPath (path : List Point) : List Point :=
  joinSegments (dropDots (path.splitOn (.char '/')) [])

/-- Why an address cannot be read. -/
inductive UrlFlaw where
  /-- It does not follow the grammar. -/
  | malformed
  /-- A surrogate stands where it would have to be percent-encoded. -/
  | broken
deriving DecidableEq, Repr

/-- A part of an address as far as its characters can be encoded. -/
def encodePart (excluded : List Char) (part : List Point) : Except UrlFlaw (List Char) :=
  match Point.chars? part with
  | some chars => .ok (percentEncode (isSafe excluded) chars)
  | none => .error .broken

/-- A part of an address that may be missing. -/
def encodeOptional (excluded : List Char) :
    Option (List Point) → Except UrlFlaw (Option (List Char))
  | some part => (encodePart excluded part).map some
  | none => .ok none

/-- A part of an address that has to be there. -/
def wellFormed {α : Type} : Option α → Except UrlFlaw α
  | some part => .ok part
  | none => .error .malformed

namespace Url

/-- Names a host. -/
def isAbsolute (url : Url) : Bool := !url.scheme.isEmpty && !url.host.isEmpty

/-- The path may stand behind what is in front of it. -/
def pathFits (hasScheme hasAuthority : Bool) (path : List Point) : Bool :=
  if hasAuthority then path.isEmpty || path.head? = some (.char '/')
  else hasScheme || !(path.take 2 = [.char '/', .char '/'] || path.head? = some (.char ':'))

/-- The address sent as a path alone: path and query below the root, neither of
them longer than an address. -/
def asPath? (url : Url) : Option Url :=
  let tail := match url.query with
    | some query => '?' :: query
    | none => []
  let whole := '/' :: (url.path ++ tail).dropWhile (· = '/')
  let (path, rest) := splitAtFirst ['?'] whole
  if maxUrlLength < path.length || maxUrlLength < (rest.drop 1).length then none
  else
    some
      { scheme := [], userInfo := [], host := [], port := none, path := path
        query := if rest.isEmpty then none else some (rest.drop 1), fragment := none }

/-- Reads an address.  The user is encoded first, then the host and the port are
read, and the rest is encoded last.  No surrogate can stand in a name or a port, so
each may be read as any other mark beyond ASCII. -/
def read (text : Loose) : Except UrlFlaw Url := do
  let points := text.points
  if maxUrlLength < points.length then .error .malformed
  else if points.any (Point.isCharOf fun char => char.toNat < 0x20 || char.toNat = 0x7F) then
    .error .malformed
  else
    let (scheme, rest) := takeScheme points
    let (authority, rest) := takeAuthority rest
    let (path, rest) := splitAtFirst [.char '?', .char '#'] rest
    let (query, rest) := takeMarked (.char '?') [.char '#'] rest
    let (fragment, _) := takeMarked (.char '#') [] rest
    let (userInfo, host, port) := splitAuthority authority
    let userInfo ← encodePart unsafeInUserInfo userInfo
    let host ← wellFormed (readHost (host.map Point.mark))
    let port ← wellFormed (readPort scheme (port.map Point.mark))
    let scheme := scheme.map Char.toLower
    let hasAuthority := !userInfo.isEmpty || !host.isEmpty || port.isSome
    if !pathFits (!scheme.isEmpty) hasAuthority path then .error .malformed
    else
      let path := if !scheme.isEmpty || hasAuthority then normalPath path else path
      let path ← encodePart unsafeInPath path
      let query ← encodeOptional unsafeInQuery query
      let fragment ← encodeOptional unsafeInFragment fragment
      let url : Url := { scheme, userInfo, host, port, path, query, fragment }
      if url.isAbsolute then .ok url else wellFormed url.asPath?

/-- Host and port, the host in brackets when it holds colons. -/
def authority (url : Url) : List Char :=
  (if url.userInfo.isEmpty then [] else url.userInfo ++ ['@']) ++
    (if url.host.contains ':' then '[' :: url.host ++ [']'] else url.host) ++
    (match url.port with
      | some port => ':' :: (Text.intText port).toList
      | none => [])

/-- The address as text. -/
def text (url : Url) : String :=
  String.ofList <|
    (if url.scheme.isEmpty then [] else url.scheme ++ [':']) ++
      (if url.authority.isEmpty then [] else '/' :: '/' :: url.authority) ++
      url.path ++
      (match url.query with
        | some query => '?' :: query
        | none => []) ++
      (match url.fragment with
        | some fragment => '#' :: fragment
        | none => [])

/-- The user and the password that the address carries. -/
def login? (url : Url) : Option (List Char × List Char) :=
  let (user, rest) := splitAtFirst [':'] url.userInfo
  let user := percentDecode user
  let password := percentDecode (rest.drop 1)
  if user.isEmpty && password.isEmpty then none else some (user, password)

/-- What is wrong with the name of the host, if it is an encoded one. -/
def hostFlaw? (url : Url) : Option Hostname.LabelFlaw :=
  if Hostname.encodedMark.isPrefixOf url.host then Hostname.nameFlaw? url.host else none

/-- What follows the last slash of the path, once the path is decoded. -/
def lastSegment (url : Url) : List Char :=
  ((percentDecode url.path).splitOn '/').getLast?.getD []

end Url

end BucketAccess.Http

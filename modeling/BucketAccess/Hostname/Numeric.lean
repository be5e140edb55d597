import BucketAccess.Text.Numeral

/-!
# Numeric addresses

Addresses of machines as numbers: four octets with points between them, or eight
groups of hexadecimal digits with colons between them, of which a run of zeros
may be left out and the last two may be written as octets.
-/

namespace BucketAccess.Hostname

/-- Four runs of digits with points between them. -/
def looksNumeric (host : List Char) : Bool :=
  let parts := host.splitOn '.'
  parts.length = 4 && parts.all fun part => !part.isEmpty && part.all Text.isAsciiDigit

/-- A number below 256 without leading zeros. -/
def isOctet (chars : List Char) : Bool :=
  !chars.isEmpty && chars.length ≤ 3 && chars.all Text.isAsciiDigit &&
    Text.readDigits chars < 256 && (chars.length = 1 || chars.head? ≠ some '0')

/-- Four octets with points between them. -/
def isPointAddress (host : List Char) : Bool :=
  let parts := host.splitOn '.'
  parts.length = 4 && parts.all isOctet

/-- One to four hexadecimal digits. -/
def isHexGroup (chars : List Char) : Bool :=
  !chars.isEmpty && chars.length ≤ 4 && chars.all fun char => (Text.hexValue? char).isSome

/-- How many groups stand in a part of an address with colons, if all are well
formed.  The last may be four octets, which count twice. -/
def countGroups (chars : List Char) (mayEndNumeric : Bool) : Option Nat :=
  if chars.isEmpty then some 0
  else
    let groups := chars.splitOn ':'
    let last := groups.getLast?.getD []
    if mayEndNumeric && last.contains '.' then
      if groups.dropLast.all isHexGroup && isPointAddress last then some (groups.length + 1)
      else none
    else if groups.all isHexGroup then some groups.length
    else none

/-- Splits at the first double colon. -/
def splitDoubleColon : List Char → Option (List Char × List Char)
  | ':' :: ':' :: rest => some ([], rest)
  | char :: rest => (splitDoubleColon rest).map fun parts => (char :: parts.1, parts.2)
  | [] => none

/-- Eight groups with colons between them, of which a run may be left out. -/
def isGroupAddress (address : List Char) : Bool :=
  match splitDoubleColon address with
  | some (front, back) =>
      match countGroups front false, countGroups back true with
      | some a, some b => a + b < 8
      | _, _ => false
  | none => countGroups address true = some 8

/-- An address with colons, behind which a percent sign and the name of a zone
may stand. -/
def isColonAddress (address : List Char) : Bool :=
  isGroupAddress (address.takeWhile (· ≠ '%')) &&
    match address.dropWhile (· ≠ '%') with
    | [] => true
    | _ :: zone => !zone.isEmpty && !zone.contains '%'

end BucketAccess.Hostname

import BucketAccess.Text.Utf8

/-!
# Text in wider units

UTF-16 and UTF-32 in either byte order.  Reading refuses incomplete units and
code points beyond the last.  Surrogates without a partner are points like any
other.
-/

namespace BucketAccess.Text

/-- The order of the bytes in a unit. -/
inductive ByteOrder where
  | bigEndian
  | littleEndian
deriving DecidableEq, Repr

/-- The value of a two-byte unit. -/
def ByteOrder.pair (order : ByteOrder) (first second : UInt8) : Nat :=
  match order with
  | .bigEndian => first.toNat * 0x100 + second.toNat
  | .littleEndian => second.toNat * 0x100 + first.toNat

/-- Bytes taken two at a time. -/
def units16 (order : ByteOrder) : List UInt8 → Option (List Nat)
  | [] => some []
  | first :: second :: rest => (units16 order rest).map (order.pair first second :: ·)
  | [_] => none

/-- Bytes taken four at a time. -/
def units32 (order : ByteOrder) : List UInt8 → Option (List Nat)
  | [] => some []
  | first :: second :: third :: fourth :: rest =>
      let unit := match order with
        | .bigEndian => order.pair first second * 0x10000 + order.pair third fourth
        | .littleEndian => order.pair third fourth * 0x10000 + order.pair first second
      (units32 order rest).map (unit :: ·)
  | _ => none

/-- The code point of a surrogate pair. -/
def pairedCode (high low : Nat) : Nat :=
  0x10000 + (high - 0xD800) * 0x400 + (low - 0xDC00)

/-- A unit that opens a pair. -/
def isHighSurrogate (unit : Nat) : Bool := 0xD800 ≤ unit && unit ≤ 0xDBFF
/-- A unit that closes a pair. -/
def isLowSurrogate (unit : Nat) : Bool := 0xDC00 ≤ unit && unit ≤ 0xDFFF

/-- Joins surrogate pairs.  What has no partner stays alone. -/
def joinPairs : List Nat → List Point
  | high :: low :: rest =>
      if isHighSurrogate high && isLowSurrogate low then
        .char (Char.ofNat (pairedCode high low)) :: joinPairs rest
      else Point.ofCode high :: joinPairs (low :: rest)
  | units => units.map Point.ofCode

def utf16Points (order : ByteOrder) (bytes : List UInt8) : Option (List Point) :=
  (units16 order bytes).map joinPairs

def utf32Points (order : ByteOrder) (bytes : List UInt8) : Option (List Point) := do
  let codes ← units32 order bytes
  codes.mapM (pointWithin? 0 0x10FFFF)

end BucketAccess.Text

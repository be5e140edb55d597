import BucketAccess.Json.Reader

/-!
# JSON in bytes

The encoding of a JSON text is told from its first bytes: by a byte order mark,
or by where the zero bytes lie, for the first two characters of a JSON text are
ASCII.  A byte order mark is not part of the text.
-/

namespace BucketAccess.Json

/-- The encodings in which a JSON text may come. -/
inductive Encoding where
  | utf8
  | utf16 (order : Text.ByteOrder)
  | utf32 (order : Text.ByteOrder)
deriving DecidableEq, Repr

/-- The points of bytes in an encoding. -/
def Encoding.decode : Encoding → List UInt8 → Option (List Point)
  | .utf8, bytes => Text.utf8Points bytes
  | .utf16 order, bytes => Text.utf16Points order bytes
  | .utf32 order, bytes => Text.utf32Points order bytes

/-- The encoding that a byte order mark tells, and the bytes after the mark. -/
def marked? : List UInt8 → Option (Encoding × List UInt8)
  | 0x00 :: 0x00 :: 0xFE :: 0xFF :: rest => some (.utf32 .bigEndian, rest)
  | 0xFF :: 0xFE :: 0x00 :: 0x00 :: rest => some (.utf32 .littleEndian, rest)
  | 0xFE :: 0xFF :: rest => some (.utf16 .bigEndian, rest)
  | 0xFF :: 0xFE :: rest => some (.utf16 .littleEndian, rest)
  | 0xEF :: 0xBB :: 0xBF :: rest => some (.utf8, rest)
  | _ => none

/-- The encoding that the zero bytes tell. -/
def unmarked : List UInt8 → Encoding
  | first :: second :: third :: fourth :: _ =>
      if first = 0 then
        if second = 0 then .utf32 .bigEndian else .utf16 .bigEndian
      else if second = 0 then
        if third = 0 && fourth = 0 then .utf32 .littleEndian else .utf16 .littleEndian
      else .utf8
  | [first, second] =>
      if first = 0 then .utf16 .bigEndian
      else if second = 0 then .utf16 .littleEndian
      else .utf8
  | _ => .utf8

/-- Reads bytes as JSON. -/
def ofBytes (room : Nat) (bytes : List UInt8) : Except TextFlaw Json := do
  let (encoding, content) := (marked? bytes).getD (unmarked bytes, bytes)
  let points ← expect (encoding.decode content)
  read room points

end BucketAccess.Json

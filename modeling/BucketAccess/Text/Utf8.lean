import BucketAccess.Text.Loose

/-!
# UTF-8

Texts as bytes and back.  Reading refuses every sequence that writing cannot
produce: stray or missing continuation bytes, overlong forms, code points beyond
the last and, unless they are wanted, surrogates.  Reading with replacement puts a
mark in the place of each such sequence, as far as it could have been the start of
a character.
-/

namespace BucketAccess.Text

/-- The bytes of one code point. -/
def utf8Bytes (code : Nat) : List UInt8 :=
  if code < 0x80 then [UInt8.ofNat code]
  else if code < 0x800 then
    [UInt8.ofNat (0xC0 + code / 0x40), UInt8.ofNat (0x80 + code % 0x40)]
  else if code < 0x10000 then
    [UInt8.ofNat (0xE0 + code / 0x1000), UInt8.ofNat (0x80 + code / 0x40 % 0x40),
     UInt8.ofNat (0x80 + code % 0x40)]
  else
    [UInt8.ofNat (0xF0 + code / 0x40000), UInt8.ofNat (0x80 + code / 0x1000 % 0x40),
     UInt8.ofNat (0x80 + code / 0x40 % 0x40), UInt8.ofNat (0x80 + code % 0x40)]

/-- The bytes of a text. -/
def utf8Encode (chars : List Char) : List UInt8 :=
  chars.flatMap fun char => utf8Bytes char.toNat

/-- The six bits of a continuation byte. -/
def continuation? (byte : UInt8) : Option Nat :=
  if 0x80 ≤ byte.toNat && byte.toNat < 0xC0 then some (byte.toNat - 0x80) else none

/-- The point of a code that lies in the given span. -/
def pointWithin? (first last code : Nat) : Option Point :=
  if first ≤ code && code ≤ last then some (Point.ofCode code) else none

/-- Reads bytes as UTF-8, all of them or not at all, and takes surrogates for
points like any other. -/
def utf8Points : List UInt8 → Option (List Point)
  | [] => some []
  | lead :: rest =>
      if lead.toNat < 0x80 then
        (utf8Points rest).map (.char (Char.ofNat lead.toNat) :: ·)
      else if 0xC0 ≤ lead.toNat && lead.toNat < 0xE0 then
        match rest with
        | second :: rest => do
            let low ← continuation? second
            let point ← pointWithin? 0x80 0x7FF ((lead.toNat - 0xC0) * 0x40 + low)
            let points ← utf8Points rest
            pure (point :: points)
        | [] => none
      else if 0xE0 ≤ lead.toNat && lead.toNat < 0xF0 then
        match rest with
        | second :: third :: rest => do
            let middle ← continuation? second
            let low ← continuation? third
            let point ← pointWithin? 0x800 0xFFFF
              ((lead.toNat - 0xE0) * 0x1000 + middle * 0x40 + low)
            let points ← utf8Points rest
            pure (point :: points)
        | _ => none
      else if 0xF0 ≤ lead.toNat && lead.toNat < 0xF8 then
        match rest with
        | second :: third :: fourth :: rest => do
            let high ← continuation? second
            let middle ← continuation? third
            let low ← continuation? fourth
            let point ← pointWithin? 0x10000 0x10FFFF
              ((lead.toNat - 0xF0) * 0x40000 + high * 0x1000 + middle * 0x40 + low)
            let points ← utf8Points rest
            pure (point :: points)
        | _ => none
      else none

/-- Reads bytes as UTF-8, all of them or not at all. -/
def utf8Decode (bytes : List UInt8) : Option (List Char) :=
  (utf8Points bytes).bind Point.chars?

/-- Stands for bytes that are no text. -/
def replacement : Char := Char.ofNat 0xFFFD

/-- A character begun: how many bytes are missing, the bits so far, and the span
of the next byte. -/
structure Begun where
  missing : Nat
  bits : Nat
  least : Nat
  greatest : Nat

/-- What a byte begins: a whole character, one that needs more bytes, or
nothing. -/
def beginChar (byte : UInt8) : Option (Char ⊕ Begun) :=
  let lead := byte.toNat
  if lead < 0x80 then some (.inl (Char.ofNat lead))
  else if 0xC2 ≤ lead && lead < 0xE0 then some (.inr ⟨1, lead - 0xC0, 0x80, 0xBF⟩)
  else if 0xE0 ≤ lead && lead < 0xF0 then
    some (.inr ⟨2, lead - 0xE0, if lead = 0xE0 then 0xA0 else 0x80,
      if lead = 0xED then 0x9F else 0xBF⟩)
  else if 0xF0 ≤ lead && lead < 0xF5 then
    some (.inr ⟨3, lead - 0xF0, if lead = 0xF0 then 0x90 else 0x80,
      if lead = 0xF4 then 0x8F else 0xBF⟩)
  else none

/-- Reads bytes as UTF-8 with replacement, after a character begun. -/
def replaceFrom : Option Begun → List UInt8 → List Char
  | none, [] => []
  | some _, [] => [replacement]
  | begun, byte :: rest =>
      match begun.filter fun begun =>
          begun.least ≤ byte.toNat && byte.toNat ≤ begun.greatest with
      | some begun =>
          let bits := begun.bits * 0x40 + (byte.toNat - 0x80)
          if begun.missing = 1 then Char.ofNat bits :: replaceFrom none rest
          else replaceFrom (some ⟨begun.missing - 1, bits, 0x80, 0xBF⟩) rest
      | none =>
          (if begun.isSome then [replacement] else []) ++
            match beginChar byte with
            | some (.inl char) => char :: replaceFrom none rest
            | some (.inr next) => replaceFrom (some next) rest
            | none => replacement :: replaceFrom none rest

/-- The text of bytes, with a mark in the place of what is no text. -/
def utf8Replace (bytes : List UInt8) : List Char := replaceFrom none bytes

end BucketAccess.Text

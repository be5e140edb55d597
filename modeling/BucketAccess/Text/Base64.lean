/-!
# Base64

The standard alphabet with padding.  Reading is lenient: characters outside the
alphabet are passed over, bits beyond the last byte are dropped, and padding that
completes a group ends the text, whatever follows.  Only a group that is never
completed is refused.
-/

namespace BucketAccess.Text

/-- The character for six bits. -/
def sextetChar (sextet : Nat) : Char :=
  if sextet < 26 then Char.ofNat (0x41 + sextet)
  else if sextet < 52 then Char.ofNat (0x61 + (sextet - 26))
  else if sextet < 62 then Char.ofNat (0x30 + (sextet - 52))
  else if sextet = 62 then '+'
  else '/'

/-- The six bits of a character of the alphabet. -/
def sextet? (char : Char) : Option Nat :=
  if 'A' ≤ char && char ≤ 'Z' then some (char.toNat - 0x41)
  else if 'a' ≤ char && char ≤ 'z' then some (char.toNat - 0x61 + 26)
  else if '0' ≤ char && char ≤ '9' then some (char.toNat - 0x30 + 52)
  else if char = '+' then some 62
  else if char = '/' then some 63
  else none

/-- Bytes as text, three in four characters. -/
def base64Encode : List UInt8 → List Char
  | [] => []
  | [first] =>
      [sextetChar (first.toNat / 4), sextetChar (first.toNat % 4 * 16), '=', '=']
  | [first, second] =>
      [sextetChar (first.toNat / 4),
       sextetChar (first.toNat % 4 * 16 + second.toNat / 16),
       sextetChar (second.toNat % 16 * 4), '=']
  | first :: second :: third :: rest =>
      sextetChar (first.toNat / 4)
        :: sextetChar (first.toNat % 4 * 16 + second.toNat / 16)
        :: sextetChar (second.toNat % 16 * 4 + third.toNat / 64)
        :: sextetChar (third.toNat % 64) :: base64Encode rest

/-- Reads text of which `place` characters of a group have been read.  The bits
that are in no byte yet are in `bits`, and `pads` counts the padding since. -/
def readSextets (place bits pads : Nat) : List Char → Option (List UInt8)
  | [] => if place = 0 then some [] else none
  | char :: rest =>
      if char = '=' then
        if place < 2 then readSextets place bits pads rest
        else if 4 ≤ place + pads + 1 then some []
        else readSextets place bits (pads + 1) rest
      else
        match sextet? char with
        | none => readSextets place bits pads rest
        | some sextet =>
            match place with
            | 0 => readSextets 1 sextet 0 rest
            | 1 =>
                (readSextets 2 (sextet % 16) 0 rest).map
                  (UInt8.ofNat (bits * 4 + sextet / 16) :: ·)
            | 2 =>
                (readSextets 3 (sextet % 4) 0 rest).map
                  (UInt8.ofNat (bits * 16 + sextet / 4) :: ·)
            | _ => (readSextets 0 0 0 rest).map (UInt8.ofNat (bits * 64 + sextet) :: ·)

/-- The bytes that a text stands for. -/
def base64Decode (chars : List Char) : Option (List UInt8) := readSextets 0 0 0 chars

end BucketAccess.Text

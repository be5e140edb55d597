import BucketAccess.Text.Utf8

/-!
# UTF-8 read back

Every text is given back by the bytes it is written as.  The number of bytes of a
character is read off its first byte, so a character is read back whatever
follows it, and a text character by character.
-/

namespace BucketAccess.Text

theorem toNat_ofNat_byte {code : Nat} (hcode : code < 0x100) : (UInt8.ofNat code).toNat = code :=
  UInt8.toNat_ofNat_of_lt' hcode

theorem within_iff {first last code : Nat} :
    (first ≤ code && code < last) = true ↔ first ≤ code ∧ code < last := by
  rw [Bool.and_eq_true, decide_eq_true_eq, decide_eq_true_eq]

theorem continuation?_ofNat {low : Nat} (hlow : low < 0x40) :
    continuation? (UInt8.ofNat (0x80 + low)) = some low := by
  rw [continuation?, toNat_ofNat_byte (by omega), if_pos (within_iff.mpr (by omega)),
    Nat.add_sub_cancel_left]

/-- Code points that are no surrogates and not beyond the last. -/
theorem toNat_valid (char : Char) :
    char.toNat < 0xD800 ∨ 0xDFFF < char.toNat ∧ char.toNat < 0x110000 :=
  char.valid

theorem ofCode_toNat (char : Char) : Point.ofCode char.toNat = .char char := by
  have hvalid := toNat_valid char
  rw [Point.ofCode, dif_neg (by unfold Point.firstSurrogate; omega), Char.ofNat_toNat]

theorem pointWithin?_toNat {char : Char} {first last : Nat} (hfirst : first ≤ char.toNat)
    (hlast : char.toNat ≤ last) : pointWithin? first last char.toNat = some (.char char) := by
  rw [pointWithin?, if_pos (by simp; omega), ofCode_toNat]

section Widths

variable {char : Char} (rest : List UInt8)

theorem utf8Points_one (hbelow : char.toNat < 0x80) :
    utf8Points (UInt8.ofNat char.toNat :: rest) = (utf8Points rest).map (.char char :: ·) := by
  rw [utf8Points.eq_def]
  dsimp only
  rw [toNat_ofNat_byte (by omega), if_pos hbelow, Char.ofNat_toNat]

theorem utf8Points_two (hfrom : 0x80 ≤ char.toNat) (hbelow : char.toNat < 0x800) :
    utf8Points (UInt8.ofNat (0xC0 + char.toNat / 0x40) ::
        UInt8.ofNat (0x80 + char.toNat % 0x40) :: rest) =
      (utf8Points rest).map (.char char :: ·) := by
  have hcode : char.toNat / 0x40 * 0x40 + char.toNat % 0x40 = char.toNat := by omega
  rw [utf8Points.eq_def]
  dsimp only
  rw [toNat_ofNat_byte (by omega), if_neg (by omega), if_pos (within_iff.mpr (by omega)),
    continuation?_ofNat (by omega), Nat.add_sub_cancel_left]
  -- With simp in place of rw the kernel would compare the sums, and count to do so.
  rw [Option.bind_eq_bind, Option.bind_some, hcode,
    pointWithin?_toNat hfrom (Nat.le_of_lt_succ hbelow), Option.bind_eq_bind, Option.bind_some]
  exact Option.map_eq_bind.symm

theorem utf8Points_three (hfrom : 0x800 ≤ char.toNat) (hbelow : char.toNat < 0x10000) :
    utf8Points (UInt8.ofNat (0xE0 + char.toNat / 0x1000) ::
        UInt8.ofNat (0x80 + char.toNat / 0x40 % 0x40) ::
        UInt8.ofNat (0x80 + char.toNat % 0x40) :: rest) =
      (utf8Points rest).map (.char char :: ·) := by
  have hcode : char.toNat / 0x1000 * 0x1000 + char.toNat / 0x40 % 0x40 * 0x40 +
      char.toNat % 0x40 = char.toNat := by omega
  rw [utf8Points.eq_def]
  dsimp only
  rw [toNat_ofNat_byte (by omega), if_neg (by omega), if_neg (mt within_iff.mp (by omega)),
    if_pos (within_iff.mpr (by omega)), continuation?_ofNat (by omega),
    continuation?_ofNat (by omega), Nat.add_sub_cancel_left]
  rw [Option.bind_eq_bind, Option.bind_some, Option.bind_some, hcode,
    pointWithin?_toNat hfrom (Nat.le_of_lt_succ hbelow), Option.bind_eq_bind, Option.bind_some]
  exact Option.map_eq_bind.symm

theorem utf8Points_four (hfrom : 0x10000 ≤ char.toNat) :
    utf8Points (UInt8.ofNat (0xF0 + char.toNat / 0x40000) ::
        UInt8.ofNat (0x80 + char.toNat / 0x1000 % 0x40) ::
        UInt8.ofNat (0x80 + char.toNat / 0x40 % 0x40) ::
        UInt8.ofNat (0x80 + char.toNat % 0x40) :: rest) =
      (utf8Points rest).map (.char char :: ·) := by
  have hlast : char.toNat ≤ 0x10FFFF := by
    have hvalid := toNat_valid char
    omega
  have hcode : char.toNat / 0x40000 * 0x40000 + char.toNat / 0x1000 % 0x40 * 0x1000 +
      char.toNat / 0x40 % 0x40 * 0x40 + char.toNat % 0x40 = char.toNat := by omega
  rw [utf8Points.eq_def]
  dsimp only
  rw [toNat_ofNat_byte (by omega), if_neg (by omega), if_neg (mt within_iff.mp (by omega)),
    if_neg (mt within_iff.mp (by omega)), if_pos (within_iff.mpr (by omega)),
    continuation?_ofNat (by omega), continuation?_ofNat (by omega),
    continuation?_ofNat (by omega), Nat.add_sub_cancel_left]
  rw [Option.bind_eq_bind, Option.bind_some, Option.bind_some, Option.bind_some, hcode,
    pointWithin?_toNat hfrom hlast, Option.bind_eq_bind, Option.bind_some]
  exact Option.map_eq_bind.symm

/-- A character is read back, whatever follows it. -/
theorem utf8Points_utf8Bytes (char : Char) :
    utf8Points (utf8Bytes char.toNat ++ rest) = (utf8Points rest).map (.char char :: ·) := by
  rw [utf8Bytes]
  split
  case isTrue hbelow => exact utf8Points_one rest hbelow
  case isFalse hone =>
    split
    case isTrue hbelow => exact utf8Points_two rest (Nat.le_of_not_lt hone) hbelow
    case isFalse htwo =>
      split
      case isTrue hbelow => exact utf8Points_three rest (Nat.le_of_not_lt htwo) hbelow
      case isFalse hthree => exact utf8Points_four rest (Nat.le_of_not_lt hthree)

end Widths

theorem utf8Points_utf8Encode (chars : List Char) :
    utf8Points (utf8Encode chars) = some (chars.map .char) := by
  induction chars with
  | nil => rfl
  | cons char chars ih =>
      change utf8Points (utf8Bytes char.toNat ++ utf8Encode chars) = _
      rw [utf8Points_utf8Bytes, ih]
      rfl

theorem utf8Decode_utf8Encode (chars : List Char) : utf8Decode (utf8Encode chars) = some chars := by
  rw [utf8Decode, utf8Points_utf8Encode, Option.bind_some, Point.chars?_map_char]

theorem utf8Encode_injective : Function.Injective utf8Encode := by
  intro left right heq
  have hdecode := congrArg utf8Decode heq
  rw [utf8Decode_utf8Encode, utf8Decode_utf8Encode] at hdecode
  exact Option.some.inj hdecode

end BucketAccess.Text

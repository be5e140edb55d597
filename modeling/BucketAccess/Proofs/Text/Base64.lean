import BucketAccess.Proofs.Text.Numeral
import BucketAccess.Text.Base64

/-!
# Base64 in headers

Whatever bytes it stands for, base64 is ASCII, so a header can carry it, and the
bytes are read back from it.
-/

namespace BucketAccess.Text

/-! ## Characters -/

theorem toNat_sextetChar_lt (sextet : Nat) : (sextetChar sextet).toNat < 0x80 := by
  unfold sextetChar
  split
  · rw [toNat_ofNat_of_isValidChar (.inl (by omega))]
    omega
  · split
    · rw [toNat_ofNat_of_isValidChar (.inl (by omega))]
      omega
    · split
      · rw [toNat_ofNat_of_isValidChar (.inl (by omega))]
        omega
      · split <;> decide

theorem toNat_base64Encode_lt (bytes : List UInt8) :
    ∀ char ∈ base64Encode bytes, char.toNat < 0x80 := by
  have hpad : '='.toNat < 0x80 := by decide
  fun_induction base64Encode bytes with
  | case1 => exact List.forall_mem_nil _
  | case2 first =>
      simp only [List.forall_mem_cons, toNat_sextetChar_lt, hpad, true_and]
      exact List.forall_mem_nil _
  | case3 first second =>
      simp only [List.forall_mem_cons, toNat_sextetChar_lt, hpad, true_and]
      exact List.forall_mem_nil _
  | case4 first second third rest ih =>
      simp only [List.forall_mem_cons, toNat_sextetChar_lt, true_and]
      exact ih

/-! ## Reading back -/

theorem sextet?_sextetChar : ∀ sextet < 64, sextet? (sextetChar sextet) = some sextet := by
  decide

theorem sextetChar_ne_pad : ∀ sextet < 64, sextetChar sextet ≠ '=' := by
  decide

section Places

variable {sextet : Nat} {bits pads : Nat} {rest : List Char}

theorem readSextets_first (hsextet : sextet < 64) :
    readSextets 0 bits pads (sextetChar sextet :: rest) = readSextets 1 sextet 0 rest := by
  rw [readSextets, if_neg (sextetChar_ne_pad sextet hsextet), sextet?_sextetChar sextet hsextet]
  rfl

theorem readSextets_second (byte : UInt8) (hsextet : sextet < 64)
    (hbyte : bits * 4 + sextet / 16 = byte.toNat) :
    readSextets 1 bits pads (sextetChar sextet :: rest) =
      (readSextets 2 (sextet % 16) 0 rest).map (byte :: ·) := by
  rw [readSextets, if_neg (sextetChar_ne_pad sextet hsextet), sextet?_sextetChar sextet hsextet,
    ← UInt8.ofNat_toNat (x := byte), ← hbyte]
  rfl

theorem readSextets_third (byte : UInt8) (hsextet : sextet < 64)
    (hbyte : bits * 16 + sextet / 4 = byte.toNat) :
    readSextets 2 bits pads (sextetChar sextet :: rest) =
      (readSextets 3 (sextet % 4) 0 rest).map (byte :: ·) := by
  rw [readSextets, if_neg (sextetChar_ne_pad sextet hsextet), sextet?_sextetChar sextet hsextet,
    ← UInt8.ofNat_toNat (x := byte), ← hbyte]
  rfl

theorem readSextets_fourth (byte : UInt8) (hsextet : sextet < 64)
    (hbyte : bits * 64 + sextet = byte.toNat) :
    readSextets 3 bits pads (sextetChar sextet :: rest) =
      (readSextets 0 0 0 rest).map (byte :: ·) := by
  rw [readSextets, if_neg (sextetChar_ne_pad sextet hsextet), sextet?_sextetChar sextet hsextet,
    ← UInt8.ofNat_toNat (x := byte), ← hbyte]
  rfl

end Places

/-- Whatever the number of bytes is, reading gives them back. -/
theorem base64Decode_base64Encode (bytes : List UInt8) :
    base64Decode (base64Encode bytes) = some bytes := by
  unfold base64Decode
  fun_induction base64Encode bytes with
  | case1 => rfl
  | case2 first =>
      have hfirst := first.toNat_lt
      rw [readSextets_first (by omega), readSextets_second first (by omega) (by omega)]
      rfl
  | case3 first second =>
      have hfirst := first.toNat_lt
      have hsecond := second.toNat_lt
      rw [readSextets_first (by omega), readSextets_second first (by omega) (by omega),
        readSextets_third second (by omega) (by omega)]
      rfl
  | case4 first second third rest ih =>
      have hfirst := first.toNat_lt
      have hsecond := second.toNat_lt
      have hthird := third.toNat_lt
      rw [readSextets_first (by omega), readSextets_second first (by omega) (by omega),
        readSextets_third second (by omega) (by omega),
        readSextets_fourth third (by omega) (by omega), ih]
      rfl

theorem base64Encode_injective : Function.Injective base64Encode := by
  intro left right heq
  have hdecode := congrArg base64Decode heq
  rw [base64Decode_base64Encode, base64Decode_base64Encode] at hdecode
  exact Option.some.inj hdecode

end BucketAccess.Text

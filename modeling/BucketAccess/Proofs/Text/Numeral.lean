import BucketAccess.Text.Numeral
import Mathlib.Algebra.Group.Nat.Defs
import Mathlib.Data.List.Induction

/-!
# Decimal numerals read back

The digits of a number stand for the number, with zeros in front or without.
Numbers of any length are therefore told apart by their digits.  Without zeros in
front they are plain decimal, as the standard library writes it.
-/

namespace BucketAccess.Text

theorem toNat_ofNat_of_isValidChar {code : Nat} (hvalid : code.isValidChar) :
    (Char.ofNat code).toNat = code := by
  rw [Char.ofNat, dif_pos hvalid]
  rfl

theorem digitValue_digitChar {digit : Nat} (hdigit : digit < 10) :
    digitValue (digitChar digit) = digit := by
  rw [digitValue, digitChar, toNat_ofNat_of_isValidChar (.inl (by omega)), Nat.add_sub_cancel_left]

/-- Reading goes on from the number whose digits have just been read. -/
theorem foldl_digitsOnto {fuel number : Nat} (written : List Char) (hfuel : number < fuel) :
    (digitsOnto fuel number written).foldl (fun value char => 10 * value + digitValue char) 0 =
      written.foldl (fun value char => 10 * value + digitValue char) number := by
  induction fuel generalizing number written with
  | zero => exact absurd hfuel (Nat.not_lt_zero number)
  | succ fuel ih =>
      rw [digitsOnto]
      by_cases hsmall : number < 10
      · rw [if_pos hsmall, List.foldl_cons, digitValue_digitChar hsmall]
        simp
      · rw [if_neg hsmall, ih _ (by omega), List.foldl_cons,
          digitValue_digitChar (Nat.mod_lt number (by decide)), Nat.div_add_mod]

@[simp]
theorem readDigits_digits (number : Nat) : readDigits (digits number) = number :=
  foldl_digitsOnto [] (Nat.lt_succ_self number)

theorem toNat_of_isAsciiDigit {char : Char} (hdigit : isAsciiDigit char = true) :
    0x30 ≤ char.toNat ∧ char.toNat ≤ 0x39 := by
  simpa [isAsciiDigit, Char.le_def, UInt32.le_iff_toNat_le] using hdigit

/-- Digits stand for a number that has no more of them. -/
theorem readDigits_lt {chars : List Char} (hdigits : ∀ char ∈ chars, isAsciiDigit char = true) :
    readDigits chars < 10 ^ chars.length := by
  induction chars using List.reverseRecOn with
  | nil => decide
  | append_singleton chars char ih =>
      obtain ⟨hfront, hlast⟩ := List.forall_mem_append.mp hdigits
      obtain ⟨-, hnine⟩ := toNat_of_isAsciiDigit (hlast char List.mem_cons_self)
      have hvalue : digitValue char < 10 := by
        rw [digitValue]
        omega
      have hbound := ih hfront
      change chars.foldl (fun value char => 10 * value + digitValue char) 0 < _ at hbound
      rw [readDigits, List.foldl_append, List.foldl_cons, List.foldl_nil, List.length_append,
        List.length_singleton, Nat.pow_succ]
      omega

/-- Digits that are not too many stand for a number that is not too long. -/
theorem readDigits_lt_leastUnshown {chars : List Char}
    (hdigits : ∀ char ∈ chars, isAsciiDigit char = true) (hlength : chars.length ≤ longestNumeral) :
    readDigits chars < leastUnshown :=
  Nat.lt_of_lt_of_le (readDigits_lt hdigits) (pow_le_leastUnshown hlength)

/-! ## Plain decimal -/

theorem digitChar_eq {digit : Nat} (hdigit : digit < 10) :
    digitChar digit = Nat.digitChar digit := by
  revert digit
  decide

theorem digitsOnto_eq {fuel number : Nat} (written : List Char) (hfuel : number < fuel) :
    digitsOnto fuel number written = Nat.toDigits 10 number ++ written := by
  induction fuel generalizing number written with
  | zero => exact absurd hfuel (Nat.not_lt_zero number)
  | succ fuel ih =>
      rw [digitsOnto, Nat.toDigits_eq_if (by decide)]
      by_cases hsmall : number < 10
      · rw [if_pos hsmall, if_pos hsmall, digitChar_eq hsmall]
        rfl
      · rw [if_neg hsmall, if_neg hsmall, ih _ (by omega),
          digitChar_eq (Nat.mod_lt number (by decide)), List.append_assoc]
        rfl

theorem digits_eq_toDigits (number : Nat) : digits number = Nat.toDigits 10 number := by
  rw [digits, digitsOnto_eq [] (Nat.lt_succ_self number), List.append_nil]

theorem natText_eq_toString (number : Nat) : natText number = toString number := by
  rw [natText, digits_eq_toDigits, Nat.toString_eq_ofList_toDigits]

theorem digits_ne_nil (number : Nat) : digits number ≠ [] := by
  rw [digits_eq_toDigits]
  exact Nat.toDigits_ne_nil

theorem isAsciiDigit_of_mem_digits {number : Nat} {char : Char} (hchar : char ∈ digits number) :
    isAsciiDigit char = true := by
  rw [digits_eq_toDigits] at hchar
  have hdigit := Nat.isDigit_of_mem_toDigits (by decide) (by decide) hchar
  simpa [Char.isDigit, isAsciiDigit, Char.le_def] using hdigit

/-! ## Padded numbers -/

theorem readDigits_zeros_append (count : Nat) (chars : List Char) :
    readDigits (List.replicate count '0' ++ chars) = readDigits chars := by
  induction count with
  | zero => rfl
  | succ count ih => exact ih

@[simp]
theorem readDigits_paddedDigits (width number : Nat) :
    readDigits (paddedDigits width number) = number := by
  rw [paddedDigits, readDigits_zeros_append, readDigits_digits]

/-- A number below a power of ten has no more digits than the power has zeros. -/
theorem length_digitsOnto_le {fuel number width : Nat} (written : List Char)
    (hfuel : number < fuel) (hnumber : number < 10 ^ (width + 1)) :
    (digitsOnto fuel number written).length ≤ width + 1 + written.length := by
  induction fuel generalizing number width written with
  | zero => exact absurd hfuel (Nat.not_lt_zero number)
  | succ fuel ih =>
      rw [digitsOnto]
      by_cases hsmall : number < 10
      · rw [if_pos hsmall, List.length_cons]
        omega
      · cases width with
        | zero => exact absurd hnumber hsmall
        | succ width =>
            have hrest : number / 10 < 10 ^ (width + 1) := by
              rw [Nat.div_lt_iff_lt_mul (by decide), ← Nat.pow_succ]
              exact hnumber
            have hlength := ih (digitChar (number % 10) :: written) (by omega) hrest
            rw [List.length_cons] at hlength
            rw [if_neg hsmall]
            omega

/-- A number that fits a width is padded to exactly that width. -/
theorem length_paddedDigits {width number : Nat} (hwidth : width ≠ 0)
    (hnumber : number < 10 ^ width) : (paddedDigits width number).length = width := by
  obtain ⟨width, rfl⟩ := Nat.exists_eq_succ_of_ne_zero hwidth
  have hlength : (digits number).length ≤ width + 1 :=
    length_digitsOnto_le [] (Nat.lt_succ_self number) hnumber
  rw [paddedDigits, List.length_append, List.length_replicate]
  exact Nat.sub_add_cancel hlength

/-- Padding to a width loses no number, however many digits it has. -/
theorem paddedDigits_injective {width left right : Nat}
    (heq : paddedDigits width left = paddedDigits width right) : left = right := by
  calc
    left = readDigits (paddedDigits width left) := (readDigits_paddedDigits width left).symm
    _ = readDigits (paddedDigits width right) := by rw [heq]
    _ = right := readDigits_paddedDigits width right

theorem paddedText_injective {width left right : Nat}
    (heq : paddedText width left = paddedText width right) : left = right :=
  paddedDigits_injective (String.ofList_injective heq)

end BucketAccess.Text

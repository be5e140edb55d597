import BucketAccess.Command.Basic
import BucketAccess.Proofs.Text.Numeral
import BucketAccess.Proofs.Text.Run

/-!
# Integers in texts

An integer that is written in plain decimal is read back from the text, unless it has
more digits than are ever read.
-/

namespace BucketAccess

open Text (digits intText isAsciiDigit isWhiteSpace longestNumeral)

/-! ## Numerals in a row of characters -/

namespace Text

variable {char : Char} {chars : List Char}

theorem isWhiteSpace_of_isAsciiDigit (hdigit : isAsciiDigit char = true) :
    isWhiteSpace char = false := by
  have hcode := toNat_of_isAsciiDigit hdigit
  rw [← Bool.not_eq_true]
  intro hblank
  simp only [isWhiteSpace, inRanges, whiteSpaceRanges, Bool.or_eq_true, Bool.and_eq_true,
    decide_eq_true_eq, List.any_cons, List.any_nil, Bool.or_false] at hblank
  omega

/-- Characters outside a class are not trimmed. -/
theorem trimBy_eq_self {drop : Char → Bool} (hchars : ∀ char ∈ chars, drop char = false) :
    trimBy drop chars = chars := by
  have hends : ∀ chars : List Char, (∀ char ∈ chars, drop char = false) → Ends drop chars :=
    fun chars hchars char hchar => hchars char (List.mem_of_mem_head? hchar)
  rw [trimBy, dropWhile_of_ends (hends chars hchars), dropWhile_of_ends (hends _ ?_),
    List.reverse_reverse]
  exact fun char hchar => hchars char (List.mem_reverse.mp hchar)

/-- Digits without underscores are not changed. -/
theorem ungroup?_of_digits (hchars : ∀ char ∈ chars, isAsciiDigit char = true) (afterDigit : Bool)
    (hsome : afterDigit = true ∨ chars ≠ []) : ungroup? afterDigit chars = some chars := by
  induction chars generalizing afterDigit with
  | nil =>
      obtain rfl := hsome.resolve_right (fun hne => hne rfl)
      rfl
  | cons char chars ih =>
      obtain ⟨hdigit, hrest⟩ := List.forall_mem_cons.mp hchars
      have hmark : char ≠ '_' := by
        rintro rfl
        exact absurd hdigit (by decide)
      rw [ungroup?, if_pos hdigit, ih hrest true (.inl rfl)]
      · rfl
      · exact hmark

theorem takeSign_digits (number : Nat) : takeSign (digits number) = (false, digits number) := by
  cases hdigits : digits number with
  | nil => rfl
  | cons char chars =>
      have hdigit : isAsciiDigit char = true :=
        @isAsciiDigit_of_mem_digits number char (hdigits ▸ List.mem_cons_self)
      rw [takeSign]
      · rintro rest ⟨⟩
        exact absurd hdigit (by decide)
      · rintro rest ⟨⟩
        exact absurd hdigit (by decide)

/-- An integer in plain decimal is its sign and its digits. -/
theorem takeSign_intText (number : Int) :
    takeSign (trimBy isWhiteSpace (intText number).toList) =
      (decide (number < 0), digits number.natAbs) := by
  have hblanks : ∀ count, ∀ char ∈ digits count, isWhiteSpace char = false :=
    fun _ _ hchar => isWhiteSpace_of_isAsciiDigit (isAsciiDigit_of_mem_digits hchar)
  cases number with
  | ofNat number =>
      change takeSign (trimBy isWhiteSpace (natText number).toList) = _
      rw [natText, String.toList_ofList, trimBy_eq_self (hblanks number), takeSign_digits]
      simp
  | negSucc number =>
      have hlist : ("-" ++ natText (number + 1)).toList = '-' :: digits (number + 1) := by
        simp [natText]
      change takeSign (trimBy isWhiteSpace ("-" ++ natText (number + 1)).toList) = _
      rw [hlist, trimBy_eq_self (List.forall_mem_cons.mpr ⟨by decide, hblanks _⟩), takeSign]
      simp

end Text

/-- An ASCII digit stands for itself. -/
theorem Decimal.asciiDigit_of_isAsciiDigit {char : Char} (hdigit : isAsciiDigit char = true) :
    asciiDigit char = char := by
  obtain ⟨hleast, hgreatest⟩ := Text.toNat_of_isAsciiDigit hdigit
  have hvalue : Text.decimalDigit? char = some (char.toNat - 0x30) := by
    rw [Text.decimalDigit?, Text.digitZeros, List.find?_cons_of_pos]
    · rfl
    · simp only [Bool.and_eq_true, decide_eq_true_eq]
      omega
  rw [asciiDigit, hvalue]
  change Char.ofNat (0x30 + (char.toNat - 0x30)) = char
  rw [Nat.add_sub_cancel' hleast, Char.ofNat_toNat]

namespace Command

/-- Plain decimal has no digits of other scripts. -/
theorem map_asciiDigit_digits (number : Nat) :
    (digits number).map Decimal.asciiDigit = digits number := by
  have hself : ∀ char ∈ digits number, Decimal.asciiDigit char = char := by
    intro char hchar
    exact Decimal.asciiDigit_of_isAsciiDigit (Text.isAsciiDigit_of_mem_digits hchar)
  rw [List.map_congr_left hself, List.map_id']

/-- The usual reader gives an integer back from plain decimal, unless it has too
many digits. -/
theorem readInt?_intText (number : Int) :
    readInt? (intText number) =
      if (digits number.natAbs).length ≤ longestNumeral then some number else none := by
  have hdigits : ∀ char ∈ digits number.natAbs, isAsciiDigit char = true :=
    fun _ => Text.isAsciiDigit_of_mem_digits
  have hgroup : Text.ungroup? false (digits number.natAbs) = some (digits number.natAbs) :=
    Text.ungroup?_of_digits hdigits false (.inr (Text.digits_ne_nil _))
  have hsigned : Decimal.Binary.signed (decide (number < 0)) number.natAbs = number := by
    rw [Decimal.Binary.signed]
    split
    · next hnegative =>
        have hlt := of_decide_eq_true hnegative
        omega
    · next hnegative =>
        have hge := of_decide_eq_false (Bool.eq_false_iff.mpr hnegative)
        omega
  rw [readInt?, Text.takeSign_intText]
  simp only [map_asciiDigit_digits, hgroup, Option.bind_eq_bind, Option.bind_some,
    Text.readDigits_digits, hsigned]

end Command

end BucketAccess

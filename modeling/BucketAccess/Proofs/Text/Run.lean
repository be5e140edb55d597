import BucketAccess.Text.Blank
import BucketAccess.Text.Token
import Mathlib.Data.List.TakeWhile

/-!
# Runs of characters

The parts of a header are runs of a class of characters, blanks or token
characters.  A run that is followed by nothing of its class is determined by the
text, so that reading the longest run at the front loses no other reading.
-/

namespace BucketAccess.Text

variable {inClass : Char → Bool} {run other rest remainder chars : List Char}

/-- What follows a run of a class: nothing, or a character outside the class. -/
def Ends (inClass : Char → Bool) (rest : List Char) : Prop :=
  ∀ char ∈ rest.head?, inClass char = false

theorem ends_cons {char : Char} : Ends inClass (char :: rest) ↔ inClass char = false := by
  simp [Ends]

theorem ends_dropWhile (chars : List Char) : Ends inClass (chars.dropWhile inClass) := by
  intro char hchar
  have hnot := List.head?_dropWhile_not inClass chars
  rw [Option.mem_def.mp hchar] at hnot
  simpa using hnot

theorem dropWhile_of_ends (hrest : Ends inClass rest) : rest.dropWhile inClass = rest := by
  cases rest with
  | nil => rfl
  | cons char rest => simp [ends_cons.mp hrest]

theorem takeWhile_run (hrun : ∀ char ∈ run, inClass char = true) (hrest : Ends inClass rest) :
    (run ++ rest).takeWhile inClass = run := by
  rw [List.takeWhile_append_of_pos hrun]
  cases rest with
  | nil => simp
  | cons char rest => simp [ends_cons.mp hrest]

theorem dropWhile_run (hrun : ∀ char ∈ run, inClass char = true) (hrest : Ends inClass rest) :
    (run ++ rest).dropWhile inClass = rest := by
  rw [List.dropWhile_append_of_pos hrun, dropWhile_of_ends hrest]

/-- A text is split in only one way into a run of a class and what ends it. -/
theorem run_unique (hrun : ∀ char ∈ run, inClass char = true)
    (hother : ∀ char ∈ other, inClass char = true) (hrest : Ends inClass rest)
    (hremainder : Ends inClass remainder) (heq : run ++ rest = other ++ remainder) :
    run = other ∧ rest = remainder := by
  constructor
  · rw [← takeWhile_run hrun hrest, heq, takeWhile_run hother hremainder]
  · rw [← dropWhile_run hrun hrest, heq, dropWhile_run hother hremainder]

/-! ## Blanks and tokens -/

/-- A run of blanks, which may be empty. -/
def IsBlanks (chars : List Char) : Prop := ∀ char ∈ chars, isBlank char = true

/-- A run of token characters that is not empty. -/
structure IsToken (chars : List Char) : Prop where
  ne_nil : chars ≠ []
  chars : ∀ char ∈ chars, isTokenChar char = true

/-- Token characters are visible ASCII characters. -/
theorem toNat_of_isTokenChar {char : Char} (htoken : isTokenChar char = true) :
    0x21 ≤ char.toNat ∧ char.toNat ≤ 0x7E := by
  have hmarks : (tokenMarks.all fun mark => 0x21 ≤ mark.toNat ∧ mark.toNat ≤ 0x7E) = true := by
    decide
  simp only [isTokenChar, isAsciiLetter, isAsciiDigit, Bool.or_eq_true, Bool.and_eq_true,
    decide_eq_true_eq, List.contains_iff_mem, Char.le_def, UInt32.le_iff_toNat_le] at htoken
  rcases htoken with ((hlower | hupper) | hdigit) | hmark
  · change 0x61 ≤ char.toNat ∧ char.toNat ≤ 0x7A at hlower
    omega
  · change 0x41 ≤ char.toNat ∧ char.toNat ≤ 0x5A at hupper
    omega
  · change 0x30 ≤ char.toNat ∧ char.toNat ≤ 0x39 at hdigit
    omega
  · exact of_decide_eq_true (List.all_eq_true.mp hmarks char hmark)

theorem isTokenChar_of_isBlank {char : Char} (hblank : isBlank char = true) :
    isTokenChar char = false := by
  rw [← Bool.not_eq_true]
  intro htoken
  have hvisible := toNat_of_isTokenChar htoken
  simp only [isBlank, isWhiteSpace, inRanges, whiteSpaceRanges, Bool.or_eq_true, Bool.and_eq_true,
    decide_eq_true_eq, List.any_cons, List.any_nil, Bool.or_false] at hblank
  omega

theorem ends_isTokenChar_of_isBlanks {blanks : List Char} (hblanks : IsBlanks blanks)
    (hrest : Ends isTokenChar rest) : Ends isTokenChar (blanks ++ rest) := by
  cases blanks with
  | nil => exact hrest
  | cons char blanks =>
      exact ends_cons.mpr (isTokenChar_of_isBlank (hblanks char List.mem_cons_self))

theorem IsToken.ends_isBlank {token : List Char} (htoken : IsToken token) :
    Ends isBlank (token ++ rest) := by
  obtain ⟨char, tail, rfl⟩ := List.exists_cons_of_ne_nil htoken.ne_nil
  rw [List.cons_append, ends_cons, ← Bool.not_eq_true]
  intro hblank
  simpa [htoken.chars char List.mem_cons_self] using isTokenChar_of_isBlank hblank

/-- A token is read exactly when it is the run of token characters in front. -/
theorem takeToken_eq_some_iff {token : List Char} :
    takeToken chars = some (token, rest) ↔
      IsToken token ∧ Ends isTokenChar rest ∧ chars = token ++ rest := by
  unfold takeToken
  constructor
  · intro htake
    split at htake
    · simp at htake
    · rename_i hne
      simp only [Option.some.injEq, Prod.mk.injEq] at htake
      obtain ⟨rfl, rfl⟩ := htake
      refine ⟨⟨fun hnil => hne hnil, fun char hchar => ?_⟩, ends_dropWhile chars,
        List.takeWhile_append_dropWhile.symm⟩
      exact List.mem_takeWhile_imp hchar
  · rintro ⟨htoken, hrest, rfl⟩
    rw [takeWhile_run htoken.chars hrest, dropWhile_run htoken.chars hrest]
    split
    · exact absurd rfl htoken.ne_nil
    · rfl

/-- Whatever follows a token, it is read, and perhaps more. -/
theorem IsToken.takeToken_append {token : List Char} (rest : List Char) (htoken : IsToken token) :
    takeToken (token ++ rest) =
      some (token ++ rest.takeWhile isTokenChar, rest.dropWhile isTokenChar) := by
  refine takeToken_eq_some_iff.mpr ⟨⟨by simp [htoken.ne_nil], fun char hchar => ?_⟩,
    ends_dropWhile rest, by rw [List.append_assoc, List.takeWhile_append_dropWhile]⟩
  rcases List.mem_append.mp hchar with hfront | hback
  · exact htoken.chars char hfront
  · exact List.mem_takeWhile_imp hback

end BucketAccess.Text

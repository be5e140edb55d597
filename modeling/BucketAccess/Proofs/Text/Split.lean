import BucketAccess.Text.Token
import Mathlib.Data.List.Basic

/-!
# Texts split at a separator

A text is split wherever a separator stands in it.  Separators are looked for from
the left, and one that overlaps an earlier one does not count.  Pieces that do not
hold the first character of the separator are found again as they were joined,
empty ones too.
-/

namespace BucketAccess.Text

/-- The pieces of a text between separators.  The number says how many characters of
a separator are still to be passed over. -/
def splitFrom (separator : List Char) : Nat → List Char → List (List Char)
  | _, [] => [[]]
  | passed + 1, _ :: rest => splitFrom separator passed rest
  | 0, char :: rest =>
      if separator.isPrefixOf (char :: rest) then
        [] :: splitFrom separator (separator.length - 1) rest
      else (splitFrom separator 0 rest).modifyHead (char :: ·)

/-- The pieces of a text between separators. -/
def split (separator chars : List Char) : List (List Char) := splitFrom separator 0 chars

section Split

variable {first : Char} {others piece : List Char}

theorem splitFrom_append (separator passed rest : List Char) :
    splitFrom separator passed.length (passed ++ rest) = split separator rest := by
  induction passed with
  | nil => rfl
  | cons char passed ih => exact ih

theorem split_separator_append (rest : List Char) :
    split (first :: others) (first :: others ++ rest) = [] :: split (first :: others) rest := by
  have hstands : (first :: others).isPrefixOf (first :: (others ++ rest)) = true :=
    List.isPrefixOf_iff_prefix.mpr ⟨rest, rfl⟩
  rw [split, List.cons_append, splitFrom, if_pos hstands]
  exact congrArg ([] :: ·) (splitFrom_append _ others rest)

/-- A character that begins no separator belongs to the first piece. -/
theorem split_cons_of_ne {char : Char} (hne : char ≠ first) (rest : List Char) :
    split (first :: others) (char :: rest) =
      (split (first :: others) rest).modifyHead (char :: ·) := by
  have hnot : ¬ (first :: others).isPrefixOf (char :: rest) = true := by
    simp [List.isPrefixOf, hne.symm]
  rw [split, splitFrom, if_neg hnot]
  rfl

theorem split_of_not_mem (hpiece : first ∉ piece) : split (first :: others) piece = [piece] := by
  induction piece with
  | nil => rfl
  | cons char piece ih =>
      obtain ⟨hne, hrest⟩ := not_or.mp (List.mem_cons.not.mp hpiece)
      rw [split_cons_of_ne (Ne.symm hne), ih hrest]
      rfl

theorem split_append_separator (hpiece : first ∉ piece) (rest : List Char) :
    split (first :: others) (piece ++ (first :: others ++ rest)) =
      piece :: split (first :: others) rest := by
  induction piece with
  | nil => exact split_separator_append rest
  | cons char piece ih =>
      obtain ⟨hne, hrest⟩ := not_or.mp (List.mem_cons.not.mp hpiece)
      rw [List.cons_append, split_cons_of_ne (Ne.symm hne), ih hrest]
      rfl

/-- Pieces that are joined by a separator are the pieces between separators. -/
theorem split_intercalate {pieces : List (List Char)} (hne : pieces ≠ [])
    (hpieces : ∀ piece ∈ pieces, first ∉ piece) :
    split (first :: others) ((first :: others).intercalate pieces) = pieces := by
  induction pieces with
  | nil => exact absurd rfl hne
  | cons piece pieces ih =>
      obtain ⟨hpiece, hrest⟩ := List.forall_mem_cons.mp hpieces
      cases pieces with
      | nil => rw [List.intercalate_singleton, split_of_not_mem hpiece]
      | cons next pieces =>
          rw [List.intercalate_cons_cons, List.append_assoc, split_append_separator hpiece,
            ih (List.cons_ne_nil next pieces) hrest]

end Split

example : split ", ".toList "a, ,b,, ".toList = ["a".toList, ",b,".toList, []] := by decide

end BucketAccess.Text

import BucketAccess.Download.MediaType
import BucketAccess.Proofs.Text.Run

/-!
# Written media types

A media type is two tokens with a slash between them, and a tail: nothing, a
lone line feed, or blanks, a semicolon and parameters in which a line feed can
only come last.  Exactly the texts that are written so are media types.
-/

namespace BucketAccess.Download

open Text

/-! ## Written forms -/

/-- What stands behind the two tokens. -/
inductive WrittenTail where
  | nothing
  | lineFeed
  | parameters (blanks chars : List Char)

namespace WrittenTail

def written : WrittenTail → List Char
  | nothing => []
  | lineFeed => ['\n']
  | parameters blanks chars => blanks ++ ';' :: chars

/-- Parameters may hold anything, but a line feed only at their very end. -/
def WellFormed : WrittenTail → Prop
  | nothing => True
  | lineFeed => True
  | parameters blanks chars => IsBlanks blanks ∧ '\n' ∉ chars.dropLast

end WrittenTail

/-- A media type as it is written. -/
structure WrittenMediaType where
  type : List Char
  subtype : List Char
  tail : WrittenTail

namespace WrittenMediaType

def written (media : WrittenMediaType) : List Char :=
  media.type ++ '/' :: (media.subtype ++ media.tail.written)

structure WellFormed (media : WrittenMediaType) : Prop where
  type : IsToken media.type
  subtype : IsToken media.subtype
  tail : media.tail.WellFormed

end WrittenMediaType

/-! ## Tails -/

theorem lineFeedOnlyLast_iff (chars : List Char) :
    lineFeedOnlyLast chars = true ↔ '\n' ∉ chars.dropLast := by
  induction chars with
  | nil => simp [lineFeedOnlyLast]
  | cons char chars ih =>
      cases chars with
      | nil => by_cases hfeed : char = '\n' <;> simp [lineFeedOnlyLast, hfeed]
      | cons next chars =>
          rw [lineFeedOnlyLast, List.dropLast_cons_cons, Bool.and_eq_true, ih, List.mem_cons,
            not_or, decide_eq_true_eq, ne_comm]
          · simp

theorem dropWhile_blanks_semicolon {blanks : List Char} (chars : List Char)
    (hblanks : IsBlanks blanks) : (blanks ++ ';' :: chars).dropWhile isBlank = ';' :: chars :=
  dropWhile_run hblanks (ends_cons.mpr (by decide))

theorem isMediaTail_written {tail : WrittenTail} (htail : tail.WellFormed) :
    isMediaTail tail.written = true := by
  cases tail with
  | nothing => rfl
  | lineFeed => rfl
  | parameters blanks chars =>
      have hlast := (lineFeedOnlyLast_iff chars).mpr htail.2
      simp [isMediaTail, WrittenTail.written, dropWhile_blanks_semicolon chars htail.1, hlast]

theorem exists_tail_of_isMediaTail {chars : List Char} (htail : isMediaTail chars = true) :
    ∃ tail : WrittenTail, tail.WellFormed ∧ tail.written = chars := by
  rw [isMediaTail, Bool.or_eq_true, Bool.or_eq_true, List.isEmpty_iff, decide_eq_true_eq] at htail
  rcases htail with (hnil | hfeed) | hparameters
  · exact ⟨.nothing, trivial, hnil.symm⟩
  · exact ⟨.lineFeed, trivial, hfeed.symm⟩
  · split at hparameters
    · rename_i rest hrest
      refine ⟨.parameters (chars.takeWhile isBlank) rest,
        ⟨fun char hchar => List.mem_takeWhile_imp hchar,
          (lineFeedOnlyLast_iff rest).mp hparameters⟩, ?_⟩
      rw [WrittenTail.written, ← hrest, List.takeWhile_append_dropWhile]
    · exact nomatch hparameters

/-- No tail continues the token in front of it. -/
theorem ends_isTokenChar_tail {tail : WrittenTail} (htail : tail.WellFormed) :
    Ends isTokenChar tail.written := by
  cases tail with
  | nothing => exact fun char hchar => nomatch hchar
  | lineFeed => exact ends_cons.mpr (by decide)
  | parameters blanks chars =>
      exact ends_isTokenChar_of_isBlanks htail.1 (ends_cons.mpr (by decide))

/-! ## Media types -/

theorem isMediaType_written {media : WrittenMediaType} (hmedia : media.WellFormed) :
    isMediaType media.written = true := by
  have htype : takeToken media.written =
      some (media.type, '/' :: (media.subtype ++ media.tail.written)) :=
    takeToken_eq_some_iff.mpr ⟨hmedia.type, ends_cons.mpr (by decide), rfl⟩
  have hsubtype : takeToken (media.subtype ++ media.tail.written) =
      some (media.subtype, media.tail.written) :=
    takeToken_eq_some_iff.mpr ⟨hmedia.subtype, ends_isTokenChar_tail hmedia.tail, rfl⟩
  simp only [isMediaType, htype, hsubtype, isMediaTail_written hmedia.tail]

/-- Exactly the texts with a written form are media types. -/
theorem isMediaType_iff (chars : List Char) : isMediaType chars = true ↔
    ∃ media : WrittenMediaType, media.WellFormed ∧ media.written = chars := by
  constructor
  · intro hchars
    rw [isMediaType] at hchars
    split at hchars
    · rename_i type rest htype
      split at hchars
      · rename_i subtype remaining hsubtype
        obtain ⟨htypeToken, -, hfront⟩ := takeToken_eq_some_iff.mp htype
        obtain ⟨hsubtypeToken, -, hback⟩ := takeToken_eq_some_iff.mp hsubtype
        obtain ⟨tail, htail, hwritten⟩ := exists_tail_of_isMediaTail hchars
        refine ⟨⟨type, subtype, tail⟩, ⟨htypeToken, hsubtypeToken, htail⟩, ?_⟩
        rw [WrittenMediaType.written, hwritten, ← hback, ← hfront]
      · exact nomatch hchars
    · exact nomatch hchars
  · rintro ⟨media, hmedia, rfl⟩
    exact isMediaType_written hmedia

end BucketAccess.Download

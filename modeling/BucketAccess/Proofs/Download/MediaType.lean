import BucketAccess.Proofs.Download.Draft
import BucketAccess.Proofs.Download.WrittenMediaType

/-!
# Media types that are accepted

A text is accepted as the media type of a download exactly when it has a written
form, and then it has only one: the first slash ends the type, the subtype goes as
far as token characters do, and behind it the first character that is no blank is
the semicolon.  So nothing that is accepted can be read as another media type.
-/

namespace BucketAccess.Download

open Text

/-! ## One written form -/

/-- A tail can be told from how it is written. -/
theorem WrittenTail.unique {tail other : WrittenTail} (htail : tail.WellFormed)
    (hother : other.WellFormed) (heq : tail.written = other.written) : tail = other := by
  have hfeed : ∀ blanks chars : List Char, ['\n'] ≠ blanks ++ ';' :: chars := by
    intro blanks chars hsame
    have hmem : ';' ∈ ['\n'] := hsame ▸ List.mem_append_right _ List.mem_cons_self
    exact absurd hmem (by decide)
  cases tail with
  | nothing =>
      cases other with
      | nothing => rfl
      | lineFeed => exact nomatch heq
      | parameters blanks chars =>
          exact absurd heq.symm (List.append_ne_nil_of_right_ne_nil _ nofun)
  | lineFeed =>
      cases other with
      | nothing => exact nomatch heq
      | lineFeed => rfl
      | parameters blanks chars => exact absurd heq (hfeed blanks chars)
  | parameters blanks chars =>
      cases other with
      | nothing => exact absurd heq (List.append_ne_nil_of_right_ne_nil _ nofun)
      | lineFeed => exact absurd heq.symm (hfeed blanks chars)
      | parameters others rest =>
          have hends : ∀ behind : List Char, Ends isBlank (';' :: behind) := fun behind =>
            ends_cons.mpr (by decide)
          obtain ⟨rfl, hbehind⟩ :=
            run_unique htail.1 hother.1 (hends chars) (hends rest) heq
          obtain rfl := (List.cons.inj hbehind).2
          rfl

/-- A media type can be told from how it is written. -/
theorem WrittenMediaType.unique {media other : WrittenMediaType} (hmedia : media.WellFormed)
    (hother : other.WellFormed) (heq : media.written = other.written) : media = other := by
  have hslash : ∀ behind : List Char, Ends isTokenChar ('/' :: behind) := fun behind =>
    ends_cons.mpr (by decide)
  obtain ⟨htype, hbehind⟩ :=
    run_unique hmedia.type.chars hother.type.chars (hslash _) (hslash _) heq
  obtain ⟨hsubtype, htail⟩ := run_unique hmedia.subtype.chars hother.subtype.chars
    (ends_isTokenChar_tail hmedia.tail) (ends_isTokenChar_tail hother.tail)
    (List.cons.inj hbehind).2
  obtain ⟨type, subtype, tail⟩ := media
  obtain rfl : type = other.type := htype
  obtain rfl : subtype = other.subtype := hsubtype
  obtain rfl : tail = other.tail := WrittenTail.unique hmedia.tail hother.tail htail
  rfl

/-! ## What is accepted -/

theorem isMediaType_iff_existsUnique (chars : List Char) : isMediaType chars = true ↔
    ∃! media : WrittenMediaType, media.WellFormed ∧ media.written = chars := by
  rw [isMediaType_iff]
  constructor
  · rintro ⟨media, hmedia, hwritten⟩
    refine ⟨media, ⟨hmedia, hwritten⟩, ?_⟩
    rintro other ⟨hother, hsame⟩
    exact WrittenMediaType.unique hother hmedia (hsame.trans hwritten.symm)
  · rintro ⟨media, hmedia, -⟩
    exact ⟨media, hmedia⟩

/-- A media type that is given for a download is kept as it is if it has a written
form, of which there is then exactly one, and is refused in its own words if it has
none. -/
theorem media_types_have_one_reading (text : String) (draft : DownloadDraft) :
    (∀ next, draft.withContentType text = .ok next ↔
      (∃! media : WrittenMediaType, media.WellFormed ∧ media.written = text.toList) ∧
        next = { draft with contentType := some text }) ∧
    ∀ fault, draft.withContentType text = .error fault ↔
      (¬ ∃ media : WrittenMediaType, media.WellFormed ∧ media.written = text.toList) ∧
        fault = .violation (.mediaType text) := by
  constructor
  · intro next
    rw [DownloadDraft.withContentType_eq_ok_iff, isMediaType_iff_existsUnique]
  · intro fault
    rw [← isMediaType_iff, DownloadDraft.withContentType, checkMediaType]
    by_cases hmedia : isMediaType text.toList = true <;> simp [hmedia, eq_comm]

end BucketAccess.Download

import BucketAccess.Proofs.Download.Attachment
import BucketAccess.Proofs.Download.Draft
import BucketAccess.Proofs.Download.WrittenMediaType

/-!
# Line breaks in headers

A header ends at a line break, so one inside a value would begin a header of
its own.  The tokens and marks of a value are none, but blanks may be, and so may
the characters of a quoted text and of the parameters of a media type.  These
are all the places where a line break is let pass.
-/

namespace BucketAccess.Download

open Text

/-- A carriage return or a line feed. -/
def IsLineBreak (char : Char) : Prop := char = '\r' ∨ char = '\n'

/-- A line break stands among some characters. -/
def BreaksLine (chars : List Char) : Prop := ∃ char ∈ chars, IsLineBreak char

section BreaksLine

variable {char : Char} {chars left right : List Char}

@[simp]
theorem breaksLine_nil : ¬ BreaksLine [] := by
  simp [BreaksLine]

@[simp]
theorem breaksLine_cons : BreaksLine (char :: chars) ↔ IsLineBreak char ∨ BreaksLine chars := by
  simp [BreaksLine]

@[simp]
theorem breaksLine_append : BreaksLine (left ++ right) ↔ BreaksLine left ∨ BreaksLine right := by
  simp only [BreaksLine, List.mem_append, or_and_right, exists_or]

theorem breaksLine_flatMap {α : Type} {write : α → List Char} {values : List α} :
    BreaksLine (values.flatMap write) ↔ ∃ value ∈ values, BreaksLine (write value) := by
  simp only [BreaksLine, List.mem_flatMap]
  constructor
  · rintro ⟨char, ⟨value, hvalue, hchar⟩, hbreak⟩
    exact ⟨value, hvalue, char, hchar, hbreak⟩
  · rintro ⟨value, hvalue, char, hchar, hbreak⟩
    exact ⟨char, ⟨value, hvalue, hchar⟩, hbreak⟩

theorem not_breaksLine_of_isToken (htoken : IsToken chars) : ¬ BreaksLine chars := by
  rintro ⟨char, hchar, hbreak⟩
  have hvisible := (toNat_of_isTokenChar (htoken.chars char hchar)).1
  rcases hbreak with rfl | rfl
  · exact absurd hvisible (by decide)
  · exact absurd hvisible (by decide)

end BreaksLine

/-! ## Dispositions -/

/-- The blanks of a parameter. -/
def WrittenParameter.blanks (parameter : WrittenParameter) : List Char :=
  parameter.beforeName ++ (parameter.afterName ++ (parameter.beforeValue ++ parameter.afterValue))

/-- What stands between quotes in a value, if it is quoted. -/
def WrittenValue.between : WrittenValue → List Char
  | .token _ => []
  | .quoted pieces => pieces.flatMap QuotedPiece.written

/-- The blanks of a disposition. -/
def WrittenDisposition.blanks (disposition : WrittenDisposition) : List Char :=
  disposition.beforeType ++
    (disposition.afterType ++ disposition.parameters.flatMap WrittenParameter.blanks)

/-- What stands between quotes in a disposition. -/
def WrittenDisposition.between (disposition : WrittenDisposition) : List Char :=
  disposition.parameters.flatMap fun parameter => parameter.value.between

theorem not_isLineBreak_marks : ¬ IsLineBreak ';' ∧ ¬ IsLineBreak '=' ∧ ¬ IsLineBreak '/' ∧
    ¬ IsLineBreak doubleQuote ∧ ¬ IsLineBreak backslash := by
  simp only [IsLineBreak]
  decide

theorem WrittenValue.breaksLine_written_iff {value : WrittenValue} (hvalue : value.WellFormed) :
    BreaksLine value.written ↔ BreaksLine value.between := by
  obtain ⟨-, -, -, hquote, -⟩ := not_isLineBreak_marks
  cases value with
  | token chars => simpa [written, between] using not_breaksLine_of_isToken hvalue
  | quoted pieces => simp [written, between, hquote]

theorem WrittenParameter.breaksLine_written_iff {parameter : WrittenParameter}
    (hparameter : parameter.WellFormed) :
    BreaksLine parameter.written ↔
      BreaksLine parameter.blanks ∨ BreaksLine parameter.value.between := by
  obtain ⟨hsemicolon, hequals, -⟩ := not_isLineBreak_marks
  have hname := not_breaksLine_of_isToken hparameter.name
  simp only [written, blanks, breaksLine_cons, breaksLine_append, hsemicolon, hequals, hname,
    WrittenValue.breaksLine_written_iff hparameter.value, false_or]
  tauto

/-- A disposition has a line break exactly where blanks or quoted texts have
one. -/
theorem WrittenDisposition.breaksLine_written_iff {disposition : WrittenDisposition}
    (hdisposition : disposition.WellFormed) :
    BreaksLine disposition.written ↔
      BreaksLine disposition.blanks ∨ BreaksLine disposition.between := by
  have htype := not_breaksLine_of_isToken hdisposition.type
  have hparameters : BreaksLine (disposition.parameters.flatMap WrittenParameter.written) ↔
      BreaksLine (disposition.parameters.flatMap WrittenParameter.blanks) ∨
        BreaksLine disposition.between := by
    simp only [between, breaksLine_flatMap, ← exists_or, ← and_or_left]
    apply exists_congr
    intro parameter
    apply and_congr_right
    intro hmem
    exact WrittenParameter.breaksLine_written_iff (hdisposition.parameters parameter hmem).1
  simp only [written, blanks, breaksLine_append, htype, hparameters, false_or]
  tauto

namespace Disposition

theorem breaksLine_escapeChar (char : Char) :
    BreaksLine (escapeChar char) ↔ IsLineBreak char := by
  obtain ⟨-, -, -, -, hslash⟩ := not_isLineBreak_marks
  by_cases hspecial : char = backslash ∨ char = doubleQuote
  · simp [escapeChar_of_special hspecial, hslash]
  · simp [escapeChar_of_plain hspecial]

/-- An attachment takes over the line breaks of its name, and has no others. -/
theorem breaksLine_nameText (name : String) :
    BreaksLine (nameText name).toList ↔ BreaksLine name.toList := by
  have hspace : ¬ IsLineBreak ' ' := by simp [IsLineBreak]
  have hblanks : ¬ BreaksLine (writtenAttachment name.toList).blanks := by
    simp [writtenAttachment, WrittenDisposition.blanks, WrittenParameter.blanks, hspace]
  have hbetween : BreaksLine (writtenAttachment name.toList).between ↔
      BreaksLine name.toList := by
    simp only [writtenAttachment, WrittenDisposition.between, WrittenValue.between,
      List.flatMap_cons, List.flatMap_nil, List.append_nil, written_namePieces,
      breaksLine_flatMap, breaksLine_escapeChar]
    rfl
  rw [nameText, ← written_writtenAttachment,
    WrittenDisposition.breaksLine_written_iff (wellFormed_writtenAttachment name.toList), hbetween,
    or_iff_right hblanks]

end Disposition

/-! ## Media types -/

/-- The tail of a media type has a line break: a lone line feed, or one among
blanks, or one at the end of parameters that need not be the only one. -/
def WrittenTail.Breaks : WrittenTail → Prop
  | .nothing => False
  | .lineFeed => True
  | .parameters blanks chars =>
      BreaksLine blanks ∨ '\r' ∈ chars ∨ chars.getLast? = some '\n'

theorem WrittenTail.breaksLine_written_iff {tail : WrittenTail} (htail : tail.WellFormed) :
    BreaksLine tail.written ↔ tail.Breaks := by
  cases tail with
  | nothing => simp [written, Breaks]
  | lineFeed => simp [written, Breaks, IsLineBreak]
  | parameters blanks chars =>
      obtain ⟨hsemicolon, -⟩ := not_isLineBreak_marks
      have hfeed : '\n' ∈ chars ↔ chars.getLast? = some '\n' := by
        constructor
        · intro hmem
          by_contra hlast
          apply htail.2
          apply List.mem_dropLast_of_mem_of_ne_getLast hmem
          intro heq
          apply hlast
          rw [List.getLast?_eq_some_getLast (List.ne_nil_of_mem hmem), ← heq]
        · exact List.mem_of_getLast?
      have hchars : BreaksLine chars ↔ '\r' ∈ chars ∨ '\n' ∈ chars := by
        simp only [BreaksLine, IsLineBreak, and_or_left, exists_or, exists_eq_right]
      simp only [written, Breaks, breaksLine_append, breaksLine_cons, hsemicolon, hchars, hfeed,
        false_or]

theorem WrittenMediaType.breaksLine_written_iff {media : WrittenMediaType}
    (hmedia : media.WellFormed) : BreaksLine media.written ↔ media.tail.Breaks := by
  obtain ⟨-, -, hslash, -⟩ := not_isLineBreak_marks
  have htype := not_breaksLine_of_isToken hmedia.type
  have hsubtype := not_breaksLine_of_isToken hmedia.subtype
  simp only [written, breaksLine_append, breaksLine_cons, htype, hsubtype, hslash, false_or,
    WrittenTail.breaksLine_written_iff hmedia.tail]

/-! ## Headers that are accepted -/

/-- Exactly which line breaks of a text pass: in a disposition those among its
blanks and between its quotes, in the name of an attachment all of them, and in a
media type those of its tail. -/
theorem line_breaks_of_headers (text : String) (disposition : Disposition)
    (draft next : DownloadDraft) :
    (Disposition.ofText text = .ok disposition ↔
      disposition = ⟨text⟩ ∧ ∃ written : WrittenDisposition, written.WellFormed ∧
        written.written = text.toList ∧
        (BreaksLine disposition.text.toList ↔
          BreaksLine written.blanks ∨ BreaksLine written.between)) ∧
    (∃ attachment, Disposition.attachment (some text) = .ok attachment ∧
      (BreaksLine attachment.text.toList ↔ BreaksLine text.toList)) ∧
    (draft.withContentType text = .ok next ↔
      next = { draft with contentType := some text } ∧
      ∃ written : WrittenMediaType, written.WellFormed ∧ written.written = text.toList ∧
        (BreaksLine text.toList ↔ written.tail.Breaks)) := by
  refine ⟨?_, ?_, ?_⟩
  · rw [Disposition.ofText_eq_ok_iff]
    constructor
    · rintro ⟨rfl, written, hwell, htext⟩
      refine ⟨rfl, written, hwell, htext, ?_⟩
      rw [← htext]
      exact WrittenDisposition.breaksLine_written_iff hwell
    · rintro ⟨hsame, written, hwell, htext, -⟩
      exact ⟨hsame, written, hwell, htext⟩
  · exact ⟨⟨Disposition.nameText text⟩, Disposition.attachment_eq text,
      Disposition.breaksLine_nameText text⟩
  · rw [DownloadDraft.withContentType_eq_ok_iff, isMediaType_iff, and_comm]
    apply and_congr_right
    intro _
    apply exists_congr
    intro written
    constructor
    · rintro ⟨hwell, htext⟩
      refine ⟨hwell, htext, ?_⟩
      rw [← htext]
      exact WrittenMediaType.breaksLine_written_iff hwell
    · rintro ⟨hwell, htext, -⟩
      exact ⟨hwell, htext⟩

/-- A line feed passes behind a type, in a file name and behind a media type. -/
theorem line_feed_passes :
    (Disposition.ofText "inline\n").toOption.map Disposition.text = some "inline\n" ∧
      (Disposition.attachment (some "a\r\nb")).toOption.map Disposition.text =
        some "attachment; filename=\"a\r\nb\"" ∧
      (DownloadDraft.empty.withContentType "text/plain\n").toOption.map
        DownloadDraft.contentType = some (some "text/plain\n") ∧
      BreaksLine "text/plain\n".toList := by
  refine ⟨?_, ?_, ?_, ?_⟩
  · decide +kernel
  · decide +kernel
  · decide +kernel
  · exact ⟨'\n', by decide, .inr rfl⟩

end BucketAccess.Download

import BucketAccess.Proofs.Download.Disposition
import BucketAccess.Proofs.Outcome

/-!
# File names of attachments

A file name stands between quotes, with a backslash in front of each backslash
and each quote of its own.  Whatever the name is, the text that comes of it is
read as one parameter, and taking the backslashes away gives the name back.  So
no name ends its own quotes, and none can add a parameter or change one.
-/

namespace BucketAccess.Download

open Text

/-! ## Reading what is written -/

/-- The parts that are read from what is written. -/
def WrittenDisposition.parts (disposition : WrittenDisposition) : DispositionParts where
  type := disposition.type
  parameters := disposition.parameters.map fun parameter =>
    ⟨parameter.name, parameter.value.read⟩

theorem readParameters_written {parameters : List WrittenParameter}
    (hparameters : ∀ parameter ∈ parameters, parameter.WellFormed ∧ '*' ∉ parameter.name) :
    readParameters (parameters.flatMap WrittenParameter.written) =
      .ok (parameters.map fun parameter => ⟨parameter.name, parameter.value.read⟩) := by
  induction parameters with
  | nil =>
      rw [List.flatMap_nil, readParameters]
      rfl
  | cons parameter parameters ih =>
      obtain ⟨⟨hparameter, hstar⟩, hrest⟩ := List.forall_mem_cons.mp hparameters
      have htake := hparameter.takeParameter_complete (atBoundary_parameters parameters)
      have hplain : Parameter.isStarred ⟨parameter.name, parameter.value.read⟩ = false := by
        simpa [Parameter.isStarred] using hstar
      rw [List.flatMap_cons, readParameters_of_some htake, hplain, ih hrest]
      rfl

/-- What is written is read, part by part. -/
theorem readDisposition_written {disposition : WrittenDisposition}
    (hdisposition : disposition.WellFormed) :
    readDisposition disposition.written = .ok disposition.parts := by
  have hboundary := atBoundary_parameters disposition.parameters
  have hends : Ends isTokenChar (disposition.afterType ++
      disposition.parameters.flatMap WrittenParameter.written) :=
    ends_isTokenChar_of_isBlanks hdisposition.afterType (hboundary.ends (by decide))
  have htake := takeToken_eq_some_iff.mpr ⟨hdisposition.type, hends, rfl⟩
  have hfront : skipBlanks disposition.written = disposition.type ++ (disposition.afterType ++
      disposition.parameters.flatMap WrittenParameter.written) := by
    rw [WrittenDisposition.written, skipBlanks_append hdisposition.beforeType,
      skipBlanks_of_ends hdisposition.type.ends_isBlank]
  have hback : skipBlanks (disposition.afterType ++
      disposition.parameters.flatMap WrittenParameter.written) =
        disposition.parameters.flatMap WrittenParameter.written := by
    rw [skipBlanks_append hdisposition.afterType, skipBlanks_of_ends (hboundary.ends (by decide))]
  rw [readDisposition, hfront, htake]
  dsimp only
  rw [hback, readParameters_written hdisposition.parameters]
  rfl

/-- Exactly the texts with a written form are dispositions. -/
theorem Disposition.ofText_eq_ok_iff {text : String} {disposition : Disposition} :
    ofText text = .ok disposition ↔ disposition = ⟨text⟩ ∧
      ∃ written : WrittenDisposition, written.WellFormed ∧ written.written = text.toList := by
  rw [ofText, map_eq_ok_iff]
  constructor
  · rintro ⟨parts, hread, rfl⟩
    refine ⟨rfl, ?_⟩
    rcases readDisposition_spec text.toList with ⟨_, -, hwritten⟩ | ⟨violation, herror, -⟩
    · exact hwritten
    · rw [hread] at herror
      cases herror
  · rintro ⟨rfl, written, hwell, htext⟩
    refine ⟨written.parts, ?_, rfl⟩
    rw [← htext]
    exact readDisposition_written hwell

/-! ## Escaping -/

/-- Puts a backslash in front of each occurrence of a character. -/
def guardWith (marked : Char) (chars : List Char) : List Char :=
  chars.flatMap fun char => if char = marked then [backslash, char] else [char]

/-- The text that an escaped one stands for: a character behind a backslash
stands for itself. -/
def unescape : List Char → List Char
  | [] => []
  | char :: rest =>
      if char = backslash then
        match rest with
        | [] => [char]
        | next :: rest => next :: unescape rest
      else char :: unescape rest

theorem unescape_backslash (next : Char) (rest : List Char) :
    unescape (backslash :: next :: rest) = next :: unescape rest := by
  rw [unescape.eq_def]
  simp

theorem unescape_cons {char : Char} (rest : List Char) (hslash : char ≠ backslash) :
    unescape (char :: rest) = char :: unescape rest := by
  rw [unescape.eq_def]
  simp [hslash]

namespace Disposition

/-- Escaping is done in two passes just as well, backslashes first: the
backslashes of the second pass are not doubled. -/
theorem escape_eq_guardWith (name : List Char) :
    name.flatMap escapeChar = guardWith doubleQuote (guardWith backslash name) := by
  have hquote : backslash ≠ doubleQuote := by decide
  rw [guardWith, guardWith, List.flatMap_assoc]
  apply congrArg fun escape => name.flatMap escape
  funext char
  by_cases hslash : char = backslash
  · simp [escapeChar, hslash, hquote]
  · by_cases hdouble : char = doubleQuote
    · simp [escapeChar, hdouble, hquote.symm]
    · simp [escapeChar, hslash, hdouble]

theorem escapeChar_of_special {char : Char} (hspecial : char = backslash ∨ char = doubleQuote) :
    escapeChar char = [backslash, char] := by
  simp [escapeChar, hspecial]

theorem escapeChar_of_plain {char : Char} (hplain : ¬ (char = backslash ∨ char = doubleQuote)) :
    escapeChar char = [char] := by
  simp [escapeChar, hplain]

/-- Taking the backslashes away again gives the name back. -/
theorem unescape_escape (name : List Char) : unescape (name.flatMap escapeChar) = name := by
  induction name with
  | nil => rfl
  | cons char name ih =>
      rw [List.flatMap_cons]
      by_cases hspecial : char = backslash ∨ char = doubleQuote
      · rw [escapeChar_of_special hspecial, List.cons_append, List.singleton_append,
          unescape_backslash, ih]
      · have hslash : char ≠ backslash := fun heq => hspecial (.inl heq)
        rw [escapeChar_of_plain hspecial, List.singleton_append, unescape_cons _ hslash, ih]

/-! ## One parameter -/

/-- The only parameter of an attachment. -/
def nameParameter : List Char := "filename".toList

/-- A character of a name as it stands between the quotes. -/
def namePiece (char : Char) : QuotedPiece :=
  if char = backslash ∨ char = doubleQuote then .escaped char else .plain char

/-- The written form of an attachment with a name. -/
def writtenAttachment (name : List Char) : WrittenDisposition where
  beforeType := []
  type := attachmentType.toList
  afterType := []
  parameters := [{
    beforeName := [' ']
    name := nameParameter
    afterName := []
    beforeValue := []
    value := .quoted (name.map namePiece)
    afterValue := [] }]

theorem written_namePiece (char : Char) : (namePiece char).written = escapeChar char := by
  by_cases hspecial : char = backslash ∨ char = doubleQuote
  · rw [namePiece, if_pos hspecial, escapeChar_of_special hspecial]
    rfl
  · rw [namePiece, if_neg hspecial, escapeChar_of_plain hspecial]
    rfl

/-- A line feed is not escaped: it stands for itself. -/
theorem wellFormed_namePiece (char : Char) : (namePiece char).WellFormed := by
  by_cases hspecial : char = backslash ∨ char = doubleQuote
  · rw [namePiece, if_pos hspecial]
    intro hfeed
    rw [hfeed] at hspecial
    exact absurd hspecial (by decide)
  · rw [namePiece, if_neg hspecial]
    exact ⟨fun hquote => hspecial (.inr hquote), fun hslash => hspecial (.inl hslash)⟩

theorem written_namePieces (name : List Char) :
    (name.map namePiece).flatMap QuotedPiece.written = name.flatMap escapeChar := by
  rw [List.flatMap_map]
  exact congrArg (fun escape => name.flatMap escape) (funext written_namePiece)

theorem isToken_attachmentType : IsToken attachmentType.toList where
  ne_nil := by decide
  chars := List.all_eq_true.mp (by decide)

theorem isToken_nameParameter : IsToken nameParameter where
  ne_nil := by decide
  chars := List.all_eq_true.mp (by decide)

theorem wellFormed_writtenAttachment (name : List Char) : (writtenAttachment name).WellFormed := by
  have hblanks : IsBlanks [] := List.forall_mem_nil _
  have hspace : IsBlanks [' '] := List.forall_mem_singleton.mpr (by decide)
  have hstar : '*' ∉ nameParameter := by decide
  refine ⟨hblanks, isToken_attachmentType, hblanks, ?_⟩
  intro parameter hmem
  obtain rfl := List.mem_singleton.mp hmem
  refine ⟨⟨hspace, isToken_nameParameter, hblanks, hblanks, ?_, hblanks⟩, hstar⟩
  intro piece hpiece
  obtain ⟨char, -, rfl⟩ := List.mem_map.mp hpiece
  exact wellFormed_namePiece char

/-- The text of an attachment with a name. -/
theorem written_writtenAttachment (name : List Char) : (writtenAttachment name).written =
    (attachmentType ++ "; filename=" ++ String.ofList (quoteName name)).toList := by
  have hbetween : "; filename=".toList = ';' :: ' ' :: (nameParameter ++ ['=']) := by decide
  simp only [WrittenDisposition.written, writtenAttachment, WrittenParameter.written,
    WrittenValue.written, written_namePieces, List.flatMap_cons, List.flatMap_nil,
    String.toList_append, String.toList_ofList, hbetween, quoteName]
  simp

/-- What is made of a name is a disposition that says this name and nothing
else. -/
structure Carries (disposition : Disposition) (name : String) : Prop where
  /-- Its text is the name with every backslash doubled, and then every quote
  behind a backslash. -/
  text : disposition.text.toList = attachmentType.toList ++ "; filename=".toList ++
    doubleQuote :: guardWith doubleQuote (guardWith backslash name.toList) ++ [doubleQuote]
  /-- Under the grammar there is one way to split it. -/
  form : ∀ written : WrittenDisposition,
    (written.WellFormed ∧ written.written = disposition.text.toList) ↔
      written = writtenAttachment name.toList
  /-- It is read as one parameter, which stands for the name. -/
  parts : ∃ quoted, readDisposition disposition.text.toList =
      .ok ⟨attachmentType.toList, [⟨nameParameter, .quoted quoted⟩]⟩ ∧
    unescape quoted = name.toList

theorem Carries.unique {disposition : Disposition} {name other : String}
    (hname : disposition.Carries name) (hother : disposition.Carries other) : name = other := by
  obtain ⟨quoted, hread, hquoted⟩ := hname.parts
  obtain ⟨quoted', hread', hquoted'⟩ := hother.parts
  rw [hread] at hread'
  have hsame : quoted = quoted' := by simpa using hread'
  apply String.toList_inj.mp
  rw [← hquoted, ← hquoted', hsame]

/-- The text of an attachment with a name. -/
def nameText (name : String) : String :=
  attachmentType ++ "; filename=" ++ String.ofList (quoteName name.toList)

theorem read_nameText (name : String) :
    readDisposition (nameText name).toList = .ok (writtenAttachment name.toList).parts := by
  rw [nameText, ← written_writtenAttachment]
  exact readDisposition_written (wellFormed_writtenAttachment name.toList)

theorem attachment_eq (name : String) : attachment (some name) = .ok ⟨nameText name⟩ :=
  ofText_eq_ok_iff.mpr ⟨rfl, _, wellFormed_writtenAttachment name.toList,
    written_writtenAttachment name.toList⟩

theorem carries_nameText (name : String) : Carries ⟨nameText name⟩ name where
  text := by
    simp only [nameText, String.toList_append, String.toList_ofList, quoteName,
      escape_eq_guardWith, List.append_assoc]
  form := by
    have hform := wellFormed_writtenAttachment name.toList
    have hwritten := written_writtenAttachment name.toList
    intro written
    constructor
    · rintro ⟨hwell, htext⟩
      exact WrittenDisposition.unique hwell hform (htext.trans hwritten.symm)
    · rintro rfl
      exact ⟨hform, hwritten⟩
  parts := by
    refine ⟨_, read_nameText name, ?_⟩
    rw [written_namePieces, unescape_escape]

/-- Every file name makes an attachment that says this name and nothing else,
and different names make different ones. -/
theorem attachments_carry_names :
    (∀ name, ∃ disposition, attachment (some name) = .ok disposition ∧
      disposition.Carries name) ∧
    Function.Injective fun name : String => attachment (some name) := by
  constructor
  · intro name
    exact ⟨⟨nameText name⟩, attachment_eq name, carries_nameText name⟩
  · intro name other heq
    dsimp only at heq
    rw [attachment_eq, attachment_eq, Except.ok.injEq] at heq
    apply (carries_nameText name).unique
    rw [heq]
    exact carries_nameText other

end Disposition

end BucketAccess.Download

import BucketAccess.Download.Disposition
import BucketAccess.Proofs.Text.Run

/-!
# Written content dispositions

A content disposition is a type and parameters, each written with the blanks
around its parts.  The grammar is given by the written forms themselves: what is
read is what is written, and a text is written in only one way.
-/

namespace BucketAccess.Download

open Text

/-! ## Written forms -/

/-- A part of a quoted text: a character that stands for itself, or one behind
a backslash. -/
inductive QuotedPiece where
  | plain (char : Char)
  | escaped (char : Char)

namespace QuotedPiece

def written : QuotedPiece → List Char
  | .plain char => [char]
  | .escaped char => [backslash, char]

/-- Quotes and backslashes do not stand for themselves, and a line feed is not
escaped. -/
def WellFormed : QuotedPiece → Prop
  | .plain char => char ≠ doubleQuote ∧ char ≠ backslash
  | .escaped char => char ≠ '\n'

end QuotedPiece

/-- The value of a parameter as it is written. -/
inductive WrittenValue where
  | token (chars : List Char)
  | quoted (pieces : List QuotedPiece)

namespace WrittenValue

def written : WrittenValue → List Char
  | .token chars => chars
  | .quoted pieces => doubleQuote :: (pieces.flatMap QuotedPiece.written ++ [doubleQuote])

def WellFormed : WrittenValue → Prop
  | .token chars => IsToken chars
  | .quoted pieces => ∀ piece ∈ pieces, piece.WellFormed

end WrittenValue

/-- A parameter as it is written, from its semicolon to the blanks behind its
value. -/
structure WrittenParameter where
  beforeName : List Char
  name : List Char
  afterName : List Char
  beforeValue : List Char
  value : WrittenValue
  afterValue : List Char

namespace WrittenParameter

def written (parameter : WrittenParameter) : List Char :=
  ';' :: (parameter.beforeName ++ (parameter.name ++ (parameter.afterName ++
    '=' :: (parameter.beforeValue ++ (parameter.value.written ++ parameter.afterValue)))))

structure WellFormed (parameter : WrittenParameter) : Prop where
  beforeName : IsBlanks parameter.beforeName
  name : IsToken parameter.name
  afterName : IsBlanks parameter.afterName
  beforeValue : IsBlanks parameter.beforeValue
  value : parameter.value.WellFormed
  afterValue : IsBlanks parameter.afterValue

end WrittenParameter

/-- A disposition as it is written. -/
structure WrittenDisposition where
  beforeType : List Char
  type : List Char
  afterType : List Char
  parameters : List WrittenParameter

namespace WrittenDisposition

def written (disposition : WrittenDisposition) : List Char :=
  disposition.beforeType ++ (disposition.type ++ (disposition.afterType ++
    disposition.parameters.flatMap WrittenParameter.written))

/-- Every part is well formed, and no name holds a star. -/
structure WellFormed (disposition : WrittenDisposition) : Prop where
  beforeType : IsBlanks disposition.beforeType
  type : IsToken disposition.type
  afterType : IsBlanks disposition.afterType
  parameters : ∀ parameter ∈ disposition.parameters,
    parameter.WellFormed ∧ '*' ∉ parameter.name

end WrittenDisposition

/-! ## What follows a part -/

/-- What may follow a part that is complete: nothing, or the next parameter. -/
def AtBoundary (rest : List Char) : Prop := ∀ char ∈ rest.head?, char = ';'

theorem AtBoundary.ends {inClass : Char → Bool} {rest : List Char} (hrest : AtBoundary rest)
    (hclass : inClass ';' = false) : Ends inClass rest := by
  intro char hchar
  rw [hrest char hchar, hclass]

theorem atBoundary_parameters (parameters : List WrittenParameter) :
    AtBoundary (parameters.flatMap WrittenParameter.written) := by
  cases parameters <;> simp [AtBoundary, WrittenParameter.written]

theorem skipBlanks_append {blanks rest : List Char} (hblanks : IsBlanks blanks) :
    skipBlanks (blanks ++ rest) = skipBlanks rest :=
  List.dropWhile_append_of_pos hblanks

theorem skipBlanks_of_ends {rest : List Char} (hrest : Ends isBlank rest) :
    skipBlanks rest = rest :=
  dropWhile_of_ends hrest

theorem skipBlanks_split (chars : List Char) :
    ∃ blanks, IsBlanks blanks ∧ chars = blanks ++ skipBlanks chars :=
  ⟨chars.takeWhile isBlank, fun _ hchar => List.mem_takeWhile_imp hchar,
    List.takeWhile_append_dropWhile.symm⟩

/-- Blanks in front of what follows a part are skipped with those that end it. -/
theorem skipBlanks_suffix {blanks remaining tail : List Char} (hblanks : IsBlanks blanks)
    (hsuffix : remaining <:+ blanks ++ tail) : skipBlanks remaining <:+ tail := by
  induction blanks with
  | nil => exact (List.dropWhile_suffix isBlank).trans hsuffix
  | cons char blanks ih =>
      rcases List.suffix_cons_iff.mp hsuffix with rfl | hshorter
      · change skipBlanks (char :: blanks ++ tail) <:+ tail
        rw [skipBlanks_append hblanks]
        exact List.dropWhile_suffix isBlank
      · exact ih (fun other hother => hblanks other (List.mem_cons_of_mem char hother)) hshorter

/-! ## Quoted texts -/

theorem takeQuoted_doubleQuote (rest : List Char) :
    takeQuoted (doubleQuote :: rest) = some ([], rest) := by
  rw [takeQuoted.eq_def]
  simp

theorem takeQuoted_piece {piece : QuotedPiece} (rest : List Char) (hpiece : piece.WellFormed) :
    takeQuoted (piece.written ++ rest) =
      (takeQuoted rest).map fun read => (piece.written ++ read.1, read.2) := by
  cases piece with
  | plain char =>
      obtain ⟨hquote, hslash⟩ := hpiece
      rw [QuotedPiece.written, List.singleton_append, takeQuoted.eq_def]
      simp [hquote, hslash]
  | escaped char =>
      have hslash : backslash ≠ doubleQuote := by decide
      have hfeed : char ≠ '\n' := hpiece
      rw [QuotedPiece.written, List.cons_append, List.singleton_append, takeQuoted.eq_def]
      simp [hslash, hfeed]

/-- A quoted text is read up to the quote that closes it. -/
theorem takeQuoted_written {pieces : List QuotedPiece} (rest : List Char)
    (hpieces : ∀ piece ∈ pieces, piece.WellFormed) :
    takeQuoted (pieces.flatMap QuotedPiece.written ++ doubleQuote :: rest) =
      some (pieces.flatMap QuotedPiece.written, rest) := by
  induction pieces with
  | nil => exact takeQuoted_doubleQuote rest
  | cons piece pieces ih =>
      have hrest := ih fun other hother => hpieces other (List.mem_cons_of_mem piece hother)
      rw [List.flatMap_cons, List.append_assoc,
        takeQuoted_piece _ (hpieces piece List.mem_cons_self), hrest]
      rfl

/-- What is read as a quoted text is made of well-formed pieces. -/
theorem takeQuoted_eq_some {chars written rest : List Char}
    (htake : takeQuoted chars = some (written, rest)) :
    ∃ pieces : List QuotedPiece, (∀ piece ∈ pieces, piece.WellFormed) ∧
      pieces.flatMap QuotedPiece.written = written ∧
      chars = pieces.flatMap QuotedPiece.written ++ doubleQuote :: rest := by
  fun_induction takeQuoted chars generalizing written rest with
  | case1 => simp at htake
  | case2 tail =>
      simp only [Option.some.injEq, Prod.mk.injEq] at htake
      exact ⟨[], by simp, by simp [htake.1], by simp [htake.2]⟩
  | case3 => simp at htake
  | case4 => simp at htake
  | case5 next tail hfeed _ ih =>
      obtain ⟨⟨inner, remaining⟩, hinner, hread⟩ := Option.map_eq_some_iff.mp htake
      obtain ⟨pieces, hpieces, hwritten, htail⟩ := ih hinner
      obtain ⟨rfl, rfl⟩ := Prod.mk.inj hread
      refine ⟨.escaped next :: pieces, List.forall_mem_cons.mpr ⟨hfeed, hpieces⟩, ?_, ?_⟩
      · rw [← hwritten]
        rfl
      · rw [htail]
        rfl
  | case6 next tail hquote hslash ih =>
      obtain ⟨⟨inner, remaining⟩, hinner, hread⟩ := Option.map_eq_some_iff.mp htake
      obtain ⟨pieces, hpieces, hwritten, htail⟩ := ih hinner
      obtain ⟨rfl, rfl⟩ := Prod.mk.inj hread
      refine ⟨.plain next :: pieces, List.forall_mem_cons.mpr ⟨⟨hquote, hslash⟩, hpieces⟩, ?_, ?_⟩
      · rw [← hwritten]
        rfl
      · rw [htail]
        rfl

theorem pieces_unique {pieces others : List QuotedPiece}
    (hpieces : ∀ piece ∈ pieces, piece.WellFormed) (hothers : ∀ piece ∈ others, piece.WellFormed)
    (heq : pieces.flatMap QuotedPiece.written = others.flatMap QuotedPiece.written) :
    pieces = others := by
  induction pieces generalizing others with
  | nil =>
      cases others with
      | nil => rfl
      | cons other others => cases other <;> simp [QuotedPiece.written] at heq
  | cons piece pieces ih =>
      cases others with
      | nil => cases piece <;> simp [QuotedPiece.written] at heq
      | cons other others =>
          obtain ⟨hpiece, hrestPieces⟩ := List.forall_mem_cons.mp hpieces
          obtain ⟨hother, hrestOthers⟩ := List.forall_mem_cons.mp hothers
          rw [List.flatMap_cons, List.flatMap_cons] at heq
          cases piece with
          | plain char =>
              cases other with
              | plain next =>
                  obtain ⟨rfl, hrest⟩ := List.cons.inj heq
                  rw [ih hrestPieces hrestOthers hrest]
              | escaped next => exact absurd (List.cons.inj heq).1 hpiece.2
          | escaped char =>
              cases other with
              | plain next => exact absurd (List.cons.inj heq).1.symm hother.2
              | escaped next =>
                  obtain ⟨rfl, hrest⟩ := List.cons.inj (List.cons.inj heq).2
                  rw [ih hrestPieces hrestOthers hrest]

/-! ## Values -/

namespace WrittenValue

/-- The value that is read from what is written. -/
def read : WrittenValue → ParameterValue
  | .token chars => .token chars
  | .quoted pieces => .quoted (pieces.flatMap QuotedPiece.written)

theorem ends_isBlank {value : WrittenValue} {rest : List Char} (hvalue : value.WellFormed) :
    Ends isBlank (value.written ++ rest) := by
  cases value with
  | token chars => exact IsToken.ends_isBlank hvalue
  | quoted pieces => exact ends_cons.mpr (by decide)

/-- A value that is complete is read, and nothing of what follows it. -/
theorem takeValue_written {value : WrittenValue} {rest : List Char} (hvalue : value.WellFormed)
    (hrest : Ends isTokenChar rest) :
    takeValue (value.written ++ rest) = some (value.read, rest) := by
  cases value with
  | token chars =>
      obtain ⟨char, tail, rfl⟩ := List.exists_cons_of_ne_nil (IsToken.ne_nil hvalue)
      have hquote : char ≠ doubleQuote := by
        intro heq
        have htoken := IsToken.chars hvalue char List.mem_cons_self
        rw [heq] at htoken
        exact absurd htoken (by decide)
      have htake := takeToken_eq_some_iff.mpr ⟨hvalue, hrest, rfl⟩
      simp only [written, List.cons_append] at htake ⊢
      rw [takeValue]
      simp [hquote, htake, read]
  | quoted pieces =>
      simp [written, takeValue, takeQuoted_written rest hvalue, read]

/-- Whatever follows, what is written as a value is read, and perhaps more. -/
theorem takeValue_append {value : WrittenValue} (rest : List Char) (hvalue : value.WellFormed) :
    ∃ longer remaining, takeValue (value.written ++ rest) = some (longer, remaining) ∧
      remaining <:+ rest := by
  cases value with
  | token chars =>
      have hlonger : (WrittenValue.token (chars ++ rest.takeWhile isTokenChar)).WellFormed :=
        (takeToken_eq_some_iff.mp (IsToken.takeToken_append rest hvalue)).1
      have htake := takeValue_written hlonger (ends_dropWhile rest)
      rw [written, List.append_assoc, List.takeWhile_append_dropWhile] at htake
      exact ⟨_, _, htake, List.dropWhile_suffix isTokenChar⟩
  | quoted pieces =>
      exact ⟨.quoted (pieces.flatMap QuotedPiece.written), rest,
        by simp [written, takeValue, takeQuoted_written rest hvalue], List.suffix_refl rest⟩

theorem unique {value other : WrittenValue} {rest remainder : List Char}
    (hvalue : value.WellFormed) (hother : other.WellFormed) (hrest : Ends isTokenChar rest)
    (hremainder : Ends isTokenChar remainder)
    (heq : value.written ++ rest = other.written ++ remainder) :
    value = other ∧ rest = remainder := by
  have hread := takeValue_written hvalue hrest
  rw [heq, takeValue_written hother hremainder] at hread
  simp only [Option.some.injEq, Prod.mk.injEq] at hread
  obtain ⟨hsame, rfl⟩ := hread
  refine ⟨?_, rfl⟩
  cases value <;> cases other <;> simp only [read, ParameterValue.token.injEq,
    ParameterValue.quoted.injEq, reduceCtorEq] at hsame
  · rw [hsame]
  · rw [pieces_unique hvalue hother hsame.symm]

end WrittenValue

theorem takeValue_eq_some {chars rest : List Char} {value : ParameterValue}
    (htake : takeValue chars = some (value, rest)) :
    ∃ writtenValue : WrittenValue, writtenValue.WellFormed ∧ writtenValue.read = value ∧
      chars = writtenValue.written ++ rest := by
  unfold takeValue at htake
  split at htake
  · simp at htake
  · split at htake
    · rename_i char tail hquote
      obtain ⟨⟨inner, remaining⟩, hinner, hread⟩ := Option.map_eq_some_iff.mp htake
      obtain ⟨pieces, hpieces, hwritten, htail⟩ := takeQuoted_eq_some hinner
      obtain ⟨rfl, rfl⟩ := Prod.mk.inj hread
      exact ⟨.quoted pieces, hpieces, by rw [WrittenValue.read, hwritten],
        by simp [WrittenValue.written, hquote, htail]⟩
    · obtain ⟨⟨token, remaining⟩, htoken, hread⟩ := Option.map_eq_some_iff.mp htake
      obtain ⟨hwell, -, hchars⟩ := takeToken_eq_some_iff.mp htoken
      obtain ⟨rfl, rfl⟩ := Prod.mk.inj hread
      exact ⟨.token token, hwell, rfl, hchars⟩

/-! ## Parameters -/

namespace WrittenParameter

variable {parameter other : WrittenParameter} {tail : List Char}

/-- Up to its value a parameter is read as it is written, whatever follows. -/
theorem WellFormed.takeParameter_written (tail : List Char) (hparameter : parameter.WellFormed) :
    takeParameter (parameter.written ++ tail) =
      (takeValue (parameter.value.written ++ (parameter.afterValue ++ tail))).map
        fun read => (⟨parameter.name, read.1⟩, skipBlanks read.2) := by
  have hname : ∀ rest, skipBlanks (parameter.beforeName ++ (parameter.name ++ rest)) =
      parameter.name ++ rest := fun rest => by
    rw [skipBlanks_append hparameter.beforeName, skipBlanks_of_ends hparameter.name.ends_isBlank]
  have hequals : ∀ rest, skipBlanks (parameter.afterName ++ '=' :: rest) = '=' :: rest :=
    fun rest => by
      rw [skipBlanks_append hparameter.afterName,
        skipBlanks_of_ends (ends_cons.mpr (by decide))]
  have htoken : ∀ rest, takeToken (parameter.name ++ (parameter.afterName ++ '=' :: rest)) =
      some (parameter.name, parameter.afterName ++ '=' :: rest) := fun rest =>
    takeToken_eq_some_iff.mpr ⟨hparameter.name,
      ends_isTokenChar_of_isBlanks hparameter.afterName (ends_cons.mpr (by decide)), rfl⟩
  have hvalue : ∀ rest, skipBlanks (parameter.beforeValue ++ (parameter.value.written ++ rest)) =
      parameter.value.written ++ rest := fun rest => by
    rw [skipBlanks_append hparameter.beforeValue,
      skipBlanks_of_ends (WrittenValue.ends_isBlank hparameter.value)]
  simp only [written, List.cons_append, List.append_assoc, takeParameter, hname, htoken, hequals,
    hvalue, Option.bind_eq_bind, Option.bind_some]
  cases takeValue (parameter.value.written ++ (parameter.afterValue ++ tail)) <;> rfl

/-- A parameter that is complete is read, and nothing of what follows it. -/
theorem WellFormed.takeParameter_complete (hparameter : parameter.WellFormed)
    (htail : AtBoundary tail) :
    takeParameter (parameter.written ++ tail) =
      some (⟨parameter.name, parameter.value.read⟩, tail) := by
  have hrest : Ends isTokenChar (parameter.afterValue ++ tail) :=
    ends_isTokenChar_of_isBlanks hparameter.afterValue (htail.ends (by decide))
  rw [hparameter.takeParameter_written tail,
    WrittenValue.takeValue_written hparameter.value hrest, Option.map_some,
    skipBlanks_append hparameter.afterValue, skipBlanks_of_ends (htail.ends (by decide))]

/-- Whatever follows a parameter, one of its name is read, and perhaps more. -/
theorem WellFormed.takeParameter_append (tail : List Char) (hparameter : parameter.WellFormed) :
    ∃ longer remaining, takeParameter (parameter.written ++ tail) =
      some (⟨parameter.name, longer⟩, remaining) ∧ remaining <:+ tail := by
  obtain ⟨longer, remaining, htake, hsuffix⟩ :=
    WrittenValue.takeValue_append (parameter.afterValue ++ tail) hparameter.value
  refine ⟨longer, skipBlanks remaining, ?_, skipBlanks_suffix hparameter.afterValue hsuffix⟩
  rw [hparameter.takeParameter_written tail, htake]
  rfl

theorem unique {remainder : List Char} (hparameter : parameter.WellFormed)
    (hother : other.WellFormed) (htail : AtBoundary tail) (hremainder : AtBoundary remainder)
    (heq : parameter.written ++ tail = other.written ++ remainder) :
    parameter = other ∧ tail = remainder := by
  have hnot : isTokenChar '=' = false := by decide
  have hequals : isBlank '=' = false := by decide
  simp only [written, List.cons_append, List.append_assoc, List.cons.injEq, true_and] at heq
  obtain ⟨hbeforeName, heq⟩ := run_unique hparameter.beforeName hother.beforeName
    hparameter.name.ends_isBlank hother.name.ends_isBlank heq
  obtain ⟨hname, heq⟩ := run_unique hparameter.name.chars hother.name.chars
    (ends_isTokenChar_of_isBlanks hparameter.afterName (ends_cons.mpr hnot))
    (ends_isTokenChar_of_isBlanks hother.afterName (ends_cons.mpr hnot)) heq
  obtain ⟨hafterName, heq⟩ := run_unique hparameter.afterName hother.afterName
    (ends_cons.mpr hequals) (ends_cons.mpr hequals) heq
  obtain ⟨hbeforeValue, heq⟩ := run_unique hparameter.beforeValue hother.beforeValue
    (WrittenValue.ends_isBlank hparameter.value) (WrittenValue.ends_isBlank hother.value)
    (List.cons.inj heq).2
  obtain ⟨hvalue, heq⟩ := WrittenValue.unique hparameter.value hother.value
    (ends_isTokenChar_of_isBlanks hparameter.afterValue (htail.ends (by decide)))
    (ends_isTokenChar_of_isBlanks hother.afterValue (hremainder.ends (by decide))) heq
  obtain ⟨hafterValue, heq⟩ := run_unique hparameter.afterValue hother.afterValue
    (htail.ends (by decide)) (hremainder.ends (by decide)) heq
  refine ⟨?_, heq⟩
  cases parameter
  cases other
  simp_all

end WrittenParameter

/-- What is read as a parameter is written as one. -/
theorem takeParameter_eq_some {chars rest : List Char} {parameter : Parameter}
    (htake : takeParameter chars = some (parameter, rest)) :
    ∃ writtenParameter : WrittenParameter, writtenParameter.WellFormed ∧
      writtenParameter.name = parameter.name ∧ chars = writtenParameter.written ++ rest := by
  unfold takeParameter at htake
  split at htake
  · rename_i tail
    simp only [Option.bind_eq_bind, Option.bind_eq_some_iff] at htake
    obtain ⟨⟨name, afterName⟩, hname, htake⟩ := htake
    obtain ⟨hnameWell, -, hnameChars⟩ := takeToken_eq_some_iff.mp hname
    obtain ⟨beforeName, hbeforeName, htail⟩ := skipBlanks_split tail
    dsimp only at htake
    split at htake
    · rename_i afterEquals hequals
      simp only [Option.bind_eq_some_iff] at htake
      obtain ⟨⟨value, afterValue⟩, hvalue, htake⟩ := htake
      obtain ⟨written, hwritten, -, hvalueChars⟩ := takeValue_eq_some hvalue
      obtain ⟨blanksName, hblanksName, hafterName⟩ := skipBlanks_split afterName
      obtain ⟨beforeValue, hbeforeValue, hafterEquals⟩ := skipBlanks_split afterEquals
      obtain ⟨blanksValue, hblanksValue, hafterValue⟩ := skipBlanks_split afterValue
      simp only [Option.pure_def, Option.some.injEq, Prod.mk.injEq] at htake
      obtain ⟨rfl, rfl⟩ := htake
      refine ⟨⟨beforeName, name, blanksName, beforeValue, written, blanksValue⟩,
        ⟨hbeforeName, hnameWell, hblanksName, hbeforeValue, hwritten, hblanksValue⟩, rfl, ?_⟩
      rw [hequals] at hafterName
      rw [htail, hnameChars, hafterName, hafterEquals, hvalueChars]
      simp only [WrittenParameter.written, List.cons_append, List.append_assoc, ← hafterValue]
    · simp at htake
  · simp at htake

/-! ## One written form -/

theorem parameters_unique {parameters others : List WrittenParameter}
    (hparameters : ∀ parameter ∈ parameters, parameter.WellFormed)
    (hothers : ∀ other ∈ others, other.WellFormed)
    (heq : parameters.flatMap WrittenParameter.written =
      others.flatMap WrittenParameter.written) : parameters = others := by
  induction parameters generalizing others with
  | nil =>
      cases others with
      | nil => rfl
      | cons other others => simp [WrittenParameter.written] at heq
  | cons parameter parameters ih =>
      cases others with
      | nil => simp [WrittenParameter.written] at heq
      | cons other others =>
          obtain ⟨hparameter, hrestParameters⟩ := List.forall_mem_cons.mp hparameters
          obtain ⟨hother, hrestOthers⟩ := List.forall_mem_cons.mp hothers
          rw [List.flatMap_cons, List.flatMap_cons] at heq
          obtain ⟨rfl, hrest⟩ := WrittenParameter.unique hparameter hother
            (atBoundary_parameters parameters) (atBoundary_parameters others) heq
          rw [ih hrestParameters hrestOthers hrest]

/-- A text is written in only one way. -/
theorem WrittenDisposition.unique {left right : WrittenDisposition} (hleft : left.WellFormed)
    (hright : right.WellFormed) (heq : left.written = right.written) : left = right := by
  have hends : ∀ parameters : List WrittenParameter,
      Ends isBlank (parameters.flatMap WrittenParameter.written) ∧
        Ends isTokenChar (parameters.flatMap WrittenParameter.written) := fun parameters =>
    ⟨(atBoundary_parameters parameters).ends (by decide),
      (atBoundary_parameters parameters).ends (by decide)⟩
  obtain ⟨hbefore, heq⟩ := run_unique hleft.beforeType hright.beforeType
    hleft.type.ends_isBlank hright.type.ends_isBlank heq
  obtain ⟨htype, heq⟩ := run_unique hleft.type.chars hright.type.chars
    (ends_isTokenChar_of_isBlanks hleft.afterType (hends left.parameters).2)
    (ends_isTokenChar_of_isBlanks hright.afterType (hends right.parameters).2) heq
  obtain ⟨hafter, heq⟩ := run_unique hleft.afterType hright.afterType
    (hends left.parameters).1 (hends right.parameters).1 heq
  have hparameters := parameters_unique (fun parameter hmem => (hleft.parameters parameter hmem).1)
    (fun parameter hmem => (hright.parameters parameter hmem).1) heq
  cases left
  cases right
  simp_all

end BucketAccess.Download

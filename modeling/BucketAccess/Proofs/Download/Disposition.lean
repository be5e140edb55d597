import BucketAccess.Proofs.Download.WrittenDisposition

/-!
# The grammar of content dispositions

Reading accepts exactly the texts that are the written form of a disposition.
Any other text is refused for what stands behind its longest well-formed
beginning: reading parameters in turn never gives up one that has been read, and
still reaches that beginning.
-/

namespace BucketAccess.Download

open Text

/-! ## Reading parameters in turn -/

/-- No parameter is read on from here: the text is at its end, or what stands
here is no parameter or has a starred name. -/
def IsStuck (chars : List Char) : Prop :=
  ∀ parameter rest, takeParameter chars = some (parameter, rest) → '*' ∈ parameter.name

/-- Parameters are read in turn from a text until no more can be read. -/
inductive Scans : List Char → List WrittenParameter → List Char → Prop where
  | stop {chars : List Char} (hstuck : IsStuck chars) : Scans chars [] chars
  | next {parameter : WrittenParameter} {parameters : List WrittenParameter}
      {value : ParameterValue} {tail rest : List Char} (hparameter : parameter.WellFormed)
      (hstar : '*' ∉ parameter.name)
      (htake : takeParameter (parameter.written ++ tail) = some (⟨parameter.name, value⟩, tail))
      (hscan : Scans tail parameters rest) :
      Scans (parameter.written ++ tail) (parameter :: parameters) rest

namespace Scans

variable {chars rest : List Char} {parameters others : List WrittenParameter}

theorem wellFormed (hscan : Scans chars parameters rest) :
    ∀ parameter ∈ parameters, parameter.WellFormed ∧ '*' ∉ parameter.name := by
  induction hscan with
  | stop => simp
  | next hparameter hstar _ _ ih => exact List.forall_mem_cons.mpr ⟨⟨hparameter, hstar⟩, ih⟩

theorem split (hscan : Scans chars parameters rest) :
    chars = parameters.flatMap WrittenParameter.written ++ rest := by
  induction hscan with
  | stop => rfl
  | next _ _ _ _ ih => rw [List.flatMap_cons, List.append_assoc, ← ih]

theorem suffix (hscan : Scans chars parameters rest) : rest <:+ chars :=
  ⟨_, hscan.split.symm⟩

/-- No parameters without stars at the front of a text reach further than those
that are read in turn. -/
theorem longest (hscan : Scans chars parameters rest) {remainder : List Char}
    (hothers : ∀ other ∈ others, other.WellFormed ∧ '*' ∉ other.name)
    (hchars : chars = others.flatMap WrittenParameter.written ++ remainder) :
    rest.length ≤ remainder.length := by
  induction hscan generalizing others with
  | stop hstuck =>
      cases others with
      | nil => exact (congrArg List.length hchars).le
      | cons other others =>
          obtain ⟨⟨hother, hstar⟩, -⟩ := List.forall_mem_cons.mp hothers
          rw [List.flatMap_cons, List.append_assoc] at hchars
          obtain ⟨longer, remaining, htake, -⟩ := hother.takeParameter_append
            (others.flatMap WrittenParameter.written ++ remainder)
          exact absurd (hstuck _ _ (hchars ▸ htake)) hstar
  | @next parameter parameters value tail rest _ _ htake hscan ih =>
      cases others with
      | nil =>
          have hlength := congrArg List.length hchars
          have htail := hscan.suffix.length_le
          simp only [List.length_append, List.flatMap_nil, List.nil_append] at hlength
          omega
      | cons other others =>
          obtain ⟨⟨hother, hstar⟩, hrest⟩ := List.forall_mem_cons.mp hothers
          rw [List.flatMap_cons, List.append_assoc] at hchars
          obtain ⟨longer, remaining, hread, hsuffix⟩ := hother.takeParameter_append
            (others.flatMap WrittenParameter.written ++ remainder)
          rw [← hchars, htake] at hread
          obtain ⟨-, rfl⟩ := Prod.mk.inj (Option.some.inj hread)
          cases others with
          | nil => exact hscan.suffix.length_le.trans hsuffix.length_le
          | cons following others =>
              -- the next semicolon ends the parameter in front of it, however it is read
              have hboundary : AtBoundary
                  ((following :: others).flatMap WrittenParameter.written ++ remainder) := by
                simp [AtBoundary, WrittenParameter.written]
              rw [hchars, hother.takeParameter_complete hboundary] at htake
              obtain ⟨-, htail⟩ := Prod.mk.inj (Option.some.inj htake)
              exact ih hrest htail.symm

end Scans

/-- The violation of a text that is not at its end and where no parameter is
read on. -/
inductive StuckViolation (rest : List Char) : Violation → Prop where
  | malformed (hnone : takeParameter rest = none) (hne : rest ≠ []) :
      StuckViolation rest (.dispositionParameter (String.ofList (trimBy isBlank rest)))
  | starred {parameter : Parameter} {tail : List Char}
      (htake : takeParameter rest = some (parameter, tail)) (hstar : '*' ∈ parameter.name) :
      StuckViolation rest (.starredParameter (String.ofList parameter.name))

/-- Reading parameters ends at the end of the text or where it gets stuck. -/
theorem readParameters_scans (chars : List Char) :
    ∃ parameters rest, Scans chars parameters rest ∧
      ((rest = [] ∧ ∃ read, readParameters chars = .ok read) ∨
        ∃ violation, readParameters chars = .error violation ∧ StuckViolation rest violation) := by
  fun_induction readParameters chars with
  | case1 chars hempty =>
      obtain rfl := List.isEmpty_iff.mp hempty
      exact ⟨[], [], .stop fun parameter rest htake => by simp [takeParameter] at htake,
        .inl ⟨rfl, [], rfl⟩⟩
  | case2 chars hempty hnone =>
      have hne : chars ≠ [] := fun hnil => hempty (List.isEmpty_iff.mpr hnil)
      exact ⟨[], chars, .stop fun parameter rest htake => by simp [hnone] at htake,
        .inr ⟨_, rfl, .malformed hnone hne⟩⟩
  | case3 chars hempty parameter rest htake hstar =>
      have hname : '*' ∈ parameter.name := List.contains_iff_mem.mp hstar
      refine ⟨[], chars, .stop fun other tail hother => ?_, .inr ⟨_, rfl, .starred htake hname⟩⟩
      rw [htake] at hother
      obtain ⟨rfl, -⟩ := Prod.mk.inj (Option.some.inj hother)
      exact hname
  | case4 chars hempty parameter tail htake hstar ih =>
      obtain ⟨parameters, rest, hscan, houtcome⟩ := ih
      obtain ⟨written, hwritten, hname, rfl⟩ := takeParameter_eq_some htake
      have hnameStar : '*' ∉ written.name := by
        rw [hname]
        exact fun hmem => hstar (List.contains_iff_mem.mpr hmem)
      have hread : takeParameter (written.written ++ tail) =
          some (⟨written.name, parameter.value⟩, tail) := by
        rw [htake, hname]
      refine ⟨written :: parameters, rest, .next hwritten hnameStar hread hscan, ?_⟩
      rcases houtcome with ⟨hrest, read, hok⟩ | ⟨violation, herror, hstuck⟩
      · exact .inl ⟨hrest, parameter :: read, by rw [hok]; rfl⟩
      · exact .inr ⟨violation, by rw [herror]; rfl, hstuck⟩

/-! ## Reading a type -/

/-- Reads a type with the blanks around it. -/
def takeType (chars : List Char) : Option (List Char × List Char) :=
  (takeToken (skipBlanks chars)).map fun read => (read.1, skipBlanks read.2)

theorem takeType_append {before type after : List Char} (tail : List Char)
    (hbefore : IsBlanks before) (htype : IsToken type) (hafter : IsBlanks after) :
    ∃ longer remaining, takeType (before ++ (type ++ (after ++ tail))) =
      some (longer, remaining) ∧ remaining <:+ tail ∧ (AtBoundary tail → remaining = tail) := by
  have hfront : skipBlanks (before ++ (type ++ (after ++ tail))) = type ++ (after ++ tail) := by
    rw [skipBlanks_append hbefore, skipBlanks_of_ends htype.ends_isBlank]
  refine ⟨type ++ (after ++ tail).takeWhile isTokenChar,
    skipBlanks ((after ++ tail).dropWhile isTokenChar), ?_,
    skipBlanks_suffix hafter (List.dropWhile_suffix isTokenChar), fun htail => ?_⟩
  · rw [takeType, hfront, htype.takeToken_append (after ++ tail)]
    rfl
  · have hends : Ends isTokenChar (after ++ tail) :=
      ends_isTokenChar_of_isBlanks hafter (htail.ends (by decide))
    rw [dropWhile_of_ends hends, skipBlanks_append hafter,
      skipBlanks_of_ends (htail.ends (by decide))]

theorem takeType_eq_some {chars type rest : List Char}
    (htake : takeType chars = some (type, rest)) :
    ∃ before after, IsBlanks before ∧ IsToken type ∧ IsBlanks after ∧
      chars = before ++ (type ++ (after ++ rest)) := by
  obtain ⟨⟨token, remaining⟩, htoken, hread⟩ := Option.map_eq_some_iff.mp htake
  obtain ⟨htype, -, hchars⟩ := takeToken_eq_some_iff.mp htoken
  obtain ⟨before, hbefore, hsplit⟩ := skipBlanks_split chars
  obtain ⟨after, hafter, hremaining⟩ := skipBlanks_split remaining
  obtain ⟨rfl, rfl⟩ := Prod.mk.inj hread
  exact ⟨before, after, hbefore, htype, hafter, by rw [← hremaining, ← hchars, ← hsplit]⟩

theorem readDisposition_eq (chars : List Char) :
    readDisposition chars = match takeType chars with
      | none => .error (.dispositionType (String.ofList (trimBy isBlank chars)))
      | some (type, rest) => (readParameters rest).map (⟨type, ·⟩) := by
  unfold readDisposition takeType
  cases takeToken (skipBlanks chars) <;> rfl

/-! ## The whole text -/

/-- A text begins with a well-formed disposition, and with no longer one. -/
structure IsLongestBeginning (chars : List Char) (disposition : WrittenDisposition)
    (rest : List Char) : Prop where
  wellFormed : disposition.WellFormed
  split : chars = disposition.written ++ rest
  longest : ∀ (other : WrittenDisposition) (remainder : List Char), other.WellFormed →
    chars = other.written ++ remainder → other.written.length ≤ disposition.written.length

/-- What is said of the leftmost problem of a text: that it has no type, or what
stands behind its longest well-formed beginning. -/
inductive LeftmostProblem (chars : List Char) : String → Prop where
  | type (hnone : ∀ before type rest, IsBlanks before → IsToken type →
        chars ≠ before ++ (type ++ rest)) :
      LeftmostProblem chars ("Invalid Content-Disposition type: '" ++
        String.ofList (trimBy isBlank chars) ++ "'")
  | starred {disposition : WrittenDisposition} {rest : List Char}
      {parameter : WrittenParameter} {tail : List Char}
      (hlongest : IsLongestBeginning chars disposition rest)
      (hrest : rest = parameter.written ++ tail) (hparameter : parameter.WellFormed)
      (hstar : '*' ∈ parameter.name) :
      LeftmostProblem chars
        ("Content-Disposition parameter names containing '*' are not allowed: '" ++
          String.ofList parameter.name ++ "'")
  | malformed {disposition : WrittenDisposition} {rest : List Char}
      (hlongest : IsLongestBeginning chars disposition rest) (hne : rest ≠ [])
      (hnone : ∀ (parameter : WrittenParameter) (tail : List Char), parameter.WellFormed →
        rest ≠ parameter.written ++ tail) :
      LeftmostProblem chars ("Invalid Content-Disposition parameter: '" ++
        String.ofList (trimBy isBlank rest) ++ "'")

theorem IsLongestBeginning.rest_unique {chars rest remainder : List Char}
    {disposition other : WrittenDisposition} (hleft : IsLongestBeginning chars disposition rest)
    (hright : IsLongestBeginning chars other remainder) : rest = remainder := by
  have hlength : disposition.written.length = other.written.length :=
    Nat.le_antisymm (hright.longest _ _ hleft.wellFormed hleft.split)
      (hleft.longest _ _ hright.wellFormed hright.split)
  exact (List.append_inj (hleft.split.symm.trans hright.split) hlength).2

theorem IsLongestBeginning.not_typeless {chars rest : List Char}
    {disposition : WrittenDisposition} (hlongest : IsLongestBeginning chars disposition rest) :
    ¬ ∀ before type rest, IsBlanks before → IsToken type → chars ≠ before ++ (type ++ rest) := by
  intro hnone
  have hsplit := hlongest.split
  simp only [WrittenDisposition.written, List.append_assoc] at hsplit
  exact hnone _ _ _ hlongest.wellFormed.beforeType hlongest.wellFormed.type hsplit

/-- Reading a type and then parameters in turn reaches the longest well-formed
beginning. -/
theorem isLongestBeginning_of_scans {chars type before after tail rest : List Char}
    {parameters : List WrittenParameter} (htake : takeType chars = some (type, tail))
    (hbefore : IsBlanks before) (htype : IsToken type) (hafter : IsBlanks after)
    (hchars : chars = before ++ (type ++ (after ++ tail))) (hscan : Scans tail parameters rest) :
    IsLongestBeginning chars ⟨before, type, after, parameters⟩ rest := by
  have hsplit : chars = WrittenDisposition.written ⟨before, type, after, parameters⟩ ++ rest := by
    rw [hchars, hscan.split]
    simp [WrittenDisposition.written]
  refine ⟨⟨hbefore, htype, hafter, hscan.wellFormed⟩, hsplit, ?_⟩
  intro other remainder hother hread
  suffices hle : rest.length ≤ remainder.length by
    have hlength := congrArg List.length (hsplit.symm.trans hread)
    simp only [List.length_append] at hlength
    omega
  obtain ⟨longer, remaining, hlonger, hsuffix, hboundary⟩ := takeType_append
    (other.parameters.flatMap WrittenParameter.written ++ remainder) hother.beforeType hother.type
    hother.afterType
  rw [WrittenDisposition.written] at hread
  simp only [List.append_assoc] at hread
  rw [← hread, htake] at hlonger
  obtain ⟨-, rfl⟩ := Prod.mk.inj (Option.some.inj hlonger)
  cases hparameters : other.parameters with
  | nil =>
      rw [hparameters] at hsuffix
      exact hscan.suffix.length_le.trans hsuffix.length_le
  | cons parameter others =>
      refine hscan.longest hother.parameters (hboundary ?_)
      rw [hparameters]
      simp [AtBoundary, WrittenParameter.written]

/-- A text is read as a disposition that it is the written form of, or refused
for its leftmost problem. -/
theorem readDisposition_spec (chars : List Char) :
    (∃ parts, readDisposition chars = .ok parts ∧
      ∃ disposition : WrittenDisposition, disposition.WellFormed ∧ disposition.written = chars) ∨
    ∃ violation, readDisposition chars = .error violation ∧
      LeftmostProblem chars violation.message := by
  rw [readDisposition_eq]
  cases htake : takeType chars with
  | none =>
      refine .inr ⟨_, rfl, .type fun before type rest hbefore htype hchars => ?_⟩
      obtain ⟨longer, remaining, hsome, -⟩ := takeType_append rest hbefore htype
        (List.forall_mem_nil _ : IsBlanks [])
      rw [List.nil_append, ← hchars, htake] at hsome
      simp at hsome
  | some read =>
      obtain ⟨type, tail⟩ := read
      obtain ⟨before, after, hbefore, htype, hafter, hchars⟩ := takeType_eq_some htake
      obtain ⟨parameters, rest, hscan, houtcome⟩ := readParameters_scans tail
      have hlongest := isLongestBeginning_of_scans htake hbefore htype hafter hchars hscan
      dsimp only
      rcases houtcome with ⟨rfl, read, hok⟩ | ⟨violation, herror, hstuck⟩
      · refine .inl ⟨⟨type, read⟩, by rw [hok]; rfl, _, hlongest.wellFormed, ?_⟩
        rw [hlongest.split, List.append_nil]
      · refine .inr ⟨violation, by rw [herror]; rfl, ?_⟩
        cases hstuck with
        | malformed hnone hne =>
            refine .malformed hlongest hne fun parameter tail hparameter hrest => ?_
            obtain ⟨longer, remaining, hsome, -⟩ := hparameter.takeParameter_append tail
            rw [← hrest, hnone] at hsome
            simp at hsome
        | starred hsome hstar =>
            obtain ⟨written, hwritten, hname, hrest⟩ := takeParameter_eq_some hsome
            rw [← hname] at hstar ⊢
            exact .starred hlongest hrest hwritten hstar

namespace LeftmostProblem

variable {chars : List Char} {message other : String}

theorem not_written {disposition : WrittenDisposition} (hdisposition : disposition.WellFormed)
    (hwritten : disposition.written = chars) : ¬ LeftmostProblem chars message := by
  have hwhole : chars = disposition.written ++ [] := by rw [List.append_nil, hwritten]
  have hrest : ∀ {longest : WrittenDisposition} {rest : List Char},
      IsLongestBeginning chars longest rest → rest = [] := by
    intro longest rest hlongest
    have hlength := congrArg List.length hlongest.split
    have hle := hlongest.longest disposition [] hdisposition hwhole
    rw [List.length_append, ← hwritten] at hlength
    exact List.eq_nil_of_length_eq_zero (by omega)
  rintro (hnone | ⟨hlongest, hsplit, -, -⟩ | ⟨hlongest, hne, -⟩)
  · exact hnone _ _ _ hdisposition.beforeType hdisposition.type hwritten.symm
  · rw [hrest hlongest] at hsplit
    simp [WrittenParameter.written] at hsplit
  · exact hne (hrest hlongest)

/-- A text has one leftmost problem at most. -/
theorem unique (hleft : LeftmostProblem chars message) (hright : LeftmostProblem chars other) :
    message = other := by
  cases hleft with
  | type hnone =>
      cases hright with
      | type => rfl
      | starred hlongest => exact absurd hnone hlongest.not_typeless
      | malformed hlongest => exact absurd hnone hlongest.not_typeless
  | starred hlongest hrest hparameter hstar =>
      cases hright with
      | type hnone => exact absurd hnone hlongest.not_typeless
      | @starred _ _ _ tail hlongest' hrest' hparameter' =>
          rw [hlongest.rest_unique hlongest', hrest'] at hrest
          obtain ⟨_, _, hread, -⟩ := hparameter'.takeParameter_append tail
          obtain ⟨_, _, hread', -⟩ := hparameter.takeParameter_append _
          rw [hrest, hread'] at hread
          rw [(Parameter.mk.inj (Prod.mk.inj (Option.some.inj hread)).1).1]
      | malformed hlongest' _ hnone =>
          rw [hlongest.rest_unique hlongest'] at hrest
          exact absurd hrest (hnone _ _ hparameter)
  | malformed hlongest hne hnone =>
      cases hright with
      | type hnone' => exact absurd hnone' hlongest.not_typeless
      | starred hlongest' hrest hparameter =>
          rw [← hlongest.rest_unique hlongest'] at hrest
          exact absurd hrest (hnone _ _ hparameter)
      | malformed hlongest' => rw [hlongest.rest_unique hlongest']

end LeftmostProblem

/-! ## The loop -/

/-- Reads parameters in at most a number of rounds: none if more are needed. -/
def readParametersWithin (rounds : Nat) (chars : List Char) :
    Option (Except Violation (List Parameter)) :=
  if chars.isEmpty then some (.ok [])
  else
    match rounds with
    | 0 => none
    | rounds + 1 =>
        match takeParameter chars with
        | none => some (.error (.dispositionParameter (String.ofList (trimBy isBlank chars))))
        | some (parameter, rest) =>
            if parameter.isStarred then
              some (.error (.starredParameter (String.ofList parameter.name)))
            else (readParametersWithin rounds rest).map fun read => read.map (parameter :: ·)

theorem readParameters_of_none {chars : List Char} (hne : chars ≠ [])
    (hnone : takeParameter chars = none) :
    readParameters chars =
      .error (.dispositionParameter (String.ofList (trimBy isBlank chars))) := by
  rw [readParameters]
  split
  · rename_i hempty
    exact absurd (List.isEmpty_iff.mp hempty) hne
  · split <;> simp_all

theorem readParameters_of_some {chars rest : List Char} {parameter : Parameter}
    (htake : takeParameter chars = some (parameter, rest)) :
    readParameters chars =
      if parameter.isStarred then .error (.starredParameter (String.ofList parameter.name))
      else (readParameters rest).map (parameter :: ·) := by
  rw [readParameters]
  split
  · rename_i hempty
    simp [List.isEmpty_iff.mp hempty, takeParameter] at htake
  · split <;> simp_all

/-- Every round uses up a character, so the rounds come to an end. -/
theorem readParametersWithin_eq {rounds : Nat} {chars : List Char}
    (hrounds : chars.length ≤ rounds) :
    readParametersWithin rounds chars = some (readParameters chars) := by
  induction rounds generalizing chars with
  | zero =>
      obtain rfl := List.eq_nil_of_length_eq_zero (Nat.le_zero.mp hrounds)
      simp [readParametersWithin, readParameters]
  | succ rounds ih =>
      rw [readParametersWithin]
      by_cases hnil : chars = []
      · simp [hnil, readParameters]
      · rw [if_neg (by simpa using hnil)]
        cases htake : takeParameter chars with
        | none => rw [readParameters_of_none hnil htake]
        | some read =>
            obtain ⟨parameter, rest⟩ := read
            have hshorter := (takeParameter_length htake).trans_le hrounds
            dsimp only
            rw [readParameters_of_some htake, ih (Nat.le_of_lt_succ hshorter)]
            split <;> rfl

/-- Exactly the texts that have a written form are dispositions, the form is
unique, any other text is refused for its leftmost problem, and the loop over
the parameters ends. -/
theorem disposition_grammar (text : String) :
    (∀ disposition, Disposition.ofText text = .ok disposition ↔ disposition = ⟨text⟩ ∧
      ∃ written : WrittenDisposition, written.WellFormed ∧ written.written = text.toList) ∧
    (∀ left right : WrittenDisposition, left.WellFormed → right.WellFormed →
      left.written = text.toList → right.written = text.toList → left = right) ∧
    (∀ message, (∃ violation, Disposition.ofText text = .error violation ∧
      violation.message = message) ↔ LeftmostProblem text.toList message) ∧
    ∀ chars, readParametersWithin chars.length chars = some (readParameters chars) := by
  refine ⟨fun disposition => ?_, fun left right hleft hright hleftText hrightText =>
    WrittenDisposition.unique hleft hright (hleftText.trans hrightText.symm), fun message => ?_,
    fun chars => readParametersWithin_eq le_rfl⟩
  · rcases readDisposition_spec text.toList with
      ⟨parts, hok, hwritten⟩ | ⟨violation, herror, hproblem⟩
    · simp only [Disposition.ofText, hok, Except.map, Except.ok.injEq]
      exact ⟨fun heq => ⟨heq.symm, hwritten⟩, fun heq => heq.1.symm⟩
    · simp only [Disposition.ofText, herror, Except.map, reduceCtorEq, false_iff]
      rintro ⟨-, written, hwell, htext⟩
      exact LeftmostProblem.not_written hwell htext hproblem
  · rcases readDisposition_spec text.toList with
      ⟨parts, hok, written, hwell, htext⟩ | ⟨violation, herror, hproblem⟩
    · simp only [Disposition.ofText, hok, Except.map, reduceCtorEq, false_and, exists_false,
        false_iff]
      exact LeftmostProblem.not_written hwell htext
    · simp only [Disposition.ofText, herror, Except.map, Except.error.injEq, exists_eq_left']
      constructor
      · rintro rfl
        exact hproblem
      · exact hproblem.unique

end BucketAccess.Download

import BucketAccess.Console.Basic
import BucketAccess.Proofs.Outcome

/-!
# Plain texts

A text is plain if none of its brackets starts a tag and none stands behind a
backslash.  A plain text is one run, and the run is the text.  The runs of any
other text are shorter than it: a tag is in none of them, and a backslash in
front of a bracket is dropped.
-/

namespace BucketAccess.Console

/-- No bracket starts a tag or stands behind a backslash, where a backslash may
stand in front of everything. -/
def isPlainBehind : Bool → List Char → Bool
  | _, [] => true
  | behind, char :: rest =>
      if char = '[' then !behind && (takeTag rest).isNone && isPlainBehind false rest
      else isPlainBehind (char = '\\') rest

/-- No bracket starts a tag or stands behind a backslash. -/
def isPlain (chars : List Char) : Bool := isPlainBehind false chars

/-- A front without brackets and backslashes does not matter. -/
theorem isPlain_append {front chars : List Char} (hbracket : '[' ∉ front)
    (hbackslash : '\\' ∉ front) : isPlain (front ++ chars) = isPlain chars := by
  induction front with
  | nil => rfl
  | cons char front ih =>
      simp only [List.mem_cons, not_or] at hbracket hbackslash
      rw [← ih hbracket.2 hbackslash.2]
      simp only [isPlain, List.cons_append, isPlainBehind, Ne.symm hbracket.1,
        Ne.symm hbackslash.1, if_false, decide_false]

/-! ## Tags -/

theorem takeToBracket_eq_some {chars content rest : List Char}
    (hfound : takeToBracket chars = some (content, rest)) : chars = content ++ ']' :: rest := by
  induction chars using takeToBracket.induct generalizing content with
  | case1 => cases hfound
  | case2 chars =>
      obtain ⟨rfl, rfl⟩ := Prod.mk.inj (Option.some.inj hfound)
      rfl
  | case3 => cases hfound
  | case4 char chars hclosing hopening ih =>
      rw [takeToBracket.eq_4 _ _ hclosing hopening] at hfound
      obtain ⟨⟨inner, behind⟩, hinner, hpair⟩ := Option.map_eq_some_iff.mp hfound
      obtain ⟨rfl, rfl⟩ := Prod.mk.inj hpair
      rw [ih hinner, List.cons_append]

theorem takeTag_eq_some {chars content rest : List Char}
    (hfound : takeTag chars = some (content, rest)) : chars = content ++ ']' :: rest := by
  cases chars with
  | nil => cases hfound
  | cons char chars =>
      rw [takeTag] at hfound
      split at hfound
      · obtain ⟨⟨inner, behind⟩, hinner, hpair⟩ := Option.map_eq_some_iff.mp hfound
        obtain ⟨rfl, rfl⟩ := Prod.mk.inj hpair
        rw [takeToBracket_eq_some hinner, List.cons_append]
      · cases hfound

/-! ## Runs -/

section Runs

variable {opened : List OpenTag} {backslashes : Nat} {chars : List Char} {rest : List Piece}

theorem flatten_ontoRun (chars : List Char) (runs : List (List Char)) :
    (ontoRun chars runs).flatten = chars ++ runs.flatten := by
  cases runs with
  | nil => rfl
  | cons run runs => simp [ontoRun]

@[simp] theorem flatten_runsFrom_text :
    (runsFrom (.text chars :: rest)).flatten = chars ++ (runsFrom rest).flatten :=
  flatten_ontoRun chars _

@[simp] theorem flatten_runsFrom_apart :
    (runsFrom (.apart chars :: rest)).flatten = chars ++ (runsFrom rest).flatten := rfl

@[simp] theorem flatten_runsFrom_tag :
    (runsFrom (.tag chars :: rest)).flatten = (runsFrom rest).flatten := rfl

theorem replicate_backslash_cons (backslashes : Nat) (chars : List Char) :
    List.replicate (backslashes + 1) '\\' ++ chars =
      List.replicate backslashes '\\' ++ '\\' :: chars := by
  rw [List.replicate_succ', List.append_assoc, List.singleton_append]

/-- A plain text has no tags, and one run. -/
theorem piecesAfter_of_isPlain (hplain : isPlainBehind (backslashes ≠ 0) chars = true) :
    passTags opened (piecesAfter backslashes chars) = .ok opened ∧
      runsFrom (piecesAfter backslashes chars) = [List.replicate backslashes '\\' ++ chars] := by
  fun_induction piecesAfter backslashes chars with
  | case1 backslashes => exact ⟨rfl, rfl⟩
  | case2 backslashes rest ih =>
      rw [← replicate_backslash_cons]
      exact ih (by simpa [isPlainBehind] using hplain)
  | case3 backslashes rest content others htag _ ih => simp [isPlainBehind, htag] at hplain
  | case4 backslashes rest htag _ ih =>
      simp only [isPlainBehind, if_true, Bool.and_eq_true, Bool.not_eq_true', ne_eq,
        decide_eq_false_iff_not, Decidable.not_not] at hplain
      obtain ⟨⟨rfl, -⟩, hrest⟩ := hplain
      obtain ⟨hpass, hruns⟩ := ih hrest
      exact ⟨hpass, by rw [runsFrom, hruns]; rfl⟩
  | case5 backslashes char rest hbackslash hbracket ih =>
      simp only [isPlainBehind, hbackslash, hbracket, if_false, decide_false] at hplain
      obtain ⟨hpass, hruns⟩ := ih hplain
      refine ⟨hpass, ?_⟩
      rw [runsFrom, hruns, ontoRun, List.append_assoc]
      rfl

/-- Of a tag and the backslashes in front of it, something is left out. -/
theorem length_runsFrom_tagPieces (backslashes : Nat) (content : List Char) :
    (runsFrom (tagPieces backslashes content ++ rest)).flatten.length <
      backslashes + (content.length + 2) + (runsFrom rest).flatten.length := by
  simp only [tagPieces, List.cons_append, List.nil_append, flatten_runsFrom_apart,
    List.length_append, List.length_replicate]
  split
  · simp only [flatten_runsFrom_apart, List.length_append, List.length_cons, List.length_nil]
    omega
  · simp only [flatten_runsFrom_tag]
    omega

/-- The runs of a text have no more characters than the text, and fewer if it is
not plain. -/
theorem length_runsFrom (backslashes : Nat) (chars : List Char) :
    (runsFrom (piecesAfter backslashes chars)).flatten.length ≤ backslashes + chars.length ∧
      (isPlainBehind (backslashes ≠ 0) chars = true ∨
        (runsFrom (piecesAfter backslashes chars)).flatten.length <
          backslashes + chars.length) := by
  -- The induction follows the reader, whose count holds the backslashes in front.
  fun_induction piecesAfter backslashes chars with
  | case1 backslashes => simp [runsFrom, ontoRun, isPlainBehind]
  | case2 backslashes rest ih =>
      obtain ⟨hle, hplain | hlt⟩ := ih
      · exact ⟨by simp only [List.length_cons]; omega,
          .inl (by simpa [isPlainBehind] using hplain)⟩
      · exact ⟨by simp only [List.length_cons]; omega,
          .inr (by simp only [List.length_cons]; omega)⟩
  -- A tag, with which the text is not plain.
  | case3 backslashes rest content others htag _ ih =>
      have htext : rest.length = content.length + others.length + 1 := by
        rw [takeTag_eq_some htag, List.length_append, List.length_cons, Nat.add_assoc]
      have hshorter := @length_runsFrom_tagPieces (piecesAfter 0 others) backslashes content
      rw [List.length_cons]
      exact ⟨by omega, .inr (by omega)⟩
  -- A bracket that stands for itself loses a backslash if one is in front of it.
  | case4 backslashes rest htag _ ih =>
      simp only [flatten_runsFrom_text, List.length_append, List.length_replicate,
        List.length_cons, List.length_nil]
      cases backslashes with
      | succ backslashes => exact ⟨by omega, .inr (by omega)⟩
      | zero =>
          obtain ⟨hle, hplain | hlt⟩ := ih
          · exact ⟨by omega, .inl (by simpa [isPlainBehind, htag] using hplain)⟩
          · exact ⟨by omega, .inr (by omega)⟩
  | case5 backslashes char rest hbackslash hbracket ih =>
      simp only [flatten_runsFrom_text, List.length_append, List.length_replicate,
        List.length_cons, List.length_nil]
      obtain ⟨hle, hplain | hlt⟩ := ih
      · exact ⟨by omega, .inl (by simpa [isPlainBehind, hbackslash, hbracket] using hplain)⟩
      · exact ⟨by omega, .inr (by omega)⟩

end Runs

/-- Nothing goes wrong with a plain text, and nothing of it is lost. -/
theorem readMarkup_of_isPlain {text : String} (hplain : isPlain text.toList = true) :
    readMarkup text = .ok [text.toList] := by
  obtain ⟨hpass, hruns⟩ :=
    @piecesAfter_of_isPlain [] 0 text.toList (by simpa [isPlain] using hplain)
  rw [readMarkup, pieces, hpass, hruns]
  rfl

/-- Only a plain text has as many characters in its runs. -/
theorem isPlain_of_length {text : String} {runs : List (List Char)}
    (hread : readMarkup text = .ok runs) (hlength : text.toList.length ≤ runs.flatten.length) :
    isPlain text.toList = true := by
  obtain ⟨_, -, rfl⟩ := map_eq_ok_iff.mp hread
  rcases (length_runsFrom 0 text.toList).2 with hplain | hshorter
  · simpa [isPlain] using hplain
  · rw [← pieces] at hshorter
    omega

/-! ## Texts with surrogates -/

section Loose

variable {text : Loose}

theorem chars?_points_of_broken (hbroken : text.isWhole = false) :
    Point.chars? text.points = none := by
  cases text with
  | whole text => cases hbroken
  | broken front first rest =>
      rw [Loose.points]
      induction front.toList with
      | nil => rfl
      | cons char chars ih =>
          rw [List.map_cons, List.cons_append, Point.chars?_cons_char, ih, Option.map_none]

/-- A broken text is not printed if it is plain: its surrogate is in no tag. -/
theorem readLoose_of_isPlain (hbroken : text.isWhole = false)
    (hplain : isPlain text.guarded.toList = true) : readLoose text = .error .brokenText := by
  have hrun : unguarded? text.guarded.toList = none := by
    rw [unguarded?, Loose.guarded, String.toList_ofList, Point.unguarded_flatMap_guarded,
      chars?_points_of_broken hbroken]
  have hruns : [text.guarded.toList].mapM unguarded? = none := by
    rw [List.mapM_cons, hrun]
    rfl
  cases text with
  | whole text => cases hbroken
  | broken front first rest => simp only [readLoose, readMarkup_of_isPlain hplain, hruns]

end Loose

example : isPlain "K001[A]secret".toList = true := by decide +kernel
example : isPlain "K001[a]secret".toList = false := by decide +kernel

end BucketAccess.Console

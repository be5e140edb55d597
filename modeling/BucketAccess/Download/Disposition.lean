import BucketAccess.Text.Blank
import BucketAccess.Text.Quoted
import BucketAccess.Text.Token
import BucketAccess.Violation

/-!
# Content dispositions

The value of a Content-Disposition header: a type, then parameters, each after
a semicolon, with blanks allowed around every part.  The value of a parameter
is a token or a quoted text in which a backslash takes the next character as it
is.  A parameter whose name holds a star is refused.
-/

namespace BucketAccess.Download

open Text (backslash doubleQuote isBlank takeToken)

/-- Characters without the blanks in front. -/
def skipBlanks (chars : List Char) : List Char := chars.dropWhile isBlank

theorem length_skipBlanks_le (chars : List Char) :
    (skipBlanks chars).length ≤ chars.length :=
  (List.dropWhile_sublist isBlank).length_le

/-- Reads a quoted text after its opening quote: what stands before the closing
quote, as written, and what follows it. -/
def takeQuoted : List Char → Option (List Char × List Char)
  | [] => none
  | char :: rest =>
      if char = doubleQuote then some ([], rest)
      else if char = backslash then
        match rest with
        | [] => none
        | next :: rest =>
            if next = '\n' then none
            else (takeQuoted rest).map fun read => (backslash :: next :: read.1, read.2)
      else (takeQuoted rest).map fun read => (char :: read.1, read.2)

/-- The value of a parameter. -/
inductive ParameterValue where
  | token (chars : List Char)
  /-- What stands between the quotes, as written. -/
  | quoted (written : List Char)
deriving DecidableEq, Repr

structure Parameter where
  name : List Char
  value : ParameterValue
deriving DecidableEq, Repr

/-- Reads the value of a parameter. -/
def takeValue : List Char → Option (ParameterValue × List Char)
  | [] => none
  | char :: rest =>
      if char = doubleQuote then (takeQuoted rest).map fun read => (.quoted read.1, read.2)
      else (takeToken (char :: rest)).map fun read => (.token read.1, read.2)

/-- Reads a parameter with its semicolon and the blanks after it. -/
def takeParameter : List Char → Option (Parameter × List Char)
  | ';' :: rest => do
      let (name, rest) ← takeToken (skipBlanks rest)
      match skipBlanks rest with
      | '=' :: rest => do
          let (value, rest) ← takeValue (skipBlanks rest)
          pure (⟨name, value⟩, skipBlanks rest)
      | _ => none
  | _ => none

theorem takeToken_length {chars token rest : List Char}
    (htake : takeToken chars = some (token, rest)) : rest.length ≤ chars.length := by
  unfold takeToken at htake
  split at htake
  · simp at htake
  · simp only [Option.some.injEq, Prod.mk.injEq] at htake
    rw [← htake.2]
    exact (List.dropWhile_sublist _).length_le

theorem takeQuoted_length {chars written rest : List Char}
    (htake : takeQuoted chars = some (written, rest)) : rest.length ≤ chars.length := by
  fun_induction takeQuoted chars generalizing written rest with
  | case1 => simp at htake
  | case2 => simp_all
  | case3 => simp at htake
  | case4 => simp at htake
  | case5 _ tail next _ hind =>
      obtain ⟨⟨innerWritten, innerRest⟩, hinner, hread⟩ := Option.map_eq_some_iff.1 htake
      simp only [Prod.mk.injEq] at hread
      have hle := hind hinner
      rw [← hread.2]
      simp only [List.length_cons]
      omega
  | case6 _ tail _ _ hind =>
      obtain ⟨⟨innerWritten, innerRest⟩, hinner, hread⟩ := Option.map_eq_some_iff.1 htake
      simp only [Prod.mk.injEq] at hread
      have hle := hind hinner
      rw [← hread.2]
      simp only [List.length_cons]
      omega

theorem takeValue_length {chars rest : List Char} {value : ParameterValue}
    (htake : takeValue chars = some (value, rest)) : rest.length ≤ chars.length := by
  unfold takeValue at htake
  split at htake
  · simp at htake
  · split at htake
    · obtain ⟨⟨written, tail⟩, hquoted, hread⟩ := Option.map_eq_some_iff.1 htake
      have hle := takeQuoted_length hquoted
      simp only [Prod.mk.injEq] at hread
      rw [← hread.2]
      simp only [List.length_cons]
      omega
    · obtain ⟨⟨token, tail⟩, htoken, hread⟩ := Option.map_eq_some_iff.1 htake
      have hle := takeToken_length htoken
      simp only [Prod.mk.injEq] at hread
      rw [← hread.2]
      exact hle

/-- A parameter uses up at least its semicolon. -/
theorem takeParameter_length {chars rest : List Char} {parameter : Parameter}
    (htake : takeParameter chars = some (parameter, rest)) : rest.length < chars.length := by
  unfold takeParameter at htake
  split at htake
  · rename_i tail
    simp only [Option.bind_eq_bind, Option.bind_eq_some_iff] at htake
    obtain ⟨⟨name, afterName⟩, hname, htake⟩ := htake
    have hnameLength := takeToken_length hname
    have hskip := length_skipBlanks_le tail
    have hskipName := length_skipBlanks_le afterName
    simp only at htake
    split at htake
    · rename_i afterEquals hequals
      simp only [Option.bind_eq_some_iff] at htake
      obtain ⟨⟨value, afterValue⟩, hvalue, htake⟩ := htake
      have hvalueLength := takeValue_length hvalue
      have hskipEquals := length_skipBlanks_le afterEquals
      have hskipValue := length_skipBlanks_le afterValue
      simp only [Option.pure_def, Option.some.injEq, Prod.mk.injEq] at htake
      rw [← htake.2]
      rw [hequals] at hskipName
      simp only [List.length_cons] at hskipName ⊢
      omega
    · simp at htake
  · simp at htake

/-- The name of a parameter holds a star. -/
def Parameter.isStarred (parameter : Parameter) : Bool := parameter.name.contains '*'

/-- Reads parameters up to the end, and stops at the first that is malformed or
has a starred name. -/
def readParameters (chars : List Char) : Except Violation (List Parameter) :=
  if chars.isEmpty then .ok []
  else
    match _htake : takeParameter chars with
    | none =>
        .error (.dispositionParameter (String.ofList (Text.trimBy isBlank chars)))
    | some (parameter, rest) =>
        if parameter.isStarred then
          .error (.starredParameter (String.ofList parameter.name))
        else (readParameters rest).map (parameter :: ·)
termination_by chars.length
decreasing_by exact takeParameter_length _htake

/-- The type of a disposition and its parameters. -/
structure DispositionParts where
  type : List Char
  parameters : List Parameter
deriving DecidableEq, Repr

/-- Reads the parts of a disposition. -/
def readDisposition (chars : List Char) : Except Violation DispositionParts :=
  match takeToken (skipBlanks chars) with
  | none => .error (.dispositionType (String.ofList (Text.trimBy isBlank chars)))
  | some (type, rest) => (readParameters (skipBlanks rest)).map (⟨type, ·⟩)

/-- The text of a header that has been checked. -/
structure Disposition where
  text : String
deriving DecidableEq, Repr

namespace Disposition

/-- A text that reads as a disposition. -/
def ofText (text : String) : Except Violation Disposition :=
  (readDisposition text.toList).map fun _ => ⟨text⟩

def inlineType : String := "inline"
def attachmentType : String := "attachment"

/-- A character between the quotes of a file name. -/
def escapeChar (char : Char) : List Char :=
  if char = backslash || char = doubleQuote then [backslash, char] else [char]

/-- A file name between quotes. -/
def quoteName (name : List Char) : List Char :=
  doubleQuote :: name.flatMap escapeChar ++ [doubleQuote]

/-- The body is shown by the receiver. -/
def inline : Except Violation Disposition := ofText inlineType

/-- The body is saved by the receiver, under a name if one is given. -/
def attachment : Option String → Except Violation Disposition
  | none => ofText attachmentType
  | some name =>
      ofText (attachmentType ++ "; filename=" ++ String.ofList (quoteName name.toList))

end Disposition

end BucketAccess.Download

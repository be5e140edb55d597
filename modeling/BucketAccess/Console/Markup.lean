import BucketAccess.Console.Literal
import BucketAccess.Console.Style
import BucketAccess.Fault
import BucketAccess.Text.Loose

/-!
# Console markup

A line that is printed may hold tags in brackets, which set a style and are not
shown.  A tag starts with a lower-case letter, a hash, a slash or an at sign;
any other bracket stands for itself.  A slash closes: alone, the latest open
tag, and with a name the latest open tag of that name.  An at sign opens an
action, whose arguments are read when it is closed.  Backslashes in front of a
tag stand for half as many, and an odd one makes the tag a text.

What is left without the tags comes in runs.  A run goes on up to the next tag;
backslashes in front of a tag are a run of their own, and so is a tag that is a
text.

A surrogate is not missed in a tag, which is not shown, but no run can be printed
that holds one.
-/

namespace BucketAccess.Console

/-- A part of a marked-up line. -/
inductive Piece where
  /-- A text that goes on in the next one. -/
  | text (chars : List Char)
  /-- A text that stands on its own. -/
  | apart (chars : List Char)
  /-- A tag, by what stands between its brackets. -/
  | tag (content : List Char)
deriving DecidableEq, Repr

/-- May stand first in a tag. -/
def startsTag (char : Char) : Bool :=
  ('a' ≤ char && char ≤ 'z') || char = '#' || char = '/' || char = '@'

/-- What stands up to the next closing bracket, if no opening one comes before
it, and the rest behind the bracket. -/
def takeToBracket : List Char → Option (List Char × List Char)
  | [] => none
  | ']' :: rest => some ([], rest)
  | '[' :: _ => none
  | char :: rest => (takeToBracket rest).map fun found => (char :: found.1, found.2)

/-- The content of a tag whose opening bracket has been read. -/
def takeTag : List Char → Option (List Char × List Char)
  | char :: rest =>
      if startsTag char then
        (takeToBracket rest).map fun found => (char :: found.1, found.2)
      else none
  | [] => none

/-- What is left behind a bracket is shorter. -/
theorem takeToBracket_length {chars content rest : List Char}
    (found : takeToBracket chars = some (content, rest)) : rest.length < chars.length := by
  induction chars generalizing content with
  | nil => simp [takeToBracket] at found
  | cons char chars step =>
      unfold takeToBracket at found
      split at found
      · simp_all
      · simp_all
      · simp at found
      · rename_i heq
        obtain ⟨rfl, rfl⟩ := List.cons.inj heq
        obtain ⟨part, hpart, hpair⟩ := Option.map_eq_some_iff.1 found
        obtain ⟨_, rfl⟩ := Prod.mk.inj hpair
        have := @step part.1 (by simpa using hpart)
        simp only [List.length_cons]
        omega

/-- What is left behind a tag is shorter. -/
theorem takeTag_length {chars content rest : List Char}
    (found : takeTag chars = some (content, rest)) : rest.length < chars.length := by
  cases chars with
  | nil => simp [takeTag] at found
  | cons char chars =>
      simp only [takeTag] at found
      split at found
      · obtain ⟨part, hpart, hpair⟩ := Option.map_eq_some_iff.1 found
        obtain ⟨_, rfl⟩ := Prod.mk.inj hpair
        have := @takeToBracket_length chars part.1 _ (by simpa using hpart)
        simp only [List.length_cons]
        omega
      · simp at found

/-- What backslashes and a tag behind them stand for. -/
def tagPieces (backslashes : Nat) (content : List Char) : List Piece :=
  [.apart (List.replicate (backslashes / 2) '\\'),
    if backslashes % 2 = 1 then .apart ('[' :: content ++ [']']) else .tag content]

/-- The parts of a marked-up line.  The number counts the backslashes that stand
in front of the rest and have not been passed on yet. -/
def piecesAfter (backslashes : Nat) (chars : List Char) : List Piece :=
  match chars with
  | [] => [.text (List.replicate backslashes '\\')]
  | char :: rest =>
      if char = '\\' then piecesAfter (backslashes + 1) rest
      else if char = '[' then
        match _htag : takeTag rest with
        | some (content, rest) => tagPieces backslashes content ++ piecesAfter 0 rest
        | none => .text (List.replicate (backslashes - 1) '\\' ++ ['[']) :: piecesAfter 0 rest
      else .text (List.replicate backslashes '\\' ++ [char]) :: piecesAfter 0 rest
termination_by chars.length
decreasing_by
  · simp
  · have := takeTag_length _htag
    simp only [List.length_cons]
    omega
  · simp
  · simp

/-- The parts of a marked-up line, none of its backslashes read yet. -/
def pieces (chars : List Char) : List Piece := piecesAfter 0 chars

/-- A tag that has not been closed: the normal form of its name, and what stands
behind an equals sign in it. -/
structure OpenTag where
  name : List Char
  arguments : List Char
deriving DecidableEq, Repr

/-- A tag that is opened. -/
def openTag (content : List Char) : Except Fault OpenTag :=
  match normalName? (content.takeWhile (· ≠ '=')) with
  | some name => .ok ⟨name, (content.dropWhile (· ≠ '=')).tail⟩
  | none => .error .badValue

/-- The latest open tag of a name, and the open tags without it. -/
def takeNamed (name : List Char) : List OpenTag → Option (OpenTag × List OpenTag)
  | [] => none
  | tag :: tags =>
      if tag.name = name then some (tag, tags)
      else (takeNamed name tags).map fun found => (found.1, tag :: found.2)

/-- The open tag that a closing tag of a name closes, and the open tags without
it.  Without a name it is the latest. -/
def takeClosed (name : List Char) (opened : List OpenTag) :
    Except Fault (OpenTag × List OpenTag) :=
  match Text.trimBy Text.isBlank name with
  | [] =>
      match opened with
      | [] => .error .badMarkup
      | tag :: opened => .ok (tag, opened)
  | name =>
      match normalName? name with
      | none => .error .badValue
      | some name =>
          match takeNamed name opened with
          | some found => .ok found
          | none => .error .badMarkup

/-- A tag that can be closed: it is no action, or one whose arguments can be
read. -/
def OpenTag.isSound (tag : OpenTag) : Bool :=
  tag.name.head? ≠ some '@' || tag.arguments.isEmpty ||
    isAction (Text.trimBy Text.isBlank tag.arguments)

/-- The open tags after one more tag, the latest in front. -/
def passTag (content : List Char) (opened : List OpenTag) : Except Fault (List OpenTag) :=
  match content.takeWhile (· ≠ '=') with
  | '/' :: name =>
      match takeClosed name opened with
      | .error fault => .error fault
      | .ok (tag, opened) => if tag.isSound then .ok opened else .error .badMarkup
  | _ => (openTag content).map (· :: opened)

/-- The open tags after the parts of a line, unless a tag among them cannot be
passed. -/
def passTags : List OpenTag → List Piece → Except Fault (List OpenTag)
  | opened, [] => .ok opened
  | opened, .tag content :: rest =>
      match passTag content opened with
      | .ok opened => passTags opened rest
      | .error fault => .error fault
  | opened, _ :: rest => passTags opened rest

/-- A text in front of runs.  The first run goes on with it. -/
def ontoRun (chars : List Char) : List (List Char) → List (List Char)
  | [] => [chars]
  | run :: runs => (chars ++ run) :: runs

/-- The runs of the parts of a line.  The first of them goes on with a text in
front, and so it may be empty. -/
def runsFrom : List Piece → List (List Char)
  | [] => [[]]
  | .text chars :: rest => ontoRun chars (runsFrom rest)
  | .apart chars :: rest => [] :: chars :: runsFrom rest
  | .tag _ :: rest => [] :: runsFrom rest

/-- The runs of a marked-up text, if its tags can be passed. -/
def readMarkup (text : String) : Except Fault (List (List Char)) :=
  (passTags [] (pieces text.toList)).map fun _ => runsFrom (pieces text.toList)

/-- The characters of a guarded run, if there are no surrogates in it. -/
def unguarded? (run : List Char) : Option (List Char) := Point.chars? (Point.unguarded run)

/-- The runs of a marked-up text that may hold surrogates, if its tags can be passed
and there are no surrogates in the runs. -/
def readLoose : Loose → Except Fault (List (List Char))
  | .whole text => readMarkup text
  | text =>
      match readMarkup text.guarded with
      | .error fault => .error fault
      | .ok runs =>
          match runs.mapM unguarded? with
          | some runs => .ok runs
          | none => .error .brokenText

end BucketAccess.Console

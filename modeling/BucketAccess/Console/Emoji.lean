import BucketAccess.Text.Blank
import BucketAccess.Unicode.Lowercase

/-!
# Emoji codes

A name between two colons, with no blank in it, stands for a picture if the
console knows the name.  Behind the name may stand whether the picture is asked
for in colour or as a text.  A name that is not known stays as it is written, but
its second colon begins no other name.
-/

namespace BucketAccess.Console

/-- The forms in which a picture may be asked for: how they are written behind
a name, and the mark that asks for them. -/
def emojiForms : List (List Char × Char) :=
  [("-emoji".toList, Char.ofNat 0xFE0F), ("-text".toList, Char.ofNat 0xFE0E)]

/-- A code as the name of a picture, in lower case, and the mark of its form if
one is asked for. -/
def readCode (code : List Char) : List Char × List Char :=
  match emojiForms.find? fun form => form.1.isSuffixOf code with
  | some form => (Unicode.lowercase (code.take (code.length - form.1.length)), [form.2])
  | none => (Unicode.lowercase code, [])

/-- The picture that a code stands for, if its name is known. -/
def picture? (emoji? : List Char → Option (List Char)) (code : List Char) :
    Option (List Char) :=
  (emoji? (readCode code).1).map (· ++ (readCode code).2)

/-- Replaces the codes of known pictures.  The code that has been begun behind a
colon, if any, stands reversed in front of the rest. -/
def replaceFrom (emoji? : List Char → Option (List Char)) :
    Option (List Char) → List Char → List Char
  | none, [] => []
  | some code, [] => ':' :: code.reverse
  | none, char :: rest =>
      if char = ':' then replaceFrom emoji? (some []) rest
      else char :: replaceFrom emoji? none rest
  | some code, char :: rest =>
      if char = ':' then
        (picture? emoji? code.reverse).getD (':' :: code.reverse ++ [':']) ++
          replaceFrom emoji? none rest
      else if Text.isBlank char then
        ':' :: code.reverse ++ char :: replaceFrom emoji? none rest
      else replaceFrom emoji? (some (char :: code)) rest

/-- A text in which the codes of known pictures are replaced. -/
def replaceCodes (emoji? : List Char → Option (List Char)) (chars : List Char) : List Char :=
  replaceFrom emoji? none chars

end BucketAccess.Console

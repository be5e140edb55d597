import BucketAccess.Command.Line
import BucketAccess.Decimal.Reader
import BucketAccess.Download.ContentEncoding

/-!
# Commands

A command line names a group, a command in it, and what the command takes.
Reading it ends in one of three ways: it asks for help, it is misused, or it is
a command with values of the right kinds.

Which words stand for integers is left to the parser of the command line, for
parsers differ in the forms that they take: some read `1.0` as one, others read
no fraction but digits of any script.  So the reader of integers is a parameter.
-/

namespace BucketAccess

namespace Command

/-- What reading a command line ends in. -/
inductive Parsed (α : Type) where
  | help
  | misuse
  | ready (value : α)
deriving Repr

/-- A value, or misuse when there is none. -/
def Parsed.ofOption {α : Type} : Option α → Parsed α
  | some value => .ready value
  | none => .misuse

/-- Where to log in, and with which key, as far as it is given. -/
structure LoginOptions where
  keyId : Option String
  key : Option String
  authUrl : Option String
deriving DecidableEq, Repr

/-- A key to create. -/
structure KeyOptions where
  name : String
  capabilities : List Capability
  bucketId : Option String
  namePrefix : Option String
  days : Option Int
deriving DecidableEq, Repr

/-- A token for downloading files to issue. -/
structure DownloadOptions where
  bucketId : String
  fileNamePrefix : String
  seconds : Int
  disposition : Option String
  language : Option String
  contentType : Option String
  encoding : Option Download.ContentEncoding
deriving DecidableEq, Repr

/-- What a command is to do. -/
inductive Action where
  | check
  | createKey (key : KeyOptions)
  | deleteKey (keyId : String)
  | authorizeDownload (download : DownloadOptions)
deriving DecidableEq, Repr

end Command

/-- A command with what it needs to log in. -/
structure Command where
  action : Command.Action
  login : Command.LoginOptions
deriving DecidableEq, Repr

namespace Command

/-- The usual reader of integers: white space around the number, an optional
sign, digits of any script with single underscores between them, no fraction,
and no more digits than are ever read. -/
def readInt? (text : String) : Option Int := do
  let (negative, unsigned) := Text.takeSign (Text.trimBy Text.isWhiteSpace text.toList)
  let digits ← Text.ungroup? false (unsigned.map Decimal.asciiDigit)
  if digits.length ≤ Text.longestNumeral then
    some (Decimal.Binary.signed negative (Text.readDigits digits))
  else none

example : readInt? " ٣_٠ " = some 30 := by decide +kernel
example : readInt? "30.0" = none := by decide +kernel

/-- An optional value, which has to be of the right kind if it is given. -/
def readOptional {α : Type} (read : String → Option α) : Option String → Option (Option α)
  | none => some none
  | some text => (read text).map some

/-- All capabilities that words name, if each names one. -/
def readCapabilities? : List String → Option (List Capability)
  | [] => some []
  | text :: texts => do
      let capability ← Capability.ofName? text
      let capabilities ← readCapabilities? texts
      pure (capability :: capabilities)

/-- What a line asks a command to do, if it says all that is needed and no
more. -/
def action? (toInt? : String → Option Int) (line : Line) : CommandName → Option Action
  | .check =>
      match line.arguments with
      | [] => some .check
      | _ => none
  | .createKey =>
      match line.arguments with
      | [name] => do
          let capabilities ← readCapabilities? (line.values .capability)
          let days ← readOptional toInt? (line.value? .expiresInDays)
          if capabilities.isEmpty then none
          else
            pure (.createKey {
              name
              capabilities
              bucketId := line.value? .bucketId
              namePrefix := line.value? .namePrefix
              days })
      | _ => none
  | .deleteKey =>
      match line.arguments with
      | [keyId] => some (.deleteKey keyId)
      | _ => none
  | .authorizeDownload =>
      match line.arguments with
      | [bucketId, fileNamePrefix] => do
          let seconds ← (line.value? .durationSeconds).bind toInt?
          let encoding ←
            readOptional Download.ContentEncoding.ofName? (line.value? .contentEncoding)
          pure (.authorizeDownload {
            bucketId
            fileNamePrefix
            seconds
            disposition := line.value? .contentDisposition
            language := line.value? .contentLanguage
            contentType := line.value? .contentType
            encoding })
      | _ => none

/-- What a line says about logging in. -/
def loginOptions (line : Line) : LoginOptions where
  keyId := line.value? .keyId
  key := line.value? .key
  authUrl := line.value? .authUrl

/-- Reads what stands behind the name of a command.  Asking for help goes before
what is missing or wrong, but not before an option that does not exist. -/
def readCommand (toInt? : String → Option Int) (name : CommandName) (words : List String) :
    Parsed Command :=
  match Line.read name.options true words with
  | none => .misuse
  | some line =>
      if line.help then .help
      else
        Parsed.ofOption ((action? toInt? line name).map fun action => ⟨action, loginOptions line⟩)

/-- Reads the first of some words as a choice, behind options of which only the
one for help exists. -/
def readChoice {α : Type} (choice? : String → Option α) (words : List String) :
    Parsed (α × List String) :=
  if words.isEmpty then .misuse
  else
    match Line.read [] false words with
    | none => .misuse
    | some line =>
        if line.help then .help
        else
          match line.arguments with
          | [] => .misuse
          | word :: rest =>
              match choice? word with
              | some value => .ready (value, rest)
              | none =>
                  match Line.read [] false line.arguments with
                  | some again => if again.help then .help else .misuse
                  | none => .misuse

/-- Reads a command line. -/
def read (toInt? : String → Option Int) (words : List String) : Parsed Command :=
  match readChoice Group.ofWord? words with
  | .help => .help
  | .misuse => .misuse
  | .ready (group, words) =>
      match readChoice (CommandName.ofWord? group) words with
      | .help => .help
      | .misuse => .misuse
      | .ready (name, words) => readCommand toInt? name words

end Command

end BucketAccess

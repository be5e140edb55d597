import BucketAccess.Command.Option

/-!
# Reading a command line

The words of a command line are options with their values and arguments.  A
value is the next word, whatever it looks like, or stands in the same word:
behind an equals sign after a long name, or right behind a letter.  Letters may
be put together behind one hyphen.  Behind a word of two hyphens every word is
an argument.
-/

namespace BucketAccess.Command

/-- What a word is on its own. -/
inductive Word where
  | argument
  /-- Two hyphens: only arguments follow. -/
  | ending
  /-- Looks like an option but is none. -/
  | unknown
  /-- Asks for help and nothing else. -/
  | help
  /-- An option with its value, perhaps behind a letter that asks for help. -/
  | setting (help : Bool) (option : OptionName) (value : String)
  /-- An option whose value is the next word. -/
  | opening (help : Bool) (option : OptionName)
deriving DecidableEq, Repr

/-- Reads letters that stand together behind one hyphen. -/
def readLetters (options : List OptionName) : Bool → List Char → Word
  | _, [] => .help
  | help, letter :: rest =>
      if letter = helpLetter then readLetters options true rest
      else
        match options.find? fun option => option.letter? = some letter with
        | none => .unknown
        | some option =>
            if rest.isEmpty then .opening help option
            else .setting help option (String.ofList rest)

/-- Reads a word. -/
def readWord (options : List OptionName) (word : String) : Word :=
  match word.toList with
  | ['-', '-'] => .ending
  | '-' :: second :: rest =>
      let name := String.ofList (word.toList.takeWhile (· ≠ '='))
      let value := (word.toList.dropWhile (· ≠ '=')).drop 1
      let valued := word.toList.contains '='
      match options.find? fun option => option.long = name with
      | some option =>
          if valued then .setting false option (String.ofList value)
          else .opening false option
      | none =>
          if name = helpName && !valued then .help
          else if second = '-' then .unknown
          else readLetters options false (second :: rest)
  | _ => .argument

/-- What stands on a command line. -/
structure Line where
  help : Bool
  /-- Options with their values, in order. -/
  settings : List (OptionName × String)
  arguments : List String
deriving DecidableEq, Repr

namespace Line

/-- The line on which only arguments stand. -/
def plain (arguments : List String) : Line := ⟨false, [], arguments⟩

def withHelp (help : Bool) (line : Line) : Line := { line with help := help || line.help }

def withSetting (option : OptionName) (value : String) (line : Line) : Line :=
  { line with settings := (option, value) :: line.settings }

def withArgument (argument : String) (line : Line) : Line :=
  { line with arguments := argument :: line.arguments }

/-- All values of an option, in order. -/
def values (option : OptionName) (line : Line) : List String :=
  (line.settings.filter fun entry => entry.1 = option).map (·.2)

/-- The last value of an option. -/
def value? (option : OptionName) (line : Line) : Option String :=
  (line.values option).getLast?

/-- Reads words.  Unless arguments and options may be mixed, the first argument
ends the options. -/
def read (options : List OptionName) (mixed : Bool) : List String → Option Line
  | [] => some (plain [])
  | word :: rest =>
      match readWord options word with
      | .argument =>
          if mixed then (read options mixed rest).map (withArgument word)
          else some (plain (word :: rest))
      | .ending => some (plain rest)
      | .unknown => none
      | .help => (read options mixed rest).map (withHelp true)
      | .setting help option value =>
          (read options mixed rest).map fun line => (line.withSetting option value).withHelp help
      | .opening help option =>
          match rest with
          | [] => none
          | value :: rest =>
              (read options mixed rest).map fun line =>
                (line.withSetting option value).withHelp help

end Line

end BucketAccess.Command

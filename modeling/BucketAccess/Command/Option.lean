/-!
# Options of the command line

The commands, the options that each takes, and how an option is spelled: with a
long name behind two hyphens, and for a few with a letter behind one.  Every
option but the one that asks for help takes a value.
-/

namespace BucketAccess.Command

/-- The options that take a value. -/
inductive OptionName where
  | capability
  | bucketId
  | namePrefix
  | expiresInDays
  | durationSeconds
  | contentDisposition
  | contentLanguage
  | contentType
  | contentEncoding
  | keyId
  | key
  | authUrl
deriving DecidableEq, Repr

namespace OptionName

/-- The long name, with its hyphens. -/
def long : OptionName → String
  | capability => "--capability"
  | bucketId => "--bucket-id"
  | namePrefix => "--name-prefix"
  | expiresInDays => "--expires-in-days"
  | durationSeconds => "--duration-seconds"
  | contentDisposition => "--content-disposition"
  | contentLanguage => "--content-language"
  | contentType => "--content-type"
  | contentEncoding => "--content-encoding"
  | keyId => "--key-id"
  | key => "--key"
  | authUrl => "--auth-url"

/-- The letter, if there is one. -/
def letter? : OptionName → Option Char
  | capability => some 'c'
  | durationSeconds => some 'd'
  | _ => none

end OptionName

/-- The long name of the option that asks for help. -/
def helpName : String := "--help"

/-- The letter of the option that asks for help. -/
def helpLetter : Char := 'h'

/-- The commands. -/
inductive CommandName where
  | check
  | createKey
  | deleteKey
  | authorizeDownload
deriving DecidableEq, Repr

/-- The groups into which the commands fall. -/
inductive Group where
  | auth
  | keys
  | downloadAuth
deriving DecidableEq, Repr

/-- The group that a word names. -/
def Group.ofWord? : String → Option Group
  | "auth" => some .auth
  | "keys" => some .keys
  | "download-auth" => some .downloadAuth
  | _ => none

/-- The command that a word names within a group. -/
def CommandName.ofWord? : Group → String → Option CommandName
  | .auth, "check" => some .check
  | .keys, "create" => some .createKey
  | .keys, "delete" => some .deleteKey
  | .downloadAuth, "create" => some .authorizeDownload
  | _, _ => none

namespace CommandName

/-- The options for logging in, which every command takes. -/
def loginOptions : List OptionName := [.keyId, .key, .authUrl]

/-- The options that a command takes. -/
def options : CommandName → List OptionName
  | check => loginOptions
  | createKey => [.capability, .bucketId, .namePrefix, .expiresInDays] ++ loginOptions
  | deleteKey => loginOptions
  | authorizeDownload =>
      [.durationSeconds, .contentDisposition, .contentLanguage, .contentType,
       .contentEncoding] ++ loginOptions

end CommandName

end BucketAccess.Command

import BucketAccess.Command.Report
import BucketAccess.StandIn

/-!
# The command line

Runs a command against a stand-in for the service.  Settings come from the
environment; what the command prints goes to the standard output, and the
message of a failure to the standard error.
-/

namespace BucketAccess.Program

/-- The names of the variables that the settings come from. -/
def settingNames : List String :=
  ["B2_AUTH_URL", "B2_APPLICATION_KEY_ID", "B2_APPLICATION_KEY", "B2_HTTP_TIMEOUT"]

/-- The variables that are set, with their values. -/
def readEnvironment : List String → IO (List (String × String))
  | [] => pure []
  | name :: names => do
      let rest ← readEnvironment names
      match ← IO.getEnv name with
      | some value => pure ((name, value) :: rest)
      | none => pure rest

/-- A console of the usual width. -/
def console : Console := .withoutPictures 80

/-- Prints what became of a command line. -/
def printOutcome (outcome : Command.Outcome StandIn) : IO Unit :=
  match outcome with
  | .help | .misuse =>
      IO.eprintln "Usage: b2-client (auth check | keys create | keys delete | download-auth create)"
  | .finished report => do
      (report.lines console).forM IO.println
      match report.failure with
      | some fault => IO.eprintln fault.message
      | none => pure ()

end BucketAccess.Program

open BucketAccess

def main (words : List String) : IO UInt32 := do
  let environment ← Program.readEnvironment Program.settingNames
  match Settings.ofEnvironment fun name =>
      (environment.find? fun entry => entry.1 = name).map (·.2) with
  | .error fault => do
      IO.eprintln fault.message
      pure 1
  | .ok settings => do
      let outcome := Command.run Command.readInt? settings StandIn.reply (StandIn.start .null) words
      Program.printOutcome outcome
      pure (UInt32.ofNat outcome.exitCode)

import BucketAccess.Command.Task
import BucketAccess.Settings

/-!
# Running a command

A command builds its request, finds the credentials, logs in and does its task,
in this order; the first of these that fails ends it.  What it prints comes
after the log of everything that was sent.
-/

namespace BucketAccess.Command

open Http (Client Peer)

/-- What became of a command. -/
structure Report (σ : Type) where
  printed : List Printed
  failure : Option Fault
  /-- The client that was opened, if it came to that. -/
  client : Option (Client σ)

/-- What became of a command line. -/
inductive Outcome (σ : Type) where
  | help
  | misuse
  | finished (report : Report σ)

variable {σ : Type}

/-- The report of a command that failed before a client was opened. -/
def Report.early (fault : Fault) : Report σ := ⟨[], some fault, none⟩

/-- Logs in and does a task. -/
def Task.report (reply : Peer σ) (peer : σ) (login : Login) (task : Task) : Report σ :=
  match task.perform reply login peer with
  | (.error fault, client) => ⟨[], some fault, some client⟩
  | (.ok items, client) =>
      let (printed, failure) := printItems items
      ⟨printed, failure, some client⟩

/-- Runs a command against a peer. -/
def report (settings : Settings) (reply : Peer σ) (peer : σ) (command : Command) : Report σ :=
  match command.action.task with
  | .error fault => .early fault
  | .ok task =>
      match settings.credentials command.login.keyId command.login.key with
      | .error fault => .early fault
      | .ok credentials =>
          task.report reply peer
            ⟨credentials.keyId, credentials.key, command.login.authUrl.getD settings.authUrl⟩

/-- Runs a command line against a peer. -/
def run (toInt? : String → Option Int) (settings : Settings) (reply : Peer σ) (peer : σ)
    (words : List String) : Outcome σ :=
  match read toInt? words with
  | .help => .help
  | .misuse => .misuse
  | .ready command => .finished (command.report settings reply peer)

/-- The first line that is written. -/
def startLine : String := "INFO:b2_client.b2_cli:Starting b2-client CLI application."

/-- Everything that is written, the log in front of what appears on the
console. -/
def Report.lines (console : Console) (report : Report σ) : List String :=
  startLine ::
    (match report.client with
      | some client => client.events.filterMap Http.Event.logLine?
      | none => []) ++ report.printed.flatMap (Printed.lines console)

/-- Zero for success and for help, one for a failure, two for misuse. -/
def Outcome.exitCode : Outcome σ → Nat
  | .help => 0
  | .misuse => 2
  | .finished report => if report.failure.isSome then 1 else 0

end BucketAccess.Command

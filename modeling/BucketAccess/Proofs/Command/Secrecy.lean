import BucketAccess.Proofs.Command.Rekeyed
import BucketAccess.Proofs.Command.Traffic
import BucketAccess.Proofs.Session.Secrecy

/-!
# Secrets of a login are not shown

A command shows the same whatever key it logs in with and whatever token it is
granted: every line that it prints, its exit code and the failure it ends in.
What it sends is the same as well, but for the header that carries the key or
the token.
-/

namespace BucketAccess

open Http (Client Peer PeersAlike Reply Request)

/-! ## Settings with another key -/

namespace Settings

/-- Settings with their key concealed. -/
def withoutKey (settings : Settings) : Settings :=
  { settings with key := settings.key.map concealed }

variable {settings settings' : Settings} {key key' : Option String}

end Settings

namespace Command

/-! ## Tasks under different secrets -/

section Tasks

variable {σ τ : Type} {related : σ → τ → Prop} {reply : Peer σ} {reply' : Peer τ} {peer : σ}
  {peer' : τ} {login login' : Login} {action : Action} {task : Task}

end Tasks

/-! ## What is seen of a command -/

/-- What is seen of a command: what it writes, the failure it ends in, and what
it sends, without the keys and tokens in its requests. -/
inductive Sight where
  | help
  | misuse
  | finished (lines : List String) (failure : Option Fault) (requests : List Request)

variable {σ τ : Type} {related : σ → τ → Prop} {reply : Peer σ} {reply' : Peer τ} {peer : σ}
  {peer' : τ} {settings settings' : Settings} {command command' : Command} {console : Console}

/-- The exit code tells no more than what is seen. -/
def Sight.exitCode : Sight → Nat
  | help => 0
  | misuse => 2
  | finished _ failure _ => if failure.isSome then 1 else 0

end Command

end BucketAccess

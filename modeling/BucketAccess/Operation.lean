import BucketAccess.Http.Client

/-!
# Operations

An operation is one call and the reading of what it answers.  It can be carried
out over anything that sends calls.
-/

namespace BucketAccess

/-- One call, and what its answer means. -/
structure Operation (α : Type) where
  call : Http.Call
  read : Json → Except Fault α

namespace Operation

variable {σ α : Type}

/-- Carries out an operation over something that sends calls. -/
def runWith (send : Http.Call → σ → Except Fault Json × σ) (operation : Operation α)
    (state : σ) : Except Fault α × σ :=
  match send operation.call state with
  | (.ok answer, state) => (operation.read answer, state)
  | (.error fault, state) => (.error fault, state)

/-- Carries out an operation over a client. -/
def run (reply : Http.Peer σ) (operation : Operation α) (client : Http.Client σ) :
    Except Fault α × Http.Client σ :=
  operation.runWith (Http.Client.send reply) client

end Operation

end BucketAccess

import BucketAccess.Http.Exchange
import BucketAccess.Http.Status

/-!
# Clients

A client sends requests to a peer until it is closed, and keeps a record of
what happened to it.  The peer is a function from its own state and a request
to a reply and its next state, so that every course of events is a value.
-/

namespace BucketAccess.Http

/-- A peer, given by its state and how it replies. -/
abbrev Peer (σ : Type) := σ → Request → Reply × σ

/-- What happens to a client. -/
inductive Event where
  | opened
  /-- The peer received a request and answered it with a status, or with
  none. -/
  | exchanged (request : Request) (status : Option Int)
  | closed

/-- A client: the state of its peer, whether it may still send, and what has
happened to it. -/
structure Client (σ : Type) where
  peer : σ
  isOpen : Bool
  events : List Event

namespace Client

variable {σ : Type}

/-- A new client of a peer. -/
def connect (peer : σ) : Client σ := ⟨peer, true, [.opened]⟩

/-- Sends a call and reads the reply.  Whatever is wrong with the call itself
is found first; a closed client sends nothing. -/
def send (reply : Peer σ) (call : Call) (client : Client σ) : Except Fault Json × Client σ :=
  match call.toRequest with
  | .error fault => (.error fault, client)
  | .ok request =>
      if client.isOpen then
        let (answer, peer) := reply client.peer request
        let answer := answer.kept request.url
        (answer.read call.url,
          { client with peer, events := client.events ++ [.exchanged request answer.status?] })
      else (.error .clientClosed, client)

/-- Closes the client.  A client that is closed again stays closed, but every
time is on record. -/
def close (client : Client σ) : Client σ :=
  { client with isOpen := false, events := client.events ++ [.closed] }

/-- The requests that the peer received, in order. -/
def requests (client : Client σ) : List Request :=
  client.events.filterMap fun
    | .exchanged request _ => some request
    | _ => none

end Client

/-- The line that a log holds for an event, if any: one for each response. -/
def Event.logLine? : Event → Option String
  | .exchanged request (some status) =>
      some ("INFO:httpx:HTTP Request: " ++ request.method.name ++ " " ++ request.url.text ++
        " \"HTTP/1.1 " ++ Text.intText status ++ " " ++ reasonPhrase status.toNat ++ "\"")
  | _ => none

end BucketAccess.Http

import BucketAccess.Proofs.Outcome
import BucketAccess.Proofs.Session.Request

/-!
# Exchanges that look alike

Two calls that ask for the same under different rights give requests that differ
in nothing but the header which carries the right.  If the peers of two clients
do not look at that header, and answer alike, then the clients stay alike with
every call: they hear the same, up to what the peers may say differently, and
have the same on record, up to the rights.
-/

namespace BucketAccess.Http

/-! ## Without rights -/

/-- Headers other than the one that carries the right. -/
def otherHeaders (headers : List (String × String)) : List (String × String) :=
  headers.filter fun header => header.1 ≠ authorizationHeader

/-- A request without the right under which it is made. -/
def Request.withoutRight (request : Request) : Request :=
  { request with headers := otherHeaders request.headers }

def Event.withoutRight : Event → Event
  | .exchanged request status => .exchanged request.withoutRight status
  | event => event

/-- A login in the address leaves the other headers as they are. -/
theorem otherHeaders_withLogin (login : Option (List Char × List Char))
    (headers : List (String × String)) :
    otherHeaders (withLogin login headers) = otherHeaders headers := by
  cases login with
  | none => rfl
  | some login => simp [otherHeaders, withLogin]

/-- Two calls ask for the same, each under a right of its own.  If one of the
rights could be made so could the other, and if a header can carry one of them it
can carry the other. -/
structure Call.Alike (call call' : Call) : Prop where
  method : call.method = call'.method
  url : call.url = call'.url
  body : call.body = call'.body
  fault : call.fault? = call'.fault?
  rights : call.fault? = none → ∃ right right', call.headers = [(authorizationName, right)] ∧
    call'.headers = [(authorizationName, right')] ∧ isAscii right = isAscii right'

section Calls

variable {call call' : Call} {right right' : String}

theorem otherHeaders_requestHeaders (hheaders : call.headers = [(authorizationName, right)]) :
    otherHeaders (requestHeaders call) =
      if call.body.isGiven then [(contentTypeHeader, "application/json")] else [] := by
  simp only [requestHeaders, givenHeaders_of_right hheaders]
  cases call.body <;> rfl

theorem hostFault?_of_right (hheaders : call.headers = [(authorizationName, right)]) (url : Url) :
    call.hostFault? url = Http.hostFault? url := by
  have hname : lowerText authorizationName ≠ hostHeader := by decide +kernel
  rw [Call.hostFault?, hheaders, List.any_cons, decide_eq_false hname]
  rfl

/-- Calls that are alike fail alike, or give requests that differ only in their
rights. -/
theorem Call.Alike.toRequest (halike : call.Alike call') :
    call.toRequest.map Request.withoutRight = call'.toRequest.map Request.withoutRight := by
  unfold Call.toRequest
  rw [← halike.fault, halike.url]
  cases hfault : call.fault? with
  | some fault => rfl
  | none =>
      obtain ⟨right, right', hheaders, hheaders', hascii⟩ := halike.rights hfault
      have hothers : otherHeaders (requestHeaders call) = otherHeaders (requestHeaders call') := by
        rw [otherHeaders_requestHeaders hheaders, otherHeaders_requestHeaders hheaders',
          halike.body]
      rw [hheaders, hheaders', halike.body]
      cases Url.read call'.url with
      | error flaw => rfl
      | ok url =>
          simp only [List.all_cons, hascii, hostFault?_of_right hheaders,
            hostFault?_of_right hheaders']
          split
          · rfl
          split
          · rfl
          split
          · rfl
          cases Http.hostFault? url with
          | some fault => rfl
          | none =>
              simp only [Except.map, Request.withoutRight, otherHeaders_withLogin, hothers,
                halike.method]

end Calls

/-! ## Replies -/

/-- Two replies are the same, or responses in whose bodies nothing else differs
than may. -/
inductive Reply.Alike (differ : Json → Json → Prop) : Reply → Reply → Prop where
  | same (answer : Reply) : Reply.Alike differ answer answer
  | responses {status : Int} {content content' : Body} {said said' : Json}
      (hjson : content.json = .ok said) (hjson' : content'.json = .ok said')
      (hdiffer : differ said said') :
      Reply.Alike differ (.response status content) (.response status content')

/-- Two outcomes of a call are the same, or values that may differ. -/
inductive HeardAlike (differ : Json → Json → Prop) : Except Fault Json → Except Fault Json →
    Prop where
  | same (outcome : Except Fault Json) : HeardAlike differ outcome outcome
  | said {said said' : Json} (hdiffer : differ said said') :
      HeardAlike differ (.ok said) (.ok said')

namespace Reply.Alike

variable {differ : Json → Json → Prop} {answer answer' : Reply}

theorem kept (halike : Reply.Alike differ answer answer') (url : Url) :
    Reply.Alike differ (answer.kept url) (answer'.kept url) := by
  cases halike with
  | same => exact .same _
  | responses hjson hjson' hdiffer =>
      rw [Reply.kept, Reply.kept]
      split
      · exact .responses hjson hjson' hdiffer
      · exact .same _

theorem status? (halike : Reply.Alike differ answer answer') :
    answer.status? = answer'.status? := by
  cases halike <;> rfl

theorem read (halike : Reply.Alike differ answer answer') (url : Loose) :
    HeardAlike differ (answer.read url) (answer'.read url) := by
  cases halike with
  | same => exact .same _
  | responses hjson hjson' hdiffer =>
      rw [Reply.read, Reply.read, hjson, hjson']
      exact .said hdiffer

end Reply.Alike

/-! ## Peers and clients -/

section Clients

variable {σ τ : Type}

/-- Two peers whose states stay related do not look at rights, and answer alike.
What their answers may say differently depends on the method. -/
def PeersAlike (differ : Method → Json → Json → Prop) (related : σ → τ → Prop)
    (reply : Peer σ) (reply' : Peer τ) : Prop :=
  ∀ peer peer' request request', related peer peer' →
    request.withoutRight = request'.withoutRight →
    Reply.Alike (differ request.method) (reply peer request).1 (reply' peer' request').1 ∧
      related (reply peer request).2 (reply' peer' request').2

/-- Two clients of related peers that have the same on record, up to rights. -/
structure Client.Alike (related : σ → τ → Prop) (client : Client σ) (client' : Client τ) :
    Prop where
  peers : related client.peer client'.peer
  isOpen : client.isOpen = client'.isOpen
  events : client.events.map Event.withoutRight = client'.events.map Event.withoutRight

variable {differ : Method → Json → Json → Prop} {related : σ → τ → Prop} {reply : Peer σ}
  {reply' : Peer τ} {peer : σ} {peer' : τ} {client : Client σ} {client' : Client τ}
  {call call' : Call}

theorem Client.Alike.connect (hpeers : related peer peer') :
    Client.Alike related (Client.connect peer) (Client.connect peer') :=
  ⟨hpeers, rfl, rfl⟩

theorem Client.Alike.close (hclients : Client.Alike related client client') :
    Client.Alike related client.close client'.close := by
  refine ⟨hclients.peers, rfl, ?_⟩
  rw [Client.close, Client.close, List.map_append, List.map_append, hclients.events]

/-- Calls that are alike are answered alike, and leave the clients alike. -/
theorem Client.Alike.send (halike : PeersAlike differ related reply reply')
    (hclients : Client.Alike related client client') (hcalls : call.Alike call') :
    HeardAlike (differ call.method) (client.send reply call).1 (client'.send reply' call').1 ∧
      Client.Alike related (client.send reply call).2 (client'.send reply' call').2 := by
  have hrequests := hcalls.toRequest
  unfold Client.send
  cases hrequest : call.toRequest with
  | error fault =>
      rw [hrequest, eq_comm] at hrequests
      rw [map_eq_error_iff.mp hrequests]
      exact ⟨.same _, hclients⟩
  | ok request =>
      rw [hrequest, eq_comm] at hrequests
      obtain ⟨request', hrequest', hsame⟩ := map_eq_ok_iff.mp hrequests
      rw [hrequest', ← hclients.isOpen]
      cases hopen : client.isOpen with
      | false => exact ⟨.same _, hclients⟩
      | true =>
          have hurl : request'.url = request.url := (Request.mk.inj hsame).2.1
          have hmethod := Call.toRequest_method hrequest
          obtain ⟨hreply, hnext⟩ := halike _ _ request request' hclients.peers hsame.symm
          have hkept := hreply.kept request.url
          dsimp only
          rw [hmethod] at hkept
          rw [hurl, ← hcalls.url, if_pos rfl, if_pos rfl]
          refine ⟨hkept.read call.url, hnext, rfl, ?_⟩
          simp only [List.map_append, hclients.events, List.map_cons, Event.withoutRight, hsame,
            hkept.status?]

end Clients

end BucketAccess.Http

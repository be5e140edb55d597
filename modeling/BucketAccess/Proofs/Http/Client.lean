import BucketAccess.Operation
import BucketAccess.Proofs.Json.Integer

/-!
# Calls that are answered

A call becomes a request exactly when nothing is wrong with the call itself, and
gives an answer exactly when an open client gets a response that is JSON.
-/

namespace BucketAccess

namespace Http

/-! ## Requests -/

section Made

variable {name : String} {made : Except Fault String} {call : Call}

/-- A header whose value could not be made changes nothing that is asked for. -/
@[simp]
theorem Call.method_withMade : (call.withMade name made).method = call.method := by
  cases made <;> rfl

@[simp]
theorem Call.url_withMade : (call.withMade name made).url = call.url := by
  cases made <;> rfl

@[simp]
theorem Call.body_withMade : (call.withMade name made).body = call.body := by
  cases made <;> rfl

end Made

theorem Call.toRequest_eq_ok_iff {call : Call} {request : Request} :
    call.toRequest = .ok request ↔ call.fault? = none ∧ ∃ url, Url.read call.url = .ok url ∧
      (∀ header ∈ call.headers, isAscii header.1 = true ∧ isAscii header.2 = true) ∧
      call.body.isWritable = true ∧ call.body.isWhole = true ∧ call.hostFault? url = none ∧
      request = ⟨call.method, url, withLogin url.login? (requestHeaders call), call.body⟩ := by
  have hall : (call.headers.all fun header => isAscii header.1 && isAscii header.2) = true ↔
      ∀ header ∈ call.headers, isAscii header.1 = true ∧ isAscii header.2 = true := by
    simp only [List.all_eq_true, Bool.and_eq_true]
  unfold Call.toRequest
  rw [← hall]
  cases hfault : call.fault? with
  | some fault => simp
  | none =>
      cases Url.read call.url with
      | error flaw => simp
      | ok url =>
          cases call.headers.all fun header => isAscii header.1 && isAscii header.2 with
          | false => simp
          | true =>
              cases call.body.isWritable with
              | false => simp
              | true =>
                  cases call.body.isWhole with
                  | false => simp
                  | true => cases hhost : call.hostFault? url <;> simp [hhost, eq_comm]

theorem Call.toRequest_method {call : Call} {request : Request}
    (hrequest : call.toRequest = .ok request) : request.method = call.method := by
  obtain ⟨-, url, -, -, -, -, -, rfl⟩ := Call.toRequest_eq_ok_iff.mp hrequest
  rfl

theorem hostFault?_eq_some {url : Url} {fault : Fault} (hhost : hostFault? url = some fault) :
    fault = .headerNotAscii ∨ ∃ flaw, fault = .badHost flaw := by
  unfold hostFault? at hhost
  split at hhost
  · next flaw _ => exact .inr ⟨flaw, (Option.some.inj hhost).symm⟩
  · split at hhost
    · exact nomatch hhost
    · exact .inl (Option.some.inj hhost).symm

/-- What is wrong with a call that could be put together, but becomes no
request. -/
theorem Call.toRequest_error {call : Call} {fault : Fault} (hmade : call.fault? = none)
    (herror : call.toRequest = .error fault) :
    fault = .badUrl ∨ fault = .brokenText ∨ fault = .headerNotAscii ∨ fault = .badValue ∨
      ∃ flaw, fault = .badHost flaw := by
  unfold Call.toRequest Call.hostFault? at herror
  rw [hmade] at herror
  cases hread : Url.read call.url with
  | error flaw =>
      rw [hread] at herror
      obtain rfl := Except.error.inj herror
      cases flaw with
      | malformed => exact .inl rfl
      | broken => exact .inr (.inl rfl)
  | ok url =>
      rw [hread] at herror
      dsimp only at herror
      split at herror
      · exact .inr (.inr (.inl (Except.error.inj herror).symm))
      split at herror
      · exact .inr (.inr (.inr (.inl (Except.error.inj herror).symm)))
      split at herror
      · exact .inr (.inl (Except.error.inj herror).symm)
      split at herror
      · next hhost =>
          obtain rfl := Except.error.inj herror
          split at hhost
          · cases hhost
          · rcases hostFault?_eq_some hhost with hheader | hflaw
            · exact .inr (.inr (.inl hheader))
            · exact .inr (.inr (.inr (.inr hflaw)))
      · cases herror

/-! ## Replies -/

/-- A reply says something exactly when it is a response that is JSON, and came
from a site. -/
theorem Reply.read_kept_eq_ok_iff {answer : Reply} {url : Url} {text : Loose} {said : Json} :
    (answer.kept url).read text = .ok said ↔
      url.isAbsolute = true ∧ ∃ status content, answer = .response status content ∧
        content.json = .ok said := by
  cases answer with
  | response status content =>
      by_cases habsolute : url.isAbsolute = true
      · simp only [kept, habsolute, if_true, read, response.injEq, true_and]
        constructor
        · intro hread
          refine ⟨status, content, ⟨rfl, rfl⟩, ?_⟩
          split at hread <;> simp_all
        · rintro ⟨_, _, ⟨rfl, rfl⟩, hjson⟩
          rw [hjson]
      · simp [kept, habsolute, read]
  | broken breakdown => cases breakdown <;> simp [kept, read]

/-- No body says an integer that is too long to be shown. -/
theorem isReadable_json {content : Body} {said : Json} (hjson : content.json = .ok said) :
    said.isReadable = true := by
  cases content with
  | bytes room bytes => exact Json.isReadable_ofBytes hjson
  | value value =>
      rw [Body.json] at hjson
      split at hjson
      · next hreadable => exact Except.ok.inj hjson ▸ hreadable
      · cases hjson

theorem Body.json_value {value : Json} (hreadable : value.isReadable = true) :
    (Body.value value).json = .ok value := if_pos hreadable

/-- What a value says in place of the bytes of its text is the value. -/
theorem Body.eq_of_json_value {value said : Json} (hjson : (Body.value value).json = .ok said) :
    said = value := by
  rw [Body.json] at hjson
  split at hjson
  · exact (Except.ok.inj hjson).symm
  · cases hjson

theorem Client.isReadable_send {σ : Type} {reply : Peer σ} {client : Client σ} {call : Call}
    {said : Json} (hsend : (client.send reply call).1 = .ok said) : said.isReadable = true := by
  unfold Client.send at hsend
  split at hsend
  · cases hsend
  · split at hsend
    · obtain ⟨-, status, content, -, hjson⟩ := Reply.read_kept_eq_ok_iff.mp hsend
      exact isReadable_json hjson
    · cases hsend

end Http

/-! ## Operations -/

namespace Operation

open Http (Body Client Peer Reply Request)

variable {σ α : Type} {reply : Peer σ} {operation : Operation α} {client after : Client σ}
  {request : Request} {status : Int} {content : Body} {said : Json}

/-- A response that is JSON is what the operation reads. -/
theorem run_of_response {peer : σ} (hrequest : operation.call.toRequest = .ok request)
    (hopen : client.isOpen = true)
    (hreply : reply client.peer request = (.response status content, peer))
    (habsolute : request.url.isAbsolute = true) (hjson : content.json = .ok said) :
    operation.run reply client = (operation.read said,
      ⟨peer, true, client.events ++ [.exchanged request (some status)]⟩) := by
  have hread : ((Reply.response status content).kept request.url).read operation.call.url =
      .ok said := Reply.read_kept_eq_ok_iff.mpr ⟨habsolute, status, content, rfl, hjson⟩
  simp only [run, runWith, Client.send, hrequest, hopen, if_true, hreply, hread]
  simp [Reply.kept, habsolute, Reply.status?]

/-- An operation that succeeds read a response that is JSON. -/
theorem run_eq_ok {value : α} (hrun : operation.run reply client = (.ok value, after)) :
    ∃ request status content said, operation.call.toRequest = .ok request ∧
      (reply client.peer request).1 = .response status content ∧ content.json = .ok said ∧
      operation.read said = .ok value ∧ after.isOpen = true ∧
      after.peer = (reply client.peer request).2 := by
  unfold run runWith Client.send at hrun
  cases hrequest : operation.call.toRequest with
  | error fault => simp [hrequest] at hrun
  | ok request =>
      cases hopen : client.isOpen with
      | false => simp [hrequest, hopen] at hrun
      | true =>
          simp only [hrequest, hopen, if_true] at hrun
          cases hread : ((reply client.peer request).1.kept request.url).read
              operation.call.url with
          | error fault => simp [hread] at hrun
          | ok said =>
              obtain ⟨-, status, content, hresponse, hjson⟩ := Reply.read_kept_eq_ok_iff.mp hread
              simp only [hread, Prod.mk.injEq] at hrun
              obtain ⟨hvalue, rfl⟩ := hrun
              exact ⟨request, status, content, said, rfl, hresponse, hjson, hvalue, rfl, rfl⟩

end Operation

end BucketAccess

import BucketAccess.Proofs.Answer
import BucketAccess.Proofs.Http.Client
import BucketAccess.Session

/-!
# The course of a session

A login opens a client of its own.  Whatever the peer answers, and wherever the
exchange breaks down, the record of that client is an opening, the exchanges of
the login and of at most one operation after it, and one closing at the very
end.  What the caller gets is decided by the first step that fails, and closing
the client has no part in it.
-/

namespace BucketAccess

open Http (Body Client Event Peer Reply Request)

/-! ## One operation over an open client -/

namespace Operation

variable {σ α : Type} {reply : Peer σ} {operation : Operation α} {client : Client σ}
  {request : Request} {fault : Fault}

/-- What an operation makes of the reply to its request. -/
def heard (operation : Operation α) (request : Request) (answer : Reply) : Except Fault α :=
  match (answer.kept request.url).read operation.call.url with
  | .ok said => operation.read said
  | .error fault => .error fault

/-- An operation succeeds on a reply exactly when it is a response from a site,
its body is JSON, and the operation can read that. -/
theorem heard_eq_ok_iff {answer : Reply} {value : α} :
    operation.heard request answer = .ok value ↔
      request.url.isAbsolute = true ∧ ∃ (status : Int) (content : Body) (said : Json),
        answer = .response status content ∧ content.json = .ok said ∧
          operation.read said = .ok value := by
  unfold heard
  cases hread : (answer.kept request.url).read operation.call.url with
  | ok said =>
      obtain ⟨habsolute, status, content, rfl, hjson⟩ := Reply.read_kept_eq_ok_iff.mp hread
      constructor
      · intro hvalue
        exact ⟨habsolute, status, content, said, rfl, hjson, hvalue⟩
      · rintro ⟨-, _, _, other, heq, hother, hvalue⟩
        obtain ⟨rfl, rfl⟩ := Reply.response.inj heq
        rw [hjson] at hother
        obtain rfl := Except.ok.inj hother
        exact hvalue
  | error fault =>
      simp only [reduceCtorEq, false_iff]
      rintro ⟨habsolute, status, content, said, rfl, hjson, -⟩
      rw [Reply.read_kept_eq_ok_iff.mpr ⟨habsolute, status, content, rfl, hjson⟩] at hread
      exact nomatch hread

theorem run_of_fault (hcall : operation.call.toRequest = .error fault) :
    operation.run reply client = (.error fault, client) := by
  simp only [run, runWith, Client.send, hcall]

theorem run_of_request (hcall : operation.call.toRequest = .ok request)
    (hopen : client.isOpen = true) :
    operation.run reply client = (operation.heard request (reply client.peer request).1,
      { client with
        peer := (reply client.peer request).2
        events := client.events ++ [.exchanged request
          ((reply client.peer request).1.kept request.url).status?] }) := by
  simp only [run, runWith, Client.send, hcall, hopen, if_true, heard]
  cases ((reply client.peer request).1.kept request.url).read operation.call.url <;> rfl

end Operation

/-! ## Courses -/

section Course

variable {σ α : Type}

/-- The peer welcomes a login: the login becomes a request, and the reply to it
is a response that can be read as an authorization. -/
structure Welcomes (reply : Peer σ) (login : Login) (peer : σ) (get : Request)
    (authorization : Authorization) : Prop where
  request : login.operation.call.toRequest = .ok get
  answer : ∃ (status : Int) (content : Body) (said : Json),
    (reply peer get).1 = .response status content ∧ content.json = .ok said ∧
      Authorization.kind.decode said = .ok authorization
  site : get.url.isAbsolute = true

/-- The ways in which a session can go, by the requests that the peer receives
and by what comes of it.  An authorization leaves a value to return at once or
one more operation to carry out. -/
inductive Course (reply : Peer σ) (login : Login) (next : Authorization → α ⊕ Operation α)
    (peer : σ) : List Request → Except Fault α → Prop where
  /-- The login becomes no request. -/
  | unsent {fault : Fault} (hlogin : login.operation.call.toRequest = .error fault) :
      Course reply login next peer [] (.error fault)
  /-- The reply to the login gives no authorization. -/
  | rejected {get : Request} {fault : Fault}
      (hlogin : login.operation.call.toRequest = .ok get)
      (hheard : login.operation.heard get (reply peer get).1 = .error fault) :
      Course reply login next peer [get] (.error fault)
  /-- Nothing is left to do but to return a value. -/
  | returned {get : Request} {authorization : Authorization} {value : α}
      (hwelcome : Welcomes reply login peer get authorization)
      (hnext : next authorization = .inl value) :
      Course reply login next peer [get] (.ok value)
  /-- The operation becomes no request. -/
  | withheld {get : Request} {authorization : Authorization} {operation : Operation α}
      {fault : Fault} (hwelcome : Welcomes reply login peer get authorization)
      (hnext : next authorization = .inr operation)
      (hcall : operation.call.toRequest = .error fault) :
      Course reply login next peer [get] (.error fault)
  /-- The operation is sent, and what it makes of the reply is returned. -/
  | performed {get post : Request} {authorization : Authorization} {operation : Operation α}
      (hwelcome : Welcomes reply login peer get authorization)
      (hnext : next authorization = .inr operation)
      (hcall : operation.call.toRequest = .ok post) :
      Course reply login next peer [get, post]
        (operation.heard post (reply (reply peer get).2 post).1)

/-- The record of a client that is opened, carries exchanges and nothing else,
and is closed once, at the very end. -/
structure ClosedOnce (client : Client σ) : Prop where
  closed : client.isOpen = false
  record : ∃ exchanges : List (Request × Option Int), client.events =
    .opened :: exchanges.map (fun exchange => .exchanged exchange.1 exchange.2) ++ [.closed]

/-- A session that goes as it should: its client is closed once, the login is
asked for before anything is posted, and the outcome is that of its course. -/
structure Orderly (reply : Peer σ) (login : Login) (next : Authorization → α ⊕ Operation α)
    (peer : σ) (session : Except Fault α × Client σ) : Prop where
  closedOnce : ClosedOnce session.2
  methods : session.2.requests.map Request.method <+: [.get, .post]
  course : Course reply login next peer session.2.requests session.1

theorem Login.method_of_toRequest {login : Login} {get : Request}
    (hlogin : login.operation.call.toRequest = .ok get) : get.method = .get :=
  (Http.Call.toRequest_method hlogin).trans Http.Call.method_withMade

theorem Welcomes.method {reply : Peer σ} {login : Login} {peer : σ} {get : Request}
    {authorization : Authorization} (hwelcome : Welcomes reply login peer get authorization) :
    get.method = .get := Login.method_of_toRequest hwelcome.request

theorem Welcomes.heard {reply : Peer σ} {login : Login} {peer : σ} {get : Request}
    {authorization : Authorization} (hwelcome : Welcomes reply login peer get authorization) :
    login.operation.heard get (reply peer get).1 = .ok authorization :=
  Operation.heard_eq_ok_iff.mpr ⟨hwelcome.site, hwelcome.answer⟩

/-- A peer that welcomes a login gives one authorization. -/
theorem Welcomes.unique {reply : Peer σ} {login : Login} {peer : σ} {get : Request}
    {authorization other : Authorization}
    (hwelcome : Welcomes reply login peer get authorization)
    (hother : Welcomes reply login peer get other) : authorization = other :=
  Except.ok.inj (hwelcome.heard.symm.trans hother.heard)

/-- Nothing is sent only if the login becomes no request. -/
theorem Course.fault_of_nil {reply : Peer σ} {login : Login}
    {next : Authorization → α ⊕ Operation α} {peer : σ} {outcome : Except Fault α}
    (hcourse : Course reply login next peer [] outcome) :
    ∃ fault, login.operation.call.toRequest = .error fault ∧ outcome = .error fault := by
  cases hcourse with
  | unsent hlogin => exact ⟨_, hlogin, rfl⟩

end Course

/-! ## Every session is orderly -/

namespace Login

variable {σ α : Type} {reply : Peer σ} {login : Login} {peer : σ} {get post : Request}
  {authorization : Authorization}

/-- The client over which a login has been welcomed. -/
def welcomed (reply : Peer σ) (peer : σ) (get : Request) : Client σ where
  peer := (reply peer get).2
  isOpen := true
  events := [.opened, .exchanged get ((reply peer get).1.kept get.url).status?]

theorem welcomes_of_heard (hlogin : login.operation.call.toRequest = .ok get)
    (hheard : login.operation.heard get (reply peer get).1 = .ok authorization) :
    Welcomes reply login peer get authorization := by
  obtain ⟨hsite, hanswer⟩ := Operation.heard_eq_ok_iff.mp hheard
  exact ⟨hlogin, hanswer, hsite⟩

/-- What a session is once its login has been tried: over, or open under an
authorization. -/
theorem openSession_cases (reply : Peer σ) (login : Login) (peer : σ) :
    (∃ fault client, login.openSession reply peer = (.error fault, client) ∧
      ∀ next : Authorization → α ⊕ Operation α,
        Orderly reply login next peer (.error fault, client)) ∨
    ∃ get authorization, login.openSession reply peer =
        (.ok authorization, welcomed reply peer get) ∧
      Welcomes reply login peer get authorization := by
  unfold openSession
  cases hlogin : login.operation.call.toRequest with
  | error fault =>
      left
      rw [Operation.run_of_fault hlogin]
      exact ⟨fault, (Client.connect peer).close, rfl, fun next =>
        ⟨⟨rfl, [], rfl⟩, List.nil_prefix, .unsent hlogin⟩⟩
  | ok get =>
      rw [Operation.run_of_request hlogin rfl]
      cases hheard : login.operation.heard get (reply peer get).1 with
      | error fault =>
          left
          refine ⟨fault, (welcomed reply peer get).close, ?_, fun next =>
            ⟨⟨rfl, [(get, _)], rfl⟩, ?_, .rejected hlogin hheard⟩⟩
          · simp only [Client.connect, hheard]
            rfl
          · change [get.method] <+: _
            rw [method_of_toRequest hlogin]
            exact ⟨[.post], rfl⟩
      | ok authorization =>
          right
          refine ⟨get, authorization, ?_, welcomes_of_heard hlogin hheard⟩
          simp only [Client.connect, hheard]
          rfl

theorem orderly_authorize (reply : Peer σ) (login : Login) (peer : σ) :
    Orderly reply login .inl peer (login.authorize reply peer) := by
  unfold authorize visit
  rcases openSession_cases (α := Authorization) reply login peer with
    ⟨fault, client, hopen, horderly⟩ | ⟨get, authorization, hopen, hwelcome⟩
  · rw [hopen]
    exact horderly .inl
  · rw [hopen]
    refine ⟨⟨rfl, [(get, _)], rfl⟩, ?_, .returned hwelcome rfl⟩
    change [get.method] <+: _
    rw [hwelcome.method]
    exact ⟨[.post], rfl⟩

theorem orderly_perform (reply : Peer σ) (login : Login) {operation : Authorization → Operation α}
    (hpost : ∀ authorization, (operation authorization).call.method = .post) (peer : σ) :
    Orderly reply login (fun authorization => .inr (operation authorization)) peer
      (login.perform reply operation peer) := by
  unfold perform visit
  rcases openSession_cases (α := α) reply login peer with
    ⟨fault, client, hopen, horderly⟩ | ⟨get, authorization, hopen, hwelcome⟩
  · rw [hopen]
    exact horderly _
  · rw [hopen]
    dsimp only
    cases hcall : (operation authorization).call.toRequest with
    | error fault =>
        rw [Operation.run_of_fault hcall]
        refine ⟨⟨rfl, [(get, _)], rfl⟩, ?_, .withheld hwelcome rfl hcall⟩
        change [get.method] <+: _
        rw [hwelcome.method]
        exact ⟨[.post], rfl⟩
    | ok post =>
        rw [Operation.run_of_request hcall rfl]
        have hmethods : [get.method, post.method] = [.get, .post] := by
          rw [hwelcome.method, Http.Call.toRequest_method hcall, hpost]
        refine ⟨⟨rfl, [(get, _), (post, _)], rfl⟩, ?_, .performed hwelcome rfl hcall⟩
        exact ⟨[], (List.append_nil _).trans hmethods⟩

end Login

/-- Whatever a login is opened for, whoever logs in and whatever the peer does,
the client is closed exactly once and after everything else; the login comes
first and one operation at most after it, only if the login was welcomed; and
the first step that fails, or the value of the last, is what the caller gets. -/
theorem sessions_close_once {σ : Type} (reply : Peer σ) (login : Login) (peer : σ) :
    Orderly reply login .inl peer (login.authorize reply peer) ∧
    (∀ request, Orderly reply login
      (fun authorization => .inr (authorization.createKey request)) peer
      (login.createKey reply request peer)) ∧
    (∀ keyId, Orderly reply login
      (fun authorization => .inr (authorization.deleteKey keyId)) peer
      (login.deleteKey reply keyId peer)) ∧
    (∀ request, Orderly reply login
      (fun authorization => .inr (authorization.authorizeDownload request)) peer
      (login.authorizeDownload reply request peer)) := by
  refine ⟨login.orderly_authorize reply peer, fun request => ?_, fun keyId => ?_,
    fun request => ?_⟩
  all_goals exact login.orderly_perform reply (fun _ => rfl) peer

end BucketAccess

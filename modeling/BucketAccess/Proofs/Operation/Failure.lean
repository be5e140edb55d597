import BucketAccess.Proofs.Authorization
import BucketAccess.Proofs.Download.Request
import BucketAccess.Proofs.Http.Client
import BucketAccess.Proofs.Key.Held
import BucketAccess.Proofs.Key.Request
import BucketAccess.Proofs.Text.Base64
import BucketAccess.Session

/-!
# How operations fail

The callers of an operation are told to expect that the service refuses, that
its response cannot be understood, and that the exchange cannot be completed.
Nothing else comes from what the service says.  What is wrong with the login, the
address, the token, the body, the host or the client is not translated, though, and
neither is a response that comes from no site or is nested too deeply.
-/

namespace BucketAccess

open Http (Body Breakdown Call Client Peer Reply Request Url UrlFlaw isAscii)

/-- A failure that the callers of an operation are told to expect. -/
def Fault.isExpected : Fault → Bool
  | .refused _ | .unreadable _ _ | .unexpected _ _ | .unreachable _ _ _ => true
  | _ => false

/-- A peer that answers anything, or whose link breaks in a way that clients
know. -/
def IsPeer {σ : Type} (reply : Peer σ) : Prop :=
  ∀ state request breakdown, (reply state request).1 = .broken breakdown →
    ∃ kind, breakdown = .link kind

/-! ## Calls -/

section Calls

variable {σ : Type} {reply : Peer σ} {client : Client σ} {call : Call} {header : String}
  {right : Option String} {fault : Fault}

/-- A call carries a right in one header, or could not be put together for want of
it. -/
inductive Carries (call : Call) : Option String → Prop where
  | right {header : String} (hmade : call.fault? = none)
      (hheaders : call.headers = [(authorizationName, header)]) : Carries call (some header)
  | wanting (hfault : call.fault? = some .brokenText) : Carries call none

/-- Why a call that carries a right in a header becomes no request. -/
inductive Unsendable (call : Call) (header : String) : Fault → Prop where
  /-- The address cannot be read. -/
  | address {flaw : UrlFlaw} (hread : Url.read call.url = .error flaw) :
      Unsendable call header flaw.fault
  /-- The header is not ASCII. -/
  | header {url : Url} (hread : Url.read call.url = .ok url) (hascii : isAscii header = false) :
      Unsendable call header .headerNotAscii
  /-- The body cannot be encoded. -/
  | body {url : Url} (hread : Url.read call.url = .ok url) (hascii : isAscii header = true)
      (hbroken : call.body.isWhole = false) : Unsendable call header .brokenText
  /-- The host cannot be named in a header. -/
  | host {url : Url} {fault : Fault} (hread : Url.read call.url = .ok url)
      (hascii : isAscii header = true) (hwhole : call.body.isWhole = true)
      (hhost : Http.hostFault? url = some fault) : Unsendable call header fault

/-- How a call fails in a way that is not expected. -/
inductive Escapes (reply : Peer σ) (client : Client σ) (call : Call) (right : Option String) :
    Fault → Prop where
  /-- The right cannot be written as a header. -/
  | wanting (hright : right = none) : Escapes reply client call right .brokenText
  /-- The call becomes no request. -/
  | unsent {header : String} {fault : Fault} (hright : right = some header)
      (hunsendable : Unsendable call header fault) : Escapes reply client call right fault
  /-- The client has been closed. -/
  | closed {request : Request} (hrequest : call.toRequest = .ok request)
      (hclosed : client.isOpen = false) : Escapes reply client call right .clientClosed
  /-- A response comes from no site. -/
  | site {request : Request} {status : Int} {content : Body}
      (hrequest : call.toRequest = .ok request) (hopen : client.isOpen = true)
      (hreply : (reply client.peer request).1 = .response status content)
      (hsite : request.url.isAbsolute = false) : Escapes reply client call right .noSite
  /-- A response is nested too deeply. -/
  | nesting {request : Request} {status : Int} {content : Body}
      (hrequest : call.toRequest = .ok request) (hopen : client.isOpen = true)
      (hreply : (reply client.peer request).1 = .response status content)
      (hsite : request.url.isAbsolute = true) (hdeep : content.json = .error .deepNesting) :
      Escapes reply client call right .tooDeep

theorem Unsendable.not_expected (hunsendable : Unsendable call header fault) :
    fault.isExpected = false := by
  cases hunsendable with
  | @address flaw => cases flaw <;> rfl
  | header => rfl
  | body => rfl
  | host _ _ _ hhost => rcases Http.hostFault?_eq_some hhost with rfl | ⟨_, rfl⟩ <;> rfl

theorem toRequest_of_fault (hfault : call.fault? = some fault) :
    call.toRequest = .error fault := by
  unfold Call.toRequest
  rw [hfault]

theorem toRequest_eq_error_iff (hmade : call.fault? = none)
    (hheaders : call.headers = [(authorizationName, header)])
    (hwritable : call.body.isWritable = true) :
    call.toRequest = .error fault ↔ Unsendable call header fault := by
  have hname : isAscii authorizationName = true := by decide +kernel
  have hhost : (Http.lowerText authorizationName = Http.hostHeader) = False := by
    decide +kernel
  unfold Call.toRequest Call.hostFault?
  rw [hmade, hheaders]
  constructor
  · intro herror
    cases hread : Url.read call.url with
    | error flaw =>
        rw [hread] at herror
        obtain rfl := Except.error.inj herror
        exact .address hread
    | ok url =>
        simp only [hread, List.all_cons, List.all_nil, List.any_cons, List.any_nil, hname,
          hwritable, hhost, Bool.true_and, Bool.and_true, Bool.not_true] at herror
        cases hascii : isAscii header with
        | false =>
            simp only [hascii, Bool.not_false, if_true, Except.error.injEq] at herror
            obtain rfl := herror
            exact .header hread hascii
        | true =>
            cases hwhole : call.body.isWhole with
            | false =>
                simp only [hascii, hwhole, Bool.not_false] at herror
                obtain rfl := Except.error.inj herror
                exact .body hread hascii hwhole
            | true =>
                cases hflaw : Http.hostFault? url with
                | some flaw =>
                    simp [hascii, hwhole, hflaw] at herror
                    obtain rfl := herror
                    exact .host hread hascii hwhole hflaw
                | none => simp [hascii, hwhole, hflaw] at herror
  · intro hunsendable
    cases hunsendable with
    | address hread => rw [hread]
    | header hread hascii => simp [hread, hascii]
    | body hread hascii hbroken => simp [hread, hname, hascii, hwritable, hbroken]
    | host hread hascii hwhole hflaw =>
        simp [hread, hname, hascii, hwritable, hwhole, hhost, hflaw]

/-- A response fails to say something only by coming from no site, or by not
being JSON. -/
theorem read_kept_response {request : Request} {status : Int} {content : Body} {text : Loose}
    (hread : ((Reply.response status content).kept request.url).read text = .error fault)
    (hunexpected : fault.isExpected = false) :
    (request.url.isAbsolute = false ∧ fault = .noSite) ∨
      (request.url.isAbsolute = true ∧ content.json = .error .deepNesting ∧ fault = .tooDeep) := by
  cases habsolute : request.url.isAbsolute with
  | false =>
      simp only [Reply.kept, habsolute, Bool.false_eq_true, if_false, Reply.read,
        Except.error.injEq] at hread
      exact .inl ⟨rfl, hread.symm⟩
  | true =>
      simp only [Reply.kept, habsolute, if_true, Reply.read] at hread
      split at hread
      · cases hread
      · rename_i hdeep
        exact .inr ⟨rfl, hdeep, (Except.error.inj hread).symm⟩
      · obtain rfl := Except.error.inj hread
        exact absurd hunexpected Bool.noConfusion

/-- A call that fails in a way that is not expected escapes in one of the ways
listed. -/
theorem escapes_of_send (hpeer : IsPeer reply) (hcarries : Carries call right)
    (hwritable : call.body.isWritable = true) (hsend : (client.send reply call).1 = .error fault)
    (hunexpected : fault.isExpected = false) : Escapes reply client call right fault := by
  unfold Client.send at hsend
  cases hrequest : call.toRequest with
  | error flaw =>
      rw [hrequest] at hsend
      obtain rfl := Except.error.inj hsend
      cases hcarries with
      | right hmade hheaders =>
          exact .unsent rfl ((toRequest_eq_error_iff hmade hheaders hwritable).mp hrequest)
      | wanting hfault =>
          rw [toRequest_of_fault hfault] at hrequest
          obtain rfl := Except.error.inj hrequest
          exact .wanting rfl
  | ok request =>
      cases hopen : client.isOpen with
      | false =>
          simp only [hrequest, hopen, Bool.false_eq_true, if_false, Except.error.injEq] at hsend
          rw [← hsend]
          exact .closed hrequest hopen
      | true =>
          simp only [hrequest, hopen, if_true] at hsend
          cases hreply : (reply client.peer request).1 with
          | response status content =>
              rw [hreply] at hsend
              rcases read_kept_response hsend hunexpected with ⟨hsite, rfl⟩ | ⟨hsite, hdeep, rfl⟩
              · exact .site hrequest hopen hreply hsite
              · exact .nesting hrequest hopen hreply hsite hdeep
          | broken breakdown =>
              obtain ⟨kind, rfl⟩ := hpeer _ _ _ hreply
              rw [hreply] at hsend
              obtain rfl := Except.error.inj hsend
              exact absurd hunexpected Bool.noConfusion

/-- Each of the ways listed is a failure that is not expected. -/
theorem Escapes.send (hescapes : Escapes reply client call right fault)
    (hcarries : Carries call right) (hwritable : call.body.isWritable = true) :
    (client.send reply call).1 = .error fault ∧ fault.isExpected = false := by
  cases hescapes with
  | wanting hright =>
      subst hright
      cases hcarries with
      | wanting hfault => exact ⟨by rw [Client.send, toRequest_of_fault hfault], rfl⟩
  | unsent hright hunsendable =>
      subst hright
      cases hcarries with
      | right hmade hheaders =>
          have hrequest := (toRequest_eq_error_iff hmade hheaders hwritable).mpr hunsendable
          exact ⟨by rw [Client.send, hrequest], hunsendable.not_expected⟩
  | closed hrequest hclosed =>
      exact ⟨by simp [Client.send, hrequest, hclosed], rfl⟩
  | site hrequest hopen hreply hsite =>
      exact ⟨by simp [Client.send, hrequest, hopen, hreply, Reply.kept, hsite, Reply.read], rfl⟩
  | nesting hrequest hopen hreply hsite hdeep =>
      exact ⟨by simp [Client.send, hrequest, hopen, hreply, Reply.kept, hsite, Reply.read,
        hdeep], rfl⟩

end Calls

/-! ## Operations -/

/-- Why an operation gave no result. -/
def failure? {α : Type} : Except Fault α → Option Fault
  | .ok _ => none
  | .error fault => some fault

theorem failure?_eq_some_iff {α : Type} {result : Except Fault α} {fault : Fault} :
    failure? result = some fault ↔ result = .error fault := by
  cases result <;> simp [failure?]

/-- What an answer says makes an operation fail only as expected. -/
theorem RecordKind.decode_expected {α : Type} {kind : RecordKind α} (hshallow : kind.IsShallow)
    {answer : Json} {fault : Fault} (hreadable : answer.isReadable = true)
    (hdecode : kind.decode answer = .error fault) : fault.isExpected = true := by
  rcases RecordKind.decode_error hshallow hreadable hdecode with ⟨_, rfl⟩ | ⟨_, rfl⟩
  · rfl
  · rfl

/-- Beyond what is expected an operation fails as its call does. -/
theorem Operation.run_unexpected_iff {σ α : Type} {reply : Peer σ} {client : Client σ}
    {operation : Operation α} {fault : Fault}
    (hread : ∀ answer flaw, answer.isReadable = true → operation.read answer = .error flaw →
      flaw.isExpected = true) :
    (failure? (operation.run reply client).1 = some fault ∧ fault.isExpected = false) ↔
      ((client.send reply operation.call).1 = .error fault ∧ fault.isExpected = false) := by
  unfold Operation.run Operation.runWith
  rcases hsend : client.send reply operation.call with ⟨flaw | answer, next⟩
  · simp [failure?]
  · simp only [failure?_eq_some_iff, reduceCtorEq, false_and, iff_false, not_and,
      Bool.not_eq_false]
    exact hread answer fault (Client.isReadable_send (congrArg Prod.fst hsend))

/-- An operation of the service with what it is given. -/
inductive ApiCall where
  | login (login : Login)
  | createKey (authorization : Authorization) (request : KeyRequest)
  | deleteKey (authorization : Authorization) (keyId : Loose)
  | authorizeDownload (authorization : Authorization) (request : DownloadRequest)

/-! ### Logins as headers -/

theorem loginHeader_eq_ok_iff {keyId key : Loose} {header : String} :
    loginHeader keyId key = .ok header ↔ ∃ keyText keySecret : String, keyId = keyText ∧
      key = keySecret ∧ header = Http.basicHeader keyText.toList keySecret.toList := by
  cases keyId <;> cases key <;> simp [loginHeader, eq_comm]

theorem loginHeader_error {keyId key : Loose} {fault : Fault}
    (herror : loginHeader keyId key = .error fault) : fault = .brokenText := by
  cases keyId <;> cases key <;> cases herror <;> rfl

theorem isAscii_basicHeader (user password : List Char) :
    isAscii (Http.basicHeader user password) = true := by
  have hbasic : "Basic ".toList.all (fun char => char.toNat < 0x80) = true := by decide +kernel
  simp only [isAscii, Http.basicHeader, String.toList_append, String.toList_ofList,
    List.all_append, hbasic, Bool.true_and, List.all_eq_true, decide_eq_true_eq]
  exact Text.toNat_base64Encode_lt _

/-- Whole texts can be written as a login, and a header can carry it. -/
theorem isAscii_loginHeader {keyId key : Loose} {header : String}
    (hheader : loginHeader keyId key = .ok header) : isAscii header = true := by
  obtain ⟨keyText, keySecret, -, -, rfl⟩ := loginHeader_eq_ok_iff.mp hheader
  exact isAscii_basicHeader _ _

namespace ApiCall

/-- The call that is sent. -/
def call : ApiCall → Call
  | .login given => given.operation.call
  | .createKey authorization request => (authorization.createKey request).call
  | .deleteKey authorization keyId => (authorization.deleteKey keyId).call
  | .authorizeDownload authorization request => (authorization.authorizeDownload request).call

/-- The login or the token that goes with it, if it can be written as a header. -/
def right? : ApiCall → Option String
  | .login given => (loginHeader given.keyId given.key.value).toOption
  | .createKey authorization _ => some authorization.header
  | .deleteKey authorization _ => some authorization.header
  | .authorizeDownload authorization _ => some authorization.header

/-- Why the operation gives no result. -/
def fault? {σ : Type} (reply : Peer σ) (client : Client σ) : ApiCall → Option Fault
  | .login given => failure? (given.operation.run reply client).1
  | .createKey authorization request =>
      failure? ((authorization.createKey request).run reply client).1
  | .deleteKey authorization keyId =>
      failure? ((authorization.deleteKey keyId).run reply client).1
  | .authorizeDownload authorization request =>
      failure? ((authorization.authorizeDownload request).run reply client).1

theorem call_carries (api : ApiCall) : Carries api.call api.right? := by
  cases api with
  | login given =>
      rw [call, right?, Login.operation]
      cases hheader : loginHeader given.keyId given.key.value with
      | ok header => exact .right rfl rfl
      | error fault =>
          obtain rfl := loginHeader_error hheader
          exact .wanting rfl
  | createKey authorization request => exact .right rfl rfl
  | deleteKey authorization keyId => exact .right rfl rfl
  | authorizeDownload authorization request => exact .right rfl rfl

/-- A login is kept from its header only by a broken text. -/
theorem right?_login_eq_none_iff {login : Login} :
    (ApiCall.login login).right? = none ↔
      (login.keyId.isWhole && login.key.value.isWhole) = false := by
  rw [right?]
  cases login.keyId <;> cases login.key.value <;>
    simp [loginHeader, Loose.isWhole, Loose.text?, Except.toOption]

theorem call_isWritable (api : ApiCall) : api.call.body.isWritable = true := by
  cases api with
  | login given => rw [call, Login.operation, Call.body_withMade]; rfl
  | createKey authorization request => exact KeyRequest.isWritable_body _
  | deleteKey authorization keyId => rfl
  | authorizeDownload authorization request => exact DownloadRequest.isWritable_body _

theorem fault?_unexpected_iff {σ : Type} {reply : Peer σ} {client : Client σ} {fault : Fault}
    (api : ApiCall) :
    (api.fault? reply client = some fault ∧ fault.isExpected = false) ↔
      ((client.send reply api.call).1 = .error fault ∧ fault.isExpected = false) := by
  cases api with
  | login given =>
      apply Operation.run_unexpected_iff
      intro answer flaw hreadable hread
      exact RecordKind.decode_expected Authorization.isShallow_kind hreadable hread
  | createKey authorization request =>
      apply Operation.run_unexpected_iff
      intro answer flaw hreadable hread
      change (authorization.createKey request).read answer = _ at hread
      rw [NewKey.read_createKey] at hread
      cases hdecode : NewKey.kind.decode answer with
      | ok newKey =>
          rw [hdecode] at hread
          exact nomatch hread
      | error other =>
          rw [hdecode] at hread
          obtain rfl := Except.error.inj hread
          exact RecordKind.decode_expected NewKey.isShallow_kind hreadable hdecode
  | deleteKey authorization keyId =>
      apply Operation.run_unexpected_iff
      intro answer flaw hreadable hread
      exact RecordKind.decode_expected Key.isShallow_kind hreadable hread
  | authorizeDownload authorization request =>
      apply Operation.run_unexpected_iff
      intro answer flaw hreadable hread
      exact RecordKind.decode_expected DownloadAuthorization.isShallow_kind hreadable hread

end ApiCall

/-- Against any peer and over any client, an operation gives its result or
fails in a way that is expected, except exactly in the ways listed.  A login of
whole texts is never kept from its header. -/
theorem api_fails_as_expected_or_escapes {σ : Type} {reply : Peer σ} (hpeer : IsPeer reply)
    (client : Client σ) (api : ApiCall) :
    (∀ fault, (api.fault? reply client = some fault ∧ fault.isExpected = false) ↔
      Escapes reply client api.call api.right? fault) ∧
    ∀ login, ((ApiCall.login login).right? = none ↔
        (login.keyId.isWhole && login.key.value.isWhole) = false) ∧
      ∀ header ∈ (ApiCall.login login).right?, isAscii header = true := by
  refine ⟨fun fault => ?_, fun login => ⟨?_, fun header hheader => ?_⟩⟩
  · rw [ApiCall.fault?_unexpected_iff]
    constructor
    · rintro ⟨hsend, hunexpected⟩
      exact escapes_of_send hpeer api.call_carries api.call_isWritable hsend hunexpected
    · intro hescapes
      exact hescapes.send api.call_carries api.call_isWritable
  · exact ApiCall.right?_login_eq_none_iff
  · exact isAscii_loginHeader (toOption_eq_some_iff.mp hheader)

/-- A peer that answers everything, and says nothing. -/
def mutePeer : Peer Unit := fun state _ => (.response 204 (.bytes 0 []), state)

theorem isPeer_mutePeer : IsPeer mutePeer := by
  intro state request breakdown hbroken
  cases hbroken

/-- A login at an address. -/
def loginAt (address : String) : ApiCall := .login ⟨"id", ⟨"key"⟩, address⟩

theorem api_fails_as_expected_or_escapes_mute :
    IsPeer mutePeer ∧ ∀ fault,
      ((loginAt "https://auth.test").fault? mutePeer (Client.connect ()) = some fault ∧
          fault.isExpected = false) ↔
        Escapes mutePeer (Client.connect ()) (loginAt "https://auth.test").call
          (loginAt "https://auth.test").right? fault :=
  ⟨isPeer_mutePeer, (api_fails_as_expected_or_escapes isPeer_mutePeer (Client.connect ())
    (loginAt "https://auth.test")).1⟩

/-- The fault of an address that cannot be read reaches the caller as it is. -/
theorem login_escapes_by_address :
    IsPeer mutePeer ∧
      (loginAt "https://auth.test:port").fault? mutePeer (Client.connect ()) = some .badUrl ∧
      Fault.badUrl.isExpected = false := by
  refine ⟨isPeer_mutePeer, (ApiCall.fault?_unexpected_iff _).mpr ?_⟩
  refine Escapes.send ?_ (ApiCall.call_carries _) (ApiCall.call_isWritable _)
  have hread : Url.read (loginAt "https://auth.test:port").call.url = .error .malformed :=
    rfl
  exact .unsent rfl (.address hread)

end BucketAccess

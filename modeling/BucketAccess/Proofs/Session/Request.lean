import BucketAccess.Proofs.Http.Client
import BucketAccess.Session

/-!
# The requests of a session

Every call of a session carries one header, which says by what right it is
made: the credentials of a login, or the token of an authorization.  The peer
receives that right as it was given, unless the address names a login of its
own, which takes its place.
-/

namespace BucketAccess

namespace Http

/-- The right under which a request to an address is made, if another one was
given for it. -/
def Url.right (given : String) (url : Url) : String :=
  match url.login? with
  | none => given
  | some (user, password) => basicHeader user password

/-- The peer is asked by a method, at an address, under a right, and with a
body. -/
structure Asks (method : Method) (address : Loose) (right : String) (body : Json)
    (request : Request) : Prop where
  method : request.method = method
  url : Url.read address = .ok request.url
  right : request.header? authorizationHeader = some (request.url.right right)
  body : request.body = body

variable {call : Call} {request : Request} {right : String}

theorem givenHeaders_of_right (hheaders : call.headers = [(authorizationName, right)]) :
    givenHeaders call = [(authorizationHeader, right)] := by
  have hname : lowerText authorizationName = authorizationHeader := by decide +kernel
  simp only [givenHeaders, hheaders, List.foldl, joinEntry, hname]

/-- No header but the right is given, so that only the type of the body can
stand behind it. -/
theorem requestHeaders_of_right (hheaders : call.headers = [(authorizationName, right)]) :
    requestHeaders call = [(authorizationHeader, right)] ∨
      requestHeaders call =
        [(authorizationHeader, right), (contentTypeHeader, "application/json")] := by
  simp only [requestHeaders, givenHeaders_of_right hheaders]
  cases call.body with
  | null => exact .inl rfl
  | _ => exact .inr rfl

theorem asks_of_toRequest (hheaders : call.headers = [(authorizationName, right)])
    (hrequest : call.toRequest = .ok request) :
    Asks call.method call.url right call.body request := by
  obtain ⟨-, url, hread, -, -, -, -, rfl⟩ := Call.toRequest_eq_ok_iff.mp hrequest
  refine ⟨rfl, hread, ?_, rfl⟩
  simp only [Request.header?, Url.right]
  rcases requestHeaders_of_right hheaders with hsame | hsame
  · rw [hsame]
    cases url.login? <;> rfl
  · rw [hsame]
    cases url.login? <;> rfl

end Http

open Http (Asks Request)

/-- A login that becomes a request could be written as a header. -/
theorem Login.asks_of_toRequest {login : Login} {get : Request}
    (hget : login.operation.call.toRequest = .ok get) :
    ∃ right, loginHeader login.keyId login.key.value = .ok right ∧
      Asks .get (Authorization.callUrl login.authUrl "b2_authorize_account") right .null get := by
  cases hheader : loginHeader login.keyId login.key.value with
  | error fault =>
      obtain ⟨hmade, -⟩ := Http.Call.toRequest_eq_ok_iff.mp hget
      rw [Login.operation, hheader] at hmade
      cases hmade
  | ok right =>
      have hheaders : login.operation.call.headers = [(authorizationName, right)] := by
        rw [Login.operation, hheader]
        rfl
      have hasks := Http.asks_of_toRequest hheaders hget
      rw [Login.operation, hheader] at hasks
      exact ⟨right, rfl, hasks⟩

namespace Authorization

/-- A token that a header can carry is not broken: the marks are not ASCII. -/
theorem token_of_isAscii_header {authorization : Authorization}
    (hascii : Http.isAscii authorization.header = true) :
    authorization.token.value = authorization.header := by
  cases htoken : authorization.token.value with
  | whole token => rw [header, htoken, Loose.marked]
  | broken front first rest =>
      rw [header, htoken, Loose.marked, Http.isAscii, List.all_eq_true] at hascii
      have hmark := hascii (Point.surrogate first).mark (by simp)
      simp only [Point.toNat_mark, decide_eq_true_eq] at hmark
      omega

theorem asks_of_toRequest {authorization : Authorization} {name : String} {body : Json}
    {post : Request} (hpost : (authorization.post name body).toRequest = .ok post) :
    ∃ token : String, authorization.token.value = token ∧
      Asks .post (callUrl authorization.apiUrl name) token body post := by
  obtain ⟨-, _, -, hascii, -⟩ := Http.Call.toRequest_eq_ok_iff.mp hpost
  exact ⟨authorization.header, token_of_isAscii_header (hascii _ (List.mem_singleton_self _)).2,
    Http.asks_of_toRequest rfl hpost⟩

end Authorization

end BucketAccess

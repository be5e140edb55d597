import BucketAccess.Proofs.Authorization
import BucketAccess.Proofs.Json.Fields
import BucketAccess.Proofs.Operation.Failure
import BucketAccess.Proofs.Session.Course
import BucketAccess.Proofs.Session.Request
import BucketAccess.StandIn

/-!
# Sessions with the stand-in

A login that succeeds gives the account, the token and the address of the
stand-in, and leaves the stand-in as it was.  Under these every call is handed
to the part of the stand-in that serves it, and its answer is read.
-/

namespace BucketAccess.StandIn

open Http (Body Client Reply Request Url)

variable {standIn : StandIn} {request : Request} {authorization : Authorization}

/-- The authorization is one that the stand-in gives. -/
structure IsSession (authorization : Authorization) : Prop where
  accountId : authorization.accountId = accountId
  token : authorization.header = token
  apiUrl : authorization.apiUrl = "https://api000.fake-b2.test"

/-! ## Logging in -/

/-- The body of a refusal. -/
def refusalBody (status : Nat) (code message : String) : Json :=
  .obj [("code", .str code), ("message", .str message), ("status", .int status)]

theorem isReadable_refusalBody {status : Nat} (hstatus : status < Text.leastUnshown)
    (code message : String) : (refusalBody status code message).isReadable = true := by
  refine Json.every_obj_iff.mpr ?_
  simp only [List.forall_mem_cons]
  exact ⟨rfl, rfl, decide_eq_true hstatus, List.forall_mem_nil _⟩

theorem not_authorization_refusalBody (status : Nat) (code message : String) :
    Authorization.kind.decode (refusalBody status code message) ≠ .ok authorization := by
  intro hdecode
  have hfields := RecordKind.decode_eq_ok_iff.mp hdecode
  obtain ⟨haccount, -⟩ := Authorization.ofFields_eq_sound_iff.mp hfields
  simp [Json.required, Json.FieldName.find?, Authorization.accountIdField, Json.lookup]
    at haccount

/-- An answer is an authorization only if it is the welcome of a login. -/
def Admits (standIn : StandIn) (answer : Reply) : Prop :=
  ∀ status content said authorization, answer = .response status content →
    content.json = .ok said → Authorization.kind.decode said = .ok authorization →
    said = welcome standIn.allowed

/-- A value is accepted exactly if it can be written. -/
theorem accept_eq_response_iff {value : Json} {status : Int} {content : Body} :
    accept value = .response status content ↔
      value.isWritable = true ∧ value.isWhole = true ∧ status = 200 ∧ content = .value value := by
  unfold accept
  cases value.isWritable <;> cases value.isWhole <;> simp [eq_comm]

/-- The address of a call of a session. -/
def sessionUrl (name : String) : Url :=
  { scheme := "https".toList, userInfo := [], host := "api000.fake-b2.test".toList, port := none
    path := ("/b2api/v2/" ++ name).toList, query := none, fragment := none }

/-- A name of a call whose address is read as it is meant. -/
structure IsCallName (name : String) : Prop where
  read : (Url.read (Authorization.callUrl "https://api000.fake-b2.test" name)).toOption =
    some (sessionUrl name)
  login : (sessionUrl name).login? = none
  segment : String.ofList (sessionUrl name).lastSegment = name
  ne_login : name ≠ "b2_authorize_account"

theorem isCallName_createKey : IsCallName "b2_create_key" :=
  ⟨by decide +kernel, by decide +kernel, by decide +kernel, by decide⟩

theorem isCallName_deleteKey : IsCallName "b2_delete_key" :=
  ⟨by decide +kernel, by decide +kernel, by decide +kernel, by decide⟩

theorem hostFault?_sessionUrl (name : String) : Http.hostFault? (sessionUrl name) = none := by
  have hflaw : (sessionUrl name).hostFlaw? = none := by rfl
  have hascii : Hostname.isAscii (sessionUrl name).host = true := by rfl
  rw [Http.hostFault?, hflaw]
  simp only [hascii, if_true]

/-- The request that a call of a session makes. -/
def sessionRequest (name : String) (body : Json) : Request where
  method := .post
  url := sessionUrl name
  headers := [("authorization", token), ("content-type", "application/json")]
  body := body

theorem requestHeaders_post {name : String} {body : Json} (hsession : IsSession authorization)
    (hgiven : body ≠ .null) :
    Http.requestHeaders (authorization.post name body) =
      [("authorization", token), ("content-type", "application/json")] := by
  have hheaders : (authorization.post name body).headers = [(authorizationName, token)] := by
    rw [← hsession.token]
    rfl
  rw [Http.requestHeaders, Http.givenHeaders_of_right hheaders]
  cases body with
  | null => exact absurd rfl hgiven
  | _ => rfl

theorem read_post {name : String} {body : Json} (hsession : IsSession authorization)
    (hname : IsCallName name) :
    Url.read (authorization.post name body).url = .ok (sessionUrl name) := by
  rw [← toOption_eq_some_iff, ← hname.read, ← hsession.apiUrl]
  rfl

theorem toRequest_post {name : String} {body : Json} (hsession : IsSession authorization)
    (hname : IsCallName name) (hgiven : body ≠ .null) (hwritable : body.isWritable = true)
    (hwhole : body.isWhole = true) :
    (authorization.post name body).toRequest = .ok (sessionRequest name body) := by
  have hheaders : (authorization.post name body).headers = [("Authorization", token)] := by
    rw [← hsession.token]
    rfl
  refine Http.Call.toRequest_eq_ok_iff.mpr
    ⟨rfl, sessionUrl name, read_post hsession hname, ?_, hwritable, hwhole, ?_, ?_⟩
  · rw [hheaders]
    decide +kernel
  · rw [Http.Call.hostFault?, hostFault?_sessionUrl, ite_self]
  · rw [hname.login, requestHeaders_post hsession hgiven]
    rfl

/-- A call of a session reaches the part of the stand-in that serves it. -/
theorem run_post {α : Type} {operation : Operation α} {client : Client StandIn} {name : String}
    {body said : Json} {status : Int} {next : StandIn} (hsession : IsSession authorization)
    (hname : IsCallName name) (hcall : operation.call = authorization.post name body)
    (hgiven : body ≠ .null) (hwritable : body.isWritable = true) (hwhole : body.isWhole = true)
    (hopen : client.isOpen = true)
    (hserve : client.peer.serve name body = (.response status (.value said), next))
    (hreadable : said.isReadable = true) :
    ∃ events, operation.run reply client = (operation.read said, ⟨next, true, events⟩) := by
  have hrequest : operation.call.toRequest = .ok (sessionRequest name body) := by
    rw [hcall]
    exact toRequest_post hsession hname hgiven hwritable hwhole
  have hreply : reply client.peer (sessionRequest name body) =
      (.response status (.value said), next) := by
    have hendpoint : String.ofList (sessionRequest name body).url.lastSegment = name :=
      hname.segment
    have hheader : (sessionRequest name body).header? Http.authorizationHeader = some token := rfl
    rw [← hserve, reply]
    simp only [hendpoint, hheader, hname.ne_login, if_false, ne_eq, not_true_eq_false]
    rfl
  exact ⟨_, Operation.run_of_response hrequest hopen hreply rfl (Body.json_value hreadable)⟩

/-- A call of a session whose body is broken is not sent. -/
theorem run_post_of_broken {α : Type} {operation : Operation α} {client : Client StandIn}
    {name : String} {body : Json} (hsession : IsSession authorization) (hname : IsCallName name)
    (hcall : operation.call = authorization.post name body) (hwritable : body.isWritable = true)
    (hbroken : body.isWhole = false) :
    operation.run reply client = (.error .brokenText, client) := by
  have hheaders : (authorization.post name body).headers =
      [(authorizationName, authorization.header)] := rfl
  have hascii : Http.isAscii authorization.header = true := by
    rw [hsession.token]
    decide +kernel
  apply Operation.run_of_fault
  rw [hcall]
  exact (toRequest_eq_error_iff rfl hheaders hwritable).mpr
    (.body (read_post hsession hname) hascii hbroken)

end BucketAccess.StandIn

import BucketAccess.Proofs.Json.Reader
import BucketAccess.Proofs.Operation.Failure
import BucketAccess.Proofs.Session.Course

/-!
# What operations make of responses

The body of a response decides what an operation comes to, and its status does
not.  A body that can be read as the promised record gives the record, even if it
could be read as a refusal as well.  Any other body is a refusal if the three
fields of one stand in it, and otherwise the problems of the record are reported.
A body that is no JSON is reported as such, except that one that is nested too
deeply fails in a way of its own.
-/

namespace BucketAccess

open Http (Body Client Peer)

/-! ## What responses come to -/

section Outcomes

variable {σ α ρ : Type}

/-- What a response to an address should come to, when a kind of record is
promised and a value is given for each record. -/
inductive ComesTo (kind : RecordKind ρ) (give : ρ → α) (address : Loose) (status : Int)
    (content : Body) : Except Fault α → Prop where
  /-- The body is the promised record. -/
  | record {said : Json} {record : ρ} (hjson : content.json = .ok said)
      (hrecord : kind.reading said = .sound record) :
      ComesTo kind give address status content (.ok (give record))
  /-- The body is no record of the kind, but a refusal. -/
  | refusal {said : Json} {problems : List Problem} {refusal : Refusal}
      (hjson : content.json = .ok said) (hrecord : kind.reading said = .flawed problems)
      (hrefusal : refusal.StandsIn said) :
      ComesTo kind give address status content (.error (.refused refusal))
  /-- The body is neither. -/
  | neither {said : Json} {problems : List Problem}
      (hjson : content.json = .ok said) (hrecord : kind.reading said = .flawed problems)
      (hrefusal : ∀ refusal : Refusal, ¬ refusal.StandsIn said) :
      ComesTo kind give address status content (.error (.unexpected kind.name problems))
  /-- The body is no JSON. -/
  | unreadable {flaw : Json.TextFlaw} (hjson : content.json = .error flaw) :
      ComesTo kind give address status content
        (.error (.unreadable "JSON" (some (Http.notJsonText status address))))

/-- A response with a status and a body reaches the client that an operation is
carried out over. -/
def Operation.Hears (operation : Operation α) (reply : Peer σ) (client : Client σ)
    (status : Int) (content : Body) : Prop :=
  ∃ request, operation.call.toRequest = .ok request ∧ client.isOpen = true ∧
    (reply client.peer request).1 = .response status content ∧ request.url.isAbsolute = true

/-- An operation makes of every response what it should come to, unless the body
is nested too deeply. -/
structure Operation.Heeds (operation : Operation α) (kind : RecordKind ρ) (give : ρ → α) :
    Prop where
  outcome : ∀ {σ : Type} {reply : Peer σ} {client : Client σ} {status : Int} {content : Body},
    operation.Hears reply client status content → content.json ≠ .error .deepNesting →
      ∀ outcome, (operation.run reply client).1 = outcome ↔
        ComesTo kind give operation.call.url status content outcome
  nested : ∀ {σ : Type} {reply : Peer σ} {client : Client σ} {status : Int} {content : Body},
    operation.Hears reply client status content → content.json = .error .deepNesting →
      (operation.run reply client).1 = .error .tooDeep
  /-- The same value in two bodies has the same outcome, whatever the status is. -/
  status : ∀ {σ τ : Type} {reply : Peer σ} {client : Client σ} {reply' : Peer τ}
    {client' : Client τ} {status status' : Int} {content content' : Body} {said : Json},
    operation.Hears reply client status content → content.json = .ok said →
    operation.Hears reply' client' status' content' → content'.json = .ok said →
      (operation.run reply client).1 = (operation.run reply' client').1

variable {operation : Operation α} {kind : RecordKind ρ} {give : ρ → α} {reply : Peer σ}
  {client : Client σ} {address : Loose} {status : Int} {content : Body}

theorem Operation.run_of_hears (hhears : operation.Hears reply client status content) :
    (operation.run reply client).1 =
      ((Http.Reply.response status content).read operation.call.url).bind operation.read := by
  obtain ⟨request, hrequest, hopen, hreply, hsite⟩ := hhears
  rw [run_of_request hrequest hopen, hreply, heard, Http.Reply.kept, if_pos hsite]
  cases (Http.Reply.response status content).read operation.call.url <;> rfl

/-! ### Reading and decoding -/

/-- What is read of a response and decoded. -/
def decoded (kind : RecordKind ρ) (give : ρ → α) (address : Loose) (status : Int)
    (content : Body) : Except Fault α :=
  ((Http.Reply.response status content).read address).bind fun said =>
    (kind.decode said).map give

theorem decoded_of_json {said : Json} (hjson : content.json = .ok said) :
    decoded kind give address status content = (kind.decode said).map give := by
  simp only [decoded, Http.Reply.read, hjson]
  rfl

theorem decoded_of_flaw {flaw : Json.TextFlaw} (hjson : content.json = .error flaw)
    (hflaw : flaw ≠ .deepNesting) : decoded kind give address status content =
      .error (.unreadable "JSON" (some (Http.notJsonText status address))) := by
  simp only [decoded, Http.Reply.read, hjson]
  cases flaw with
  | deepNesting => contradiction
  | malformed | longInteger => rfl

theorem decoded_of_nested (hjson : content.json = .error .deepNesting) :
    decoded kind give address status content = .error .tooDeep := by
  simp only [decoded, Http.Reply.read, hjson]
  rfl

/-- Every response that is not nested too deeply comes to something. -/
theorem comesTo_decoded (hshallow : kind.IsShallow)
    (hdeep : content.json ≠ .error .deepNesting) :
    ComesTo kind give address status content (decoded kind give address status content) := by
  cases hjson : content.json with
  | error flaw =>
      rw [decoded_of_flaw hjson fun hflaw => hdeep (hflaw ▸ hjson)]
      exact .unreadable hjson
  | ok said =>
      rw [decoded_of_json hjson]
      cases hrecord : kind.reading said with
      | sound record =>
          rw [RecordKind.decode_eq_ok_iff.mpr hrecord]
          exact .record hjson hrecord
      | flawed problems =>
          by_cases hrefusal : ∃ refusal : Refusal, refusal.StandsIn said
          · obtain ⟨refusal, hstands⟩ := hrefusal
            rw [RecordKind.decode_of_refusal hshallow (Http.isReadable_json hjson) hrecord hstands]
            exact .refusal hjson hrecord hstands
          · have hnone := not_exists.mp hrefusal
            rw [RecordKind.decode_of_neither hshallow hrecord hnone]
            exact .neither hjson hrecord hnone

/-- No response comes to two things. -/
theorem ComesTo.eq_decoded {outcome : Except Fault α} (hshallow : kind.IsShallow)
    (hcomes : ComesTo kind give address status content outcome)
    (hdeep : content.json ≠ .error .deepNesting) :
    decoded kind give address status content = outcome := by
  cases hcomes with
  | record hjson hrecord =>
      rw [decoded_of_json hjson, RecordKind.decode_eq_ok_iff.mpr hrecord]
      rfl
  | refusal hjson hrecord hrefusal =>
      have hreadable := Http.isReadable_json hjson
      rw [decoded_of_json hjson, RecordKind.decode_of_refusal hshallow hreadable hrecord hrefusal]
      rfl
  | neither hjson hrecord hrefusal =>
      rw [decoded_of_json hjson, RecordKind.decode_of_neither hshallow hrecord hrefusal]
      rfl
  | unreadable hjson => exact decoded_of_flaw hjson fun hflaw => hdeep (hflaw ▸ hjson)

theorem Operation.run_eq_decoded
    (hread : ∀ said, operation.read said = (kind.decode said).map give)
    (hhears : operation.Hears reply client status content) :
    (operation.run reply client).1 = decoded kind give operation.call.url status content := by
  rw [run_of_hears hhears, funext hread]
  rfl

/-- It is enough that an operation decodes the records of its kind. -/
theorem Operation.heeds (hshallow : kind.IsShallow)
    (hread : ∀ said, operation.read said = (kind.decode said).map give) :
    operation.Heeds kind give := by
  constructor
  · intro σ reply client status content hhears hdeep outcome
    rw [run_eq_decoded hread hhears]
    constructor
    · rintro rfl
      exact comesTo_decoded hshallow hdeep
    · intro hcomes
      exact hcomes.eq_decoded hshallow hdeep
  · intro σ reply client status content hhears hjson
    rw [run_eq_decoded hread hhears, decoded_of_nested hjson]
  · intro σ τ reply client reply' client' status status' content content' said hhears hjson
      hhears' hjson'
    rw [run_eq_decoded hread hhears, run_eq_decoded hread hhears', decoded_of_json hjson,
      decoded_of_json hjson']

/-- An operation that gives the record itself. -/
theorem Operation.heeds_decode {operation : Operation ρ} (hshallow : kind.IsShallow)
    (hread : operation.read = kind.decode) : operation.Heeds kind id := by
  apply heeds hshallow
  intro said
  rw [hread, Except.map_id]
  rfl

end Outcomes

/-! ## The operations of the service -/

/-- What each operation makes of responses: the kind of record that is promised,
and the value that is given for it. -/
def ApiCall.HeedsBodies : ApiCall → Prop
  | .login given => given.operation.Heeds Authorization.kind id
  | .createKey authorization request =>
      (authorization.createKey request).Heeds NewKey.kind NewKey.split
  | .deleteKey authorization keyId => (authorization.deleteKey keyId).Heeds Key.kind id
  | .authorizeDownload authorization request =>
      (authorization.authorizeDownload request).Heeds DownloadAuthorization.kind id

/-- Every operation makes of every response what its body should come to, unless
that is nested too deeply. -/
theorem bodies_decide_outcomes (api : ApiCall) : api.HeedsBodies := by
  cases api with
  | login given => exact Operation.heeds_decode Authorization.isShallow_kind rfl
  | createKey authorization request =>
      exact Operation.heeds NewKey.isShallow_kind (NewKey.read_createKey authorization request)
  | deleteKey authorization keyId => exact Operation.heeds_decode Key.isShallow_kind rfl
  | authorizeDownload authorization request =>
      exact Operation.heeds_decode DownloadAuthorization.isShallow_kind rfl

/-- A peer that answers everything alike. -/
def answering (status : Int) (content : Body) : Peer Unit :=
  fun state _ => (.response status content, state)

/-- A login at the usual address. -/
def usualLogin : Login := ⟨"id", ⟨"key"⟩, "https://api.backblazeb2.com"⟩

theorem usualLogin_hears (status : Int) (content : Body) :
    usualLogin.operation.Hears (answering status content) (Client.connect ()) status content := by
  have hsite : (usualLogin.operation.call.toRequest.toOption.map fun request =>
      request.url.isAbsolute) = some true := by decide +kernel
  obtain ⟨request, hrequest, habsolute⟩ := Option.map_eq_some_iff.mp hsite
  exact ⟨request, toOption_eq_some_iff.mp hrequest, rfl, rfl, habsolute⟩

/-- A refusal with a code of its own, and with its status as a text. -/
def newRefusal : Json :=
  .obj [("code", .str "new_code"), ("status", .str "503"), ("message", .str "")]

theorem bodies_decide_outcomes_refusal :
    usualLogin.operation.Hears (answering 200 (.value newRefusal)) (Client.connect ()) 200
        (.value newRefusal) ∧
      (usualLogin.operation.run (answering 200 (.value newRefusal)) (Client.connect ())).1 =
        .error (.refused ⟨"new_code", 503, ""⟩) := by
  have hhears := usualLogin_hears 200 (.value newRefusal)
  have hheeds : usualLogin.operation.Heeds Authorization.kind id :=
    bodies_decide_outcomes (.login usualLogin)
  refine ⟨hhears, (hheeds.outcome hhears nofun _).mpr ?_⟩
  exact .refusal rfl rfl ⟨rfl, ⟨_, rfl, rfl⟩, rfl⟩

/-- Arrays that are opened and not closed, read with some room. -/
def openBrackets (room count : Nat) : Body := .bytes room (List.replicate count 0x5B)

theorem json_openBrackets {room count : Nat} (hcount : room < count) :
    (openBrackets room count).json = .error .deepNesting := Json.ofBytes_brackets hcount

theorem usualLogin_run_of_nested {content : Body} (hjson : content.json = .error .deepNesting) :
    (usualLogin.operation.run (answering 200 content) (Client.connect ())).1 = .error .tooDeep := by
  have hheeds : usualLogin.operation.Heeds Authorization.kind id :=
    Operation.heeds_decode Authorization.isShallow_kind rfl
  exact hheeds.nested (usualLogin_hears 200 content) hjson

/-- A body that opens more arrays than there is room for is no JSON, and yet it is
not reported as such. -/
theorem openBrackets_not_reported :
    usualLogin.operation.Hears (answering 200 (openBrackets 980 20000)) (Client.connect ()) 200
        (openBrackets 980 20000) ∧
      (∀ said, (openBrackets 980 20000).json ≠ .ok said) ∧
      ∀ details, (usualLogin.operation.run (answering 200 (openBrackets 980 20000))
        (Client.connect ())).1 ≠ .error (.unreadable "JSON" details) := by
  have hjson : (openBrackets 980 20000).json = .error .deepNesting :=
    json_openBrackets (by omega)
  refine ⟨usualLogin_hears 200 (openBrackets 980 20000), ?_, ?_⟩
  · intro said hsaid
    rw [hjson] at hsaid
    cases hsaid
  · intro details hrun
    rw [usualLogin_run_of_nested hjson] at hrun
    cases hrun

end BucketAccess

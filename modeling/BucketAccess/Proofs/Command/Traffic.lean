import BucketAccess.Command.Report
import BucketAccess.Proofs.Command.Line
import BucketAccess.Proofs.Command.Options
import BucketAccess.Proofs.Session.Course
import BucketAccess.Proofs.Session.Request

/-!
# What a command sends

A command asks the peer for nothing unless its options keep the rules and there
are credentials to log in with.  Then it logs in, and under the authorization
that this gives it posts one request, in which everything is said by the
options, by the account and by the token.  The only thing that can stand in the
place of the token is a login in the address that the authorization names.
-/

namespace BucketAccess

open Http (Asks Client Peer Reply Request)

/-! ## Credentials -/

namespace Settings

variable {settings : Settings} {keyId key : Option String}

theorem credentials_eq_ok_iff {credentials : Credentials} :
    settings.credentials keyId key = .ok credentials ↔ ∃ id secret : String,
      (nonEmpty? keyId).or (nonEmpty? settings.keyId) = some id ∧
        (nonEmpty? key).or (nonEmpty? settings.key) = some secret ∧
        credentials = ⟨id, ⟨secret⟩⟩ := by
  unfold Settings.credentials
  cases (nonEmpty? keyId).or (nonEmpty? settings.keyId) <;>
    cases (nonEmpty? key).or (nonEmpty? settings.key) <;> simp [eq_comm]

theorem credentials_eq_error_iff {fault : Fault} :
    settings.credentials keyId key = .error fault ↔
      ((nonEmpty? keyId).or (nonEmpty? settings.keyId) = none ∨
        (nonEmpty? key).or (nonEmpty? settings.key) = none) ∧
      fault = .missingCredentials none := by
  unfold credentials
  cases (nonEmpty? keyId).or (nonEmpty? settings.keyId) <;>
    cases (nonEmpty? key).or (nonEmpty? settings.key) <;> simp [eq_comm]

end Settings

namespace Command

/-! ## What an action asks for -/

namespace Action

/-- The options of an action keep the rules. -/
def Sound : Action → Prop
  | .check => True
  | .createKey key => key.Sound
  | .deleteKey _ => True
  | .authorizeDownload download => download.Sound

/-- The lengths of time in the options of an action can be counted. -/
def Countable : Action → Prop
  | .check => True
  | .createKey key => key.Countable
  | .deleteKey _ => True
  | .authorizeDownload download => download.Countable

/-- The name of the call that an action makes once it is logged in, and what it
says to an account. -/
def post? : Action → Option (String × (Loose → Json))
  | .check => none
  | .createKey key => some ("b2_create_key", fun accountId => key.body accountId)
  | .deleteKey keyId =>
      some ("b2_delete_key", fun _ => .obj [("applicationKeyId", .str keyId)])
  | .authorizeDownload download =>
      some ("b2_get_download_authorization", fun _ => download.body)

variable {action : Action} {task : Task} {fault : Fault}

/-- An action has a task exactly when its options keep the rules. -/
theorem sound_iff : action.Sound ↔ ∃ task, action.task = .ok task := by
  cases action with
  | check => exact ⟨fun _ => ⟨.check, rfl⟩, fun _ => trivial⟩
  | deleteKey keyId => exact ⟨fun _ => ⟨.deleteKey keyId, rfl⟩, fun _ => trivial⟩
  | createKey key =>
      exact KeyOptions.exists_request_iff.symm.trans exists_map_eq_ok_iff.symm
  | authorizeDownload download =>
      exact DownloadOptions.exists_request_iff.symm.trans exists_map_eq_ok_iff.symm

theorem task_error (hcount : action.Countable) (herror : action.task = .error fault) :
    fault.IsViolation := by
  cases action with
  | check => exact nomatch herror
  | deleteKey keyId => exact nomatch herror
  | createKey key => exact KeyOptions.request_error hcount (map_eq_error_iff.mp herror)
  | authorizeDownload download =>
      exact DownloadOptions.request_error hcount (map_eq_error_iff.mp herror)

end Action

/-! ## Traffic -/

section Traffic

variable {σ α : Type} {reply : Peer σ} {login : Login} {peer : σ}

/-- What passes to the peer when someone logs in to make one call, or none. -/
inductive Traffic (reply : Peer σ) (login : Login) (post? : Option (String × (Loose → Json)))
    (peer : σ) : List Request → Prop where
  /-- The login cannot be sent. -/
  | silent {fault : Fault} (hlogin : login.operation.call.toRequest = .error fault) :
      Traffic reply login post? peer []
  /-- The login is sent, and is not welcomed, or there is no call to make, or the
  call cannot be sent. -/
  | loggedIn {get : Request} {right : String}
      (hright : loginHeader login.keyId login.key.value = .ok right)
      (hget : Asks .get (Authorization.callUrl login.authUrl "b2_authorize_account") right .null
        get)
      (hend : ∀ authorization name body, Welcomes reply login peer get authorization →
        post? = some (name, body) →
        ∃ fault, (authorization.post name (body authorization.accountId)).toRequest =
          .error fault) :
      Traffic reply login post? peer [get]
  /-- The login is welcomed, and the call is sent. -/
  | posted {get post : Request} {authorization : Authorization} {name right token : String}
      {body : Loose → Json} (hright : loginHeader login.keyId login.key.value = .ok right)
      (hget : Asks .get (Authorization.callUrl login.authUrl "b2_authorize_account") right .null
        get)
      (hwelcome : Welcomes reply login peer get authorization)
      (hcall : post? = some (name, body)) (htoken : authorization.token.value = token)
      (hpost : Asks .post (Authorization.callUrl authorization.apiUrl name) token
        (body authorization.accountId) post) :
      Traffic reply login post? peer [get, post]

/-- A session goes on to make the call, or to none if there is none. -/
def Makes (next : Authorization → α ⊕ Operation α) :
    Option (String × (Loose → Json)) → Prop
  | none => ∀ authorization, ∃ value, next authorization = .inl value
  | some (name, body) => ∀ authorization, ∃ operation, next authorization = .inr operation ∧
      operation.call = authorization.post name (body authorization.accountId)

theorem traffic_of_course {next : Authorization → α ⊕ Operation α}
    {post? : Option (String × (Loose → Json))} {requests : List Request}
    {outcome : Except Fault α} (hmakes : Makes next post?)
    (hcourse : Course reply login next peer requests outcome) :
    Traffic reply login post? peer requests := by
  cases hcourse with
  | unsent hlogin => exact .silent hlogin
  | rejected hlogin hheard =>
      obtain ⟨right, hright, hget⟩ := Login.asks_of_toRequest hlogin
      refine .loggedIn hright hget ?_
      intro authorization _ _ hwelcome _
      rw [hwelcome.heard] at hheard
      exact nomatch hheard
  | returned hwelcome hnext =>
      obtain ⟨right, hright, hget⟩ := Login.asks_of_toRequest hwelcome.request
      refine .loggedIn hright hget ?_
      rintro authorization name body hagain rfl
      obtain ⟨operation, hmade, -⟩ := hmakes _
      rw [hnext] at hmade
      exact nomatch hmade
  | withheld hwelcome hnext hcall =>
      obtain ⟨right, hright, hget⟩ := Login.asks_of_toRequest hwelcome.request
      refine .loggedIn hright hget ?_
      rintro authorization name body hagain rfl
      obtain ⟨operation, hmade, hsame⟩ := hmakes authorization
      obtain rfl := hwelcome.unique hagain
      rw [hnext] at hmade
      obtain rfl := Sum.inr.inj hmade
      rw [hsame] at hcall
      exact ⟨_, hcall⟩
  | performed hwelcome hnext hcall =>
      cases post? with
      | none =>
          obtain ⟨value, hmade⟩ := hmakes _
          rw [hnext] at hmade
          exact nomatch hmade
      | some call =>
          obtain ⟨operation, hmade, hsame⟩ := hmakes _
          rw [hnext] at hmade
          obtain rfl := Sum.inr.inj hmade
          rw [hsame] at hcall
          obtain ⟨right, hright, hget⟩ := Login.asks_of_toRequest hwelcome.request
          obtain ⟨token, htoken, hpost⟩ := Authorization.asks_of_toRequest hcall
          exact .posted hright hget hwelcome rfl htoken hpost

theorem traffic_of_perform {operation : Authorization → Operation α} {name : String}
    {body : Loose → Json} (hcall : ∀ authorization, (operation authorization).call =
      authorization.post name (body authorization.accountId)) :
    Traffic reply login (some (name, body)) peer
      (login.perform reply operation peer).2.requests := by
  have hmethod : ∀ authorization, (operation authorization).call.method = .post := by
    intro authorization
    rw [hcall]
    rfl
  refine traffic_of_course ?_ (login.orderly_perform reply hmethod peer).course
  intro authorization
  exact ⟨operation authorization, rfl, hcall authorization⟩

theorem traffic_of_task {action : Action} {task : Task} (htask : action.task = .ok task) :
    Traffic reply login action.post? peer (task.perform reply login peer).2.requests := by
  cases action with
  | check =>
      obtain rfl := Except.ok.inj htask
      simp only [Task.perform, showing]
      exact traffic_of_course (fun authorization => ⟨authorization, rfl⟩)
        (login.orderly_authorize reply peer).course
  | createKey key =>
      obtain ⟨request, hrequest, rfl⟩ := map_eq_ok_iff.mp htask
      simp only [Task.perform, showing]
      apply traffic_of_perform
      intro authorization
      exact congrArg (authorization.post "b2_create_key")
        (KeyOptions.body_of_request hrequest authorization.accountId)
  | deleteKey keyId =>
      obtain rfl := Except.ok.inj htask
      simp only [Task.perform, showing]
      apply traffic_of_perform
      intro authorization
      rfl
  | authorizeDownload download =>
      obtain ⟨request, hrequest, rfl⟩ := map_eq_ok_iff.mp htask
      simp only [Task.perform, showing]
      apply traffic_of_perform
      intro authorization
      exact congrArg (authorization.post "b2_get_download_authorization")
        (DownloadOptions.body_of_request hrequest)

end Traffic

/-! ## Dealings with the peer -/

section Dealings

variable {σ : Type}

/-- The requests that the peer received. -/
def Report.requests (report : Report σ) : List Request :=
  match report.client with
  | some client => client.requests
  | none => []

/-- How a command deals with the peer, by what it sends and how it fails. -/
inductive Dealings (settings : Settings) (reply : Peer σ) (peer : σ) (command : Command) :
    List Request → Option Fault → Prop where
  /-- The options break a rule, whether or not there are credentials. -/
  | refused {fault : Fault} (hrules : ¬ command.action.Sound) (hfault : fault.IsViolation) :
      Dealings settings reply peer command [] (some fault)
  /-- There is nothing to log in with. -/
  | stranger (hrules : command.action.Sound)
      (hnone : (nonEmpty? command.login.keyId).or (nonEmpty? settings.keyId) = none ∨
        (nonEmpty? command.login.key).or (nonEmpty? settings.key) = none) :
      Dealings settings reply peer command [] (some (.missingCredentials none))
  /-- The command logs in and does its task. -/
  | done {keyId key : String} {requests : List Request} {failure : Option Fault}
      (hrules : command.action.Sound)
      (hkeyId : (nonEmpty? command.login.keyId).or (nonEmpty? settings.keyId) = some keyId)
      (hkey : (nonEmpty? command.login.key).or (nonEmpty? settings.key) = some key)
      (htraffic : Traffic reply
        ⟨keyId, ⟨key⟩, command.login.authUrl.getD settings.authUrl⟩ command.action.post? peer
        requests) :
      Dealings settings reply peer command requests failure

theorem requests_report (reply : Peer σ) (peer : σ) (login : Login) (task : Task) :
    (task.report reply peer login).requests = (task.perform reply login peer).2.requests := by
  unfold Task.report
  split
  · next hperform => rw [hperform]; rfl
  · next hperform => rw [hperform]; rfl

theorem dealings_of_report (settings : Settings) (reply : Peer σ) (peer : σ) {command : Command}
    (hcount : command.action.Countable) :
    Dealings settings reply peer command (command.report settings reply peer).requests
      (command.report settings reply peer).failure := by
  unfold report
  cases htask : command.action.task with
  | error fault =>
      refine .refused ?_ (Action.task_error hcount htask)
      intro hsound
      obtain ⟨task, hok⟩ := Action.sound_iff.mp hsound
      rw [htask] at hok
      exact nomatch hok
  | ok task =>
      have hsound := Action.sound_iff.mpr ⟨task, htask⟩
      cases hcredentials : settings.credentials command.login.keyId command.login.key with
      | error fault =>
          obtain ⟨hnone, rfl⟩ := Settings.credentials_eq_error_iff.mp hcredentials
          exact .stranger hsound hnone
      | ok credentials =>
          obtain ⟨id, secret, hkeyId, hkey, rfl⟩ :=
            Settings.credentials_eq_ok_iff.mp hcredentials
          refine .done hsound hkeyId hkey ?_
          dsimp only
          rw [requests_report]
          exact traffic_of_task htask

/-- Whatever is asked for on the command line, with whatever settings and
against whatever peer: nothing is sent if the options break a rule, which is
found first, or if there are no credentials; else the login is all that is sent,
or it is welcomed and the one request behind it is what the options say. -/
theorem commands_send_what_is_said {toInt? : String → Option Int} (settings : Settings)
    (reply : Peer σ) (peer : σ) {words : List String} {command : Command}
    (hread : read toInt? words = .ready command) (hcount : command.action.Countable) :
    command.SaidBy toInt? words ∧
      ∃ report, run toInt? settings reply peer words = .finished report ∧
        Dealings settings reply peer command report.requests report.failure := by
  refine ⟨saidBy_of_read hread, command.report settings reply peer, ?_,
    dealings_of_report settings reply peer hcount⟩
  rw [run, hread]

/-- Settings in which nothing is set. -/
def plainSettings : Settings := ⟨defaultAuthUrl, none, none, defaultTimeout⟩

/-- A peer that gives prepared replies, and none when they are used up. -/
def prepared : Peer (List Reply) := fun replies _ =>
  match replies with
  | [] => (.broken (.link "ConnectError"), [])
  | answer :: replies => (answer, replies)

/-- What welcomes a login and sends it on to an address. -/
def welcomeTo (apiUrl : String) : Json :=
  .obj [("accountId", .str "abcdefg"), ("authorizationToken", .str "tok"),
    ("allowed", .obj [("capabilities", .arr [.str "listFiles"])]), ("apiUrl", .str apiUrl),
    ("downloadUrl", .str "https://f000.test"), ("recommendedPartSize", .int 100000000),
    ("absoluteMinimumPartSize", .int 5000000), ("s3ApiUrl", .str "https://s3.test")]

/-- A line that creates a key for a month, and what it asks for. -/
def monthWords : List String :=
  ["keys", "create", "my-key", "-c", "readFiles", "--expires-in-days=30", "--key-id", "id",
    "--key", "key"]

def monthCommand : Command :=
  ⟨.createKey ⟨"my-key", [.readFiles], none, none, some 30⟩, ⟨some "id", some "key", none⟩⟩

theorem commands_send_what_is_said_month :
    read readInt? monthWords = .ready monthCommand ∧ monthCommand.action.Countable ∧
      monthCommand.SaidBy readInt? monthWords ∧
      ∃ report, run readInt? plainSettings prepared
          [.response 200 (.value (welcomeTo "https://api.test"))] monthWords = .finished report ∧
        Dealings plainSettings prepared [.response 200 (.value (welcomeTo "https://api.test"))]
          monthCommand report.requests report.failure := by
  have hread : read readInt? monthWords = .ready monthCommand := rfl
  have hcount : monthCommand.action.Countable := by
    intro days hdays
    obtain rfl := Option.some.inj hdays
    decide
  exact ⟨hread, hcount, commands_send_what_is_said plainSettings prepared _ hread hcount⟩

/-- A line that deletes a key, and what it asks for. -/
def deleteWords : List String := ["keys", "delete", "kid", "--key-id", "id", "--key", "key"]

def deleteCommand : Command := ⟨.deleteKey "kid", ⟨some "id", some "key", none⟩⟩

/-- A token is not sent to an address that names a login: the login is. -/
theorem login_of_address_displaces_token :
    read readInt? deleteWords = .ready deleteCommand ∧
      (Authorization.kind.decode (welcomeTo "https://user:pw@api.test")).toOption.map
        (·.token.value) = some "tok" ∧
      (deleteCommand.report plainSettings prepared
          [.response 200 (.value (welcomeTo "https://user:pw@api.test"))]).requests.map
        (fun request => (request.method, request.header? Http.authorizationHeader)) =
          [(.get, some "Basic aWQ6a2V5"), (.post, some "Basic dXNlcjpwdw==")] := by
  refine ⟨rfl, ?_, ?_⟩
  · decide +kernel
  · decide +kernel

end Dealings

end Command

end BucketAccess

import BucketAccess.Proofs.Operation.Failure
import BucketAccess.Proofs.StandIn.Session
import BucketAccess.Proofs.Text.Base64
import BucketAccess.Proofs.Text.Run
import BucketAccess.Proofs.Text.Utf8

/-!
# Logging in with the stand-in

The header for logging in joins the identifier and the secret with a colon, and
the stand-in splits what it reads at the first one.  Logins with colons can share a
header, so the header alone does not tell logins apart.  It does tell the login of
the stand-in from every other: neither of its parts holds a colon, so no other
login is split into them.
-/

namespace BucketAccess

open Http (Client Request Url)

/-! ## Headers -/

theorem toList_basicHeader (user password : List Char) :
    (Http.basicHeader user password).toList =
      "Basic ".toList ++ Text.base64Encode (Text.utf8Encode (user ++ ':' :: password)) := by
  rw [Http.basicHeader, String.toList_append]
  exact congrArg _ String.toList_ofList

/-- The header depends on the joined login alone. -/
theorem loginHeader_eq_iff {keyId key keyId' key' : String} :
    loginHeader keyId key = loginHeader keyId' key' ↔
      keyId ++ ":" ++ key = keyId' ++ ":" ++ key' := by
  have hjoined : ∀ left right : String,
      (left ++ ":" ++ right).toList = left.toList ++ ':' :: right.toList := by
    intro left right
    rw [String.toList_append, String.toList_append, List.append_assoc]
    rfl
  rw [loginHeader, loginHeader, Except.ok.injEq, ← String.toList_inj, toList_basicHeader,
    toList_basicHeader, List.append_cancel_left_eq, Text.base64Encode_injective.eq_iff,
    Text.utf8Encode_injective.eq_iff, ← hjoined, ← hjoined, String.toList_inj]

namespace StandIn

/-! ### Reading -/

section Splitting

variable {id key secret rest : List Char}

theorem splitLogin_append (hid : ':' ∉ id) : splitLogin (id ++ ':' :: rest) = (id, rest) := by
  have hrun : ∀ char ∈ id, decide (char ≠ ':') = true := by
    intro char hchar
    exact decide_eq_true fun hcolon => hid (hcolon ▸ hchar)
  have hends : Text.Ends (fun char => decide (char ≠ ':')) (':' :: rest) :=
    Text.ends_cons.mpr (by decide)
  rw [splitLogin, Text.takeWhile_run hrun hends, Text.dropWhile_run hrun hends]
  rfl

theorem not_mem_splitLogin (chars : List Char) : ':' ∉ (splitLogin chars).1 := by
  intro hcolon
  have hkept := List.mem_takeWhile_imp hcolon
  exact absurd hkept (by decide)

/-- A login is split where it was joined only if its identifier has no colon. -/
theorem splitLogin_eq_self_iff : splitLogin (id ++ ':' :: key) = (id, key) ↔ ':' ∉ id := by
  constructor
  · intro hsplit
    have hid := not_mem_splitLogin (id ++ ':' :: key)
    rwa [hsplit] at hid
  · exact splitLogin_append

/-- A login that is split into parts without colons has these parts. -/
theorem splitLogin_eq_iff {own : List Char} (hown : ':' ∉ own) (hsecret : ':' ∉ secret) :
    splitLogin (id ++ ':' :: key) = (own, secret) ↔ id = own ∧ key = secret := by
  constructor
  · intro hsplit
    by_cases hid : ':' ∈ id
    · -- The colon that joins the parts would be in the secret.
      obtain ⟨front, behind, rfl, hfront⟩ := List.eq_append_cons_of_mem hid
      rw [List.append_assoc, List.cons_append, splitLogin_append hfront] at hsplit
      obtain ⟨-, rfl⟩ := Prod.mk.inj hsplit
      exact absurd (List.mem_append_right behind List.mem_cons_self) hsecret
    · rw [splitLogin_append hid] at hsplit
      exact Prod.mk.inj hsplit
  · rintro ⟨rfl, rfl⟩
    exact splitLogin_append hown

end Splitting

/-- What the stand-in reads off the value of a header for logging in, if it takes
it for one. -/
def readHeader (header : String) : Option (Except Fault (List Char × List Char)) :=
  ("Basic ".toList.isPrefixOf? header.toList).map readLogin

theorem readLogin_encoded (chars : List Char) :
    readLogin (Text.base64Encode (Text.utf8Encode chars)) = .ok (splitLogin chars) := by
  rw [readLogin, Text.base64Decode_base64Encode]
  dsimp only
  rw [Text.utf8Decode_utf8Encode]

/-- Every login is read, and split at the first colon. -/
theorem readHeader_basicHeader (user password : List Char) :
    readHeader (Http.basicHeader user password) =
      some (.ok (splitLogin (user ++ ':' :: password))) := by
  have hencoded : "Basic ".toList.isPrefixOf? (Http.basicHeader user password).toList =
      some (Text.base64Encode (Text.utf8Encode (user ++ ':' :: password))) := by
    rw [toList_basicHeader]
    rfl
  rw [readHeader, hencoded, Option.map_some, readLogin_encoded]

/-! ## Answers -/

/-- The stand-in answers what it reads off the header. -/
theorem login_some (standIn : StandIn) (header : String) :
    standIn.login (some header) =
      match readHeader header with
      | none => refuse 401 "bad_auth_token" "Missing Basic authorization"
      | some (.error fault) => .broken (.stray fault)
      | some (.ok (id, key)) =>
          if id = loginId.toList && key = loginKey.toList then accept (welcome standIn.allowed)
          else refuse 401 "bad_auth_token" "" := by
  rw [login, readHeader, Option.getD_some]
  cases "Basic ".toList.isPrefixOf? header.toList with
  | none => rfl
  | some encoded =>
      dsimp only [Option.map_some]
      cases readLogin encoded <;> rfl

/-- The stand-in accepts its own login and refuses every other. -/
theorem login_basicHeader (standIn : StandIn) (keyId key : String) :
    standIn.login (some (Http.basicHeader keyId.toList key.toList)) =
      if (keyId, key) = (loginId, loginKey) then accept (welcome standIn.allowed)
      else refuse 401 "bad_auth_token" "" := by
  have hown : (splitLogin (keyId.toList ++ ':' :: key.toList)).1 = loginId.toList ∧
      (splitLogin (keyId.toList ++ ':' :: key.toList)).2 = loginKey.toList ↔
        (keyId, key) = (loginId, loginKey) := by
    calc
      _ ↔ splitLogin (keyId.toList ++ ':' :: key.toList) = (loginId.toList, loginKey.toList) :=
        Prod.ext_iff.symm
      _ ↔ keyId.toList = loginId.toList ∧ key.toList = loginKey.toList :=
        splitLogin_eq_iff (by decide +kernel) (by decide +kernel)
      _ ↔ (keyId, key) = (loginId, loginKey) := by
        rw [String.toList_inj, String.toList_inj, Prod.mk.injEq]
  rw [login_some, readHeader_basicHeader]
  simp only [Bool.and_eq_true, decide_eq_true_eq, hown]

/-- The refusal of a login that is not the stand-in's own. -/
def badLogin : Refusal := ⟨"bad_auth_token", 401, ""⟩

theorem decode_refusalBody {status : Nat} (hstatus : status < Text.leastUnshown)
    (code message : String) : Authorization.kind.decode (refusalBody status code message) =
      .error (.refused ⟨code, status, message⟩) := by
  have hstands : Refusal.StandsIn ⟨code, status, message⟩ (refusalBody status code message) :=
    ⟨rfl, ⟨.int status, rfl, rfl⟩, rfl⟩
  cases hrecord : Authorization.kind.reading (refusalBody status code message) with
  | sound authorization =>
      exact absurd (RecordKind.decode_eq_ok_iff.mpr hrecord)
        (not_authorization_refusalBody status code message)
  | flawed problems =>
      exact RecordKind.decode_of_refusal Authorization.isShallow_kind
        (isReadable_refusalBody hstatus code message) hrecord hstands

/-- The authorization that the stand-in's own login gives. -/
def session (allowed : Allowance) : Authorization where
  accountId := accountId
  token := ⟨token⟩
  allowed := allowed
  apiUrl := "https://api000.fake-b2.test"
  downloadUrl := "https://f000.fake-b2.test"
  recommendedPartSize := 100000000
  minimumPartSize := 5000000
  s3ApiUrl := "https://s3.us-west-000.fake-b2.test"

theorem decode_welcome {allowed : Json} {allowance : Allowance}
    (hallowed : Allowance.kind.reading allowed = .sound allowance) :
    Authorization.kind.decode (welcome allowed) = .ok (session allowance) := by
  refine RecordKind.decode_eq_ok_iff.mpr ?_
  change Authorization.ofFields _ = _
  rw [Authorization.ofFields_eq_sound_iff]
  exact ⟨rfl, rfl, Json.required_of_find? rfl hallowed, rfl, rfl, rfl, rfl, rfl⟩

/-- What the own login allows can be written and read. -/
structure Greets (standIn : StandIn) : Prop where
  writable : standIn.allowed.isWritable = true
  whole : standIn.allowed.isWhole = true
  reading : ∃ allowance, Allowance.kind.reading standIn.allowed = .sound allowance

/-- A stand-in that is told nothing allows everything. -/
theorem greets_start {allowed : Json} (hvoid : allowed.isVoid = true) : (start allowed).Greets := by
  have hallowed : (start allowed).allowed = everything := if_pos hvoid
  refine ⟨?_, ?_, ⟨Capability.all, none, none, none⟩, ?_⟩
  · rw [hallowed]
    decide +kernel
  · rw [hallowed]
    decide +kernel
  · rw [hallowed]
    rfl

/-- Beside what it allows, a welcome is made of texts of the stand-in and numbers. -/
theorem every_welcome_iff {check : Json → Bool} {allowed : Json}
    (htext : ∀ text : String, check (.str text) = true)
    (hnumber : ∀ number : Int, number.natAbs < Text.leastUnshown → check (.int number) = true) :
    (welcome allowed).every check = true ↔ allowed.every check = true := by
  rw [welcome, Json.every_obj_iff]
  simp only [List.forall_mem_cons]
  constructor
  · intro hfields
    exact hfields.2.2.1
  · intro hallowed
    exact ⟨htext _, htext _, hallowed, htext _, htext _,
      hnumber _ (Text.lt_leastUnshown (by decide)), hnumber _ (Text.lt_leastUnshown (by decide)),
      htext _, List.forall_mem_nil _⟩

theorem isWritable_welcome_iff {allowed : Json} :
    (welcome allowed).isWritable = true ↔ allowed.isWritable = true :=
  every_welcome_iff (fun _ => rfl) (fun _ => decide_eq_true)

theorem isWhole_welcome_iff {allowed : Json} :
    (welcome allowed).isWhole = true ↔ allowed.isWhole = true :=
  every_welcome_iff (fun _ => rfl) (fun _ _ => rfl)

/-! ## Addresses -/

/-- An address below which a call to log in reaches the stand-in with the login it
carries: it can be read, names a host and no login of its own, and the path ends
in the name of the call. -/
structure IsLoginAddress (authUrl : String) (url : Url) : Prop where
  read : (Url.read (Authorization.callUrl authUrl "b2_authorize_account")).toOption = some url
  host : Http.hostFault? url = none
  absolute : url.isAbsolute = true
  login : url.login? = none
  segment : String.ofList url.lastSegment = "b2_authorize_account"

variable {authUrl keyId key : String} {url : Url} {client : Client StandIn}

theorem IsLoginAddress.toRequest (haddress : IsLoginAddress authUrl url) (keyId key : String) :
    ∃ request, (Login.mk keyId ⟨key⟩ authUrl).operation.call.toRequest = .ok request ∧
      request.url = url ∧
      ∀ standIn, reply standIn request =
        (standIn.login (some (Http.basicHeader keyId.toList key.toList)), standIn) := by
  obtain ⟨request, hrequest, hurl⟩ : ∃ request,
      (Login.mk keyId ⟨key⟩ authUrl).operation.call.toRequest = .ok request ∧
        request.url = url := by
    have hread := toOption_eq_some_iff.mp haddress.read
    refine ⟨_, Http.Call.toRequest_eq_ok_iff.mpr ⟨rfl, url, hread, ?_, rfl, rfl, ?_, rfl⟩, rfl⟩
    · intro header hheader
      obtain rfl := List.mem_singleton.mp hheader
      have hname : Http.isAscii authorizationName = true := by decide +kernel
      exact ⟨hname, isAscii_basicHeader keyId.toList key.toList⟩
    · rw [Http.Call.hostFault?, haddress.host, ite_self]
  obtain ⟨right, hright, hasks⟩ := Login.asks_of_toRequest hrequest
  obtain rfl := Except.ok.inj hright
  have hheader := hasks.right
  rw [Http.Url.right, hurl, haddress.login] at hheader
  refine ⟨request, hrequest, hurl, ?_⟩
  intro standIn
  simp only [reply, hurl, haddress.segment, if_true, hheader]

/-- What the stand-in responds to a login is read as an authorization. -/
theorem IsLoginAddress.run (haddress : IsLoginAddress authUrl url) (hopen : client.isOpen = true)
    {status : Int} {said : Json}
    (hlogin : client.peer.login (some (Http.basicHeader keyId.toList key.toList)) =
      .response status (.value said)) (hreadable : said.isReadable = true) :
    ((Login.mk keyId ⟨key⟩ authUrl).operation.run reply client).1 =
      Authorization.kind.decode said := by
  obtain ⟨request, hrequest, rfl, hreply⟩ := haddress.toRequest keyId key
  have hreply := hreply client.peer
  rw [hlogin] at hreply
  rw [Operation.run_of_response hrequest hopen hreply haddress.absolute
    (Http.Body.json_value hreadable)]
  rfl

/-- The address at which the stand-in is logged in to. -/
def loginUrl : Url :=
  { scheme := "https".toList, userInfo := [], host := "auth.fake-b2.test".toList, port := none
    path := "/b2api/v2/b2_authorize_account".toList, query := none, fragment := none }

theorem isLoginAddress_loginUrl : IsLoginAddress "https://auth.fake-b2.test" loginUrl :=
  ⟨by decide +kernel, by decide +kernel, rfl, by decide +kernel, by decide +kernel⟩

/-! ## Logins -/

/-- The own login succeeds if what it allows can be written and read. -/
theorem IsLoginAddress.run_own (haddress : IsLoginAddress authUrl url)
    (hopen : client.isOpen = true) (hgreets : client.peer.Greets) :
    ∃ allowance, ((Login.mk loginId ⟨loginKey⟩ authUrl).operation.run reply client).1 =
      .ok (session allowance) := by
  obtain ⟨hwritable, hwhole, allowance, hallowed⟩ := hgreets
  have hwelcome := isWritable_welcome_iff.mpr hwritable
  have hlogin : client.peer.login (some (Http.basicHeader loginId.toList loginKey.toList)) =
      .response 200 (.value (welcome client.peer.allowed)) := by
    rw [login_basicHeader, if_pos rfl]
    exact accept_eq_response_iff.mpr ⟨hwelcome, isWhole_welcome_iff.mpr hwhole, rfl, rfl⟩
  have hrun : ((Login.mk loginId ⟨loginKey⟩ authUrl).operation.run reply client).1 =
      .ok (session allowance) := by
    calc
      _ = Authorization.kind.decode (welcome client.peer.allowed) :=
        haddress.run hopen hlogin (Json.isReadable_of_isWritable hwelcome)
      _ = .ok (session allowance) := decode_welcome hallowed
  exact ⟨allowance, hrun⟩

/-- A login that succeeds was told what it allows. -/
theorem IsLoginAddress.greets_of_run {authorization : Authorization}
    (haddress : IsLoginAddress authUrl url)
    (hrun : ((Login.mk loginId ⟨loginKey⟩ authUrl).operation.run reply client).1 =
      .ok authorization) : client.peer.Greets := by
  obtain ⟨request, status, content, said, hrequest, hresponse, hjson, hread, -, -⟩ :=
    Operation.run_eq_ok (Prod.ext hrun rfl)
  obtain ⟨sent, hsent, -, hreply⟩ := haddress.toRequest loginId loginKey
  obtain rfl := Except.ok.inj (hsent.symm.trans hrequest)
  rw [hreply, login_basicHeader, if_pos rfl] at hresponse
  obtain ⟨hwritable, hwhole, -, rfl⟩ := accept_eq_response_iff.mp hresponse
  obtain rfl := Http.Body.eq_of_json_value hjson
  have hfields := RecordKind.decode_eq_ok_iff.mp hread
  obtain ⟨-, -, hallowed, -⟩ := Authorization.ofFields_eq_sound_iff.mp hfields
  exact ⟨isWritable_welcome_iff.mp hwritable, isWhole_welcome_iff.mp hwhole, authorization.allowed,
    Checked.within_eq_sound_iff.mp hallowed⟩

theorem IsLoginAddress.run_other (haddress : IsLoginAddress authUrl url)
    (hopen : client.isOpen = true) (hother : (keyId, key) ≠ (loginId, loginKey)) :
    ((Login.mk keyId ⟨key⟩ authUrl).operation.run reply client).1 =
      .error (.refused badLogin) := by
  have hlogin : client.peer.login (some (Http.basicHeader keyId.toList key.toList)) =
      .response 401 (.value (refusalBody 401 "bad_auth_token" "")) := by
    rw [login_basicHeader, if_neg hother]
    rfl
  calc
    _ = Authorization.kind.decode (refusalBody 401 "bad_auth_token" "") :=
      haddress.run hopen hlogin (isReadable_refusalBody (Text.lt_leastUnshown (by decide)) _ _)
    _ = .error (.refused badLogin) :=
      decode_refusalBody (Text.lt_leastUnshown (by decide)) "bad_auth_token" ""

end StandIn

open StandIn (Greets IsLoginAddress badLogin loginId loginKey readHeader splitLogin)

/-- Every login is read from its header and split at the first colon, which gives it
back if its identifier has no colon.  Logins share a header if they are the same text
once joined.  Yet the login of the stand-in alone gives a session, as far as what it
allows can be written and read, and every other login is refused. -/
theorem own_login_alone_succeeds (keyId key : String) :
    (∃ header, loginHeader keyId key = .ok header ∧
        readHeader header = some (.ok (splitLogin (keyId.toList ++ ':' :: key.toList))) ∧
        (readHeader header = some (.ok (keyId.toList, key.toList)) ↔ ':' ∉ keyId.toList)) ∧
      (∀ keyId' key' : String, loginHeader keyId key = loginHeader keyId' key' ↔
        keyId ++ ":" ++ key = keyId' ++ ":" ++ key') ∧
      ∀ (authUrl : String) (url : Url) (client : Client StandIn),
        IsLoginAddress authUrl url → client.isOpen = true →
          ((∃ authorization, ((Login.mk keyId ⟨key⟩ authUrl).operation.run
              StandIn.reply client).1 = .ok authorization) ↔
            (keyId, key) = (loginId, loginKey) ∧ client.peer.Greets) ∧
          ((keyId, key) ≠ (loginId, loginKey) →
            ((Login.mk keyId ⟨key⟩ authUrl).operation.run StandIn.reply client).1 =
              .error (.refused badLogin)) := by
  refine ⟨⟨_, rfl, StandIn.readHeader_basicHeader _ _, ?_⟩, fun keyId' key' => loginHeader_eq_iff,
    ?_⟩
  · rw [StandIn.readHeader_basicHeader, Option.some_inj, Except.ok.injEq,
      StandIn.splitLogin_eq_self_iff]
  · intro authUrl url client haddress hopen
    constructor
    · constructor
      · rintro ⟨authorization, hrun⟩
        by_cases hown : (keyId, key) = (loginId, loginKey)
        · obtain ⟨rfl, rfl⟩ := Prod.mk.inj hown
          exact ⟨rfl, haddress.greets_of_run hrun⟩
        · rw [haddress.run_other hopen hown] at hrun
          cases hrun
      · rintro ⟨hown, hgreets⟩
        obtain ⟨rfl, rfl⟩ := Prod.mk.inj hown
        obtain ⟨allowance, hrun⟩ := haddress.run_own hopen hgreets
        exact ⟨StandIn.session allowance, hrun⟩
    · exact haddress.run_other hopen

/-- Two logins with colons share a header that neither of them logs in with. -/
theorem own_login_alone_succeeds_colon :
    loginHeader "a:b" "c ß" = loginHeader "a" "b:c ß" ∧
      (∃ authorization,
        ((Login.mk loginId ⟨loginKey⟩ "https://auth.fake-b2.test").operation.run StandIn.reply
          (Client.connect (StandIn.start .null))).1 = .ok authorization) ∧
      ((Login.mk "a:b" ⟨"c ß"⟩ "https://auth.fake-b2.test").operation.run StandIn.reply
        (Client.connect (StandIn.start .null))).1 = .error (.refused badLogin) := by
  have hgreets : (StandIn.start .null).Greets := StandIn.greets_start rfl
  have haddress := StandIn.isLoginAddress_loginUrl
  obtain ⟨-, -, hown⟩ := own_login_alone_succeeds loginId loginKey
  obtain ⟨-, hheader, hother⟩ := own_login_alone_succeeds "a:b" "c ß"
  refine ⟨(hheader "a" "b:c ß").mpr (by decide +kernel), ?_, ?_⟩
  · exact (hown _ _ (Client.connect _) haddress rfl).1.mpr ⟨rfl, hgreets⟩
  · exact (hother _ _ (Client.connect _) haddress rfl).2 (by decide +kernel)

end BucketAccess

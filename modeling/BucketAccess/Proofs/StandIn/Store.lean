import BucketAccess.Proofs.Key.Held
import BucketAccess.Proofs.Key.Request
import BucketAccess.Proofs.StandIn.Session
import BucketAccess.Proofs.Text.Numeral

/-!
# Keys in the stand-in

What creating and deleting a key does to the stand-in, and what the session that
asked for it gets back: the key that is described, for the description decodes
to it with its secret or without.
-/

namespace BucketAccess.StandIn

open Http (Client)

variable {standIn : StandIn} {authorization : Authorization} {client : Client StandIn}

/-! ## Identifiers -/

theorem keyId_injective {left right : Nat} (heq : keyId left = keyId right) : left = right := by
  have hpadded : Text.paddedText 2 (left + 5) = Text.paddedText 2 (right + 5) :=
    String.append_right_inj _ |>.mp heq
  exact Nat.add_right_cancel (Text.paddedText_injective hpadded)

example : keyId 95 = "002d2e6b27577ea00000000100" := by decide +kernel

theorem secretFor_injective {left right : String} (heq : secretFor left = secretFor right) :
    left = right :=
  String.append_right_inj _ |>.mp heq

/-! ## Descriptions -/

/-- The key that is issued for a request after a number of others. -/
def issue (request : KeyRequest) (count : Nat) : Key where
  name := request.name
  id := keyId count
  capabilities := request.capabilities
  accountId := accountId
  expiration := none
  bucketId := request.bucketId
  namePrefix := request.namePrefix
  options := some ["s3"]

/-- A key that is issued as it is described. -/
def description (request : KeyRequest) (count : Nat) : List (String × Json) :=
  [("keyName", .str request.name), ("applicationKeyId", .str (keyId count)),
    ("capabilities", .arr (request.capabilities.map fun capability => .str capability.name)),
    ("accountId", .str accountId), ("expirationTimestamp", .null),
    ("bucketId", Json.ofOptionalText request.bucketId),
    ("namePrefix", Json.ofOptionalText request.namePrefix), ("options", .arr [.str "s3"])]

/-- A description is made of null, of texts of the stand-in, and of the texts of the
request. -/
theorem every_description {check : Json → Bool} {request : KeyRequest} (hnull : check .null = true)
    (htext : ∀ text : String, check (.str text) = true) (hname : check (.str request.name) = true)
    (hbucket : ∀ bucketId ∈ request.bucketId, check (.str bucketId) = true)
    (hnames : ∀ namePrefix ∈ request.namePrefix, check (.str namePrefix) = true) (count : Nat) :
    ∀ field ∈ description request count, field.2.every check = true := by
  have hoptional : ∀ text : Option Loose, (∀ given ∈ text, check (.str given) = true) →
      (Json.ofOptionalText text).every check = true := fun text hgiven => by
    cases text with
    | none => exact hnull
    | some given => exact hgiven given rfl
  have htext' : ∀ text : String, (Json.str text).every check = true := htext
  have hcapability : ∀ capability : Capability, (Json.str capability.name).every check = true :=
    fun capability => htext capability.name
  simp only [description, List.forall_mem_cons]
  exact ⟨hname, htext _, Json.every_map hcapability _, htext _, hnull, hoptional _ hbucket,
    hoptional _ hnames, Json.every_map htext' ["s3"], List.forall_mem_nil _⟩

theorem isWritable_description (request : KeyRequest) (count : Nat) :
    ∀ field ∈ description request count, field.2.isWritable = true :=
  every_description rfl (fun _ => rfl) rfl (fun _ _ => rfl) (fun _ _ => rfl) count

theorem isWhole_description {request : KeyRequest} (hwhole : request.IsWhole) (count : Nat) :
    ∀ field ∈ description request count, field.2.isWhole = true :=
  every_description rfl (fun _ => rfl) hwhole.name hwhole.bucketId hwhole.namePrefix count

/-- Whatever follows it, a description decodes to the key. -/
theorem ofFields_description (request : KeyRequest) (count : Nat) (rest : List (String × Json)) :
    Key.ofFields (description request count ++ rest) = .sound (issue request count) := by
  have hcapabilities : Json.required Key.capabilitiesField (Json.readList Json.readCapability)
      (description request count ++ rest) = .sound request.capabilities :=
    Json.required_of_find? rfl (Json.readList_map Json.readCapability_name request.capabilities)
  have hbucket : Json.optional Key.bucketIdField Json.readText
      (description request count ++ rest) = .sound request.bucketId :=
    Json.optional_of_find? rfl (Json.readNullable_text_eq_sound_iff.mpr rfl)
  have hprefix : Json.optional Key.namePrefixField Json.readText
      (description request count ++ rest) = .sound request.namePrefix :=
    Json.optional_of_find? rfl (Json.readNullable_text_eq_sound_iff.mpr rfl)
  rw [Key.ofFields_eq, hcapabilities, hbucket, hprefix]
  rfl

theorem decode_description (request : KeyRequest) (count : Nat) :
    Key.kind.decode (.obj (description request count)) = .ok (issue request count) := by
  have hfields := ofFields_description request count []
  rw [List.append_nil] at hfields
  exact RecordKind.decode_eq_ok_iff.mpr hfields

theorem decode_issued (request : KeyRequest) (count : Nat) :
    NewKey.kind.decode (.obj (description request count ++
        [("applicationKey", .str (secretFor (keyId count)))])) =
      .ok ⟨issue request count, ⟨secretFor (keyId count)⟩⟩ := by
  refine RecordKind.decode_eq_ok_iff.mpr ?_
  change NewKey.ofFields _ = _
  rw [NewKey.ofFields, ofFields_description]
  rfl

/-! ## Creating -/

/-- The stand-in with one more key. -/
def withKey (standIn : StandIn) (request : KeyRequest) : StandIn :=
  { standIn with
    keys := standIn.keys ++
      [(keyId standIn.created, .obj (description request standIn.created))]
    created := standIn.created + 1 }

theorem describe_forAccount (request : KeyRequest) (count : Nat) :
    describe (.str request.name)
        (.arr (request.capabilities.map fun capability => .str capability.name)) (keyId count)
        (request.forAccount accountId).body = description request count := by
  have hbucket : (request.forAccount accountId).body.field? "bucketId" =
      request.bucketId.map .str := KeyRequest.field?_body _ _
  have hprefix : (request.forAccount accountId).body.field? "namePrefix" =
      request.namePrefix.map .str := KeyRequest.field?_body _ _
  have hnull : ∀ text : Option Loose, (text.map Json.str).getD .null = Json.ofOptionalText text :=
    fun text => by cases text <;> rfl
  rw [describe, hbucket, hprefix, hnull, hnull, description]

theorem createKey_forAccount (standIn : StandIn) (request : KeyRequest) :
    standIn.createKey (request.forAccount accountId).body =
      (accept (.obj (description request standIn.created ++
        [("applicationKey", .str (secretFor (keyId standIn.created)))])),
        standIn.withKey request) := by
  have haccount : (request.forAccount accountId).body.field? "accountId" =
      some (.str accountId) := KeyRequest.field?_body _ _
  have hname : (request.forAccount accountId).body.field? "keyName" = some (.str request.name) :=
    KeyRequest.field?_body _ _
  have hcapabilities : (request.forAccount accountId).body.field? "capabilities" =
      some (.arr (request.capabilities.map fun capability => .str capability.name)) :=
    KeyRequest.field?_body _ _
  have hequal : (Json.str accountId).equal (.str accountId) = true := by
    simp [Json.equal]
  rw [createKey, haccount, hname, hcapabilities]
  simp only [Option.getD_some, hequal, Bool.not_true, Bool.false_eq_true, if_false,
    describe_forAccount]
  rfl

theorem accept_of_isWritable {value : Json} (hwritable : value.isWritable = true)
    (hwhole : value.isWhole = true) : accept value = .response 200 (.value value) :=
  accept_eq_response_iff.mpr ⟨hwritable, hwhole, rfl, rfl⟩

theorem createKey_call (hsession : IsSession authorization) (request : KeyRequest) :
    (authorization.createKey request).call =
      authorization.post "b2_create_key" (request.forAccount accountId).body := by
  rw [Authorization.createKey, hsession.accountId]

/-- A session creates every key that it asks for in whole texts. -/
theorem run_createKey (hsession : IsSession authorization) (hopen : client.isOpen = true)
    {request : KeyRequest} (hwhole : request.IsWhole) :
    ∃ events, (authorization.createKey request).run reply client =
      (.ok (⟨secretFor (keyId client.peer.created)⟩, issue request client.peer.created),
        ⟨client.peer.withKey request, true, events⟩) := by
  have hsecret : ∀ field ∈ [("applicationKey",
      Json.str (secretFor (keyId client.peer.created)))], field.2.isWritable ∧ field.2.isWhole := by
    simp only [List.forall_mem_cons]
    exact ⟨⟨rfl, rfl⟩, List.forall_mem_nil _⟩
  have hwritable : (Json.obj (description request client.peer.created ++
      [("applicationKey", .str (secretFor (keyId client.peer.created)))])).isWritable = true := by
    rw [Json.isWritable, Json.every_obj_iff, List.forall_mem_append]
    exact ⟨isWritable_description request _, fun field hmem => (hsecret field hmem).1⟩
  have hcarried : (Json.obj (description request client.peer.created ++
      [("applicationKey", .str (secretFor (keyId client.peer.created)))])).isWhole = true := by
    rw [Json.isWhole, Json.every_obj_iff, List.forall_mem_append]
    exact ⟨isWhole_description hwhole _, fun field hmem => (hsecret field hmem).2⟩
  have hserve := createKey_forAccount client.peer request
  rw [accept_of_isWritable hwritable hcarried] at hserve
  obtain ⟨events, hrun⟩ := run_post hsession isCallName_createKey
    (createKey_call hsession request) Json.noConfusion (KeyRequest.isWritable_body _)
    (KeyRequest.isWhole_body_forAccount_iff.mpr hwhole) hopen hserve
    (Json.isReadable_of_isWritable hwritable)
  have hread : (authorization.createKey request).read
      (.obj (description request client.peer.created ++
        [("applicationKey", .str (secretFor (keyId client.peer.created)))])) =
      .ok (⟨secretFor (keyId client.peer.created)⟩, issue request client.peer.created) := by
    rw [NewKey.read_createKey, decode_issued]
    rfl
  rw [hread] at hrun
  exact ⟨events, hrun⟩

/-- It asks for no key in broken texts. -/
theorem run_createKey_of_broken (hsession : IsSession authorization) {request : KeyRequest}
    (hbroken : ¬ request.IsWhole) :
    (authorization.createKey request).run reply client = (.error .brokenText, client) :=
  run_post_of_broken hsession isCallName_createKey (createKey_call hsession request)
    (KeyRequest.isWritable_body _)
    (Bool.eq_false_iff.mpr (mt KeyRequest.isWhole_body_forAccount_iff.mp hbroken))

/-! ## Deleting -/

/-- What a session is told that deletes a key that does not exist. -/
def noSuchKey : Refusal := ⟨"bad_request", 400, "applicationKeyId is not valid"⟩

/-- The stand-in without a key. -/
def withoutKey (standIn : StandIn) (id : String) : StandIn :=
  { standIn with keys := standIn.keys.filter fun entry => entry.1 ≠ id }

theorem deleteKey_call (authorization : Authorization) (id : Loose) :
    (authorization.deleteKey id).call =
      authorization.post "b2_delete_key" (.obj [("applicationKeyId", .str id)]) := by
  rfl

theorem run_deleteKey_of_broken (hsession : IsSession authorization) {id : Loose}
    (hbroken : id.isWhole = false) :
    (authorization.deleteKey id).run reply client = (.error .brokenText, client) := by
  refine run_post_of_broken hsession isCallName_deleteKey (deleteKey_call authorization id) rfl ?_
  change (id.isWhole && true) = false
  rw [hbroken]
  rfl

theorem run_deleteKey_of_none (hsession : IsSession authorization) (hopen : client.isOpen = true)
    {id : String} (hnone : client.peer.keys.find? (fun entry => entry.1 = id) = none) :
    ∃ events, (authorization.deleteKey id).run reply client =
      (.error (.refused noSuchKey), ⟨client.peer, true, events⟩) := by
  have hserve : client.peer.serve "b2_delete_key" (.obj [("applicationKeyId", .str id)]) =
      (refuse 400 "bad_request" "applicationKeyId is not valid", client.peer) := by
    simp only [serve, deleteKey, Json.field?, Json.lookup_cons, if_true, hnone]
  have hstatus : 400 < Text.leastUnshown := Text.lt_leastUnshown (by decide)
  have hreadable := isReadable_refusalBody hstatus "bad_request" "applicationKeyId is not valid"
  have hread : Key.kind.decode (refusalBody 400 "bad_request" "applicationKeyId is not valid") =
      .error (.refused noSuchKey) :=
    RecordKind.decode_of_refusal Key.isShallow_kind hreadable rfl ⟨rfl, ⟨_, rfl, rfl⟩, rfl⟩
  obtain ⟨events, hrun⟩ := run_post hsession isCallName_deleteKey
    (deleteKey_call authorization id) Json.noConfusion rfl rfl hopen hserve hreadable
  exact ⟨events, hrun.trans (congrArg (·, _) hread)⟩

theorem run_deleteKey_of_some (hsession : IsSession authorization) (hopen : client.isOpen = true)
    {id : String} {entry : String × Json}
    (hsome : client.peer.keys.find? (fun entry => entry.1 = id) = some entry)
    (hwritable : entry.2.isWritable = true) (hwhole : entry.2.isWhole = true) :
    ∃ events, (authorization.deleteKey id).run reply client =
      (Key.kind.decode entry.2, ⟨client.peer.withoutKey id, true, events⟩) := by
  have hid : entry.1 = id := by simpa using List.find?_some hsome
  have hserve : client.peer.serve "b2_delete_key" (.obj [("applicationKeyId", .str id)]) =
      (.response 200 (.value entry.2), client.peer.withoutKey id) := by
    simp only [serve, deleteKey, Json.field?, Json.lookup_cons, if_true, hsome, withoutKey, hid,
      accept_of_isWritable hwritable hwhole]
  exact run_post hsession isCallName_deleteKey (deleteKey_call authorization id) Json.noConfusion
    rfl rfl hopen hserve (Json.isReadable_of_isWritable hwritable)

end BucketAccess.StandIn

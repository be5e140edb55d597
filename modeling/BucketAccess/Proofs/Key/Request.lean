import BucketAccess.Key.Request
import BucketAccess.Proofs.Json.Fields

/-!
# What is sent for a key

The body of a request holds an entry for each field that is set and nothing
else, so it has no null in it and JSON can carry it.  An encoding can carry it too,
unless a text of the request is broken.
-/

namespace BucketAccess.KeyRequest

/-- The value of each entry of a body. -/
theorem field?_body (request : KeyRequest) (name : String) :
    request.body.field? name =
      if name = "accountId" then request.accountId.map .str
      else if name = "capabilities" then
        some (.arr (request.capabilities.map fun capability => .str capability.name))
      else if name = "keyName" then some (.str request.name)
      else if name = "validDurationInSeconds" then request.duration.map Duration.toJson
      else if name = "bucketId" then request.bucketId.map .str
      else if name = "namePrefix" then request.namePrefix.map .str
      else none := by
  simp only [body, Json.field?, Json.lookup_append, Json.lookup_cons, Json.lookup_entry,
    accountIdField, capabilitiesField, nameField, durationField, bucketIdField, namePrefixField,
    eq_comm (b := name)]
  by_cases haccount : name = "accountId"
  · simp [haccount, Json.lookup]
  · by_cases hcapabilities : name = "capabilities"
    · simp [hcapabilities]
    · grind [Json.lookup]

/-- A request is sent without a null: what is not set is left out. -/
theorem not_occurs_null_body (request : KeyRequest) : ¬ Json.Occurs .null request.body := by
  rintro (_ | _ | ⟨hmem, hvalue⟩)
  simp only [List.mem_append, List.mem_cons, List.not_mem_nil, or_false, Json.mem_entry_iff,
    Prod.mk.injEq] at hmem
  rcases hmem with
    (((⟨_, -, -, rfl⟩ | ⟨-, rfl⟩ | ⟨-, rfl⟩) | ⟨_, -, -, rfl⟩) | ⟨_, -, -, rfl⟩) | ⟨_, -, -, rfl⟩
  · exact Json.not_occurs_null_str _ hvalue
  · exact Json.not_occurs_null_names _ hvalue
  · exact Json.not_occurs_null_str _ hvalue
  · exact Json.not_occurs_null_int _ hvalue
  · exact Json.not_occurs_null_str _ hvalue
  · exact Json.not_occurs_null_str _ hvalue

theorem body_field?_accountId {request : KeyRequest} (haccount : request.accountId = none) :
    request.body.field? "accountId" = none := by
  rw [field?_body, if_pos rfl, haccount]
  rfl

theorem isWritable_body (request : KeyRequest) : request.body.isWritable = true := by
  rw [body, Json.isWritable, Json.every_obj_iff]
  simp only [List.forall_mem_append, List.forall_mem_cons]
  refine ⟨⟨⟨⟨?_, Json.every_map (fun _ => rfl) _, rfl, List.forall_mem_nil _⟩,
    Json.every_entry_iff.mpr fun duration _ => duration.isWritable_toJson⟩, ?_⟩, ?_⟩
  all_goals exact Json.every_entry_iff.mpr fun _ _ => rfl

/-- No text of a request is broken, whatever account it is made for. -/
structure IsWhole (request : KeyRequest) : Prop where
  name : request.name.isWhole = true
  bucketId : ∀ bucketId ∈ request.bucketId, bucketId.isWhole = true
  namePrefix : ∀ namePrefix ∈ request.namePrefix, namePrefix.isWhole = true

theorem isWhole_body_forAccount_iff {request : KeyRequest} {accountId : String} :
    (request.forAccount accountId).body.isWhole = true ↔ request.IsWhole := by
  have hcapabilities : (Json.arr (request.capabilities.map fun capability =>
      .str capability.name)).isWhole = true := Json.every_map (fun _ => rfl) _
  rw [body, Json.isWhole, Json.every_obj_iff]
  simp only [List.forall_mem_append, List.forall_mem_cons, Json.every_entry_iff, forAccount]
  constructor
  · rintro ⟨⟨⟨⟨-, -, hname, -⟩, -⟩, hbucket⟩, hprefix⟩
    exact ⟨hname, hbucket, hprefix⟩
  · rintro ⟨hname, hbucket, hprefix⟩
    refine ⟨⟨⟨⟨?_, hcapabilities, hname, List.forall_mem_nil _⟩, fun _ _ => rfl⟩, hbucket⟩, hprefix⟩
    rintro _ ⟨⟩
    rfl

end BucketAccess.KeyRequest

import BucketAccess.Key.Request
import BucketAccess.Proofs.Duration
import BucketAccess.Proofs.Json.Table

/-!
# The body of a request for a key

The body carries the table of the fields of the request, each under its name on
the wire, and reading it gives the request back, whatever duration it holds.
-/

namespace BucketAccess

/-- The fields of a request for a key. -/
inductive KeyField where
  | accountId
  | capabilities
  | name
  | duration
  | bucketId
  | namePrefix
deriving DecidableEq

namespace KeyField

/-- The names of a field. -/
def fieldName : KeyField → Json.FieldName
  | .accountId => KeyRequest.accountIdField
  | .capabilities => KeyRequest.capabilitiesField
  | .name => KeyRequest.nameField
  | .duration => KeyRequest.durationField
  | .bucketId => KeyRequest.bucketIdField
  | .namePrefix => KeyRequest.namePrefixField

/-- The fields in the order in which they are sent. -/
def layout : Json.Layout KeyField where
  fields := [.accountId, .capabilities, .name, .duration, .bucketId, .namePrefix]
  wire field := field.fieldName.wire
  plain field := field.fieldName.plain
  mem_fields field := by cases field <;> decide
  nodup_fields := by decide
  wire_injective left right heq := by
    cases left <;> cases right <;> first | rfl | exact absurd heq (by decide)
  plain_ne_wire field other := by cases field <;> cases other <;> decide

end KeyField

namespace KeyRequest

/-- What a request says in a field, as it is sent, if the field is set. -/
def said (request : KeyRequest) : KeyField → Option Json
  | .accountId => request.accountId.map .str
  | .capabilities =>
      some (.arr (request.capabilities.map fun capability => .str capability.name))
  | .name => some (.str request.name)
  | .duration => request.duration.map Duration.toJson
  | .bucketId => request.bucketId.map .str
  | .namePrefix => request.namePrefix.map .str

theorem isWritten_said {request : KeyRequest} {field : KeyField} {value : Json}
    (hsaid : request.said field = some value) : value.IsWritten := by
  cases field with
  | capabilities =>
      obtain rfl := Option.some.inj hsaid
      exact .texts _ _
  | name =>
      obtain rfl := Option.some.inj hsaid
      exact .text _
  | duration =>
      obtain ⟨duration, -, rfl⟩ := Option.map_eq_some_iff.mp hsaid
      exact .count _
  | _ =>
      obtain ⟨text, -, rfl⟩ := Option.map_eq_some_iff.mp hsaid
      exact .text _

theorem body_eq (request : KeyRequest) :
    request.body = .obj (KeyField.layout.entries request.said) := by
  simp only [body, Json.Layout.entries, KeyField.layout, List.flatMap_cons, List.flatMap_nil,
    List.append_nil, List.append_assoc, said, Json.entry_map]
  rfl

/-- Each field is read from its own entry. -/
theorem ofFields_eq_sound_iff {room : Nat} {fields : List (String × Json)} {request : KeyRequest} :
    ofFields room fields = .sound request ↔
      Json.optional accountIdField Json.readText fields = .sound request.accountId ∧
      Json.required capabilitiesField (Json.readList Json.readCapability) fields =
        .sound request.capabilities ∧
      Json.required nameField Json.readText fields = .sound request.name ∧
      Json.optional durationField (Json.readDuration room) fields = .sound request.duration ∧
      Json.optional bucketIdField Json.readText fields = .sound request.bucketId ∧
      Json.optional namePrefixField Json.readText fields = .sound request.namePrefix := by
  simp only [ofFields, Checked.seq_eq_sound_iff, Checked.map_eq_sound_iff]
  constructor
  · rintro ⟨_, ⟨_, ⟨_, ⟨_, ⟨_, ⟨_, haccount, rfl⟩, _, hcapabilities, rfl⟩, _, hname, rfl⟩, _,
      hduration, rfl⟩, _, hbucket, rfl⟩, _, hprefix, rfl⟩
    exact ⟨haccount, hcapabilities, hname, hduration, hbucket, hprefix⟩
  · rintro ⟨haccount, hcapabilities, hname, hduration, hbucket, hprefix⟩
    exact ⟨_, ⟨_, ⟨_, ⟨_, ⟨_, ⟨_, haccount, rfl⟩, _, hcapabilities, rfl⟩, _, hname, rfl⟩, _,
      hduration, rfl⟩, _, hbucket, rfl⟩, _, hprefix, rfl⟩

/-- Reading the body of a request gives the request. -/
theorem reading_body (room : Nat) (request : KeyRequest) :
    (kind room).reading request.body = .sound request := by
  have hcarries := KeyField.layout.carries_entries request.said
  rw [body_eq]
  change ofFields _ _ = _
  apply ofFields_eq_sound_iff.mpr
  refine ⟨?_, ?_, ?_, ?_, ?_, ?_⟩
  · exact hcarries.optional_eq_sound .accountId rfl fun _ => rfl
  · exact hcarries.required_eq_sound .capabilities rfl
      (Json.readList_map Json.readCapability_name _)
  · exact hcarries.required_eq_sound .name rfl rfl
  · exact hcarries.optional_eq_sound .duration rfl (Duration.readNullable_toJson room)
  · exact hcarries.optional_eq_sound .bucketId rfl fun _ => rfl
  · exact hcarries.optional_eq_sound .namePrefix rfl fun _ => rfl

end KeyRequest

end BucketAccess

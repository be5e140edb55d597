import BucketAccess.Download.Request
import BucketAccess.Proofs.Duration
import BucketAccess.Proofs.Json.Table

/-!
# The body of a request for a download authorization

The body carries the table of the fields of the request, each under its name on
the wire, and reading it gives the request back, whatever duration it holds.
-/

namespace BucketAccess

/-- The fields of a request for a download authorization. -/
inductive DownloadField where
  | bucketId
  | fileNamePrefix
  | duration
  | disposition
  | language
  | expires
  | cacheControl
  | encoding
  | contentType
deriving DecidableEq

namespace DownloadField

/-- The names of a field. -/
def fieldName : DownloadField → Json.FieldName
  | .bucketId => DownloadRequest.bucketIdField
  | .fileNamePrefix => DownloadRequest.fileNamePrefixField
  | .duration => DownloadRequest.durationField
  | .disposition => DownloadRequest.dispositionField
  | .language => DownloadRequest.languageField
  | .expires => DownloadRequest.expiresField
  | .cacheControl => DownloadRequest.cacheControlField
  | .encoding => DownloadRequest.encodingField
  | .contentType => DownloadRequest.contentTypeField

/-- The fields in the order in which they are sent. -/
def layout : Json.Layout DownloadField where
  fields := [.bucketId, .fileNamePrefix, .duration, .disposition, .language, .expires,
    .cacheControl, .encoding, .contentType]
  wire field := field.fieldName.wire
  plain field := field.fieldName.plain
  mem_fields field := by cases field <;> decide
  nodup_fields := by decide
  wire_injective left right heq := by
    cases left <;> cases right <;> first | rfl | exact absurd heq (by decide)
  plain_ne_wire field other := by cases field <;> cases other <;> decide

end DownloadField

namespace DownloadRequest

/-- What a request says in a field, as it is sent, if the field is set. -/
def said (request : DownloadRequest) : DownloadField → Option Json
  | .bucketId => some (.str request.bucketId)
  | .fileNamePrefix => some (.str request.fileNamePrefix)
  | .duration => some request.duration.toJson
  | .disposition => request.disposition.map .str
  | .language => request.language.map .str
  | .expires => request.expires.map .str
  | .cacheControl => request.cacheControl.map .str
  | .encoding => request.encoding.map .str
  | .contentType => request.contentType.map .str

theorem isWritten_said {request : DownloadRequest} {field : DownloadField} {value : Json}
    (hsaid : request.said field = some value) : value.IsWritten := by
  cases field with
  | bucketId | fileNamePrefix =>
      obtain rfl := Option.some.inj hsaid
      exact .text _
  | duration =>
      obtain rfl := Option.some.inj hsaid
      exact .count _
  | _ =>
      obtain ⟨text, -, rfl⟩ := Option.map_eq_some_iff.mp hsaid
      exact .text _

theorem body_eq (request : DownloadRequest) :
    request.body = .obj (DownloadField.layout.entries request.said) := by
  simp only [body, Json.Layout.entries, DownloadField.layout, List.flatMap_cons,
    List.flatMap_nil, List.append_nil, List.append_assoc, said, Json.entry_map]
  rfl

/-- Each field is read from its own entry. -/
theorem ofFields_eq_sound_iff {room : Nat} {fields : List (String × Json)}
    {request : DownloadRequest} :
    ofFields room fields = .sound request ↔
      Json.required bucketIdField Json.readText fields = .sound request.bucketId ∧
      Json.required fileNamePrefixField Json.readText fields = .sound request.fileNamePrefix ∧
      Json.required durationField (Json.readDuration room) fields = .sound request.duration ∧
      Json.optional dispositionField Json.readText fields = .sound request.disposition ∧
      Json.optional languageField Json.readText fields = .sound request.language ∧
      Json.optional expiresField Json.readText fields = .sound request.expires ∧
      Json.optional cacheControlField Json.readText fields = .sound request.cacheControl ∧
      Json.optional encodingField Json.readText fields = .sound request.encoding ∧
      Json.optional contentTypeField Json.readText fields = .sound request.contentType := by
  simp only [ofFields, Checked.seq_eq_sound_iff, Checked.map_eq_sound_iff]
  constructor
  · rintro ⟨_, ⟨_, ⟨_, ⟨_, ⟨_, ⟨_, ⟨_, ⟨_, ⟨_, hbucket, rfl⟩, _, hprefix, rfl⟩, _, hduration, rfl⟩,
      _, hdisposition, rfl⟩, _, hlanguage, rfl⟩, _, hexpires, rfl⟩, _, hcache, rfl⟩, _, hencoding,
      rfl⟩, _, htype, rfl⟩
    exact ⟨hbucket, hprefix, hduration, hdisposition, hlanguage, hexpires, hcache, hencoding, htype⟩
  · rintro ⟨hbucket, hprefix, hduration, hdisposition, hlanguage, hexpires, hcache, hencoding,
      htype⟩
    exact ⟨_, ⟨_, ⟨_, ⟨_, ⟨_, ⟨_, ⟨_, ⟨_, ⟨_, hbucket, rfl⟩, _, hprefix, rfl⟩, _, hduration, rfl⟩,
      _, hdisposition, rfl⟩, _, hlanguage, rfl⟩, _, hexpires, rfl⟩, _, hcache, rfl⟩, _, hencoding,
      rfl⟩, _, htype, rfl⟩

/-- Reading the body of a request gives the request. -/
theorem reading_body (room : Nat) (request : DownloadRequest) :
    (kind room).reading request.body = .sound request := by
  have hcarries := DownloadField.layout.carries_entries request.said
  have hduration :=
    Duration.readDuration_eq_sound_iff.mpr (Duration.ofWire_toJson room request.duration)
  rw [body_eq]
  change ofFields _ _ = _
  apply ofFields_eq_sound_iff.mpr
  refine ⟨?_, ?_, ?_, ?_, ?_, ?_, ?_, ?_, ?_⟩
  · exact hcarries.required_eq_sound .bucketId rfl rfl
  · exact hcarries.required_eq_sound .fileNamePrefix rfl rfl
  · exact hcarries.required_eq_sound .duration rfl hduration
  · exact hcarries.optional_eq_sound .disposition rfl fun _ => rfl
  · exact hcarries.optional_eq_sound .language rfl fun _ => rfl
  · exact hcarries.optional_eq_sound .expires rfl fun _ => rfl
  · exact hcarries.optional_eq_sound .cacheControl rfl fun _ => rfl
  · exact hcarries.optional_eq_sound .encoding rfl fun _ => rfl
  · exact hcarries.optional_eq_sound .contentType rfl fun _ => rfl

end DownloadRequest

end BucketAccess

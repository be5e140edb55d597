import BucketAccess.Authorization
import BucketAccess.Proofs.Answer

/-!
# What an authorization is read from

Each field of an authorization is read from its own entry, and whatever is wrong with
them can be said.
-/

namespace BucketAccess.Authorization

theorem ofFields_eq_sound_iff {fields : List (String × Json)} {authorization : Authorization} :
    ofFields fields = .sound authorization ↔
      Json.required accountIdField Json.readText fields = .sound authorization.accountId ∧
      Json.required tokenField Json.readText fields = .sound authorization.token.value ∧
      Json.required allowedField (Json.readObject Allowance.ofFields) fields =
        .sound authorization.allowed ∧
      Json.required apiUrlField Json.readText fields = .sound authorization.apiUrl ∧
      Json.required downloadUrlField Json.readText fields = .sound authorization.downloadUrl ∧
      Json.required recommendedPartSizeField Json.readInteger fields =
        .sound authorization.recommendedPartSize ∧
      Json.required minimumPartSizeField Json.readInteger fields =
        .sound authorization.minimumPartSize ∧
      Json.required s3ApiUrlField Json.readText fields = .sound authorization.s3ApiUrl := by
  simp only [ofFields, Checked.seq_eq_sound_iff, Checked.map_eq_sound_iff]
  constructor
  · rintro ⟨_, ⟨_, ⟨_, ⟨_, ⟨_, ⟨_, ⟨_, ⟨_, haccount, rfl⟩, _, ⟨_, htoken, rfl⟩, rfl⟩, _, hallowed,
      rfl⟩, _, hapi, rfl⟩, _, hdownload, rfl⟩, _, hrecommended, rfl⟩, _, hminimum, rfl⟩, _, hs3,
      rfl⟩
    exact ⟨haccount, htoken, hallowed, hapi, hdownload, hrecommended, hminimum, hs3⟩
  · rintro ⟨haccount, htoken, hallowed, hapi, hdownload, hrecommended, hminimum, hs3⟩
    exact ⟨_, ⟨_, ⟨_, ⟨_, ⟨_, ⟨_, ⟨_, ⟨_, haccount, rfl⟩, _, ⟨_, htoken, rfl⟩, rfl⟩, _, hallowed,
      rfl⟩, _, hapi, rfl⟩, _, hdownload, rfl⟩, _, hrecommended, rfl⟩, _, hminimum, rfl⟩, _, hs3,
      rfl⟩

/-- Whatever is wrong with an authorization can be said. -/
theorem isShallow_kind : kind.IsShallow := by
  refine Json.isShallow_readObject fun fields => ?_
  have hallowed : Json.Reading.IsShallow (Json.readObject Allowance.ofFields) := by
    refine Json.isShallow_readObject fun fields => ?_
    simp [Allowance.ofFields, Json.isTooDeep_required, Json.isTooDeep_optional,
      Json.isShallow_readList, Json.isShallow_readCapability, Json.isShallow_readText]
  simp [ofFields, Json.isTooDeep_required, Json.isShallow_readText, Json.isShallow_readInteger,
    hallowed]

end BucketAccess.Authorization

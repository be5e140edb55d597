import BucketAccess.Proofs.Answer
import BucketAccess.Proofs.Json.Fields
import BucketAccess.Session

/-!
# Keys that are decoded once more

A key is decoded from the values of a body, or from values that have been decoded
before and stand under the plain names of the fields.  In a body, each field is read
from the entries of its own names.  What a key holds gives the same key again, so
the secret of a new key can always be split off.
-/

namespace BucketAccess

/-! ## Values of JSON that are held -/

namespace Held

variable {α : Type} {name : Json.FieldName} {fields : List (String × Json)}

theorem lookup_ofFields (key : String) :
    Json.lookup key (ofFields fields) = (Json.lookup key fields).map .plain := by
  simp only [Json.lookup, ofFields, List.find?_map, Option.map_map, Function.comp_def]

theorem find?_ofFields :
    name.find? (ofFields fields) =
      (name.find? fields).map fun found => (found.1, .plain found.2) := by
  rw [Json.FieldName.find?, Json.FieldName.find?, lookup_ofFields]
  cases Json.lookup name.wire fields with
  | some value => rfl
  | none => cases name.plain <;> simp [lookup_ofFields, Function.comp_def]

theorem required_ofFields (reading : Held → Checked α) :
    Json.required name reading (ofFields fields) =
      Json.required name (fun value => reading (.plain value)) fields := by
  rw [Json.required, find?_ofFields, Json.required]
  cases name.find? fields <;> rfl

theorem readNullable_plain (reading : Held → Checked α) (value : Json) :
    readNullable reading (.plain value) =
      Json.readNullable (fun value => reading (.plain value)) value := by
  cases value <;> rfl

theorem optional_ofFields (reading : Held → Checked α) :
    optional name reading (ofFields fields) =
      Json.optional name (fun value => reading (.plain value)) fields := by
  rw [optional, find?_ofFields, Json.optional]
  cases name.find? fields with
  | none => rfl
  | some found => simp only [Option.map_some, readNullable_plain]

/-! ## Values that have been decoded -/

theorem optional_of_find? {reading : Held → Checked α} {fields : List (String × Held)}
    {key : String} {hold : α → Held} {option : Option α}
    (hfind : name.find? fields = some (key, ofOption hold option))
    (hread : ∀ value, readNullable reading (hold value) = .sound (some value)) :
    optional name reading fields = .sound option := by
  rw [optional, hfind, Checked.within_eq_sound_iff]
  cases option with
  | none => rfl
  | some value => exact hread value

end Held

/-! ## Decoding keys -/

/-- The fields of a key in a body, each read in its own way. -/
theorem Key.ofFields_eq (fields : List (String × Json)) :
    Key.ofFields fields = Key.mk
      <$> Json.required nameField Json.readText fields
      <*> Json.required idField Json.readText fields
      <*> Json.required capabilitiesField (Json.readList Json.readCapability) fields
      <*> Json.required accountIdField Json.readText fields
      <*> Json.optional expirationField Json.readMoment fields
      <*> Json.optional bucketIdField Json.readText fields
      <*> Json.optional namePrefixField Json.readText fields
      <*> Json.optional optionsField (Json.readList Json.readText) fields := by
  simp only [Key.ofFields, Key.ofHeld, Held.required_ofFields, Held.optional_ofFields]
  rfl

/-- The fields of a key. -/
def Key.fieldNames : List Json.FieldName :=
  [nameField, idField, capabilitiesField, accountIdField, expirationField, bucketIdField,
    namePrefixField, optionsField]

/-- The names under which the fields of a key may be given. -/
def Key.names : List String := Key.fieldNames.flatMap Json.FieldName.all

theorem Key.ofFields_congr {left right : List (String × Json)}
    (hagree : Json.AgreeOn Key.names left right) : Key.ofFields left = Key.ofFields right := by
  have hfind := hagree.find?
  simp only [Key.fieldNames, List.forall_mem_cons] at hfind
  obtain ⟨hname, hid, hcapabilities, haccount, hexpiration, hbucket, hprefix, hoptions, -⟩ := hfind
  simp only [Key.ofFields_eq, Json.required, Json.optional, hname, hid, hcapabilities, haccount,
    hexpiration, hbucket, hprefix, hoptions]

theorem Key.isTooDeep_ofFields (fields : List (String × Json)) :
    (Key.ofFields fields).isTooDeep = false := by
  simp [Key.ofFields_eq, Json.isTooDeep_required, Json.isTooDeep_optional, Json.isShallow_readText,
    Json.isShallow_readList, Json.isShallow_readCapability, Json.isShallow_readMoment]

/-- Whatever is wrong with a key can be said. -/
theorem Key.isShallow_kind : Key.kind.IsShallow := Json.isShallow_readObject Key.isTooDeep_ofFields

/-- A key is decoded from what it holds, whatever form its values have. -/
theorem Key.ofHeld_held (key : Key) : Key.ofHeld key.held = .sound key := by
  have hname : Json.required nameField Held.readText key.held = .sound key.name :=
    Json.required_of_find? rfl rfl
  have hid : Json.required idField Held.readText key.held = .sound key.id :=
    Json.required_of_find? rfl rfl
  have hcapabilities : Json.required capabilitiesField Held.readCapabilities key.held =
      .sound key.capabilities := Json.required_of_find? rfl rfl
  have haccount : Json.required accountIdField Held.readText key.held = .sound key.accountId :=
    Json.required_of_find? rfl rfl
  have hexpiration : Held.optional expirationField Held.readMoment key.held =
      .sound key.expiration := Held.optional_of_find? rfl fun moment => rfl
  have hbucket : Held.optional bucketIdField Held.readText key.held = .sound key.bucketId :=
    Held.optional_of_find? rfl fun text => rfl
  have hprefix : Held.optional namePrefixField Held.readText key.held = .sound key.namePrefix :=
    Held.optional_of_find? rfl fun text => rfl
  have hoptions : Held.optional optionsField Held.readTexts key.held = .sound key.options := by
    apply Held.optional_of_find? rfl
    intro texts
    have htext : ∀ text, Json.readText (.str text) = .sound text := fun text => rfl
    rw [Held.readNullable, Held.readTexts, Json.readList_map htext]
    · rfl
    · nofun
  rw [Key.ofHeld, hname, hid, hcapabilities, haccount, hexpiration, hbucket, hprefix, hoptions]
  rfl

namespace NewKey

/-- What is left of a new key without its secret is what its key holds. -/
theorem filter_held (newKey : NewKey) :
    newKey.held.filter (fun field => field.1 ≠ secretField.own) = newKey.key.held := by
  have hother : ∀ field ∈ newKey.key.held, field.1 ≠ secretField.own := by
    simp [Key.held, Json.FieldName.own, Key.nameField, Key.idField, Key.capabilitiesField,
      Key.accountIdField, Key.expirationField, Key.bucketIdField, Key.namePrefixField,
      Key.optionsField, secretField]
  rw [held, List.filter_append, List.filter_eq_self.mpr (by simpa using hother)]
  simp

theorem isShallow_kind : kind.IsShallow := by
  refine Json.isShallow_readObject fun fields => ?_
  simp [ofFields, Key.isTooDeep_ofFields, Json.isTooDeep_required, Json.isShallow_readText]

/-- The secret can always be split off, and nothing else is lost. -/
theorem splitSecret_eq (newKey : NewKey) : newKey.splitSecret = .ok newKey.split := by
  rw [splitSecret, filter_held, Key.ofHeld_held]
  rfl

theorem read_createKey (authorization : Authorization) (request : KeyRequest) (answer : Json) :
    (authorization.createKey request).read answer = (NewKey.kind.decode answer).map split := by
  change (NewKey.kind.decode answer).bind splitSecret = _
  cases NewKey.kind.decode answer with
  | error fault => rfl
  | ok newKey => exact splitSecret_eq newKey

end NewKey

end BucketAccess

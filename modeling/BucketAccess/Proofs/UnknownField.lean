import BucketAccess.Proofs.Json.Edit
import BucketAccess.Proofs.Key.Held

/-!
# Fields that are not known

The service may add fields to its answers.  Whatever is said in fields whose names
no record knows, and in whatever order the fields come, a body turns out to be the
same: the same record, the same refusal, or neither, with the same problems in the
same places.  This also holds of the fields of what a token allows, which is a
record within a record.
-/

namespace BucketAccess

variable {left right : List (String × Json)}

/-! ## The names that records know -/

def Refusal.fieldNames : List Json.FieldName := [codeField, statusField, messageField]

def Refusal.names : List String := Refusal.fieldNames.flatMap Json.FieldName.all

def Allowance.fieldNames : List Json.FieldName :=
  [capabilitiesField, bucketIdField, bucketNameField, namePrefixField]

def Allowance.names : List String := Allowance.fieldNames.flatMap Json.FieldName.all

/-- The fields of an authorization beside what is allowed. -/
def Authorization.fieldNames : List Json.FieldName :=
  [accountIdField, tokenField, apiUrlField, downloadUrlField, recommendedPartSizeField,
    minimumPartSizeField, s3ApiUrlField]

def Authorization.names : List String :=
  allowedField.wire :: Authorization.fieldNames.flatMap Json.FieldName.all

def DownloadAuthorization.fieldNames : List Json.FieldName :=
  [bucketIdField, fileNamePrefixField, tokenField]

def DownloadAuthorization.names : List String :=
  DownloadAuthorization.fieldNames.flatMap Json.FieldName.all

def NewKey.names : List String := Key.names ++ secretField.all

/-! ## Reading by names alone -/

theorem Refusal.ofFields_congr (hagree : Json.AgreeOn Refusal.names left right) :
    Refusal.ofFields left = Refusal.ofFields right := by
  have hfind := hagree.find?
  simp only [Refusal.fieldNames, List.forall_mem_cons] at hfind
  obtain ⟨hcode, hstatus, hmessage, -⟩ := hfind
  simp only [Refusal.ofFields, Json.required, hcode, hstatus, hmessage]

theorem Allowance.ofFields_congr (hagree : Json.AgreeOn Allowance.names left right) :
    Allowance.ofFields left = Allowance.ofFields right := by
  have hfind := hagree.find?
  simp only [Allowance.fieldNames, List.forall_mem_cons] at hfind
  obtain ⟨hcapabilities, hbucket, hname, hprefix, -⟩ := hfind
  simp only [Allowance.ofFields, Json.required, Json.optional, hcapabilities, hbucket, hname,
    hprefix]

theorem Authorization.ofFields_congr
    (hagree : Json.AgreeOn (Authorization.fieldNames.flatMap Json.FieldName.all) left right)
    (hallowed : Json.required allowedField (Json.readObject Allowance.ofFields) left =
      Json.required allowedField (Json.readObject Allowance.ofFields) right) :
    Authorization.ofFields left = Authorization.ofFields right := by
  have hfind := hagree.find?
  simp only [Authorization.fieldNames, List.forall_mem_cons] at hfind
  obtain ⟨haccount, htoken, hapi, hdownload, hrecommended, hminimum, hs3, -⟩ := hfind
  rw [Authorization.ofFields, Authorization.ofFields, hallowed]
  simp only [Json.required, haccount, htoken, hapi, hdownload, hrecommended, hminimum, hs3]

theorem DownloadAuthorization.ofFields_congr
    (hagree : Json.AgreeOn DownloadAuthorization.names left right) :
    DownloadAuthorization.ofFields left = DownloadAuthorization.ofFields right := by
  have hfind := hagree.find?
  simp only [DownloadAuthorization.fieldNames, List.forall_mem_cons] at hfind
  obtain ⟨hbucket, hprefix, htoken, -⟩ := hfind
  simp only [DownloadAuthorization.ofFields, Json.required, hbucket, hprefix, htoken]

theorem NewKey.ofFields_congr (hagree : Json.AgreeOn NewKey.names left right) :
    NewKey.ofFields left = NewKey.ofFields right := by
  have hkey : Key.ofFields left = Key.ofFields right :=
    Key.ofFields_congr fun name hname => hagree name (List.mem_append_left _ hname)
  have hagreeSecret : Json.AgreeOn secretField.all left right :=
    fun name hname => hagree name (List.mem_append_right _ hname)
  rw [NewKey.ofFields, NewKey.ofFields, hkey, Json.required_congr hagreeSecret]

/-! ## Edits of answers -/

/-- What a body turns out to be depends on its two readings only. -/
theorem RecordKind.parse_congr {α : Type} {kind : RecordKind α} {said other : Json}
    (hrecord : kind.reading said = kind.reading other)
    (hrefusal : Refusal.reading said = Refusal.reading other) :
    kind.parse said = kind.parse other := by
  rw [RecordKind.parse, RecordKind.parse, hrecord, hrefusal]

/-- However often a body is edited, it turns out to be the same. -/
def RecordKind.Overlooks {α : Type} (kind : RecordKind α)
    (edit : List (String × Json) → List (String × Json) → Prop) : Prop :=
  ∀ left right, Relation.ReflTransGen edit left right →
    kind.parse (.obj left) = kind.parse (.obj right)

/-- It is enough that one edit is overlooked. -/
theorem RecordKind.overlooks_of_step {α : Type} {kind : RecordKind α}
    {edit : List (String × Json) → List (String × Json) → Prop}
    (hstep : ∀ left right, edit left right → kind.parse (.obj left) = kind.parse (.obj right)) :
    kind.Overlooks edit := by
  intro left right hedits
  induction hedits with
  | refl => rfl
  | tail hedits hedit ih => exact ih.trans (hstep _ _ hedit)

/-- Edits that concern no name of a record and none of a refusal are overlooked. -/
theorem RecordKind.overlooks_edit {α : Type} {names : List String}
    {ofFields : List (String × Json) → Checked α} (name : String)
    (hcongr : ∀ {left right}, Json.AgreeOn names left right → ofFields left = ofFields right) :
    RecordKind.Overlooks ⟨name, Json.readObject ofFields⟩ (Json.Edit (names ++ Refusal.names)) := by
  apply overlooks_of_step
  intro left right hedit
  apply parse_congr
  · exact hcongr fun key hkey => hedit.agreeOn key (List.mem_append_left _ hkey)
  · exact Refusal.ofFields_congr fun key hkey => hedit.agreeOn key (List.mem_append_right _ hkey)

/-- One edit of the answer to a login: of its own entries, or of the entries of what
the token allows. -/
inductive Authorization.Edit : List (String × Json) → List (String × Json) → Prop where
  | entries {left right : List (String × Json)}
      (hedit : Json.Edit (Authorization.names ++ Refusal.names) left right) : Edit left right
  | allowed {before after inner inner' : List (String × Json)}
      (hedit : Json.Edit Allowance.names inner inner') :
      Edit (before ++ (allowedField.wire, .obj inner) :: after)
        (before ++ (allowedField.wire, .obj inner') :: after)

theorem Authorization.required_allowed {before after inner inner' : List (String × Json)}
    (hedit : Json.Edit Allowance.names inner inner') :
    Json.required allowedField (Json.readObject Allowance.ofFields)
        (before ++ (allowedField.wire, .obj inner) :: after) =
      Json.required allowedField (Json.readObject Allowance.ofFields)
        (before ++ (allowedField.wire, .obj inner') :: after) := by
  have hinner := Allowance.ofFields_congr hedit.agreeOn
  simp only [Json.required, Json.FieldName.find?, Json.lookup_append, Json.lookup_cons, if_true]
  cases Json.lookup allowedField.wire before with
  | some value => rfl
  | none => simp only [Option.none_or, Json.readObject, hinner]

theorem Authorization.overlooks_edit : Authorization.kind.Overlooks Authorization.Edit := by
  apply RecordKind.overlooks_of_step
  intro left right hedit
  cases hedit with
  | entries hedit =>
      have hagree := hedit.agreeOn
      apply RecordKind.parse_congr
      · apply Authorization.ofFields_congr
        · intro key hkey
          exact hagree key (List.mem_append_left _ (List.mem_cons_of_mem _ hkey))
        · apply Json.required_congr
          intro key hkey
          obtain rfl := List.mem_singleton.mp hkey
          exact hagree allowedField.wire (by simp [Authorization.names])
      · exact Refusal.ofFields_congr fun key hkey => hagree key (List.mem_append_right _ hkey)
  | @allowed before after inner inner' hedit =>
      have hothers : ∀ key, allowedField.wire ≠ key →
          Json.lookup key (before ++ (allowedField.wire, .obj inner) :: after) =
            Json.lookup key (before ++ (allowedField.wire, .obj inner') :: after) := by
        intro key hkey
        rw [Json.lookup_insert_of_ne hkey, Json.lookup_insert_of_ne hkey]
      apply RecordKind.parse_congr
      · apply Authorization.ofFields_congr _ (required_allowed hedit)
        intro key hkey
        apply hothers
        revert key
        decide
      · apply Refusal.ofFields_congr
        intro key hkey
        apply hothers
        revert key
        decide

/-- For every record that is promised, edits of a body that concern none of the names
of the record, none of those of a refusal and, in the answer to a login, none of
those of what is allowed, leave what the body turns out to be as it is. -/
theorem unknown_fields_never_matter :
    Authorization.kind.Overlooks Authorization.Edit ∧
    NewKey.kind.Overlooks (Json.Edit (NewKey.names ++ Refusal.names)) ∧
    Key.kind.Overlooks (Json.Edit (Key.names ++ Refusal.names)) ∧
    DownloadAuthorization.kind.Overlooks
      (Json.Edit (DownloadAuthorization.names ++ Refusal.names)) :=
  ⟨Authorization.overlooks_edit, RecordKind.overlooks_edit _ NewKey.ofFields_congr,
    RecordKind.overlooks_edit _ Key.ofFields_congr,
    RecordKind.overlooks_edit _ DownloadAuthorization.ofFields_congr⟩

/-- An answer to a login, with the entries of what is allowed. -/
def grant (allowed : List (String × Json)) : List (String × Json) :=
  [("accountId", .str "abcdefg"), ("authorizationToken", .str "tok"),
    ("apiUrl", .str "https://api.test"), ("downloadUrl", .str "https://f000.test"),
    ("recommendedPartSize", .int 100000000), ("absoluteMinimumPartSize", .int 5000000),
    ("s3ApiUrl", .str "https://s3.test")] ++ [("allowed", .obj allowed)]

theorem unknown_fields_never_matter_nested :
    Authorization.Edit (grant [("capabilities", .arr [])])
        (grant [("capabilities", .arr []), ("regions", .arr [.str "eu"])]) ∧
      Authorization.kind.parse (.obj (grant [("capabilities", .arr [])])) =
        Authorization.kind.parse
          (.obj (grant [("capabilities", .arr []), ("regions", .arr [.str "eu"])])) := by
  have hinner : Json.Edit Allowance.names ([("capabilities", .arr [])] ++ [])
      ([("capabilities", .arr [])] ++ [("regions", .arr [.str "eu"])]) := .add (by decide)
  have hedit : Authorization.Edit (grant [("capabilities", .arr [])])
      (grant [("capabilities", .arr []), ("regions", .arr [.str "eu"])]) := .allowed hinner
  exact ⟨hedit, unknown_fields_never_matter.1 _ _ (.single hedit)⟩

end BucketAccess

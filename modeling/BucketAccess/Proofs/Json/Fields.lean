import BucketAccess.Json.Decoding

/-!
# Values and their fields

What can be said of a value from its parts: which values stand in it, what its
fields are, and whether JSON can carry it.
-/

namespace BucketAccess.Json

variable {name : String} {fields : List (String × Json)}

/-- A value stands somewhere in another. -/
inductive Occurs (inner : Json) : Json → Prop where
  | here : Occurs inner inner
  | item {items : List Json} {item : Json} (hmem : item ∈ items)
      (hitem : Occurs inner item) : Occurs inner (.arr items)
  | entry {fields : List (String × Json)} {name : String} {value : Json}
      (hmem : (name, value) ∈ fields) (hvalue : Occurs inner value) :
      Occurs inner (.obj fields)

theorem not_occurs_null_str (text : Loose) : ¬ Occurs .null (.str text) := by
  rintro ⟨⟩

theorem not_occurs_null_int (number : Int) : ¬ Occurs .null (.int number) := by
  rintro ⟨⟩

theorem not_occurs_null_names (capabilities : List Capability) :
    ¬ Occurs .null (.arr (capabilities.map fun capability => .str capability.name)) := by
  rintro (_ | ⟨hmem, hitem⟩)
  obtain ⟨capability, -, rfl⟩ := List.mem_map.mp hmem
  exact not_occurs_null_str _ hitem

/-! ## Fields -/

theorem lookup_append (left right : List (String × Json)) :
    lookup name (left ++ right) = (lookup name left).or (lookup name right) := by
  simp [lookup, List.find?_append, Option.map_or]

theorem lookup_cons (field : String × Json) :
    lookup name (field :: fields) =
      if field.1 = name then some field.2 else lookup name fields := by
  by_cases heq : field.1 = name <;> simp [lookup, heq]

/-- An entry is not lost with others. -/
theorem lookup_filter {p : String → Prop} [DecidablePred p] (hname : p name)
    (fields : List (String × Json)) :
    lookup name (fields.filter fun field => p field.1) = lookup name fields := by
  rw [lookup, List.find?_filter, lookup]
  congr 2
  funext field
  by_cases hfield : field.1 = name
  · simp [hfield, hname]
  · simp [hfield]

section Entry

variable {α : Type} {field : FieldName} {write : α → Json} {option : Option α}

theorem mem_entry_iff {given : String × Json} :
    given ∈ entry field write option ↔
      ∃ value, option = some value ∧ given = (field.wire, write value) := by
  cases option <;> simp [entry]

theorem lookup_entry :
    lookup name (entry field write option) =
      if field.wire = name then option.map write else none := by
  cases option with
  | none => simp [entry, lookup]
  | some value => rw [entry, lookup_cons, Option.map_some]; rfl

end Entry

/-! ## Objects that agree -/

/-- The names under which a field may be given. -/
def FieldName.all (name : FieldName) : List String := name.wire :: name.plain.toList

/-- Two objects have the same values under some names. -/
def AgreeOn (names : List String) (left right : List (String × Json)) : Prop :=
  ∀ key ∈ names, lookup key left = lookup key right

section Agree

variable {α : Type} {field : FieldName} {reading : Reading α} {left right : List (String × Json)}

theorem find?_congr (hagree : AgreeOn field.all left right) :
    field.find? left = field.find? right := by
  rw [FieldName.find?, FieldName.find?, hagree field.wire List.mem_cons_self]
  cases hname : field.plain with
  | none => rfl
  | some plain =>
      have hplain : plain ∈ field.all := by simp [FieldName.all, hname]
      rw [Option.bind_some, Option.bind_some, hagree plain hplain]

/-- A field is read from the entries of its own names. -/
theorem required_congr (hagree : AgreeOn field.all left right) :
    required field reading left = required field reading right := by
  rw [required, required, find?_congr hagree]

/-- Objects that agree on all names of some fields have the same entries for each of
them. -/
theorem AgreeOn.find? {names : List FieldName}
    (hagree : AgreeOn (names.flatMap FieldName.all) left right) :
    ∀ name ∈ names, name.find? left = name.find? right := by
  intro name hname
  apply find?_congr
  intro key hkey
  exact hagree key (List.mem_flatMap.mpr ⟨name, hname, hkey⟩)

end Agree

/-! ## Checks on every part -/

section Every

variable {check : Json → Bool}

theorem every_arr_iff {items : List Json} :
    (Json.arr items).every check = true ↔ ∀ item ∈ items, item.every check = true := by
  rw [every]
  induction items with
  | nil => simp [everyItem]
  | cons item items ih => simp [everyItem, ih]

theorem every_obj_iff :
    (Json.obj fields).every check = true ↔ ∀ field ∈ fields, field.2.every check = true := by
  rw [every]
  induction fields with
  | nil => simp [everyField]
  | cons field fields ih => simp [everyField, ih]

theorem every_map {α : Type} {write : α → Json} (hwrite : ∀ value, (write value).every check = true)
    (values : List α) : (Json.arr (values.map write)).every check = true := by
  rw [every_arr_iff]
  intro item hmem
  obtain ⟨value, -, rfl⟩ := List.mem_map.mp hmem
  exact hwrite value

theorem every_entry_iff {α : Type} {field : FieldName} {write : α → Json} {option : Option α} :
    (∀ given ∈ entry field write option, given.2.every check = true) ↔
      ∀ value ∈ option, (write value).every check = true := by
  constructor
  · intro hgiven value hvalue
    exact hgiven _ (mem_entry_iff.mpr ⟨value, hvalue, rfl⟩)
  · intro hwrite given hmem
    obtain ⟨value, hvalue, rfl⟩ := mem_entry_iff.mp hmem
    exact hwrite value hvalue

end Every

section Weaker

variable {check weaker : Json → Bool}

mutual

/-- What passes a check passes every weaker one. -/
theorem every_imp (himplies : ∀ value, check value = true → weaker value = true) :
    {value : Json} → value.every check = true → value.every weaker = true
  | .null, hcheck | .bool _, hcheck | .int _, hcheck | .float _, hcheck | .str _, hcheck =>
      himplies _ hcheck
  | .arr _, hcheck => everyItem_imp himplies hcheck
  | .obj _, hcheck => everyField_imp himplies hcheck

theorem everyItem_imp (himplies : ∀ value, check value = true → weaker value = true) :
    {items : List Json} → everyItem check items = true → everyItem weaker items = true
  | [], _ => rfl
  | _ :: _, hcheck => by
      obtain ⟨hitem, hitems⟩ := Bool.and_eq_true_iff.mp hcheck
      exact Bool.and_eq_true_iff.mpr ⟨every_imp himplies hitem, everyItem_imp himplies hitems⟩

theorem everyField_imp (himplies : ∀ value, check value = true → weaker value = true) :
    {fields : List (String × Json)} → everyField check fields = true →
      everyField weaker fields = true
  | [], _ => rfl
  | (_, _) :: _, hcheck => by
      obtain ⟨hfield, hfields⟩ := Bool.and_eq_true_iff.mp hcheck
      exact Bool.and_eq_true_iff.mpr ⟨every_imp himplies hfield, everyField_imp himplies hfields⟩

end

end Weaker

/-- What can be written can be read. -/
theorem isReadable_of_isWritable {value : Json} (hwritable : value.isWritable = true) :
    value.isReadable = true := by
  refine every_imp ?_ hwritable
  intro value hvalue
  cases value with
  | int number => exact hvalue
  | _ => rfl

end BucketAccess.Json

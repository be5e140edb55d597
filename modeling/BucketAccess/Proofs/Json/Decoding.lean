import BucketAccess.Json.Decoding

/-!
# Results of decoding

A record decodes exactly when each of its fields does.  These lemmas take the
result of decoding a record apart into the results for its fields, so that a
proof about a record never opens the collecting of problems.
-/

namespace BucketAccess

namespace Checked

variable {α β : Type}

@[simp]
theorem map_eq_sound_iff {change : α → β} {checked : Checked α} {result : β} :
    change <$> checked = .sound result ↔
      ∃ value, checked = .sound value ∧ change value = result := by
  change Checked.map change checked = .sound result ↔ _
  cases checked <;> simp [Checked.map]

@[simp]
theorem seq_eq_sound_iff {change : Checked (α → β)} {checked : Checked α} {result : β} :
    change <*> checked = .sound result ↔
      ∃ apply, change = .sound apply ∧
        ∃ value, checked = .sound value ∧ apply value = result := by
  change Checked.apply change checked = .sound result ↔ _
  cases change <;> cases checked <;> simp [Checked.apply]

/-- Seeing a result from further out changes only where its problems lie. -/
@[simp]
theorem within_eq_sound_iff {step : Step} {checked : Checked α} {value : α} :
    checked.within step = .sound value ↔ checked = .sound value := by
  cases checked <;> simp [within]

@[simp]
theorem isTooDeep_map {change : α → β} {checked : Checked α} :
    (change <$> checked).isTooDeep = checked.isTooDeep := by
  cases checked <;> rfl

@[simp]
theorem isTooDeep_seq {change : Checked (α → β)} {checked : Checked α} :
    (change <*> checked).isTooDeep = (change.isTooDeep || checked.isTooDeep) := by
  change (Checked.apply change checked).isTooDeep = _
  cases change <;> cases checked <;> simp [Checked.apply, isTooDeep]

@[simp]
theorem isTooDeep_within {step : Step} {checked : Checked α} :
    (checked.within step).isTooDeep = checked.isTooDeep := by
  cases checked with
  | sound value => rfl
  | flawed problems => simp only [within, isTooDeep, List.any_map]; rfl

end Checked

namespace Json

variable {α : Type}

/-! ## Values -/

/-- An optional text as a value: null when there is none. -/
def ofOptionalText (text : Option Loose) : Json := text.elim .null .str

@[simp]
theorem readText_eq_sound_iff {value : Json} {text : Loose} :
    readText value = .sound text ↔ value = .str text := by
  cases value <;> simp [readText, Checked.flaw]

@[simp]
theorem readNullable_text_eq_sound_iff {value : Json} {text : Option Loose} :
    readNullable readText value = .sound text ↔ value = ofOptionalText text := by
  cases value <;> cases text <;>
    simp [readNullable, readText, Checked.flaw, Checked.map, ofOptionalText]

theorem ofOptionalText_inj {left right : Option Loose} :
    ofOptionalText left = ofOptionalText right ↔ left = right := by
  cases left <;> cases right <;> simp [ofOptionalText]

theorem ofOptionalText_whole_inj {left right : Option String} :
    ofOptionalText (left.map .whole) = ofOptionalText (right.map .whole) ↔ left = right := by
  cases left <;> cases right <;> simp [ofOptionalText]

theorem isGiven_ofOptionalText (text : Option Loose) :
    (ofOptionalText text).isGiven = text.isSome := by
  cases text <;> rfl

theorem eq_null_of_not_isGiven {value : Json} (hgiven : ¬ value.isGiven = true) :
    value = .null := by
  cases value with
  | null => rfl
  | _ => exact absurd rfl hgiven

/-- A value, unless it is null. -/
def given? (value : Json) : Option Json := if value.isGiven then some value else none

theorem isSome_given? (value : Json) : value.given?.isSome = value.isGiven := by
  cases value <;> rfl

theorem given?_ofOptionalText (text : Option Loose) :
    (ofOptionalText text).given? = text.map .str := by
  cases text <;> rfl

/-- An optional value in the form in which it is written: null when there is none. -/
def ofOptional {α : Type} (write : α → Json) (option : Option α) : Json := option.elim .null write

theorem ofOptional_inj {α : Type} {write : α → Json} (hinjective : Function.Injective write)
    (hnull : ∀ value, write value ≠ .null) {left right : Option α} :
    ofOptional write left = ofOptional write right ↔ left = right := by
  cases left <;> cases right <;> simp [ofOptional, hnull, (hnull _).symm, hinjective.eq_iff]

theorem readCapability_name (capability : Capability) :
    readCapability (.str capability.name) = .sound capability := by
  simp only [readCapability, readWhole, Capability.ofName?_name]

/-- What is written item by item is read back if each item is. -/
theorem readList_map {reading : Reading α} {write : α → Json}
    (hwrite : ∀ value, reading (write value) = .sound value) (values : List α) :
    readList reading (.arr (values.map write)) = .sound values := by
  rw [readList]
  suffices hitems : ∀ position, readItems reading position (values.map write) = .sound values from
    hitems 0
  induction values with
  | nil =>
      intro position
      rfl
  | cons value values ih =>
      intro position
      rw [List.map_cons, readItems, hwrite, ih]
      rfl

/-! ## Fields -/

theorem required_of_find? {ν : Type} {name : FieldName} {reading : ν → Checked α}
    {fields : List (String × ν)} {key : String} {given : ν} {value : α}
    (hfind : name.find? fields = some (key, given)) (hread : reading given = .sound value) :
    required name reading fields = .sound value := by
  rw [required, hfind]
  exact Checked.within_eq_sound_iff.mpr hread

/-- A field that has no plain name. -/
theorem required_wire_eq_sound_iff {name : String} {reading : Reading α}
    {fields : List (String × Json)} {value : α} :
    required ⟨name, none⟩ reading fields = .sound value ↔
      ∃ given, lookup name fields = some given ∧ reading given = .sound value := by
  rw [required, FieldName.find?]
  cases lookup name fields <;> simp

/-- A field that has a plain name as well, which counts only when the name on the
wire is absent. -/
theorem required_plain_eq_sound_iff {wire plain : String} {reading : Reading α}
    {fields : List (String × Json)} {value : α} :
    required ⟨wire, some plain⟩ reading fields = .sound value ↔
      ∃ given, (lookup wire fields).or (lookup plain fields) = some given ∧
        reading given = .sound value := by
  rw [required, FieldName.find?]
  cases lookup wire fields with
  | some given => simp
  | none =>
      rw [Option.bind_some]
      cases lookup plain fields <;> simp

theorem optional_of_find? {name : FieldName} {reading : Reading α}
    {fields : List (String × Json)} {key : String} {given : Json} {value : Option α}
    (hfind : name.find? fields = some (key, given))
    (hread : readNullable reading given = .sound value) :
    optional name reading fields = .sound value := by
  rw [optional, hfind]
  exact Checked.within_eq_sound_iff.mpr hread

/-- A field is read from what is given under either of its names. -/
theorem optional_plain_of_given {wire plain : String} {reading : Reading α}
    {fields : List (String × Json)} {given : Json} {value : Option α}
    (hgiven : (lookup wire fields).or (lookup plain fields) = some given) :
    optional ⟨wire, some plain⟩ reading fields = .sound value ↔
      readNullable reading given = .sound value := by
  have hfind : ∃ key, FieldName.find? ⟨wire, some plain⟩ fields = some (key, given) := by
    rw [FieldName.find?]
    cases hwire : lookup wire fields with
    | some found =>
        rw [hwire, Option.some_or] at hgiven
        obtain rfl := Option.some.inj hgiven
        exact ⟨wire, rfl⟩
    | none =>
        rw [hwire, Option.none_or] at hgiven
        exact ⟨plain, by rw [Option.bind_some, hgiven, Option.map_some]⟩
  obtain ⟨key, hfind⟩ := hfind
  rw [optional, hfind]
  exact Checked.within_eq_sound_iff

/-! ## Problems that can be shown -/

/-- Whatever a reading finds wrong with a value, the value can be shown. -/
def Reading.IsShallow (reading : Reading α) : Prop := ∀ value, (reading value).isTooDeep = false

theorem isShallow_readText : Reading.IsShallow readText := by
  intro value
  cases value <;> rfl

theorem isShallow_readNullable {reading : Reading α} (hshallow : reading.IsShallow) :
    Reading.IsShallow (readNullable reading) := by
  intro value
  cases value with
  | null => rfl
  | _ => exact Checked.isTooDeep_map.trans (hshallow _)

theorem isShallow_readList {reading : Reading α} (hshallow : reading.IsShallow) :
    Reading.IsShallow (readList reading) := by
  intro value
  cases value with
  | arr items =>
      suffices hitems : ∀ position, (readItems reading position items).isTooDeep = false from
        hitems 0
      induction items with
      | nil => exact fun _ => rfl
      | cons item items ih =>
          intro position
          rw [readItems, Checked.isTooDeep_seq, Checked.isTooDeep_map, Checked.isTooDeep_within,
            hshallow, ih]
          rfl
  | _ => rfl

theorem isTooDeep_readWhole {reading : String → Checked α} {text : Loose}
    (hshallow : ∀ text, (reading text).isTooDeep = false) :
    (readWhole reading text).isTooDeep = false := by
  cases text with
  | whole text => exact hshallow text
  | broken => rfl

theorem isShallow_readCapability : Reading.IsShallow readCapability := by
  intro value
  cases value with
  | str text =>
      refine isTooDeep_readWhole fun name => ?_
      split <;> rfl
  | _ => rfl

theorem isShallow_readInteger : Reading.IsShallow readInteger := by
  intro value
  cases value with
  | str text =>
      refine isTooDeep_readWhole fun name => ?_
      unfold readIntegerText
      split
      · rfl
      · split <;> rfl
  | float value =>
      cases value with
      | finite =>
          simp only [readInteger]
          split
          · rfl
          · split <;> rfl
      | _ => rfl
  | _ => rfl

theorem isTooDeep_ofMoment (result : Except Calendar.MomentFault Calendar.Moment) :
    (ofMoment result).isTooDeep = false := by
  cases result with
  | ok moment => rfl
  | error fault => cases fault <;> rfl

theorem isShallow_readMoment : Reading.IsShallow readMoment := by
  intro value
  cases value with
  | int value => exact isTooDeep_ofMoment _
  | float value => exact isTooDeep_ofMoment _
  | str text => exact isTooDeep_readWhole fun _ => isTooDeep_ofMoment _
  | _ => rfl

theorem isTooDeep_required {name : FieldName} {reading : Reading α}
    (hshallow : reading.IsShallow) (fields : List (String × Json)) :
    (required name reading fields).isTooDeep = false := by
  rw [required]
  split
  · exact Checked.isTooDeep_within.trans (hshallow _)
  · rfl

theorem isTooDeep_optional {name : FieldName} {reading : Reading α}
    (hshallow : reading.IsShallow) (fields : List (String × Json)) :
    (optional name reading fields).isTooDeep = false := by
  rw [optional]
  split
  · exact Checked.isTooDeep_within.trans (isShallow_readNullable hshallow _)
  · rfl

theorem isShallow_readObject {record : List (String × Json) → Checked α}
    (hshallow : ∀ fields, (record fields).isTooDeep = false) :
    Reading.IsShallow (readObject record) := by
  intro value
  cases value with
  | obj fields => exact hshallow fields
  | _ => rfl

end Json

end BucketAccess

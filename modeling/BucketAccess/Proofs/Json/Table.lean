import BucketAccess.Proofs.Json.Decoding
import BucketAccess.Proofs.Json.Fields
import Mathlib.Data.List.Nodup
import Mathlib.Data.List.Perm.Subperm

/-!
# Objects that carry a table

A table says which fields of a record have a value, and which one.  An object
carries it when it holds one entry for each of those fields, under the name of
the field, and nothing else.  The order of the entries says nothing: objects that
are equal as values carry the same table, as long as the values are texts, counts
and lists of them.
-/

namespace BucketAccess.Json

/-! ## Values that are only equal to themselves -/

/-- A text, a count, or a list of such values.  A count is also equal to the
truth value or to the number in binary format of the same size, but neither of
these is written. -/
inductive IsWritten : Json → Prop where
  | text (content : Loose) : IsWritten (.str content)
  | count (number : Int) : IsWritten (.int number)
  | list {items : List Json} (hitems : ∀ item ∈ items, IsWritten item) : IsWritten (.arr items)

theorem IsWritten.texts {α : Type} (text : α → Loose) (values : List α) :
    IsWritten (.arr (values.map fun value => .str (text value))) := by
  apply IsWritten.list
  intro item hmem
  obtain ⟨value, -, rfl⟩ := List.mem_map.mp hmem
  exact .text _

theorem IsWritten.not_occurs_null {value : Json} (hwritten : value.IsWritten) :
    ¬ Occurs .null value := by
  induction hwritten with
  | text content => exact not_occurs_null_str content
  | count number => exact not_occurs_null_int number
  | list hitems ih =>
      rintro (_ | ⟨hmem, hitem⟩)
      exact ih _ hmem hitem

theorem equalItems_iff {left right : List Json}
    (hequal : ∀ item ∈ left, ∀ other ∈ right, item.equal other = true ↔ item = other) :
    equalItems left right = true ↔ left = right := by
  induction left generalizing right with
  | nil => cases right <;> simp [equalItems]
  | cons item items ih =>
      cases right with
      | nil => simp [equalItems]
      | cons other others =>
          rw [equalItems, Bool.and_eq_true, hequal _ List.mem_cons_self _ List.mem_cons_self,
            ih fun item hitem other hother => hequal item (List.mem_cons_of_mem _ hitem) other
              (List.mem_cons_of_mem _ hother), List.cons.injEq]

/-- Written values are equal as values only when they are the same. -/
theorem IsWritten.equal_iff {left right : Json} (hleft : left.IsWritten)
    (hright : right.IsWritten) : left.equal right = true ↔ left = right := by
  induction hleft generalizing right with
  | text content => cases hright <;> simp [equal]
  | count number => cases hright <;> simp [equal]
  | list hitems ih =>
      cases hright with
      | text content => simp [equal]
      | count number => simp [equal]
      | list hothers =>
          rw [equal, Json.arr.injEq]
          apply equalItems_iff
          intro item hitem other hother
          exact ih item hitem (hothers other hother)

/-! ## Entries under distinct keys -/

section Entries

variable {entries left right : List (String × Json)} {key : String} {value : Json}

theorem lookup_eq_some_iff_mem (hnodup : (entries.map Prod.fst).Nodup) :
    lookup key entries = some value ↔ (key, value) ∈ entries := by
  induction entries with
  | nil => simp [lookup]
  | cons entry entries ih =>
      rw [List.map_cons, List.nodup_cons] at hnodup
      rw [lookup_cons, List.mem_cons]
      by_cases hkey : entry.1 = key
      · have hnot : (key, value) ∉ entries := by
          intro hmem
          exact hnodup.1 (hkey ▸ List.mem_map_of_mem hmem)
        rw [if_pos hkey, or_iff_left hnot, Option.some.injEq]
        exact ⟨fun hvalue => Prod.ext hkey.symm hvalue.symm, fun hentry => hentry ▸ rfl⟩
      · have hnot : (key, value) ≠ entry := fun hentry => hkey (hentry ▸ rfl)
        rw [if_neg hkey, or_iff_right hnot]
        exact ih hnodup.2

theorem fieldsWithin_iff :
    fieldsWithin left right = true ↔ ∀ entry ∈ left, ∃ other,
      lookup entry.1 right = some other ∧ entry.2.equal other = true := by
  induction left with
  | nil => simp [fieldsWithin]
  | cons entry left ih =>
      rcases entry with ⟨key, value⟩
      rw [fieldsWithin, Bool.and_eq_true, ih, List.forall_mem_cons]
      cases lookup key right <;> simp

/-- Each entry on the left has its like on the right, so with as many entries on
both sides the keys are the same. -/
theorem keys_perm (hleft : (left.map Prod.fst).Nodup) (hwithin : fieldsWithin left right = true)
    (hlength : left.length = right.length) :
    (left.map Prod.fst).Perm (right.map Prod.fst) := by
  have hsubset : left.map Prod.fst ⊆ right.map Prod.fst := by
    intro key hkey
    obtain ⟨entry, hentry, rfl⟩ := List.mem_map.mp hkey
    obtain ⟨value, hvalue, -⟩ := fieldsWithin_iff.mp hwithin entry hentry
    obtain ⟨found, hfound, -⟩ := Option.map_eq_some_iff.mp hvalue
    have hname := List.find?_some hfound
    simp only [decide_eq_true_eq] at hname
    exact hname ▸ List.mem_map_of_mem (List.mem_of_find?_eq_some hfound)
  apply (hleft.subperm hsubset).perm_of_length_le
  rw [List.length_map, List.length_map]
  exact Nat.le_of_eq hlength.symm

end Entries

/-! ## Tables -/

/-- An entry is written from its value, or from what the value is written as. -/
theorem entry_map {α : Type} (name : FieldName) (write : α → Json) (option : Option α) :
    entry name id (option.map write) = entry name write option := by
  cases option <;> rfl

/-- The fields of a kind of record with their names.  A field can be told by its
name on the wire, which no other field has as its plain name. -/
structure Layout (κ : Type) where
  fields : List κ
  wire : κ → String
  plain : κ → Option String
  mem_fields : ∀ field, field ∈ fields
  nodup_fields : fields.Nodup
  wire_injective : Function.Injective wire
  plain_ne_wire : ∀ field other, plain field ≠ some (wire other)

namespace Layout

variable {κ : Type} (layout : Layout κ) {given other : κ → Option Json} {body : Json}

/-- The names of a field. -/
def name (field : κ) : FieldName := ⟨layout.wire field, layout.plain field⟩

/-- An object holds exactly the entries of a table, each of them once. -/
def Carries (given : κ → Option Json) (body : Json) : Prop :=
  ∃ entries, body = .obj entries ∧ (entries.map Prod.fst).Nodup ∧
    ∀ key value, (key, value) ∈ entries ↔
      ∃ field, layout.wire field = key ∧ given field = some value

/-- The entries of a table, in the order of the fields. -/
def entries (given : κ → Option Json) : List (String × Json) :=
  layout.fields.flatMap fun field => entry (layout.name field) id (given field)

theorem mem_entries_iff {key : String} {value : Json} :
    (key, value) ∈ layout.entries given ↔
      ∃ field, layout.wire field = key ∧ given field = some value := by
  simp only [entries, List.mem_flatMap, mem_entry_iff, layout.mem_fields, true_and,
    Prod.mk.injEq, id_eq]
  apply exists_congr
  intro field
  constructor
  · rintro ⟨_, hgiven, rfl, rfl⟩
    exact ⟨rfl, hgiven⟩
  · rintro ⟨rfl, hgiven⟩
    exact ⟨value, hgiven, rfl, rfl⟩

theorem carries_entries (given : κ → Option Json) :
    layout.Carries given (.obj (layout.entries given)) := by
  refine ⟨_, rfl, ?_, fun _ _ => layout.mem_entries_iff⟩
  have hsublist :
      ((layout.entries given).map Prod.fst).Sublist (layout.fields.map layout.wire) := by
    unfold entries
    induction layout.fields with
    | nil => exact .slnil
    | cons field fields ih =>
        rw [List.flatMap_cons, List.map_append, List.map_cons]
        cases given field with
        | none => exact ih.cons _
        | some value => exact ih.cons_cons _
  exact (layout.nodup_fields.map layout.wire_injective).sublist hsublist

variable {layout}

namespace Carries

theorem field?_eq_some_iff (hcarries : layout.Carries given body) {key : String} {value : Json} :
    body.field? key = some value ↔
      ∃ field, layout.wire field = key ∧ given field = some value := by
  obtain ⟨entries, rfl, hnodup, hentries⟩ := hcarries
  exact (lookup_eq_some_iff_mem hnodup).trans (hentries key value)

/-- What is found under the name of a field is what the table gives for it. -/
theorem field?_wire (hcarries : layout.Carries given body) (field : κ) :
    body.field? (layout.wire field) = given field := by
  ext value
  rw [hcarries.field?_eq_some_iff]
  constructor
  · rintro ⟨field', heq, hgiven⟩
    exact layout.wire_injective heq ▸ hgiven
  · intro hgiven
    exact ⟨field, rfl, hgiven⟩

/-- Nothing is found under the plain name of a field. -/
theorem field?_plain (hcarries : layout.Carries given body) {field : κ} {plain : String}
    (hplain : layout.plain field = some plain) : body.field? plain = none := by
  apply Option.eq_none_iff_forall_ne_some.mpr
  intro value hvalue
  obtain ⟨field', heq, -⟩ := hcarries.field?_eq_some_iff.mp hvalue
  apply layout.plain_ne_wire field field'
  rw [hplain, heq]

theorem not_occurs_null (hcarries : layout.Carries given body)
    (hgiven : ∀ field value, given field = some value → value.IsWritten) :
    ¬ Occurs .null body := by
  obtain ⟨entries, rfl, -, hentries⟩ := hcarries
  rintro (_ | _ | ⟨hmem, hvalue⟩)
  obtain ⟨field, -, hfield⟩ := (hentries _ _).mp hmem
  exact (hgiven field _ hfield).not_occurs_null hvalue

/-- Objects are equal as values exactly when they carry the same table. -/
theorem equal_iff {left right : Json} (hleft : layout.Carries given left)
    (hright : layout.Carries other right)
    (hgiven : ∀ field value, given field = some value → value.IsWritten)
    (hother : ∀ field value, other field = some value → value.IsWritten) :
    left.equal right = true ↔ given = other := by
  have hlookup := hright.field?_wire
  obtain ⟨entries, rfl, hkeys, hentries⟩ := hleft
  obtain ⟨others, rfl, hothersKeys, hothers⟩ := hright
  rw [equal, Bool.and_eq_true, decide_eq_true_eq]
  constructor
  · rintro ⟨hlength, hwithin⟩
    funext field
    cases hfield : given field with
    | some value =>
        have hmem := (hentries _ _).mpr ⟨field, rfl, hfield⟩
        obtain ⟨like, hlike, hequal⟩ := fieldsWithin_iff.mp hwithin _ hmem
        have hvalue : other field = some like := (hlookup field).symm.trans hlike
        have hsame := ((hgiven field value hfield).equal_iff (hother field like hvalue)).mp hequal
        rw [hvalue, hsame]
    | none =>
        -- An entry on the right alone would need one more entry there.
        apply Eq.symm
        apply Option.eq_none_iff_forall_ne_some.mpr
        intro value hvalue
        have hmem := List.mem_map_of_mem (f := Prod.fst) ((hothers _ _).mpr ⟨field, rfl, hvalue⟩)
        rw [← (keys_perm hkeys hwithin hlength).mem_iff] at hmem
        obtain ⟨⟨key, like⟩, hlike, rfl⟩ := List.mem_map.mp hmem
        obtain ⟨field', heq, hfield'⟩ := (hentries _ _).mp hlike
        rw [layout.wire_injective heq, hfield] at hfield'
        exact nomatch hfield'
  · rintro rfl
    constructor
    · apply List.Perm.length_eq
      apply (List.perm_ext_iff_of_nodup hkeys.of_map hothersKeys.of_map).mpr
      rintro ⟨key, value⟩
      rw [hentries, hothers]
    · apply fieldsWithin_iff.mpr
      rintro ⟨key, value⟩ hmem
      obtain ⟨field, rfl, hvalue⟩ := (hentries _ _).mp hmem
      have hwritten := hgiven field value hvalue
      exact ⟨value, (hlookup field).trans hvalue, (hwritten.equal_iff hwritten).mpr rfl⟩

/-! ### Reading a table -/

section Reading

variable {α : Type} {entries : List (String × Json)} {reading : Reading α}

/-- A field is found under its name on the wire, if at all. -/
theorem find? (hcarries : layout.Carries given (.obj entries)) (field : κ) :
    (layout.name field).find? entries = (given field).map (layout.wire field, ·) := by
  have hfield : lookup (layout.wire field) entries = given field := hcarries.field?_wire field
  rw [FieldName.find?, name, hfield]
  cases given field with
  | some value => rfl
  | none =>
      cases hsome : layout.plain field with
      | none => rfl
      | some plain =>
          have hnone : lookup plain entries = none := hcarries.field?_plain hsome
          simp [hnone]

theorem required_eq_sound (hcarries : layout.Carries given (.obj entries)) (field : κ)
    {written : Json} {value : α} (hgiven : given field = some written)
    (hread : reading written = .sound value) :
    required (layout.name field) reading entries = .sound value := by
  have hfind := hcarries.find? field
  rw [hgiven] at hfind
  exact required_of_find? hfind hread

theorem optional_eq_sound (hcarries : layout.Carries given (.obj entries)) (field : κ)
    {write : α → Json} {option : Option α} (hgiven : given field = option.map write)
    (hread : ∀ value, readNullable reading (write value) = .sound (some value)) :
    optional (layout.name field) reading entries = .sound option := by
  have hfind := hcarries.find? field
  rw [hgiven] at hfind
  cases option with
  | none =>
      rw [optional, hfind]
      rfl
  | some value => exact optional_of_find? hfind (hread value)

end Reading

end Carries

end Layout

end BucketAccess.Json

import BucketAccess.Json.Bytes
import BucketAccess.Proofs.Json.Decoding
import BucketAccess.Proofs.Json.Fields
import BucketAccess.Proofs.Outcome
import BucketAccess.Proofs.Text.Numeral

/-!
# Integers that are read

Reading refuses an integer that has too many digits, wherever it stands in a body,
and so does decoding one from a text.  An integer that comes from a body can
therefore always be shown.
-/

namespace BucketAccess.Json

open Text (isAsciiDigit leastUnshown)

/-! ## Bodies -/

section Bodies

variable {fuel room : Nat} {points rest : List Point} {value : Json}

theorem isAsciiDigit_of_mem_takeDigits (points : List Point) :
    ∀ char ∈ (takeDigits points).1, isAsciiDigit char = true := by
  fun_induction takeDigits points with
  | case1 char rest hdigit digits after hrest ih =>
      rw [hrest] at ih
      exact List.forall_mem_cons.mpr ⟨hdigit, ih⟩
  | case2 | case3 => exact List.forall_mem_nil _

theorem isAsciiDigit_of_mem_takeWhole {whole : List Char}
    (hwhole : takeWhole points = some (whole, rest)) :
    ∀ char ∈ whole, isAsciiDigit char = true := by
  unfold takeWhole at hwhole
  split at hwhole
  · obtain ⟨rfl, -⟩ := Prod.mk.inj (Option.some.inj hwhole)
    exact List.forall_mem_singleton.mpr rfl
  · split at hwhole
    · cases hwhole
    · obtain rfl := congrArg Prod.fst (Option.some.inj hwhole)
      exact isAsciiDigit_of_mem_takeDigits points

theorem natAbs_signed (negative : Bool) (number : Nat) :
    (Decimal.Binary.signed negative number).natAbs = number := by
  cases negative <;> simp [Decimal.Binary.signed]

theorem isReadable_takeNumber {negative : Bool}
    (htake : takeNumber negative points = .ok (value, rest)) : value.isReadable = true := by
  cases hwhole : takeWhole points with
  | none =>
      rw [takeNumber, hwhole] at htake
      cases htake
  | some found =>
      rw [takeNumber, hwhole] at htake
      change Except.bind (.ok found) _ = _ at htake
      simp only [Except.bind] at htake
      split at htake
      · split at htake
        · next hlength =>
            obtain ⟨rfl, -⟩ := Prod.mk.inj (Except.ok.inj htake)
            have hdigits := isAsciiDigit_of_mem_takeWhole hwhole
            exact decide_eq_true
              (natAbs_signed negative _ ▸ Text.readDigits_lt_leastUnshown hdigits hlength)
        · cases htake
      · obtain ⟨rfl, -⟩ := Prod.mk.inj (Except.ok.inj htake)
        rfl

theorem isReadable_takeAtom (htake : takeAtom points = .ok (value, rest)) :
    value.isReadable = true := by
  unfold takeAtom at htake
  split at htake
  · next found hfound =>
      obtain rfl := Except.ok.inj htake
      obtain ⟨entry, hentry, hword⟩ := List.exists_of_findSome?_eq_some hfound
      obtain ⟨after, -, heq⟩ := Option.map_eq_some_iff.mp hword
      obtain ⟨rfl, -⟩ := Prod.mk.inj heq
      have hwords : ∀ entry ∈ wordValues, entry.2.isReadable = true := by decide +kernel
      exact hwords entry hentry
  · split at htake
    · exact isReadable_takeNumber htake
    · exact isReadable_takeNumber htake

theorem mem_setField {name : String} {fields : List (String × Json)} {field : String × Json}
    (hmem : field ∈ setField name value fields) : field ∈ fields ∨ field.2 = value := by
  induction fields with
  | nil =>
      obtain rfl := List.mem_singleton.mp hmem
      exact .inr rfl
  | cons first fields ih =>
      rw [setField] at hmem
      split at hmem
      · rcases List.mem_cons.mp hmem with rfl | hrest
        · exact .inr rfl
        · exact .inl (List.mem_cons_of_mem _ hrest)
      · rcases List.mem_cons.mp hmem with rfl | hrest
        · exact .inl List.mem_cons_self
        · exact (ih hrest).imp_left (List.mem_cons_of_mem _)

/-- An object holds nothing that was not given for one of its keys. -/
theorem isReadable_ofEntries {entries : List (String × Json)}
    (hentries : ∀ entry ∈ entries, entry.2.isReadable = true) :
    (ofEntries entries).isReadable = true := by
  suffices hfields : ∀ fields : List (String × Json),
      (∀ field ∈ fields, field.2.isReadable = true) →
        ∀ field ∈ entries.foldl (fun fields entry => setField entry.1 entry.2 fields) fields,
          field.2.isReadable = true from
    every_obj_iff.mpr (hfields [] (List.forall_mem_nil _))
  induction entries with
  | nil => exact fun _ hfields => hfields
  | cons entry entries ih =>
      obtain ⟨hentry, hrest⟩ := List.forall_mem_cons.mp hentries
      intro fields hfields
      apply ih hrest
      intro field hmem
      rcases mem_setField hmem with hold | hnew
      · exact hfields field hold
      · exact hnew ▸ hentry

/-- Within some fuel nothing is read that holds too long an integer. -/
structure ReadsShort (fuel : Nat) : Prop where
  value : ∀ {room points value rest}, takeValue fuel room points = .ok (value, rest) →
    value.isReadable = true
  items : ∀ {room points items rest}, takeItems fuel room points = .ok (items, rest) →
    ∀ item ∈ items, item.isReadable = true
  entries : ∀ {room points entries rest}, takeEntries fuel room points = .ok (entries, rest) →
    ∀ entry ∈ entries, entry.2.isReadable = true

theorem ReadsShort.value_succ (hshort : ReadsShort fuel)
    (htake : takeValue (fuel + 1) room points = .ok (value, rest)) :
    value.isReadable = true := by
  rw [takeValue.eq_def] at htake
  dsimp only at htake
  split at htake
  -- a text
  · obtain ⟨read, -, heq⟩ := map_eq_ok_iff.mp htake
    obtain ⟨rfl, -⟩ := Prod.mk.inj heq
    rfl
  · cases htake
  -- an array
  · split at htake
    · obtain ⟨rfl, -⟩ := Prod.mk.inj (Except.ok.inj htake)
      rfl
    · obtain ⟨read, hread, heq⟩ := map_eq_ok_iff.mp htake
      obtain ⟨rfl, -⟩ := Prod.mk.inj heq
      exact every_arr_iff.mpr (hshort.items hread)
  · cases htake
  -- an object
  · split at htake
    · obtain ⟨rfl, -⟩ := Prod.mk.inj (Except.ok.inj htake)
      rfl
    · obtain ⟨read, hread, heq⟩ := map_eq_ok_iff.mp htake
      obtain ⟨rfl, -⟩ := Prod.mk.inj heq
      exact isReadable_ofEntries (hshort.entries hread)
  · exact isReadable_takeAtom htake

theorem ReadsShort.items_succ (hshort : ReadsShort fuel) {items : List Json}
    (htake : takeItems (fuel + 1) room points = .ok (items, rest)) :
    ∀ item ∈ items, item.isReadable = true := by
  rw [takeItems] at htake
  obtain ⟨⟨first, after⟩, hfirst, htake⟩ := bind_eq_ok_iff.mp htake
  have hitem := hshort.value hfirst
  dsimp only at htake
  split at htake
  · obtain ⟨rfl, -⟩ := Prod.mk.inj (Except.ok.inj htake)
    exact List.forall_mem_singleton.mpr hitem
  · obtain ⟨read, hread, heq⟩ := map_eq_ok_iff.mp htake
    obtain ⟨rfl, -⟩ := Prod.mk.inj heq
    exact List.forall_mem_cons.mpr ⟨hitem, hshort.items hread⟩
  · cases htake

theorem ReadsShort.entries_succ (hshort : ReadsShort fuel) {entries : List (String × Json)}
    (htake : takeEntries (fuel + 1) room points = .ok (entries, rest)) :
    ∀ entry ∈ entries, entry.2.isReadable = true := by
  rw [takeEntries.eq_def] at htake
  dsimp only at htake
  split at htake
  · obtain ⟨⟨name, afterName⟩, -, htake⟩ := bind_eq_ok_iff.mp htake
    dsimp only at htake
    split at htake
    · obtain ⟨⟨first, after⟩, hfirst, htake⟩ := bind_eq_ok_iff.mp htake
      have hvalue := hshort.value hfirst
      dsimp only at htake
      split at htake
      · obtain ⟨rfl, -⟩ := Prod.mk.inj (Except.ok.inj htake)
        exact List.forall_mem_singleton.mpr hvalue
      · obtain ⟨read, hread, heq⟩ := map_eq_ok_iff.mp htake
        obtain ⟨rfl, -⟩ := Prod.mk.inj heq
        exact List.forall_mem_cons.mpr ⟨hvalue, hshort.entries hread⟩
      · cases htake
    · cases htake
  · cases htake

theorem readsShort (fuel : Nat) : ReadsShort fuel := by
  induction fuel with
  | zero => exact ⟨nofun, nofun, nofun⟩
  | succ fuel ih => exact ⟨ih.value_succ, ih.items_succ, ih.entries_succ⟩

/-- What is read of bytes has no integer that is too long. -/
theorem isReadable_ofBytes {bytes : List UInt8} (hread : ofBytes room bytes = .ok value) :
    value.isReadable = true := by
  obtain ⟨points, -, hpoints⟩ := bind_eq_ok_iff.mp hread
  obtain ⟨⟨found, after⟩, hfound, hrest⟩ := bind_eq_ok_iff.mp hpoints
  dsimp only at hrest
  split at hrest
  · obtain rfl := Except.ok.inj hrest
    exact (readsShort _).value hfound
  · cases hrest

end Bodies

/-! ## Decoding -/

section Decoding

variable {value : Json} {number : Int}

theorem isReadable_of_field? {name : String} {said : Json} (hreadable : said.isReadable = true)
    (hfield : said.field? name = some value) : value.isReadable = true := by
  cases said with
  | obj fields =>
      obtain ⟨field, hfind, rfl⟩ := Option.map_eq_some_iff.mp hfield
      exact every_obj_iff.mp hreadable field (List.mem_of_find?_eq_some hfind)
  | _ => cases hfield

theorem isAsciiDigit_of_ungroup? {afterDigit : Bool} {chars digits : List Char}
    (hungroup : Text.ungroup? afterDigit chars = some digits) :
    ∀ char ∈ digits, isAsciiDigit char = true := by
  fun_induction Text.ungroup? afterDigit chars generalizing digits with
  | case1 =>
      obtain rfl := Option.some.inj hungroup
      exact List.forall_mem_nil _
  | case3 rest ih => exact ih hungroup
  | case5 afterDigit char rest _ hdigit ih =>
      obtain ⟨others, hothers, rfl⟩ := Option.map_eq_some_iff.mp hungroup
      exact List.forall_mem_cons.mpr ⟨hdigit, ih hothers⟩
  | case2 | case4 | case6 => cases hungroup

theorem natAbs_lt_of_readIntegerText {text : String}
    (hread : readIntegerText text = .sound number) : number.natAbs < leastUnshown := by
  unfold readIntegerText at hread
  split at hread
  · cases hread
  · next negative digits hnumeral =>
      split at hread
      · next hlength =>
          obtain rfl := Checked.sound.inj hread
          obtain ⟨whole, -, hgroup⟩ := Option.bind_eq_some_iff.mp hnumeral
          obtain ⟨found, hungroup, heq⟩ := Option.bind_eq_some_iff.mp hgroup
          obtain ⟨rfl, rfl⟩ := Prod.mk.inj (Option.some.inj heq)
          rw [natAbs_signed]
          exact Text.readDigits_lt_leastUnshown (isAsciiDigit_of_ungroup? hungroup) hlength
      · cases hread

/-- A number within 64 bits is not too long. -/
theorem natAbs_lt_of_fitsWord (hfits : fitsWord number = true) :
    number.natAbs < leastUnshown := by
  simp only [fitsWord, Bool.and_eq_true, decide_eq_true_eq] at hfits
  exact Text.lt_leastUnshown (by omega)

/-- An integer that is read from a value that can be read is not too long. -/
theorem natAbs_lt_of_readInteger (hreadable : value.isReadable = true)
    (hread : readInteger value = .sound number) : number.natAbs < leastUnshown := by
  cases value with
  | int given =>
      obtain rfl := Checked.sound.inj hread
      exact of_decide_eq_true hreadable
  | bool given =>
      obtain rfl := Checked.sound.inj hread
      exact natAbs_lt_of_fitsWord (by cases given <;> rfl)
  | float given =>
      cases given with
      | finite negative mantissa exponent =>
          simp only [readInteger] at hread
          split at hread
          · cases hread
          · split at hread
            · next hfits =>
                obtain rfl := Checked.sound.inj hread
                exact natAbs_lt_of_fitsWord hfits
            · cases hread
      | _ => cases hread
  | str text =>
      cases text with
      | whole text => exact natAbs_lt_of_readIntegerText hread
      | broken => cases hread
  | _ => cases hread

end Decoding

end BucketAccess.Json

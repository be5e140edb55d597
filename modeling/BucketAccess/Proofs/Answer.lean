import BucketAccess.Answer
import BucketAccess.Proofs.Json.Integer

/-!
# Answers that give a record

A body gives the promised record exactly when it is read as one.  A body that
gives none is a refusal, if the three fields of a refusal stand in it, or else
cannot be understood.  The status of a refusal comes from the body, and so it can
be shown.
-/

namespace BucketAccess

theorem toOption_eq_some_iff {ε α : Type} {result : Except ε α} {value : α} :
    result.toOption = some value ↔ result = .ok value := by
  cases result <;> simp [Except.toOption]

@[simp]
theorem Checked.orIllFormed_eq_ok_iff {α : Type} {checked : Checked α} {value : α} :
    checked.orIllFormed = .ok value ↔ checked = .sound value := by
  cases checked <;> simp [orIllFormed]

/-- The fields of a refusal stand in a body.  Its status may take any form that
can be read as an integer. -/
structure Refusal.StandsIn (refusal : Refusal) (said : Json) : Prop where
  code : said.field? codeField.wire = some (.str refusal.code)
  status : ∃ value, said.field? statusField.wire = some value ∧
    Json.readInteger value = .sound refusal.status
  message : said.field? messageField.wire = some (.str refusal.message)

theorem Refusal.reading_eq_sound_iff {refusal : Refusal} {said : Json} :
    Refusal.reading said = .sound refusal ↔ refusal.StandsIn said := by
  cases said with
  | obj fields =>
      change Refusal.ofFields fields = _ ↔ _
      simp only [Refusal.ofFields, Checked.seq_eq_sound_iff, Checked.map_eq_sound_iff, codeField,
        statusField, messageField, Json.required_wire_eq_sound_iff, Json.readText_eq_sound_iff]
      constructor
      · rintro ⟨_, ⟨_, ⟨code, ⟨_, hcode, rfl⟩, rfl⟩, status, hstatus, rfl⟩, message,
          ⟨_, hmessage, rfl⟩, rfl⟩
        exact ⟨hcode, hstatus, hmessage⟩
      · rintro ⟨hcode, hstatus, hmessage⟩
        exact ⟨_, ⟨_, ⟨_, ⟨_, hcode, rfl⟩, rfl⟩, _, hstatus, rfl⟩, _, ⟨_, hmessage, rfl⟩, rfl⟩
  | _ =>
      constructor
      · intro hreading
        cases hreading
      · rintro ⟨hcode, -, -⟩
        cases hcode

/-- The status of a refusal that comes from a body can be shown. -/
theorem Refusal.fault_of_standsIn {refusal : Refusal} {said : Json}
    (hreadable : said.isReadable = true) (hstands : refusal.StandsIn said) :
    refusal.fault = .refused refusal := by
  obtain ⟨status, hstatus, hread⟩ := hstands.status
  exact if_pos (Json.natAbs_lt_of_readInteger (Json.isReadable_of_field? hreadable hstatus) hread)

namespace RecordKind

variable {α : Type} {kind : RecordKind α} {body : Json}

theorem decode_eq_ok_iff {value : α} :
    kind.decode body = .ok value ↔ kind.reading body = .sound value := by
  unfold decode parse
  cases kind.reading body with
  | sound record => simp
  | flawed problems =>
      cases hdeep : problems.any Problem.isTooDeep with
      | true => simp only [hdeep, if_true, reduceCtorEq]
      | false =>
          simp only [hdeep, Bool.false_eq_true, if_false]
          cases Refusal.reading body <;> simp

/-- A kind of record none of whose fields shows what it refuses: whatever is wrong with a
body can be said. -/
def IsShallow (kind : RecordKind α) : Prop := kind.reading.IsShallow

theorem IsShallow.any_eq_false (hshallow : kind.IsShallow) {problems : List Problem}
    (hrecord : kind.reading body = .flawed problems) :
    problems.any Problem.isTooDeep = false := by
  have hshown := hshallow body
  rw [hrecord] at hshown
  exact hshown

theorem decode_of_refusal {problems : List Problem} {refusal : Refusal}
    (hshallow : kind.IsShallow) (hreadable : body.isReadable = true)
    (hrecord : kind.reading body = .flawed problems) (hrefusal : refusal.StandsIn body) :
    kind.decode body = .error (.refused refusal) := by
  simp only [decode, parse, hrecord, hshallow.any_eq_false hrecord, Bool.false_eq_true, if_false,
    Refusal.reading_eq_sound_iff.mpr hrefusal, Refusal.fault_of_standsIn hreadable hrefusal]

theorem decode_of_neither {problems : List Problem} (hshallow : kind.IsShallow)
    (hrecord : kind.reading body = .flawed problems)
    (hrefusal : ∀ refusal : Refusal, ¬ refusal.StandsIn body) :
    kind.decode body = .error (.unexpected kind.name problems) := by
  cases hreading : Refusal.reading body with
  | sound refusal => exact absurd (Refusal.reading_eq_sound_iff.mp hreading) (hrefusal refusal)
  | flawed others =>
      simp only [decode, parse, hrecord, hshallow.any_eq_false hrecord, Bool.false_eq_true,
        if_false, hreading]

/-- Reading a body fails only as a refusal or as a body that is neither. -/
theorem decode_error {fault : Fault} (hshallow : kind.IsShallow)
    (hreadable : body.isReadable = true) (hdecode : kind.decode body = .error fault) :
    (∃ refusal, fault = .refused refusal) ∨
      ∃ problems, fault = .unexpected kind.name problems := by
  cases hrecord : kind.reading body with
  | sound record =>
      rw [decode_eq_ok_iff.mpr hrecord] at hdecode
      exact nomatch hdecode
  | flawed problems =>
      by_cases hrefusal : ∃ refusal : Refusal, refusal.StandsIn body
      · obtain ⟨refusal, hstands⟩ := hrefusal
        rw [decode_of_refusal hshallow hreadable hrecord hstands] at hdecode
        exact .inl ⟨refusal, (Except.error.inj hdecode).symm⟩
      · rw [decode_of_neither hshallow hrecord (not_exists.mp hrefusal)] at hdecode
        exact .inr ⟨problems, (Except.error.inj hdecode).symm⟩

end RecordKind

end BucketAccess

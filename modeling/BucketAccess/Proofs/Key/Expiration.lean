import BucketAccess.Proofs.Calendar.Instant
import BucketAccess.Proofs.Key.Split

/-!
# When a key expires

The description of a key may give the moment at which the key expires as a number.  The
key then expires at the instant that the number stands for, if that has a date, and is
the same in all other respects.
-/

namespace BucketAccess

open Calendar (Moment maxSeconds)

namespace Key

/-! ## The entry of the expiration -/

/-- The entry of the expiration: the one under its wire name, or if there is none, the
one under its plain name. -/
def expirationEntry? (payload : Json) : Option Json :=
  (payload.field? "expirationTimestamp").or (payload.field? "expiration_timestamp")

/-- A name under which no expiration is given. -/
def IsOtherName (name : String) : Prop :=
  name ≠ "expirationTimestamp" ∧ name ≠ "expiration_timestamp"

instance : DecidablePred IsOtherName := fun _ => inferInstanceAs (Decidable (_ ∧ _))

/-- A payload without the entries of the expiration. -/
def withoutExpiration : Json → Json
  | .obj fields => .obj (fields.filter fun field => IsOtherName field.1)
  | payload => payload

section Fields

variable {fields : List (String × Json)} {field : Json.FieldName} {key : Key}

/-- Nothing is left of the expiration. -/
theorem optional_filter :
    Json.optional expirationField Json.readMoment
      (fields.filter fun field => IsOtherName field.1) = .sound none := by
  have hnone : ∀ name, ¬ IsOtherName name →
      Json.lookup name (fields.filter fun field => IsOtherName field.1) = none := by
    intro name hname
    rw [Json.lookup, Option.map_eq_none_iff, List.find?_eq_none]
    rintro field hfield heq
    obtain rfl : field.1 = name := of_decide_eq_true heq
    exact hname (of_decide_eq_true (List.mem_filter.mp hfield).2)
  rw [Json.optional, Json.FieldName.find?, expirationField, hnone _ (by decide),
    Option.bind_some, hnone _ (by decide), Option.map_none]

theorem find?_filter (hfield : ∀ name ∈ field.all, IsOtherName name) :
    field.find? (fields.filter fun field => IsOtherName field.1) = field.find? fields := by
  apply Json.find?_congr
  intro name hname
  exact Json.lookup_filter (hfield name hname) fields

/-- A key is put together from parts when each of them is sound. -/
theorem seq_eq_sound_iff {name id account : Checked Loose}
    {capabilities : Checked (List Capability)} {expiration : Checked (Option Moment)}
    {bucket start : Checked (Option Loose)} {options : Checked (Option (List Loose))} :
    Key.mk <$> name <*> id <*> capabilities <*> account <*> expiration <*> bucket <*> start <*>
        options = .sound key ↔
      name = .sound key.name ∧ id = .sound key.id ∧ capabilities = .sound key.capabilities ∧
        account = .sound key.accountId ∧ expiration = .sound key.expiration ∧
        bucket = .sound key.bucketId ∧ start = .sound key.namePrefix ∧
        options = .sound key.options := by
  simp only [Checked.seq_eq_sound_iff, Checked.map_eq_sound_iff]
  constructor
  · rintro ⟨_, ⟨_, ⟨_, ⟨_, ⟨_, ⟨_, ⟨_, ⟨_, hname, rfl⟩, _, hid, rfl⟩, _, hcapabilities, rfl⟩, _,
      haccount, rfl⟩, _, hexpiration, rfl⟩, _, hbucket, rfl⟩, _, hstart, rfl⟩, _, hoptions, rfl⟩
    exact ⟨hname, hid, hcapabilities, haccount, hexpiration, hbucket, hstart, hoptions⟩
  · rintro ⟨hname, hid, hcapabilities, haccount, hexpiration, hbucket, hstart, hoptions⟩
    exact ⟨_, ⟨_, ⟨_, ⟨_, ⟨_, ⟨_, ⟨_, ⟨_, hname, rfl⟩, _, hid, rfl⟩, _, hcapabilities, rfl⟩, _,
      haccount, rfl⟩, _, hexpiration, rfl⟩, _, hbucket, rfl⟩, _, hstart, rfl⟩, _, hoptions, rfl⟩

/-- The expiration is read from its own entry, and all else from the other entries. -/
theorem ofFields_eq_sound_iff :
    Key.ofFields fields = .sound key ↔
      Json.optional expirationField Json.readMoment fields = .sound key.expiration ∧
        Key.ofFields (fields.filter fun field => IsOtherName field.1) =
          .sound { key with expiration := none } := by
  have hnames : ∀ field ∈ fieldNames, field ≠ expirationField →
      ∀ name ∈ field.all, IsOtherName name := by decide
  have hfind : ∀ field ∈ fieldNames, field ≠ expirationField →
      field.find? (fields.filter fun field => IsOtherName field.1) = field.find? fields :=
    fun field hfield hother => find?_filter (hnames field hfield hother)
  simp only [fieldNames, List.forall_mem_cons] at hfind
  obtain ⟨hname, hid, hcapabilities, haccount, -, hbucket, hstart, hoptions, -⟩ := hfind
  rw [ofFields_eq, ofFields_eq, optional_filter, seq_eq_sound_iff, seq_eq_sound_iff]
  simp only [Json.required, Json.optional, hname (by decide), hid (by decide),
    hcapabilities (by decide), haccount (by decide), hbucket (by decide), hstart (by decide),
    hoptions (by decide)]
  tauto

end Fields

section Payloads

variable {payload : Json} {number : Int} {key : Key}

theorem readNullable_moment_int {expiration : Option Moment} :
    Json.readNullable Json.readMoment (.int number) = .sound expiration ↔
      ∃ moment, moment.Shows (Moment.instantOf number) ∧ expiration = some moment := by
  have hread : Json.readNullable Json.readMoment (.int number) =
      (Json.ofMoment (Moment.ofInt number)).map some := rfl
  simp only [hread, ← Moment.ofInt_eq_ok_iff]
  cases Moment.ofInt number <;> simp [Json.ofMoment, Checked.flaw, Checked.map, eq_comm]

theorem expiration_of_withoutExpiration
    (hreading : Key.kind.reading (withoutExpiration payload) = .sound key) :
    key.expiration = none := by
  cases payload with
  | obj fields =>
      have hsame := (ofFields_eq_sound_iff.mp hreading).1
      rw [optional_filter] at hsame
      exact (Checked.sound.inj hsame).symm
  | _ => exact nomatch hreading

/-- A key whose expiration is a number expires when the number says.  It decodes when
all else does and the number stands for an instant that has a date. -/
theorem reading_of_number (hentry : expirationEntry? payload = some (.int number)) :
    Key.kind.reading payload = .sound key ↔ ∃ plain moment,
      Key.kind.reading (withoutExpiration payload) = .sound plain ∧
        moment.Shows (Moment.instantOf number) ∧
        key = { plain with expiration := some moment } := by
  cases payload with
  | obj fields =>
      change Key.ofFields fields = _ ↔ _
      rw [ofFields_eq_sound_iff, expirationField, Json.optional_plain_of_given hentry,
        readNullable_moment_int]
      constructor
      · rintro ⟨⟨moment, hshows, hexpiration⟩, hrest⟩
        refine ⟨_, moment, hrest, hshows, ?_⟩
        rw [← hexpiration]
      · rintro ⟨plain, moment, hrest, hshows, rfl⟩
        refine ⟨⟨moment, hshows, rfl⟩, ?_⟩
        rw [← expiration_of_withoutExpiration hrest]
        exact hrest
  | _ => cases hentry

end Payloads

end Key

namespace NewKey

theorem secretValue?_withoutExpiration (payload : Json) :
    secretValue? (Key.withoutExpiration payload) = secretValue? payload := by
  cases payload with
  | obj fields =>
      have hlookup : ∀ name, Key.IsOtherName name →
          Json.lookup name (fields.filter fun field => Key.IsOtherName field.1) =
            Json.lookup name fields := fun name hname => Json.lookup_filter hname fields
      simp only [secretValue?, Key.withoutExpiration, Json.field?]
      rw [hlookup _ (by decide), hlookup _ (by decide)]
  | _ => rfl

/-- The secret has no part in when a new key expires. -/
theorem reading_of_number {payload : Json} {number : Int} {newKey : NewKey}
    (hentry : Key.expirationEntry? payload = some (.int number)) :
    NewKey.kind.reading payload = .sound newKey ↔ ∃ plain moment,
      NewKey.kind.reading (Key.withoutExpiration payload) = .sound plain ∧
        moment.Shows (Moment.instantOf number) ∧
        newKey = { plain with key := { plain.key with expiration := some moment } } := by
  simp only [reading_eq_sound_iff, secretValue?_withoutExpiration, Key.reading_of_number hentry]
  constructor
  · rintro ⟨⟨plain, moment, hplain, hshows, hkey⟩, hsecret⟩
    refine ⟨⟨plain, newKey.secret⟩, moment, ⟨hplain, hsecret⟩, hshows, ?_⟩
    rw [← hkey]
  · rintro ⟨plain, moment, ⟨hplain, hsecret⟩, hshows, rfl⟩
    exact ⟨⟨plain.key, moment, hplain, hshows, rfl⟩, hsecret⟩

end NewKey

/-! ## The whole -/

/-- A key or a new key whose expiration is given as a number decodes when it does so
without an expiration and the number stands for an instant in years 1 to 9999, and then
expires at this instant.  The number counts milliseconds from the epoch if it is zero or
too large to count seconds, and counts seconds otherwise.  In each of the units, keys
with larger numbers expire later. -/
theorem expirations_of_numbers (payload : Json) (number : Int)
    (hentry : Key.expirationEntry? payload = some (.int number)) :
    (∀ key, Key.kind.reading payload = .sound key ↔ ∃ plain moment,
      Key.kind.reading (Key.withoutExpiration payload) = .sound plain ∧
        moment.Shows (Moment.instantOf number) ∧
        key = { plain with expiration := some moment }) ∧
    (∀ newKey, NewKey.kind.reading payload = .sound newKey ↔ ∃ plain moment,
      NewKey.kind.reading (Key.withoutExpiration payload) = .sound plain ∧
        moment.Shows (Moment.instantOf number) ∧
        newKey = { plain with key := { plain.key with expiration := some moment } }) ∧
    ((∃ moment : Moment, moment.Shows (Moment.instantOf number)) ↔
      0 ≤ Moment.instantOf number ∧ Moment.instantOf number < Moment.instantEnd) ∧
    (Moment.instantOf number = Moment.millisecondsIn number ↔
      number = 0 ∨ maxSeconds < number.natAbs) ∧
    (Moment.instantOf number = Moment.secondsIn number ↔ number.natAbs ≤ maxSeconds) ∧
    ∀ later laterNumber key laterKey, Key.expirationEntry? later = some (.int laterNumber) →
      number < laterNumber →
      (number.natAbs ≤ maxSeconds ↔ laterNumber.natAbs ≤ maxSeconds) →
      Key.kind.reading payload = .sound key → Key.kind.reading later = .sound laterKey →
      ∃ moment laterMoment, key.expiration = some moment ∧
        laterKey.expiration = some laterMoment ∧ moment.instant < laterMoment.instant := by
  refine ⟨fun key => Key.reading_of_number hentry, fun newKey => NewKey.reading_of_number hentry,
    Calendar.exists_shows_iff, Moment.instantOf_eq_millisecondsIn_iff,
    Moment.instantOf_eq_secondsIn_iff, ?_⟩
  intro later laterNumber key laterKey hlater hlt hunit hkey hlaterKey
  obtain ⟨plain, moment, -, hshows, rfl⟩ := (Key.reading_of_number hentry).mp hkey
  obtain ⟨laterPlain, laterMoment, -, hlaterShows, rfl⟩ :=
    (Key.reading_of_number hlater).mp hlaterKey
  refine ⟨moment, laterMoment, rfl, rfl, ?_⟩
  rw [hshows.instant_eq, hlaterShows.instant_eq]
  exact Moment.instantOf_lt hlt hunit

/-- A description of a key that expires at a number. -/
def descriptionExpiring (number : Int) : Json :=
  .obj [("accountId", .str "abcdefg"), ("applicationKeyId", .str "id5"), ("bucketId", .null),
    ("capabilities", .arr [.str "readFiles"]), ("expirationTimestamp", .int number),
    ("keyName", .str "my-key"), ("namePrefix", .null), ("options", .arr [.str "s3"])]

/-- The key that is described. -/
def keyExpiring (moment : Moment) : Key where
  name := "my-key"
  id := "id5"
  capabilities := [.readFiles]
  accountId := "abcdefg"
  expiration := some moment
  bucketId := none
  namePrefix := none
  options := some ["s3"]

/-- The start of 2025 in milliseconds, which is before its next millisecond. -/
theorem expirations_of_numbers_newYear :
    Key.kind.reading (descriptionExpiring 1735689600000) =
        .sound (keyExpiring ⟨⟨2025, 1, 1⟩, 0, 0, 0, 0, some 0⟩) ∧
      Moment.instantOf 1735689600000 = Moment.millisecondsIn 1735689600000 ∧
      ∃ moment laterMoment,
        (keyExpiring ⟨⟨2025, 1, 1⟩, 0, 0, 0, 0, some 0⟩).expiration = some moment ∧
          (keyExpiring ⟨⟨2025, 1, 1⟩, 0, 0, 0, 1000, some 0⟩).expiration = some laterMoment ∧
          moment.instant < laterMoment.instant := by
  obtain ⟨hkey, -, -, hunit, -, hlater⟩ :=
    expirations_of_numbers (descriptionExpiring 1735689600000) 1735689600000 rfl
  have hshows : (⟨⟨2025, 1, 1⟩, 0, 0, 0, 0, some 0⟩ : Moment).Shows
      (Moment.instantOf 1735689600000) := ⟨by decide, by decide, by decide⟩
  have hreading := (hkey (keyExpiring ⟨⟨2025, 1, 1⟩, 0, 0, 0, 0, some 0⟩)).mpr
    ⟨_, _, rfl, hshows, rfl⟩
  exact ⟨hreading, hunit.mpr (.inr (by decide)),
    hlater (descriptionExpiring 1735689600001) 1735689600001 _ _ rfl (by decide) (by decide)
      hreading rfl⟩

/-- A thousand milliseconds are taken for a thousand seconds, and so 20000000000
milliseconds expire later than one millisecond more. -/
theorem moderate_numbers_count_seconds :
    (∃ key moment, Key.kind.reading (descriptionExpiring 1000) = .sound key ∧
      key.expiration = some moment ∧
      (0 ≤ Moment.millisecondsIn 1000 ∧ Moment.millisecondsIn 1000 < Moment.instantEnd) ∧
      moment.instant ≠ Moment.millisecondsIn 1000) ∧
    ∃ key laterKey moment laterMoment,
      Key.kind.reading (descriptionExpiring 20000000000) = .sound key ∧
      Key.kind.reading (descriptionExpiring 20000000001) = .sound laterKey ∧
      key.expiration = some moment ∧ laterKey.expiration = some laterMoment ∧
      laterMoment.instant < moment.instant := by
  refine ⟨⟨_, _, rfl, rfl, ⟨by decide, by decide⟩, by decide⟩, ?_⟩
  exact ⟨_, _, _, _, rfl, rfl, rfl, rfl, by decide⟩

end BucketAccess

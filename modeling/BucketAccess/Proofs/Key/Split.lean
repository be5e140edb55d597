import BucketAccess.Proofs.Key.Held

/-!
# Splitting off the secret of a key

The answer to the call that creates a key is decoded twice: once with the secret,
and once more from what was decoded without it.  The second time the values are no
longer those of JSON, and they stand under other names.  It makes no difference: the
second decoding always succeeds, and gives the key that could have been decoded from
the answer itself.
-/

namespace BucketAccess

namespace NewKey

variable {payload : Json} {newKey : NewKey}

/-! ## Where the secret stands -/

/-- The entry of the secret: the one under its wire name, or if there is none, the
one under its plain name. -/
def secretValue? (payload : Json) : Option Json :=
  (payload.field? "applicationKey").or (payload.field? "application_key")

/-- A payload decodes as a new key in two parts, neither of which looks at the
other. -/
theorem reading_eq_sound_iff :
    NewKey.kind.reading payload = .sound newKey ↔
      Key.kind.reading payload = .sound newKey.key ∧
        secretValue? payload = some (.str newKey.secret.value) := by
  cases payload with
  | obj fields =>
      change NewKey.ofFields fields = _ ↔ Key.ofFields fields = _ ∧ _
      simp only [ofFields, secretField, Checked.seq_eq_sound_iff, Checked.map_eq_sound_iff,
        Json.required_plain_eq_sound_iff, Json.readText_eq_sound_iff]
      constructor
      · rintro ⟨_, ⟨key, hkey, rfl⟩, _, ⟨secret, ⟨_, hsecret, rfl⟩, rfl⟩, rfl⟩
        exact ⟨hkey, hsecret⟩
      · rintro ⟨hkey, hsecret⟩
        exact ⟨_, ⟨_, hkey, rfl⟩, _, ⟨_, ⟨_, hsecret, rfl⟩, rfl⟩, rfl⟩
  | _ =>
      constructor
      · intro hreading
        cases hreading
      · rintro ⟨hkey, -⟩
        cases hkey

/-- A payload without the entries of the secret. -/
def withoutSecret : Json → Json
  | .obj fields =>
      .obj (fields.filter fun field => field.1 ≠ "applicationKey" ∧ field.1 ≠ "application_key")
  | payload => payload

theorem lookup_withoutSecret {key : String} (hwire : key ≠ "applicationKey")
    (hplain : key ≠ "application_key") (fields : List (String × Json)) :
    Json.lookup key (fields.filter fun field =>
      field.1 ≠ "applicationKey" ∧ field.1 ≠ "application_key") = Json.lookup key fields :=
  Json.lookup_filter (p := fun name => name ≠ "applicationKey" ∧ name ≠ "application_key")
    ⟨hwire, hplain⟩ fields

/-- No field of a key looks at the secret. -/
theorem reading_withoutSecret (payload : Json) :
    Key.kind.reading (withoutSecret payload) = Key.kind.reading payload := by
  cases payload with
  | obj fields =>
      have hothers : ∀ key ∈ Key.names, key ≠ "applicationKey" ∧ key ≠ "application_key" := by
        decide
      apply Key.ofFields_congr
      intro key hkey
      exact lookup_withoutSecret (hothers key hkey).1 (hothers key hkey).2 fields
  | _ => rfl

end NewKey

/-! ## The whole -/

/-- Splitting off the secret of a payload comes to the same as decoding the key from
it: a new key is decoded exactly when a key is and the entry of the secret is a
text, and then the secret can be split off, as that text, from that very key.  What
the secret is has no part in what the key is. -/
theorem splitting_commutes_with_decoding :
    (∀ payload,
      ((∃ newKey, NewKey.kind.reading payload = .sound newKey) ↔
        (∃ key, Key.kind.reading payload = .sound key) ∧
          ∃ secret, NewKey.secretValue? payload = some (.str secret)) ∧
      ∀ newKey, NewKey.kind.reading payload = .sound newKey →
        ∃ secret key, NewKey.secretValue? payload = some (.str secret) ∧
          Key.kind.reading payload = .sound key ∧
          newKey.splitSecret = .ok (⟨secret⟩, key) ∧
          ∀ (authorization : Authorization) (request : KeyRequest),
            (authorization.createKey request).read payload = .ok (⟨secret⟩, key)) ∧
    ∀ payload other newKey newOther,
      NewKey.withoutSecret payload = NewKey.withoutSecret other →
      NewKey.kind.reading payload = .sound newKey →
      NewKey.kind.reading other = .sound newOther →
      ∃ secret otherSecret key, newKey.splitSecret = .ok (secret, key) ∧
        newOther.splitSecret = .ok (otherSecret, key) := by
  refine ⟨fun payload => ⟨?_, ?_⟩, ?_⟩
  · constructor
    · rintro ⟨newKey, hreading⟩
      obtain ⟨hkey, hsecret⟩ := NewKey.reading_eq_sound_iff.mp hreading
      exact ⟨⟨newKey.key, hkey⟩, newKey.secret.value, hsecret⟩
    · rintro ⟨⟨key, hkey⟩, secret, hsecret⟩
      exact ⟨⟨key, ⟨secret⟩⟩, NewKey.reading_eq_sound_iff.mpr ⟨hkey, hsecret⟩⟩
  · intro newKey hreading
    obtain ⟨hkey, hsecret⟩ := NewKey.reading_eq_sound_iff.mp hreading
    refine ⟨newKey.secret.value, newKey.key, hsecret, hkey, newKey.splitSecret_eq, ?_⟩
    intro authorization request
    rw [NewKey.read_createKey, RecordKind.decode_eq_ok_iff.mpr hreading]
    rfl
  · intro payload other newKey newOther hsame hreading hother
    have hkey := (NewKey.reading_eq_sound_iff.mp hreading).1
    have hkey' := (NewKey.reading_eq_sound_iff.mp hother).1
    have heq : newKey.key = newOther.key := by
      rw [← NewKey.reading_withoutSecret, hsame, NewKey.reading_withoutSecret, hkey'] at hkey
      exact (Checked.sound.inj hkey).symm
    refine ⟨newKey.secret, newOther.secret, newKey.key, newKey.splitSecret_eq, ?_⟩
    rw [newOther.splitSecret_eq, NewKey.split, heq]

/-- An answer with names of both kinds, with a moment in another time zone, and
without a bucket.  Its secret stands under a name of either kind. -/
def mixedAnswer (name secret : String) : Json :=
  .obj [("key_name", .str "my-key"), ("applicationKeyId", .str "id5"),
    ("capabilities", .arr [.str "listFiles"]), ("account_id", .str "abcdefg"),
    ("expirationTimestamp", .str "2030-01-02T03:04:05.5+01:30"), ("namePrefix", .null),
    ("options", .arr [.str "s3"]), (name, .str secret)]

/-- The key that the answer describes. -/
def mixedKey : Key where
  name := "my-key"
  id := "id5"
  capabilities := [.listFiles]
  accountId := "abcdefg"
  expiration := some ⟨⟨2030, 1, 2⟩, 3, 4, 5, 500000, some 5400⟩
  bucketId := none
  namePrefix := none
  options := some ["s3"]

theorem splitting_commutes_with_decoding_mixed :
    NewKey.splitSecret ⟨mixedKey, ⟨"K002secret"⟩⟩ = .ok (⟨"K002secret"⟩, mixedKey) ∧
      ∃ secret otherSecret key,
        NewKey.splitSecret ⟨mixedKey, ⟨"K002secret"⟩⟩ = .ok (secret, key) ∧
          NewKey.splitSecret ⟨mixedKey, ⟨"K002other"⟩⟩ = .ok (otherSecret, key) := by
  have hreading : NewKey.kind.reading (mixedAnswer "application_key" "K002secret") =
      .sound ⟨mixedKey, ⟨"K002secret"⟩⟩ := by rfl
  have hother : NewKey.kind.reading (mixedAnswer "applicationKey" "K002other") =
      .sound ⟨mixedKey, ⟨"K002other"⟩⟩ := by rfl
  have hkey : Key.kind.reading (mixedAnswer "application_key" "K002secret") =
      .sound mixedKey := by rfl
  have hentry : NewKey.secretValue? (mixedAnswer "application_key" "K002secret") =
      some (.str "K002secret") := by rfl
  have hsame : NewKey.withoutSecret (mixedAnswer "application_key" "K002secret") =
      NewKey.withoutSecret (mixedAnswer "applicationKey" "K002other") := by rfl
  obtain ⟨secret, key, hsecret, hdescribed, hsplit, -⟩ :=
    (splitting_commutes_with_decoding.1 _).2 _ hreading
  obtain rfl := Json.str.inj (Option.some.inj (hentry.symm.trans hsecret))
  obtain rfl := Checked.sound.inj (hkey.symm.trans hdescribed)
  exact ⟨hsplit, splitting_commutes_with_decoding.2 _ _ _ _ hsame hreading hother⟩

end BucketAccess

import BucketAccess.Proofs.Download.Setting
import BucketAccess.Proofs.Key.Setting

/-!
# Settings in any order

Whoever drafts a request may make its settings in the order that suits, because
each setting minds its own field.  A draft of a key has its name checked anew
whenever a setting gives a new draft, and this changes nothing: the name is the
one that was accepted at the start.
-/

namespace BucketAccess

namespace KeyDraft

/-- A draft, with its name checked once more. -/
def recheck (draft : KeyDraft) : Except Fault KeyDraft :=
  (checkKeyName draft.name).map fun _ => draft

/-- No setting changes the name. -/
theorem name_attemptAll (draft : KeyDraft) (settings : List KeySetting) :
    (attemptAll set draft settings).name = draft.name := by
  have hheld := fillsFields.held_attemptAll draft settings .name
  have hnone : lastValue? KeySetting.field KeySetting.written? settings .name = none := by
    apply lastValue?_eq_none
    intro setting _ hfield
    cases setting <;> exact nomatch hfield
  rw [hnone] at hheld
  exact Loose.whole.inj (Json.str.inj hheld)

theorem name_of_set {draft next : KeyDraft} {setting : KeySetting}
    (hset : draft.set setting = .ok next) : next.name = draft.name := by
  have hattempt : attemptAll set draft [setting] = next := by
    simp [attemptAll, attempt, hset]
  rw [← hattempt]
  exact name_attemptAll draft [setting]

theorem recheck_of_isKeyName {draft : KeyDraft} (hname : IsKeyName draft.name) :
    draft.recheck = .ok draft := by
  rw [recheck, checkKeyName, (keyNameViolation?_eq_none_iff _).mpr hname]
  rfl

/-- Checking the name of each new draft once more changes nothing. -/
theorem set_recheck {name : String} {start : KeyDraft} (hstart : named name = .ok start)
    (settings : List KeySetting) (setting : KeySetting) :
    ((attemptAll set start settings).set setting).bind recheck =
      (attemptAll set start settings).set setting := by
  obtain ⟨hname, rfl⟩ := named_eq_ok_iff.mp hstart
  cases hset : (attemptAll set ⟨name, none, none, .null, .null⟩ settings).set setting with
  | error fault => rfl
  | ok next =>
      apply recheck_of_isKeyName
      rw [name_of_set hset, name_attemptAll]
      exact hname

end KeyDraft

/-- Settings of different fields commute, for both kinds of requests, and the
name of a key stays one that is accepted. -/
theorem settings_commute :
    SettingsCommute KeyDraft.set KeySetting.field KeyDraft.held KeyDraft.build ∧
      SettingsCommute DownloadDraft.set DownloadSetting.field DownloadDraft.held
        DownloadDraft.build ∧
      ∀ name start, KeyDraft.named name = .ok start → ∀ settings setting,
        ((attemptAll KeyDraft.set start settings).set setting).bind KeyDraft.recheck =
          (attemptAll KeyDraft.set start settings).set setting :=
  ⟨KeyDraft.fillsFields.settingsCommute _, DownloadDraft.fillsFields.settingsCommute _,
    fun _ _ hstart => KeyDraft.set_recheck hstart⟩

/-- A duration that is refused, tried before two buckets instead of between them. -/
def refusedFirst : Reordering KeySetting.field
    [.bucketId (.str "first"), .duration ⟨0, by decide, by decide⟩, .bucketId (.str "second")]
    [.duration ⟨0, by decide, by decide⟩, .bucketId (.str "first"), .bucketId (.str "second")] where
  position := Equiv.swap (0 : Fin 3) 1
  same
    | ⟨0, _⟩ => rfl
    | ⟨1, _⟩ => rfl
    | ⟨2, _⟩ => rfl
  ordered := by decide

theorem settings_commute_refusedFirst :
    verdictAt KeyDraft.set ⟨"key", none, none, .null, .null⟩
        [.duration ⟨0, by decide, by decide⟩, .bucketId (.str "first"), .bucketId (.str "second")]
        (refusedFirst.position (1 : Fin 3)) = .error (.violation .keyLastsTooShort) ∧
      attemptAll KeyDraft.set ⟨"key", none, none, .null, .null⟩
        [.duration ⟨0, by decide, by decide⟩, .bucketId (.str "first"),
          .bucketId (.str "second")] = ⟨"key", none, none, .str "second", .null⟩ ∧
      ((attemptAll KeyDraft.set ⟨"key", none, none, .null, .null⟩ []).set
        (.bucketId (.str "first"))).bind KeyDraft.recheck =
          .ok ⟨"key", none, none, .str "first", .null⟩ :=
  ⟨settings_commute.1.verdicts _ refusedFirst _, settings_commute.1.drafts _ refusedFirst,
    settings_commute.2.2 "key" _ rfl [] (.bucketId (.str "first"))⟩

end BucketAccess

import BucketAccess.Proofs.Drafting
import BucketAccess.Proofs.Key.Body
import BucketAccess.Proofs.Key.Draft

/-!
# The settings of a key

A setting of the draft of a key looks at its own value only.  It either fails, on
every draft in the same way, or it fills its field with that value.
-/

namespace BucketAccess

/-- Capabilities in the form in which they are sent. -/
def Capability.namesJson (capabilities : List Capability) : Json :=
  .arr (capabilities.map fun capability => .str capability.name)

theorem Capability.namesJson_injective : Function.Injective namesJson := by
  intro left right heq
  have hleft := capabilitiesOf_eq_ok_iff.mpr (Json.arr.inj heq)
  rw [capabilitiesOf_eq_ok_iff.mpr rfl] at hleft
  exact Except.ok.inj hleft

theorem Capability.ofOptional_namesJson_inj {left right : Option (List Capability)} :
    Json.ofOptional namesJson left = Json.ofOptional namesJson right ↔ left = right :=
  Json.ofOptional_inj namesJson_injective fun _ => by simp [namesJson]

namespace KeySetting

/-- The field that a setting fills. -/
def field : KeySetting → KeyField
  | .capabilities _ => .capabilities
  | .duration _ => .duration
  | .bucketId _ => .bucketId
  | .namePrefix _ => .namePrefix

/-- What a setting puts into its field, in the form in which it is sent, unless
it fails. -/
def written? : KeySetting → Option Json
  | .capabilities values =>
      ((values.items?.bind fun items => (capabilitiesOf items).toOption).filter (· ≠ [])).map
        Capability.namesJson
  | .duration span => (checkKeyDuration span).toOption.map Duration.toJson
  | .bucketId value => some value
  | .namePrefix value => some value

end KeySetting

namespace KeyDraft

/-- What a draft holds in a field, in the form in which it is sent; null if
nothing. -/
def held (draft : KeyDraft) : KeyField → Json
  | .accountId => .null
  | .capabilities => Json.ofOptional Capability.namesJson draft.capabilities
  | .name => .str draft.name
  | .duration => Json.ofOptional Duration.toJson draft.duration
  | .bucketId => draft.bucketId
  | .namePrefix => draft.namePrefix

/-- A draft is made up of what its fields hold. -/
theorem held_injective : Function.Injective held := by
  intro left right heq
  have hcapabilities := Capability.ofOptional_namesJson_inj.mp (congrFun heq .capabilities)
  have hname := Loose.whole.inj (Json.str.inj (congrFun heq .name))
  have hduration := Duration.ofOptional_toJson_inj.mp (congrFun heq .duration)
  have hbucket : left.bucketId = right.bucketId := congrFun heq .bucketId
  have hprefix : left.namePrefix = right.namePrefix := congrFun heq .namePrefix
  cases left
  cases right
  simp_all only

/-- A setting that has no value fails in the same way on every draft. -/
theorem set_eq_error {setting : KeySetting} (hnone : setting.written? = none) :
    ∃ fault, ∀ draft : KeyDraft, draft.set setting = .error fault := by
  cases setting with
  | capabilities values =>
      simp only [set, withCapabilities]
      cases hitems : values.items? with
      | none => exact ⟨_, fun _ => rfl⟩
      | some items =>
          dsimp only
          cases hcapabilities : capabilitiesOf items with
          | error violation => exact ⟨_, fun _ => rfl⟩
          | ok capabilities =>
              cases capabilities with
              | nil => exact ⟨_, fun _ => rfl⟩
              | cons first rest =>
                  simp [KeySetting.written?, hitems, hcapabilities, Except.toOption] at hnone
  | duration span =>
      simp only [set, expiringAfter]
      cases hduration : checkKeyDuration span with
      | error violation => exact ⟨_, fun _ => rfl⟩
      | ok duration => simp [KeySetting.written?, hduration, Except.toOption] at hnone
  | bucketId value | namePrefix value => cases hnone

/-- A setting that has a value puts it into its field and leaves the others as
they are. -/
theorem set_eq_ok {setting : KeySetting} {content : Json}
    (hsome : setting.written? = some content) (draft : KeyDraft) :
    ∃ next, draft.set setting = .ok next ∧
      next.held = Function.update draft.held setting.field content := by
  cases setting with
  | capabilities values =>
      obtain ⟨capabilities, hfilter, rfl⟩ := Option.map_eq_some_iff.mp hsome
      obtain ⟨hbind, hne⟩ := Option.filter_eq_some_iff.mp hfilter
      obtain ⟨items, hitems, hcapabilities⟩ := Option.bind_eq_some_iff.mp hbind
      have hnames := capabilitiesOf_eq_ok_iff.mp (toOption_eq_some_iff.mp hcapabilities)
      rw [hnames] at hitems
      refine ⟨_, withCapabilities_eq_ok_iff.mpr ⟨capabilities, hitems, of_decide_eq_true hne, rfl⟩,
        ?_⟩
      funext field
      cases field <;> rfl
  | duration span =>
      obtain ⟨duration, hcheck, rfl⟩ := Option.map_eq_some_iff.mp hsome
      have hspan := checkKeyDuration_eq_ok_iff.mp (toOption_eq_some_iff.mp hcheck)
      refine ⟨_, expiringAfter_eq_ok_iff.mpr ⟨duration, hspan, rfl⟩, ?_⟩
      funext field
      cases field <;> rfl
  | bucketId value | namePrefix value =>
      obtain rfl := Option.some.inj hsome
      refine ⟨_, rfl, ?_⟩
      funext field
      cases field <;> rfl

/-- Each setting of a key fills its own field. -/
theorem fillsFields : FillsFields set KeySetting.field KeySetting.written? held where
  fails := set_eq_error
  fills := set_eq_ok
  ext heq := held_injective heq

end KeyDraft

end BucketAccess

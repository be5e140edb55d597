import BucketAccess.Proofs.Download.Body
import BucketAccess.Proofs.Download.Draft
import BucketAccess.Proofs.Drafting

/-!
# The settings of a download authorization

A setting of the draft of a download authorization looks at its own value only.
It either fails, on every draft in the same way, or it fills its field with that
value in the form in which it is sent.
-/

namespace BucketAccess

theorem Download.ContentEncoding.ofJson_eq_ok_iff {value : Json}
    {encoding : Download.ContentEncoding} :
    ofJson value = .ok encoding ↔ value = .str encoding.name := by
  constructor
  · intro hvalue
    cases value with
    | str text =>
        cases text with
        | broken front first rest => cases hvalue
        | whole text =>
            cases hname : ofName? text with
            | none => simp [ofJson, hname] at hvalue
            | some found =>
                have htext := List.find?_some hname
                simp only [ofJson, hname, Except.ok.injEq] at hvalue
                rw [← of_decide_eq_true htext, hvalue]
    | _ => cases hvalue
  · rintro rfl
    cases encoding <;> rfl

instance (span : Span) : Decidable (DownloadDraft.IsDownloadSpan span) :=
  inferInstanceAs (Decidable (_ ∧ _))

namespace DownloadSetting

/-- The field that a setting fills. -/
def field : DownloadSetting → DownloadField
  | .bucketId _ => .bucketId
  | .fileNamePrefix _ => .fileNamePrefix
  | .duration _ => .duration
  | .disposition _ => .disposition
  | .language _ => .language
  | .expires _ => .expires
  | .cacheControl _ => .cacheControl
  | .encoding _ => .encoding
  | .contentType _ => .contentType

/-- What a setting puts into its field, in the form in which it is sent, unless
it fails. -/
def written? : DownloadSetting → Option Json
  | .bucketId value | .fileNamePrefix value | .language value => some value
  | .duration span =>
      if DownloadDraft.IsDownloadSpan span then some (.int (span.microseconds / 1000)) else none
  | .disposition text => some (.str text)
  | .expires moment => moment.inUtc?.map fun moment => .str moment.httpText
  | .cacheControl directives =>
      if directives = [] then none else some (.str (", ".intercalate directives))
  | .encoding (.str (.whole text)) =>
      if text ∈ Download.ContentEncoding.all.map Download.ContentEncoding.name then
        some (.str text)
      else none
  | .encoding _ => none
  | .contentType text => if Download.isMediaType text.toList then some (.str text) else none

theorem exists_encoding {value content : Json}
    (hsome : (encoding value).written? = some content) :
    ∃ encoding : Download.ContentEncoding, value = .str encoding.name ∧ content = value := by
  cases value with
  | str text =>
      cases text with
      | broken front first rest => cases hsome
      | whole text =>
          simp only [written?, Option.ite_none_right_eq_some, Option.some.injEq] at hsome
          obtain ⟨hmem, rfl⟩ := hsome
          obtain ⟨encoding, -, rfl⟩ := List.mem_map.mp hmem
          exact ⟨encoding, rfl, rfl⟩
  | _ => cases hsome

end DownloadSetting

namespace DownloadDraft

/-- What a draft holds in a field, in the form in which it is sent; null if
nothing. -/
def held (draft : DownloadDraft) : DownloadField → Json
  | .bucketId => draft.bucketId
  | .fileNamePrefix => draft.fileNamePrefix
  | .duration => Json.ofOptional Duration.toJson draft.duration
  | .disposition => Json.ofOptionalText (draft.disposition.map .whole)
  | .language => draft.language
  | .expires => Json.ofOptionalText (draft.expires.map .whole)
  | .cacheControl => Json.ofOptionalText (draft.cacheControl.map .whole)
  | .encoding => Json.ofOptionalText (draft.encoding.map .whole)
  | .contentType => Json.ofOptionalText (draft.contentType.map .whole)

/-- A draft is made up of what its fields hold. -/
theorem held_injective : Function.Injective held := by
  intro left right heq
  have hbucket : left.bucketId = right.bucketId := congrFun heq .bucketId
  have hprefix : left.fileNamePrefix = right.fileNamePrefix := congrFun heq .fileNamePrefix
  have hduration := Duration.ofOptional_toJson_inj.mp (congrFun heq .duration)
  have hdisposition := Json.ofOptionalText_whole_inj.mp (congrFun heq .disposition)
  have hlanguage : left.language = right.language := congrFun heq .language
  have hexpires := Json.ofOptionalText_whole_inj.mp (congrFun heq .expires)
  have hcache := Json.ofOptionalText_whole_inj.mp (congrFun heq .cacheControl)
  have hencoding := Json.ofOptionalText_whole_inj.mp (congrFun heq .encoding)
  have htype := Json.ofOptionalText_whole_inj.mp (congrFun heq .contentType)
  cases left
  cases right
  simp_all only

/-- A setting that has no value fails in the same way on every draft. -/
theorem set_eq_error {setting : DownloadSetting} (hnone : setting.written? = none) :
    ∃ fault, ∀ draft : DownloadDraft, draft.set setting = .error fault := by
  cases setting with
  | duration span =>
      simp only [set, validFor]
      cases hcheck : checkDownloadDuration span with
      | error violation => exact ⟨_, fun _ => rfl⟩
      | ok duration =>
          have hspan := (checkDownloadDuration_eq_ok_iff.mp hcheck).1
          simp [DownloadSetting.written?, hspan] at hnone
  | expires moment =>
      have hutc : moment.inUtc? = none := Option.map_eq_none_iff.mp hnone
      simp only [set, expiringAt, hutc]
      exact ⟨_, fun _ => rfl⟩
  | cacheControl directives =>
      have hempty : directives = [] := by simpa [DownloadSetting.written?] using hnone
      rw [hempty]
      exact ⟨_, fun _ => rfl⟩
  | encoding value =>
      simp only [set, withEncoding]
      cases hcheck : Download.ContentEncoding.ofJson value with
      | error violation => exact ⟨_, fun _ => rfl⟩
      | ok encoding =>
          rw [Download.ContentEncoding.ofJson_eq_ok_iff.mp hcheck] at hnone
          cases encoding <;> exact nomatch hnone
  | contentType text =>
      have hmedia : Download.isMediaType text.toList = false := by
        simpa [DownloadSetting.written?] using hnone
      simp only [set, withContentType, Download.checkMediaType, hmedia]
      exact ⟨_, fun _ => rfl⟩
  | _ => exact nomatch hnone

/-- A setting that has a value puts it into its field and leaves the others as
they are. -/
theorem set_eq_ok {setting : DownloadSetting} {content : Json}
    (hsome : setting.written? = some content) (draft : DownloadDraft) :
    ∃ next, draft.set setting = .ok next ∧
      next.held = Function.update draft.held setting.field content := by
  cases setting with
  | duration span =>
      simp only [DownloadSetting.written?, Option.ite_none_right_eq_some,
        Option.some.injEq] at hsome
      obtain ⟨hspan, rfl⟩ := hsome
      refine ⟨_, validFor_eq_ok_iff.mpr ⟨⟨span, hspan.1⟩, ⟨hspan, rfl⟩, rfl⟩, ?_⟩
      funext field
      cases field <;> rfl
  | expires moment =>
      obtain ⟨utc, hutc, rfl⟩ := Option.map_eq_some_iff.mp hsome
      simp only [set, expiringAt, hutc]
      refine ⟨_, rfl, ?_⟩
      funext field
      cases field <;> rfl
  | cacheControl directives =>
      simp only [DownloadSetting.written?, Option.ite_none_left_eq_some, Option.some.injEq] at hsome
      obtain ⟨hne, rfl⟩ := hsome
      simp only [set, withCacheControl, Download.cacheControl, List.isEmpty_iff, hne]
      refine ⟨_, rfl, ?_⟩
      funext field
      cases field <;> rfl
  | encoding value =>
      obtain ⟨encoding, rfl, rfl⟩ := DownloadSetting.exists_encoding hsome
      refine ⟨_, withEncoding_name encoding, ?_⟩
      funext field
      cases field <;> rfl
  | contentType text =>
      simp only [DownloadSetting.written?, Option.ite_none_right_eq_some,
        Option.some.injEq] at hsome
      obtain ⟨hmedia, rfl⟩ := hsome
      refine ⟨_, withContentType_eq_ok_iff.mpr ⟨hmedia, rfl⟩, ?_⟩
      funext field
      cases field <;> rfl
  | _ =>
      obtain rfl := Option.some.inj hsome
      refine ⟨_, rfl, ?_⟩
      funext field
      cases field <;> rfl

/-- Each setting of a download authorization fills its own field. -/
theorem fillsFields : FillsFields set DownloadSetting.field DownloadSetting.written? held where
  fails := set_eq_error
  fills := set_eq_ok
  ext heq := held_injective heq

end DownloadDraft

end BucketAccess

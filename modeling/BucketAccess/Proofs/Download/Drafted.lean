import BucketAccess.Proofs.Download.Setting

/-!
# What a drafted download authorization asks for

However a download authorization is drafted, with whatever settings failing or
being made again, the request asks for what was set last in each field.  It is
built as soon as the bucket, the start of the file names and the duration have
been set, and otherwise those of them that are missing are named.
-/

namespace BucketAccess

/-- A value in the form of a field: a count of milliseconds from one second to
one week for the duration, a text for any other field. -/
def DownloadField.Admits (value : Json) : DownloadField → Prop
  | .duration => ∃ count, value = .int count ∧ 1000 ≤ count ∧ count ≤ 604800000
  | _ => ∃ text, value = .str text

theorem DownloadField.Admits.isGiven {field : DownloadField} {value : Json}
    (hadmits : field.Admits value) : value.isGiven = true := by
  cases field with
  | duration =>
      obtain ⟨count, rfl, -, -⟩ := hadmits
      rfl
  | _ =>
      obtain ⟨text, rfl⟩ := hadmits
      rfl

namespace DownloadSetting

variable {settings : List DownloadSetting} {field : DownloadField} {value : Json}

/-- A setting that takes any value is given a text. -/
def IsTextual : DownloadSetting → Prop
  | .bucketId value | .fileNamePrefix value | .language value => ∃ text, value = .str text
  | _ => True

/-- What the last successful setting of a field has put there. -/
def last? (settings : List DownloadSetting) : DownloadField → Option Json :=
  lastValue? DownloadSetting.field written? settings

theorem written?_admits {setting : DownloadSetting} (htextual : setting.IsTextual)
    (hsome : setting.written? = some value) : setting.field.Admits value := by
  cases setting with
  | bucketId | fileNamePrefix | language =>
      obtain rfl := Option.some.inj hsome
      exact htextual
  | duration span =>
      simp only [written?, Option.ite_none_right_eq_some, Option.some.injEq] at hsome
      obtain ⟨⟨hwhole, hleast, hgreatest⟩, rfl⟩ := hsome
      exact ⟨span.microseconds / 1000, rfl, by omega, by omega⟩
  | disposition text =>
      obtain rfl := Option.some.inj hsome
      exact ⟨text, rfl⟩
  | expires moment =>
      obtain ⟨utc, -, rfl⟩ := Option.map_eq_some_iff.mp hsome
      exact ⟨_, rfl⟩
  | cacheControl directives =>
      simp only [written?, Option.ite_none_left_eq_some, Option.some.injEq] at hsome
      exact ⟨_, hsome.2.symm⟩
  | encoding given =>
      obtain ⟨encoding, hname, rfl⟩ := exists_encoding hsome
      exact ⟨_, hname⟩
  | contentType text =>
      simp only [written?, Option.ite_none_right_eq_some, Option.some.injEq] at hsome
      exact ⟨_, hsome.2.symm⟩

theorem last?_admits (htextual : ∀ setting ∈ settings, setting.IsTextual)
    (hlast : last? settings field = some value) : field.Admits value := by
  obtain ⟨setting, hmem, rfl, hvalue⟩ := exists_of_lastValue? hlast
  exact written?_admits (htextual setting hmem) hvalue

end DownloadSetting

/-- The fields that have to be set, with what is said when one is missing. -/
def DownloadField.required : List (DownloadField × String) :=
  [(.bucketId, "A bucket ID must be provided."),
    (.fileNamePrefix, "A filename prefix must be provided."),
    (.duration, "The duration of the authorization token must be set.")]

namespace DownloadDraft

variable {draft : DownloadDraft} {request : DownloadRequest} {settings : List DownloadSetting}

/-! ## Requests say what drafts hold -/

theorem said_of_build (hbuild : draft.build = .ok request) (field : DownloadField) :
    request.said field = (draft.held field).given? := by
  obtain ⟨hbucket, hprefix, hduration, hlanguage, hrequest⟩ := build_eq_ok_iff.mp hbuild
  rw [hrequest]
  cases field with
  | bucketId =>
      rw [held, hbucket]
      rfl
  | fileNamePrefix =>
      rw [held, hprefix]
      rfl
  | duration =>
      rw [held, hduration]
      rfl
  | language =>
      rw [held, hlanguage]
      exact (Json.given?_ofOptionalText _).symm
  | _ => exact (Json.given?_ofOptionalText _).symm

theorem map_message_required (given : DownloadField → Bool) :
    List.map Violation.message
      ((if given .bucketId then [] else [.downloadBucketMissing]) ++
        (if given .fileNamePrefix then [] else [.downloadPrefixMissing]) ++
        (if given .duration then [] else [.downloadLengthMissing])) =
      (DownloadField.required.filter fun field => !given field.1).map Prod.snd := by
  simp only [DownloadField.required, List.filter_cons, List.filter_nil]
  cases given .bucketId <;> cases given .fileNamePrefix <;> cases given .duration <;> rfl

/-- The rules that are broken name the fields that hold nothing, in order. -/
theorem map_message_violations (draft : DownloadDraft) :
    draft.violations.map Violation.message =
      (DownloadField.required.filter fun field => !(draft.held field.1).isGiven).map Prod.snd := by
  have hduration : (draft.held .duration).isGiven = draft.duration.isSome := by
    rw [held]
    cases draft.duration <;> rfl
  rw [violations, ← hduration]
  exact map_message_required fun field => (draft.held field).isGiven

/-- A draft of texts is built as soon as no rule is broken. -/
theorem exists_build_iff
    (hform : ∀ field value, (draft.held field).given? = some value → field.Admits value) :
    (∃ request, draft.build = .ok request) ↔ draft.violations = [] := by
  rw [violations_eq_nil_iff]
  constructor
  · rintro ⟨request, hrequest⟩
    obtain ⟨hbucket, hprefix, hduration, -, -⟩ := build_eq_ok_iff.mp hrequest
    rw [hbucket, hprefix, hduration]
    exact ⟨rfl, rfl, rfl⟩
  · rintro ⟨hbucket, hprefix, hduration⟩
    obtain ⟨bucketId, hbucketId⟩ := hform .bucketId _ (if_pos hbucket)
    obtain ⟨fileNamePrefix, hfileNamePrefix⟩ := hform .fileNamePrefix _ (if_pos hprefix)
    obtain ⟨duration, hsome⟩ := Option.isSome_iff_exists.mp hduration
    have hlanguage : ∃ language, draft.language = Json.ofOptionalText language := by
      by_cases hgiven : draft.language.isGiven
      · obtain ⟨language, hlanguage⟩ := hform .language _ (if_pos hgiven)
        exact ⟨some language, hlanguage⟩
      · exact ⟨none, Json.eq_null_of_not_isGiven hgiven⟩
    obtain ⟨language, hlanguage⟩ := hlanguage
    exact ⟨⟨bucketId, fileNamePrefix, duration, _, language, _, _, _, _⟩,
      build_eq_ok_iff.mpr ⟨hbucketId, hfileNamePrefix, hsome, hlanguage, rfl⟩⟩

theorem build_eq_error (hrules : draft.violations ≠ []) :
    draft.build = .error (.invalidRequest draft.violations) := by
  unfold build
  split
  · contradiction
  · rfl

/-! ## Drafts hold what was set last -/

/-- The draft that settings give when they are tried one after the other. -/
def drafted (settings : List DownloadSetting) : DownloadDraft := attemptAll set empty settings

theorem last?_eq_given? (htextual : ∀ setting ∈ settings, setting.IsTextual)
    (field : DownloadField) :
    DownloadSetting.last? settings field = ((drafted settings).held field).given? := by
  have hempty : empty.held field = .null := by cases field <;> rfl
  rw [drafted, fillsFields.held_attemptAll, hempty]
  change _ = ((DownloadSetting.last? settings field).getD .null).given?
  cases hlast : DownloadSetting.last? settings field with
  | none => rfl
  | some value =>
      have hgiven := (DownloadSetting.last?_admits htextual hlast).isGiven
      exact (if_pos hgiven).symm

theorem map_message_violations_drafted (htextual : ∀ setting ∈ settings, setting.IsTextual) :
    (drafted settings).violations.map Violation.message =
      (DownloadField.required.filter fun field =>
        (DownloadSetting.last? settings field.1).isNone).map Prod.snd := by
  have hnone : ∀ field, (DownloadSetting.last? settings field).isNone =
      !((drafted settings).held field).isGiven := by
    intro field
    rw [last?_eq_given? htextual, ← Option.not_isSome, Json.isSome_given?]
  simp only [hnone]
  exact map_message_violations (drafted settings)

theorem exists_build_drafted_iff (htextual : ∀ setting ∈ settings, setting.IsTextual) :
    (∃ request, (drafted settings).build = .ok request) ↔ (drafted settings).violations = [] := by
  apply exists_build_iff
  intro field value hgiven
  rw [← last?_eq_given? htextual] at hgiven
  exact DownloadSetting.last?_admits htextual hgiven

theorem said_of_build_drafted (htextual : ∀ setting ∈ settings, setting.IsTextual)
    (hbuild : (drafted settings).build = .ok request) :
    request.said = DownloadSetting.last? settings := by
  funext field
  rw [said_of_build hbuild, last?_eq_given? htextual]

theorem violations_eq_nil_iff_required (htextual : ∀ setting ∈ settings, setting.IsTextual) :
    (drafted settings).violations = [] ↔
      ∀ field ∈ DownloadField.required, (DownloadSetting.last? settings field.1).isSome := by
  rw [← List.map_eq_nil_iff, map_message_violations_drafted htextual, List.map_eq_nil_iff,
    List.filter_eq_nil_iff]
  simp only [Option.isNone_iff_eq_none, Option.isSome_iff_ne_none, ne_eq]

end DownloadDraft

/-- Whatever settings are tried, those that fail leave no trace; the request is
built exactly if the required fields have been set, and otherwise the missing
ones are named; and its body carries what was set last in each field. -/
theorem download_drafts_ask_for_what_was_set (settings : List DownloadSetting)
    (htextual : ∀ setting ∈ settings, setting.IsTextual) :
    (∀ draft : DownloadDraft, ∀ setting,
      (∃ next, draft.set setting = .ok next) ↔ setting.written?.isSome) ∧
    DownloadDraft.drafted (settings.filter fun setting => setting.written?.isSome) =
      DownloadDraft.drafted settings ∧
    ((∃ request, (DownloadDraft.drafted settings).build = .ok request) ↔
      ∀ field ∈ DownloadField.required, (DownloadSetting.last? settings field.1).isSome) ∧
    (∀ fault, (DownloadDraft.drafted settings).build = .error fault →
      ∃ violations, fault = .invalidRequest violations ∧
        violations.map Violation.message = (DownloadField.required.filter fun field =>
          (DownloadSetting.last? settings field.1).isNone).map Prod.snd) ∧
    (∀ request, (DownloadDraft.drafted settings).build = .ok request →
      DownloadField.layout.Carries (DownloadSetting.last? settings) request.body ∧
        ∀ field value, DownloadSetting.last? settings field = some value → field.Admits value) := by
  have hbuild := DownloadDraft.exists_build_drafted_iff htextual
  refine ⟨fun _ _ => DownloadDraft.fillsFields.exists_next_iff,
    DownloadDraft.fillsFields.attemptAll_filter_isSome _ _,
    hbuild.trans (DownloadDraft.violations_eq_nil_iff_required htextual), ?_, ?_⟩
  · intro fault hfault
    have hrules : (DownloadDraft.drafted settings).violations ≠ [] := by
      intro hnil
      obtain ⟨request, hrequest⟩ := hbuild.mpr hnil
      rw [hrequest] at hfault
      cases hfault
    rw [DownloadDraft.build_eq_error hrules] at hfault
    exact ⟨_, (Except.error.inj hfault).symm, DownloadDraft.map_message_violations_drafted htextual⟩
  · intro request hrequest
    refine ⟨?_, fun _ _ => DownloadSetting.last?_admits htextual⟩
    rw [DownloadRequest.body_eq, DownloadDraft.said_of_build_drafted htextual hrequest]
    exact DownloadField.layout.carries_entries _

/-- A bucket that is set anew, to the empty text, and a duration and a media type
that are refused. -/
def settingsWithRefusals : List DownloadSetting :=
  [.bucketId (.str "bucket"), .duration ⟨5000000, by decide, by decide⟩,
    .fileNamePrefix (.str "photos/"), .duration ⟨500000, by decide, by decide⟩,
    .contentType "image", .cacheControl ["no-store", "private"], .bucketId (.str "")]

theorem download_drafts_ask_for_what_was_set_despite_refusals :
    (∀ setting ∈ settingsWithRefusals, setting.IsTextual) ∧
      (∃ request, (DownloadDraft.drafted settingsWithRefusals).build = .ok request) ∧
      DownloadDraft.drafted [.bucketId (.str "bucket"), .duration ⟨5000000, by decide, by decide⟩,
        .fileNamePrefix (.str "photos/"), .cacheControl ["no-store", "private"],
        .bucketId (.str "")] = DownloadDraft.drafted settingsWithRefusals := by
  have htextual : ∀ setting ∈ settingsWithRefusals, setting.IsTextual := by
    simp [settingsWithRefusals, DownloadSetting.IsTextual]
  have hresult := download_drafts_ask_for_what_was_set settingsWithRefusals htextual
  have hrequired : ∀ field ∈ DownloadField.required,
      (DownloadSetting.last? settingsWithRefusals field.1).isSome := by decide +kernel
  exact ⟨htextual, hresult.2.2.1.mpr hrequired, hresult.2.1⟩

end BucketAccess

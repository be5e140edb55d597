import BucketAccess.Download.Draft
import BucketAccess.Proofs.Answer
import BucketAccess.Proofs.Duration
import BucketAccess.Proofs.Outcome

/-!
# Drafts of a download authorization

Each setting that checks its value is described by exactly the values that it
accepts, and so is the building of the request.
-/

namespace BucketAccess

namespace DownloadDraft

variable {draft next : DownloadDraft} {fault : Fault}

/-- A span for which a download may be authorized: whole milliseconds, from one
second to one week. -/
def IsDownloadSpan (span : Span) : Prop :=
  span.microseconds % 1000 = 0 ∧ 1000000 ≤ span.microseconds ∧
    span.microseconds ≤ 604800000000

theorem checkDownloadDuration_eq_ok_iff {span : Span} {duration : Duration} :
    checkDownloadDuration span = .ok duration ↔ IsDownloadSpan span ∧ duration.span = span := by
  unfold checkDownloadDuration
  rw [bind_eq_ok_iff]
  constructor
  · rintro ⟨value, hspan, hbounds⟩
    obtain rfl := Duration.ofSpan_eq_ok_iff.mp hspan
    split at hbounds
    · rename_i hrange
      obtain rfl := Except.ok.inj hbounds
      exact ⟨⟨value.whole, hrange.1, hrange.2⟩, rfl⟩
    · exact nomatch hbounds
  · rintro ⟨⟨hwhole, hleast, hgreatest⟩, rfl⟩
    exact ⟨duration, Duration.ofSpan_eq_ok_iff.mpr rfl, if_pos ⟨hleast, hgreatest⟩⟩

theorem validFor_eq_ok_iff {span : Span} :
    draft.validFor span = .ok next ↔ ∃ duration : Duration,
      (IsDownloadSpan span ∧ duration.span = span) ∧
        next = { draft with duration := some duration } := by
  simp only [← checkDownloadDuration_eq_ok_iff]
  unfold validFor
  cases checkDownloadDuration span <;> simp [eq_comm]

theorem validFor_error {span : Span} (herror : draft.validFor span = .error fault) :
    fault.IsViolation := by
  unfold validFor at herror
  split at herror
  · exact Fault.isViolation_of_eq (Except.error.inj herror)
  · exact nomatch herror

theorem withContentType_eq_ok_iff {text : String} :
    draft.withContentType text = .ok next ↔
      Download.isMediaType text.toList = true ∧ next = { draft with contentType := some text } := by
  unfold withContentType Download.checkMediaType
  by_cases hmedia : Download.isMediaType text.toList = true <;> simp [hmedia, eq_comm]

theorem withContentType_error {text : String}
    (herror : draft.withContentType text = .error fault) : fault.IsViolation := by
  unfold withContentType at herror
  split at herror
  · exact Fault.isViolation_of_eq (Except.error.inj herror)
  · exact nomatch herror

theorem withEncoding_name (encoding : Download.ContentEncoding) :
    draft.withEncoding (.str encoding.name) =
      .ok { draft with encoding := some encoding.name } := by
  cases encoding <;> rfl

theorem violations_eq_nil_iff :
    draft.violations = [] ↔ draft.bucketId.isGiven = true ∧ draft.fileNamePrefix.isGiven = true ∧
      draft.duration.isSome = true := by
  unfold violations
  cases draft.bucketId.isGiven <;> cases draft.fileNamePrefix.isGiven <;>
    cases draft.duration.isSome <;> simp

/-- A request is built exactly from a draft in which the bucket and the start of
the names are texts, the language is one if it is given, and a duration is set. -/
theorem build_eq_ok_iff {request : DownloadRequest} :
    draft.build = .ok request ↔
      draft.bucketId = .str request.bucketId ∧
      draft.fileNamePrefix = .str request.fileNamePrefix ∧
      draft.duration = some request.duration ∧
      draft.language = Json.ofOptionalText request.language ∧
      request = ⟨request.bucketId, request.fileNamePrefix, request.duration,
        draft.disposition.map .whole, request.language, draft.expires.map .whole,
        draft.cacheControl.map .whole, draft.encoding.map .whole,
        draft.contentType.map .whole⟩ := by
  unfold build
  split
  · rename_i duration hrules hduration
    simp only [Checked.orIllFormed_eq_ok_iff, Checked.seq_eq_sound_iff, Checked.map_eq_sound_iff,
      Json.readGiven, Checked.within_eq_sound_iff, Json.readText_eq_sound_iff,
      Json.readNullable_text_eq_sound_iff, hduration, Option.some.injEq]
    constructor
    · rintro ⟨_, ⟨_, ⟨bucketId, hbucketId, rfl⟩, prefix', hprefix, rfl⟩, language, hlanguage, rfl⟩
      exact ⟨hbucketId, hprefix, rfl, hlanguage, rfl⟩
    · rintro ⟨hbucketId, hprefix, rfl, hlanguage, hrequest⟩
      exact ⟨_, ⟨_, ⟨_, hbucketId, rfl⟩, _, hprefix, rfl⟩, _, hlanguage, hrequest.symm⟩
  · rename_i hother
    simp only [reduceCtorEq, false_iff]
    rintro ⟨hbucketId, hprefix, hduration, -, -⟩
    refine hother request.duration (violations_eq_nil_iff.mpr ?_) hduration
    rw [hbucketId, hprefix, hduration]
    exact ⟨rfl, rfl, rfl⟩

end DownloadDraft

end BucketAccess

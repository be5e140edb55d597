import BucketAccess.Command.Task
import BucketAccess.Proofs.Download.Draft
import BucketAccess.Proofs.Key.Draft

/-!
# Requests from options

The options of a command make a request exactly when they keep the rules, and
what is then sent is said by the options alone: an entry for each option that is
given, even for one that is given as an empty text, and nothing for the others.
Options that break a rule are refused as such, unless a length of time is beyond
what can be counted.
-/

namespace BucketAccess

namespace Command

/-! ## Settings -/

/-- The entry of a value that is sent only if it is given. -/
def givenEntry (name : String) (value : Option Json) : List (String × Json) :=
  (value.map (name, ·)).toList

section Settings

variable {key nextKey : KeyDraft} {download nextDownload : DownloadDraft} {days seconds : Int}
  {fault : Fault}

/-- What is set from a length of time is set from a count of milliseconds. -/
theorem exists_span_iff {α : Type} {set : Span → Except Fault α} {filled : Duration → α}
    {rule : Span → Prop} {range : Prop} {count : Int} {next : α}
    (hset : ∀ span, set span = .ok next ↔
      ∃ duration : Duration, (rule span ∧ duration.span = span) ∧ next = filled duration)
    (hrule : ∀ span : Span, span.microseconds = count * 1000 → (rule span ↔ range)) :
    (∃ span, Span.ofMicroseconds? (count * 1000) = some span ∧ set span = .ok next) ↔
      range ∧ ∃ duration : Duration, duration.milliseconds = count ∧ next = filled duration := by
  constructor
  · rintro ⟨span, hspan, hnext⟩
    have hcount := Duration.ofMicroseconds?_eq_some_iff.mp hspan
    obtain ⟨duration, ⟨hkept, rfl⟩, rfl⟩ := (hset span).mp hnext
    refine ⟨(hrule _ hcount).mp hkept, duration, ?_, rfl⟩
    have hmicroseconds := duration.microseconds_eq
    omega
  · rintro ⟨hrange, duration, rfl, hnext⟩
    have hcount := duration.microseconds_eq
    exact ⟨duration.span, Duration.ofMicroseconds?_eq_some_iff.mpr hcount,
      (hset _).mpr ⟨duration, ⟨(hrule _ hcount).mpr hrange, rfl⟩, hnext⟩⟩

/-- A key may last from one day to less than a thousand. -/
theorem expiringAfterDays_eq_ok_iff :
    expiringAfterDays days key = .ok nextKey ↔ (1 ≤ days ∧ days < 1000) ∧
      ∃ duration : Duration, duration.milliseconds = days * 86400000 ∧
        nextKey = { key with duration := some duration } := by
  have hspan : Span.ofDays? days = Span.ofMicroseconds? (days * 86400000 * 1000) := by
    rw [Span.ofDays?, Span.microsecondsPerDay, Int.mul_assoc]
    rfl
  have hrule : ∀ span : Span, span.microseconds = days * 86400000 * 1000 →
      (IsKeySpan span ↔ 1 ≤ days ∧ days < 1000) := by
    intro span hcount
    rw [isKeySpan_iff]
    omega
  rw [← exists_span_iff (fun _ => KeyDraft.expiringAfter_eq_ok_iff) hrule, ← hspan]
  unfold expiringAfterDays
  cases Span.ofDays? days <;> simp

theorem expiringAfterDays_error (hdays : (Span.ofDays? days).isSome)
    (herror : expiringAfterDays days key = .error fault) : fault.IsViolation := by
  obtain ⟨span, hspan⟩ := Option.isSome_iff_exists.mp hdays
  rw [expiringAfterDays, hspan] at herror
  exact KeyDraft.expiringAfter_error herror

/-- A download may be authorized for one second to one week. -/
theorem validForSeconds_eq_ok_iff :
    validForSeconds seconds download = .ok nextDownload ↔ (1 ≤ seconds ∧ seconds ≤ 604800) ∧
      ∃ duration : Duration, duration.milliseconds = seconds * 1000 ∧
        nextDownload = { download with duration := some duration } := by
  have hspan : Span.ofSeconds? seconds = Span.ofMicroseconds? (seconds * 1000 * 1000) := by
    rw [Span.ofSeconds?, Span.microsecondsPerSecond, Int.mul_assoc]
    rfl
  have hrule : ∀ span : Span, span.microseconds = seconds * 1000 * 1000 →
      (DownloadDraft.IsDownloadSpan span ↔ 1 ≤ seconds ∧ seconds ≤ 604800) := by
    intro span hcount
    unfold DownloadDraft.IsDownloadSpan
    omega
  rw [← exists_span_iff (fun _ => DownloadDraft.validFor_eq_ok_iff) hrule, ← hspan]
  unfold validForSeconds
  cases Span.ofSeconds? seconds <;> simp

theorem validForSeconds_error (hseconds : (Span.ofSeconds? seconds).isSome)
    (herror : validForSeconds seconds download = .error fault) : fault.IsViolation := by
  obtain ⟨span, hspan⟩ := Option.isSome_iff_exists.mp hseconds
  rw [validForSeconds, hspan] at herror
  exact DownloadDraft.validFor_error herror

theorem withDisposition_eq_ok_iff {text : String} :
    withDisposition text download = .ok nextDownload ↔
      (∃ parts, Download.readDisposition text.toList = .ok parts) ∧
        nextDownload = { download with disposition := some text } := by
  unfold withDisposition Download.Disposition.ofText
  cases Download.readDisposition text.toList <;>
    simp [Except.map, DownloadDraft.withDisposition, eq_comm]

theorem withDisposition_error {text : String}
    (herror : withDisposition text download = .error fault) : fault.IsViolation := by
  unfold withDisposition at herror
  split at herror
  · exact Fault.isViolation_of_eq (Except.error.inj herror)
  · exact nomatch herror

/-- A setting that is made only if it is given succeeds if it is not. -/
theorem settingGiven_eq_ok_iff {α β : Type} {set : α → β → Except Fault β} {value : Option α}
    {draft next : β} :
    settingGiven set value draft = .ok next ↔
      (value = none ∧ next = draft) ∨ ∃ given, value = some given ∧ set given draft = .ok next := by
  cases value <;> simp [settingGiven, eq_comm]

theorem settingGiven_error {α β : Type} {set : α → β → Except Fault β} {value : Option α}
    {draft : β} (herror : settingGiven set value draft = .error fault) :
    ∃ given, value = some given ∧ set given draft = .error fault := by
  cases value with
  | none => exact nomatch herror
  | some given => exact ⟨given, rfl, herror⟩

theorem settingGiven_disposition {value : Option String} (hnone : download.disposition = none) :
    settingGiven withDisposition value download = .ok nextDownload ↔
      (∀ text ∈ value, ∃ parts, Download.readDisposition text.toList = .ok parts) ∧
        nextDownload = { download with disposition := value } := by
  cases value with
  | none =>
      rcases download with ⟨_, _, _, disposition⟩
      obtain rfl : disposition = none := hnone
      simp only [settingGiven, Except.ok.injEq, Option.not_mem_none, false_implies, implies_true,
        true_and]
      exact eq_comm
  | some text => simp [settingGiven, withDisposition_eq_ok_iff]

theorem settingGiven_language {value : Option String} (hnone : download.language = .null) :
    settingGiven (fun language draft => .ok (draft.withLanguage (.str language))) value download =
      .ok { download with language := Json.ofOptionalText (value.map .whole) } := by
  cases value with
  | none =>
      rcases download with ⟨_, _, _, _, language⟩
      obtain rfl : language = .null := hnone
      rfl
  | some text => rfl

theorem settingGiven_contentType {value : Option String} (hnone : download.contentType = none) :
    settingGiven DownloadDraft.withContentType value download = .ok nextDownload ↔
      (∀ text ∈ value, Download.isMediaType text.toList = true) ∧
        nextDownload = { download with contentType := value } := by
  cases value with
  | none =>
      rcases download with ⟨_, _, _, _, _, _, _, _, contentType⟩
      obtain rfl : contentType = none := hnone
      simp only [settingGiven, Except.ok.injEq, Option.not_mem_none, false_implies, implies_true,
        true_and]
      exact eq_comm
  | some text => simp [settingGiven, DownloadDraft.withContentType_eq_ok_iff]

theorem settingGiven_encoding {value : Option Download.ContentEncoding}
    (hnone : download.encoding = none) :
    settingGiven (fun encoding draft => DownloadDraft.withEncoding (.str encoding.name) draft)
        value download =
      .ok { download with encoding := value.map Download.ContentEncoding.name } := by
  cases value with
  | none =>
      rcases download with ⟨_, _, _, _, _, _, _, encoding⟩
      obtain rfl : encoding = none := hnone
      rfl
  | some encoding => exact DownloadDraft.withEncoding_name encoding

end Settings

/-! ## Keys -/

namespace KeyOptions

variable {options : KeyOptions} {request : KeyRequest} {fault : Fault}

/-- The rules for the options of a key. -/
structure Sound (options : KeyOptions) : Prop where
  name : IsKeyName options.name
  capabilities : options.capabilities ≠ []
  days : ∀ days ∈ options.days, 1 ≤ days ∧ days < 1000
  scopable : options.bucketId.isSome →
    ∀ capability ∈ options.capabilities, capability.isAccountLevel = false
  bucket : options.namePrefix.isSome → options.bucketId.isSome

/-- The life of the key, if it is given, is no longer than a span. -/
def Countable (options : KeyOptions) : Prop :=
  ∀ days ∈ options.days, (Span.ofDays? days).isSome

/-- What is to be sent for an account. -/
def body (accountId : Loose) (options : KeyOptions) : Json :=
  .obj ([("accountId", .str accountId),
      ("capabilities", .arr (options.capabilities.map fun capability => .str capability.name)),
      ("keyName", .str options.name)] ++
    givenEntry "validDurationInSeconds" (options.days.map fun days => .int (days * 86400000)) ++
    givenEntry "bucketId" (options.bucketId.map .str) ++
    givenEntry "namePrefix" (options.namePrefix.map .str))

/-- The draft in which everything but the life of the key is set. -/
def draft (options : KeyOptions) : KeyDraft where
  name := options.name
  capabilities := some options.capabilities
  duration := none
  bucketId := Json.ofOptionalText (options.bucketId.map .whole)
  namePrefix := Json.ofOptionalText (options.namePrefix.map .whole)

/-- The first two settings need a good name and some capability, and nothing
can go wrong with the bucket and the prefix. -/
theorem request_of_name (hname : IsKeyName options.name) (hne : options.capabilities ≠ []) :
    options.request =
      settingGiven expiringAfterDays options.days options.draft >>= KeyDraft.build := by
  have hnamed : KeyDraft.named options.name = .ok ⟨options.name, none, none, .null, .null⟩ :=
    KeyDraft.named_eq_ok_iff.mpr ⟨hname, rfl⟩
  have hcapabilities : KeyDraft.withCapabilities
      (.arr (options.capabilities.map fun capability => .str capability.name))
      ⟨options.name, none, none, .null, .null⟩ =
        .ok ⟨options.name, some options.capabilities, none, .null, .null⟩ :=
    KeyDraft.withCapabilities_eq_ok_iff.mpr ⟨_, rfl, hne, rfl⟩
  simp only [request, hnamed, hcapabilities, bind, Except.bind, draft]
  cases options.bucketId <;> cases options.namePrefix <;> rfl

theorem request_error_of_name (hbad : ¬ (IsKeyName options.name ∧ options.capabilities ≠ [])) :
    ∃ fault, options.request = .error fault ∧ fault.IsViolation := by
  cases hnamed : KeyDraft.named options.name with
  | error fault =>
      refine ⟨fault, ?_, KeyDraft.named_error hnamed⟩
      simp only [request, hnamed, bind, Except.bind]
  | ok named =>
      cases hcapabilities : named.withCapabilities
          (.arr (options.capabilities.map fun capability => .str capability.name)) with
      | error fault =>
          refine ⟨fault, ?_, KeyDraft.withCapabilities_error hcapabilities⟩
          simp only [request, hnamed, hcapabilities, bind, Except.bind]
      | ok filled =>
          obtain ⟨capabilities, hitems, hne, -⟩ :=
            KeyDraft.withCapabilities_eq_ok_iff.mp hcapabilities
          refine absurd ⟨(KeyDraft.named_eq_ok_iff.mp hnamed).1, ?_⟩ hbad
          intro hnil
          rw [hnil] at hitems
          exact hne (List.map_eq_nil_iff.mp (Option.some.inj hitems).symm)

/-- Setting the life of a key leaves everything else as it is. -/
theorem draft_of_days {next : KeyDraft}
    (hdays : settingGiven expiringAfterDays options.days options.draft = .ok next) :
    (∀ days ∈ options.days, 1 ≤ days ∧ days < 1000) ∧
      ∃ duration : Option Duration,
        duration.map Duration.milliseconds = options.days.map (· * 86400000) ∧
          next = { options.draft with duration := duration } := by
  rcases settingGiven_eq_ok_iff.mp hdays with ⟨hnone, rfl⟩ | ⟨days, hsome, hset⟩
  · simp only [hnone, Option.not_mem_none, false_implies, implies_true, true_and]
    exact ⟨none, rfl, rfl⟩
  · obtain ⟨hrange, duration, hcount, rfl⟩ := expiringAfterDays_eq_ok_iff.mp hset
    simp only [hsome, Option.mem_some_iff, forall_eq']
    exact ⟨hrange, some duration, congrArg some hcount, rfl⟩

theorem request_eq_ok_iff :
    options.request = .ok request ↔ options.Sound ∧
      ∃ duration : Option Duration,
        duration.map Duration.milliseconds = options.days.map (· * 86400000) ∧
          request = ⟨none, options.capabilities, options.name, duration,
            options.bucketId.map .whole, options.namePrefix.map .whole⟩ := by
  by_cases hgood : IsKeyName options.name ∧ options.capabilities ≠ []
  · obtain ⟨hname, hne⟩ := hgood
    rw [request_of_name hname hne, bind_eq_ok_iff]
    constructor
    · rintro ⟨next, hdays, hbuild⟩
      obtain ⟨hrange, duration, hcount, rfl⟩ := draft_of_days hdays
      obtain ⟨hrules, bucketId, namePrefix, hbucketId, hnamePrefix, rfl⟩ :=
        KeyDraft.build_eq_ok_iff.mp hbuild
      obtain ⟨-, hscopable, hbucket⟩ := (KeyDraft.violations_eq_nil_iff _).mp hrules
      simp only [draft, Json.isGiven_ofOptionalText, Option.isSome_map, Option.getD_some]
        at hscopable hbucket
      obtain rfl := Json.ofOptionalText_inj.mp hbucketId
      obtain rfl := Json.ofOptionalText_inj.mp hnamePrefix
      exact ⟨⟨hname, hne, hrange, hscopable, hbucket⟩, duration, hcount, rfl⟩
    · rintro ⟨hsound, duration, hcount, rfl⟩
      refine ⟨{ options.draft with duration := duration }, ?_, ?_⟩
      · cases hdays : options.days with
        | none =>
            rw [hdays] at hcount
            obtain rfl := Option.map_eq_none_iff.mp hcount
            rfl
        | some days =>
            rw [hdays] at hcount
            obtain ⟨value, rfl, hvalue⟩ := Option.map_eq_some_iff.mp hcount
            exact expiringAfterDays_eq_ok_iff.mpr ⟨hsound.days days hdays, value, hvalue, rfl⟩
      · refine KeyDraft.build_eq_ok_iff.mpr ⟨(KeyDraft.violations_eq_nil_iff _).mpr ?_, _, _,
          rfl, rfl, rfl⟩
        simp only [draft, Json.isGiven_ofOptionalText, Option.isSome_map, Option.getD_some]
        exact ⟨rfl, hsound.scopable, hsound.bucket⟩
  · obtain ⟨fault, herror, -⟩ := request_error_of_name hgood
    simp only [herror, reduceCtorEq, false_iff]
    rintro ⟨hsound, -⟩
    exact hgood ⟨hsound.name, hsound.capabilities⟩

theorem exists_request_iff : (∃ request, options.request = .ok request) ↔ options.Sound := by
  constructor
  · rintro ⟨request, hrequest⟩
    exact (request_eq_ok_iff.mp hrequest).1
  · intro hsound
    cases hdays : options.days with
    | none =>
        have hnone : Option.map Duration.milliseconds none = options.days.map (· * 86400000) := by
          rw [hdays]
          rfl
        exact ⟨_, request_eq_ok_iff.mpr ⟨hsound, none, hnone, rfl⟩⟩
    | some days =>
        obtain ⟨hleast, hgreatest⟩ := hsound.days days hdays
        obtain ⟨duration, hcount⟩ :=
          Duration.exists_milliseconds (days * 86400000) (by omega) (by omega)
        have hsome : (some duration).map Duration.milliseconds =
            options.days.map (· * 86400000) := by
          rw [hdays]
          exact congrArg some hcount
        exact ⟨_, request_eq_ok_iff.mpr ⟨hsound, some duration, hsome, rfl⟩⟩

/-- Options that make no request break a rule, or the life of the key is beyond
what can be counted. -/
theorem request_error (hcount : options.Countable) (herror : options.request = .error fault) :
    fault.IsViolation := by
  by_cases hgood : IsKeyName options.name ∧ options.capabilities ≠ []
  · rw [request_of_name hgood.1 hgood.2] at herror
    rcases bind_eq_error_iff.mp herror with hdays | ⟨next, hdays, hbuild⟩
    · obtain ⟨days, hsome, hset⟩ := settingGiven_error hdays
      exact expiringAfterDays_error (hcount days hsome) hset
    · obtain ⟨-, duration, -, rfl⟩ := draft_of_days hdays
      exact KeyDraft.build_error rfl rfl hbuild
  · obtain ⟨other, hother, hviolation⟩ := request_error_of_name hgood
    rw [hother] at herror
    exact Except.error.inj herror ▸ hviolation

/-- What is sent for the request is what the options say. -/
theorem body_of_request (hrequest : options.request = .ok request) (accountId : Loose) :
    (request.forAccount accountId).body = options.body accountId := by
  obtain ⟨-, duration, hcount, rfl⟩ := request_eq_ok_iff.mp hrequest
  have hduration : Json.entry KeyRequest.durationField Duration.toJson duration =
      givenEntry "validDurationInSeconds"
        (options.days.map fun days => .int (days * 86400000)) := by
    have hjson := congrArg (Option.map Json.int) hcount
    rw [Option.map_map, Option.map_map] at hjson
    rw [givenEntry, ← Function.comp_def Json.int, ← hjson]
    cases duration <;> rfl
  simp only [KeyRequest.body, KeyRequest.forAccount, hduration, body]
  cases options.bucketId <;> cases options.namePrefix <;> rfl

end KeyOptions

/-! ## Download authorizations -/

namespace DownloadOptions

variable {options : DownloadOptions} {request : DownloadRequest} {fault : Fault}

/-- The rules for the options of a download authorization. -/
structure Sound (options : DownloadOptions) : Prop where
  seconds : 1 ≤ options.seconds ∧ options.seconds ≤ 604800
  disposition : ∀ text ∈ options.disposition,
    ∃ parts, Download.readDisposition text.toList = .ok parts
  contentType : ∀ text ∈ options.contentType, Download.isMediaType text.toList = true

/-- The validity of the authorization is no longer than a span. -/
def Countable (options : DownloadOptions) : Prop := (Span.ofSeconds? options.seconds).isSome

/-- What is to be sent. -/
def body (options : DownloadOptions) : Json :=
  .obj ([("bucketId", .str options.bucketId), ("fileNamePrefix", .str options.fileNamePrefix),
      ("validDurationInSeconds", .int (options.seconds * 1000))] ++
    givenEntry "b2ContentDisposition" (options.disposition.map .str) ++
    givenEntry "b2ContentLanguage" (options.language.map .str) ++
    givenEntry "b2ContentEncoding" (options.encoding.map fun encoding => .str encoding.name) ++
    givenEntry "b2ContentType" (options.contentType.map .str))

/-- The draft in which all options are set. -/
def draft (options : DownloadOptions) (duration : Duration) : DownloadDraft where
  bucketId := .str options.bucketId
  fileNamePrefix := .str options.fileNamePrefix
  duration := some duration
  disposition := options.disposition
  language := Json.ofOptionalText (options.language.map .whole)
  encoding := options.encoding.map Download.ContentEncoding.name
  contentType := options.contentType

/-- The settings that are made on a draft with a duration. -/
def settings (options : DownloadOptions) (draft : DownloadDraft) : Except Fault DownloadDraft := do
  let draft ← settingGiven withDisposition options.disposition draft
  let draft ← settingGiven (fun language draft => .ok (draft.withLanguage (.str language)))
    options.language draft
  let draft ← settingGiven DownloadDraft.withContentType options.contentType draft
  settingGiven (fun encoding draft => DownloadDraft.withEncoding (.str encoding.name) draft)
    options.encoding draft

/-- The draft in which nothing is set but the bucket, the start of the names and
the duration. -/
def start (options : DownloadOptions) (duration : Option Duration) : DownloadDraft :=
  { bucketId := .str options.bucketId, fileNamePrefix := .str options.fileNamePrefix, duration }

theorem request_eq (options : DownloadOptions) :
    options.request = validForSeconds options.seconds (options.start none) >>= options.settings >>=
      DownloadDraft.build := by
  simp only [request, settings, bind_assoc]
  rfl

/-- The settings change one field each, and only two of them look at the value. -/
theorem settings_eq_ok_iff {duration : Duration} {next : DownloadDraft} :
    options.settings (options.start (some duration)) = .ok next ↔
      ((∀ text ∈ options.disposition,
          ∃ parts, Download.readDisposition text.toList = .ok parts) ∧
        ∀ text ∈ options.contentType, Download.isMediaType text.toList = true) ∧
      next = options.draft duration := by
  rw [settings, bind_eq_ok_iff]
  constructor
  · rintro ⟨_, hfirst, hrest⟩
    obtain ⟨hreadable, rfl⟩ := (settingGiven_disposition rfl).mp hfirst
    obtain ⟨_, hsecond, hrest⟩ := bind_eq_ok_iff.mp hrest
    rw [settingGiven_language rfl] at hsecond
    obtain rfl := Except.ok.inj hsecond
    obtain ⟨_, hthird, hlast⟩ := bind_eq_ok_iff.mp hrest
    obtain ⟨hmedia, rfl⟩ := (settingGiven_contentType rfl).mp hthird
    rw [settingGiven_encoding rfl] at hlast
    exact ⟨⟨hreadable, hmedia⟩, (Except.ok.inj hlast).symm⟩
  · rintro ⟨⟨hreadable, hmedia⟩, rfl⟩
    refine ⟨_, (settingGiven_disposition rfl).mpr ⟨hreadable, rfl⟩, ?_⟩
    refine bind_eq_ok_iff.mpr ⟨_, settingGiven_language rfl, ?_⟩
    refine bind_eq_ok_iff.mpr ⟨_, (settingGiven_contentType rfl).mpr ⟨hmedia, rfl⟩, ?_⟩
    rw [settingGiven_encoding rfl]
    rfl

theorem settings_error {draft : DownloadDraft} (herror : options.settings draft = .error fault) :
    fault.IsViolation := by
  rcases bind_eq_error_iff.mp herror with hfirst | ⟨_, -, hrest⟩
  · obtain ⟨text, -, hset⟩ := settingGiven_error hfirst
    exact withDisposition_error hset
  rcases bind_eq_error_iff.mp hrest with hsecond | ⟨_, -, hrest⟩
  · obtain ⟨language, -, hset⟩ := settingGiven_error hsecond
    exact nomatch hset
  rcases bind_eq_error_iff.mp hrest with hthird | ⟨_, -, hlast⟩
  · obtain ⟨text, -, hset⟩ := settingGiven_error hthird
    exact DownloadDraft.withContentType_error hset
  · obtain ⟨encoding, -, hset⟩ := settingGiven_error hlast
    rw [DownloadDraft.withEncoding_name] at hset
    exact nomatch hset

/-- A draft in which all options are set is built without fail. -/
theorem build_draft (options : DownloadOptions) (duration : Duration) :
    (options.draft duration).build = .ok ⟨options.bucketId, options.fileNamePrefix, duration,
      options.disposition.map .whole, options.language.map .whole, none, none,
      (options.encoding.map Download.ContentEncoding.name).map .whole,
      options.contentType.map .whole⟩ :=
  DownloadDraft.build_eq_ok_iff.mpr ⟨rfl, rfl, rfl, rfl, rfl⟩

theorem request_eq_ok_iff :
    options.request = .ok request ↔ options.Sound ∧
      ∃ duration : Duration, duration.milliseconds = options.seconds * 1000 ∧
        request = ⟨options.bucketId, options.fileNamePrefix, duration,
          options.disposition.map .whole, options.language.map .whole, none, none,
          (options.encoding.map Download.ContentEncoding.name).map .whole,
          options.contentType.map .whole⟩ := by
  rw [request_eq, bind_eq_ok_iff]
  constructor
  · rintro ⟨filled, hsettings, hbuild⟩
    obtain ⟨timed, hseconds, hsettings⟩ := bind_eq_ok_iff.mp hsettings
    obtain ⟨hrange, duration, hcount, rfl⟩ := validForSeconds_eq_ok_iff.mp hseconds
    obtain ⟨⟨hreadable, hmedia⟩, rfl⟩ := settings_eq_ok_iff.mp hsettings
    rw [build_draft] at hbuild
    exact ⟨⟨hrange, hreadable, hmedia⟩, duration, hcount, (Except.ok.inj hbuild).symm⟩
  · rintro ⟨hsound, duration, hcount, rfl⟩
    refine ⟨options.draft duration, bind_eq_ok_iff.mpr ⟨options.start (some duration), ?_, ?_⟩,
      options.build_draft duration⟩
    · exact validForSeconds_eq_ok_iff.mpr ⟨hsound.seconds, duration, hcount, rfl⟩
    · exact settings_eq_ok_iff.mpr ⟨⟨hsound.disposition, hsound.contentType⟩, rfl⟩

theorem exists_request_iff : (∃ request, options.request = .ok request) ↔ options.Sound := by
  constructor
  · rintro ⟨request, hrequest⟩
    exact (request_eq_ok_iff.mp hrequest).1
  · intro hsound
    obtain ⟨hleast, hgreatest⟩ := hsound.seconds
    obtain ⟨duration, hcount⟩ :=
      Duration.exists_milliseconds (options.seconds * 1000) (by omega) (by omega)
    exact ⟨_, request_eq_ok_iff.mpr ⟨hsound, duration, hcount, rfl⟩⟩

/-- Options that make no request break a rule, or the validity is beyond what
can be counted. -/
theorem request_error (hcount : options.Countable) (herror : options.request = .error fault) :
    fault.IsViolation := by
  rw [request_eq] at herror
  rcases bind_eq_error_iff.mp herror with hsettings | ⟨filled, hsettings, hbuild⟩
  · rcases bind_eq_error_iff.mp hsettings with hseconds | ⟨timed, -, hrest⟩
    · exact validForSeconds_error hcount hseconds
    · exact settings_error hrest
  · obtain ⟨timed, hseconds, hsettings⟩ := bind_eq_ok_iff.mp hsettings
    obtain ⟨-, duration, -, rfl⟩ := validForSeconds_eq_ok_iff.mp hseconds
    obtain ⟨-, rfl⟩ := settings_eq_ok_iff.mp hsettings
    rw [build_draft] at hbuild
    exact nomatch hbuild

/-- What is sent for the request is what the options say. -/
theorem body_of_request (hrequest : options.request = .ok request) :
    request.body = options.body := by
  obtain ⟨-, duration, hcount, rfl⟩ := request_eq_ok_iff.mp hrequest
  simp only [DownloadRequest.body, body, Duration.toJson, hcount]
  cases options.disposition <;> cases options.language <;> cases options.encoding <;>
    cases options.contentType <;> rfl

end DownloadOptions

end Command

end BucketAccess

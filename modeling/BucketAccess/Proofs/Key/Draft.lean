import BucketAccess.Key.Draft
import BucketAccess.Proofs.Answer
import BucketAccess.Proofs.Duration
import BucketAccess.Proofs.Key.Request
import BucketAccess.Proofs.Outcome

/-!
# The rules of a draft

Whatever settings are made on whatever earlier drafts, every draft keeps the
rules for names, capabilities and durations, and every request built from one
keeps the rules between its fields.  Each setting is described by exactly the
values it accepts, so that the rules refuse nothing else.
-/

namespace BucketAccess

/-! ## The rules -/

/-- A character of a name: a letter or a digit of ASCII, or the hyphen. -/
def InKeyName (char : Char) : Prop :=
  ('A' ≤ char ∧ char ≤ 'Z') ∨ ('a' ≤ char ∧ char ≤ 'z') ∨ ('0' ≤ char ∧ char ≤ '9') ∨
    char = '-'

/-- A name that a key may have. -/
structure IsKeyName (name : String) : Prop where
  short : name.length ≤ 100
  chars : ∀ char ∈ name.toList, InKeyName char

/-- A span that a key may last: whole milliseconds, from one second to less
than a thousand days. -/
def IsKeySpan (span : Span) : Prop :=
  ∃ count : Int, span.microseconds = 1000 * count ∧ 1000 ≤ count ∧ count < 86400000000

/-- The rules that every draft keeps. -/
structure KeyDraft.Sound (draft : KeyDraft) : Prop where
  name : IsKeyName draft.name
  capabilities : draft.capabilities ≠ some []
  duration : ∀ duration ∈ draft.duration, IsKeySpan duration.span

/-- The rules that every request built from a draft keeps. -/
structure KeyRequest.Sound (request : KeyRequest) : Prop where
  capabilities : request.capabilities ≠ []
  scopable : request.bucketId.isSome →
    ∀ capability ∈ request.capabilities, capability.isAccountLevel = false
  bucket : request.namePrefix.isSome → request.bucketId.isSome
  body_null : ¬ Json.Occurs .null request.body
  body_account : request.body.field? "accountId" = none

/-! ## Names and durations -/

theorem isKeyNameChar_iff (char : Char) : isKeyNameChar char = true ↔ InKeyName char := by
  simp only [isKeyNameChar, Text.isAsciiLetter, Text.isAsciiDigit, InKeyName,
    Bool.or_eq_true, Bool.and_eq_true, decide_eq_true_eq]
  grind

theorem keyNameViolation?_eq_none_iff (name : String) :
    keyNameViolation? name = none ↔ IsKeyName name := by
  unfold keyNameViolation?
  split
  · rename_i hlong
    have hnot : ¬ IsKeyName name := fun hname => Nat.not_lt.mpr hname.short hlong
    simp [hnot]
  · rename_i hshort
    simp only [Option.map_eq_none_iff, List.find?_eq_none, Bool.not_eq_true',
      Bool.not_eq_false, isKeyNameChar_iff]
    exact ⟨fun hchars => ⟨Nat.not_lt.mp hshort, hchars⟩, fun hname => hname.chars⟩

theorem KeyDraft.named_eq_ok_iff {name : String} {draft : KeyDraft} :
    KeyDraft.named name = .ok draft ↔
      IsKeyName name ∧ draft = ⟨name, none, none, .null, .null⟩ := by
  rw [← keyNameViolation?_eq_none_iff, KeyDraft.named, checkKeyName]
  cases keyNameViolation? name with
  | none => simp [Except.map, eq_comm]
  | some violation => simp [Except.map]

theorem isKeySpan_iff (span : Span) :
    IsKeySpan span ↔ span.microseconds % 1000 = 0 ∧
      1000000 ≤ span.microseconds ∧ span.microseconds < 86400000000000 := by
  constructor
  · rintro ⟨count, hcount, hleast, hgreatest⟩
    omega
  · rintro ⟨hwhole, hleast, hgreatest⟩
    exact ⟨span.microseconds / 1000, by omega, by omega, by omega⟩

/-- A key may last exactly the spans of the rule. -/
theorem checkKeyDuration_eq_ok_iff {span : Span} {duration : Duration} :
    checkKeyDuration span = .ok duration ↔ IsKeySpan span ∧ duration.span = span := by
  rw [isKeySpan_iff]
  unfold checkKeyDuration
  cases hspan : Duration.ofSpan span with
  | error violation =>
      have hnot : duration.span ≠ span := by
        rw [ne_eq, ← Duration.ofSpan_eq_ok_iff, hspan]
        simp
      simp [bind, Except.bind, hnot]
  | ok value =>
      have hvalue := Duration.ofSpan_eq_ok_iff.mp hspan
      have hsame : value = duration ↔ duration.span = span := by
        rw [← Duration.ofSpan_eq_ok_iff, hspan, Except.ok.injEq]
      have hend : endKeyDuration ≤ value ↔ 86400000000000 ≤ span.microseconds := hvalue ▸ Iff.rfl
      have hmin : value < minKeyDuration ↔ span.microseconds < 1000000 := hvalue ▸ Iff.rfl
      have hwhole : span.microseconds % 1000 = 0 := hvalue ▸ value.whole
      simp only [bind, Except.bind, hend, hmin]
      split
      · simp; omega
      · split
        · simp; omega
        · rw [Except.ok.injEq, hsame]
          exact ⟨fun heq => ⟨by omega, heq⟩, fun hrule => hrule.2⟩

/-! ## Capabilities -/

theorem Capability.ofJson?_eq_some_iff {value : Json} {capability : Capability} :
    Capability.ofJson? value = some capability ↔ value = .str capability.name := by
  constructor
  · intro hname
    cases value with
    | str text =>
        cases text with
        | whole text =>
            have hfound := List.find?_some hname
            simp only [decide_eq_true_eq] at hfound
            rw [hfound]
        | broken front first rest => simp [Capability.ofJson?] at hname
    | _ => simp [Capability.ofJson?] at hname
  · intro hvalue
    rw [hvalue]
    exact Capability.ofName?_name capability

/-- Values are taken for capabilities exactly when each is the name of one. -/
theorem capabilitiesOf_eq_ok_iff {values : List Json} {capabilities : List Capability} :
    capabilitiesOf values = .ok capabilities ↔
      values = capabilities.map fun capability => .str capability.name := by
  induction values generalizing capabilities with
  | nil => cases capabilities <;> simp [capabilitiesOf]
  | cons value values ih =>
      rw [capabilitiesOf]
      cases capabilities with
      | nil =>
          cases Capability.ofJson? value <;> cases capabilitiesOf values <;> simp [Except.map]
      | cons first rest =>
          rw [List.map_cons, List.cons.injEq, ← Capability.ofJson?_eq_some_iff, ← ih]
          cases Capability.ofJson? value <;> cases capabilitiesOf values <;> simp [Except.map]

/-! ## Settings -/

namespace KeyDraft

variable {draft next : KeyDraft}

theorem withCapabilities_eq_ok_iff {values : Json} :
    draft.withCapabilities values = .ok next ↔
      ∃ capabilities : List Capability,
        values.items? = some (capabilities.map fun capability => .str capability.name) ∧
        capabilities ≠ [] ∧ next = { draft with capabilities := some capabilities } := by
  unfold withCapabilities
  cases hitems : values.items? with
  | none => simp
  | some items =>
      simp only [Option.some.injEq, ← capabilitiesOf_eq_ok_iff]
      rcases capabilitiesOf items with violation | (_ | ⟨first, rest⟩) <;> simp [eq_comm]

theorem expiringAfter_eq_ok_iff {span : Span} :
    draft.expiringAfter span = .ok next ↔
      ∃ duration : Duration, (IsKeySpan span ∧ duration.span = span) ∧
        next = { draft with duration := some duration } := by
  simp only [← checkKeyDuration_eq_ok_iff]
  unfold expiringAfter
  cases checkKeyDuration span <;> simp [eq_comm]

/-- One setting keeps the rules. -/
theorem set_sound {setting : KeySetting} (hdraft : draft.Sound)
    (hset : draft.set setting = .ok next) : next.Sound := by
  cases setting with
  | capabilities values =>
      obtain ⟨capabilities, -, hne, rfl⟩ := withCapabilities_eq_ok_iff.mp hset
      exact { hdraft with capabilities := by simpa using hne }
  | duration span =>
      obtain ⟨duration, ⟨hrule, hspan⟩, rfl⟩ := expiringAfter_eq_ok_iff.mp hset
      exact { hdraft with duration := by simpa [hspan] using hrule }
  | bucketId value =>
      obtain rfl := Except.ok.inj hset
      exact ⟨hdraft.name, hdraft.capabilities, hdraft.duration⟩
  | namePrefix value =>
      obtain rfl := Except.ok.inj hset
      exact ⟨hdraft.name, hdraft.capabilities, hdraft.duration⟩

end KeyDraft

/-! ## Histories -/

/-- One call: a new draft, or a setting made on a draft obtained earlier. -/
inductive KeyCall where
  | new (name : String)
  | set (position : Nat) (setting : KeySetting)

/-- The draft that a call gives, if it succeeds. -/
def KeyCall.result? (drafts : List KeyDraft) : KeyCall → Option KeyDraft
  | .new name => (KeyDraft.named name).toOption
  | .set position setting =>
      drafts[position]?.bind fun draft => (draft.set setting).toOption

/-- The drafts obtained once a call is made.  A call that fails adds none. -/
def extendDrafts (drafts : List KeyDraft) (call : KeyCall) : List KeyDraft :=
  drafts ++ (call.result? drafts).toList

/-- All drafts that calls made in this order give. -/
def draftsAfter (calls : List KeyCall) : List KeyDraft := calls.foldl extendDrafts []

theorem KeyCall.result?_sound {drafts : List KeyDraft} {call : KeyCall} {draft : KeyDraft}
    (hdrafts : ∀ earlier ∈ drafts, earlier.Sound) (hcall : call.result? drafts = some draft) :
    draft.Sound := by
  cases call with
  | new name =>
      obtain ⟨hname, rfl⟩ := KeyDraft.named_eq_ok_iff.mp (toOption_eq_some_iff.mp hcall)
      exact ⟨hname, by simp, by simp⟩
  | set position setting =>
      obtain ⟨earlier, hearlier, hset⟩ := Option.bind_eq_some_iff.mp hcall
      exact KeyDraft.set_sound (hdrafts earlier (List.mem_of_getElem? hearlier))
        (toOption_eq_some_iff.mp hset)

theorem extendDrafts_sound {drafts : List KeyDraft} {call : KeyCall}
    (hdrafts : ∀ draft ∈ drafts, draft.Sound) :
    ∀ draft ∈ extendDrafts drafts call, draft.Sound := by
  intro draft hmem
  rcases List.mem_append.mp hmem with hearlier | hnew
  · exact hdrafts draft hearlier
  · exact KeyCall.result?_sound hdrafts (Option.mem_toList.mp hnew)

/-- Calls made after drafts that keep the rules give only such drafts. -/
theorem foldl_extendDrafts_sound {drafts : List KeyDraft} (calls : List KeyCall)
    (hdrafts : ∀ draft ∈ drafts, draft.Sound) :
    ∀ draft ∈ calls.foldl extendDrafts drafts, draft.Sound := by
  induction calls generalizing drafts with
  | nil => exact hdrafts
  | cons call calls ih => exact ih (extendDrafts_sound hdrafts)

/-! ## Building -/

namespace KeyDraft

theorem violations_eq_nil_iff (draft : KeyDraft) :
    draft.violations = [] ↔ draft.capabilities.isSome ∧
      (draft.bucketId.isGiven → ∀ capability ∈ draft.capabilities.getD [],
        capability.isAccountLevel = false) ∧
      (draft.namePrefix.isGiven → draft.bucketId.isGiven) := by
  unfold violations
  cases draft.capabilities <;> cases draft.bucketId.isGiven <;>
    cases draft.namePrefix.isGiven <;> simp [Capability.isBucketScopable]

theorem build_eq_ok_iff {draft : KeyDraft} {request : KeyRequest} :
    draft.build = .ok request ↔ draft.violations = [] ∧
      ∃ bucketId namePrefix : Option Loose,
        draft.bucketId = Json.ofOptionalText bucketId ∧
        draft.namePrefix = Json.ofOptionalText namePrefix ∧
        request = ⟨none, draft.capabilities.getD [], draft.name, draft.duration,
          bucketId, namePrefix⟩ := by
  unfold build
  by_cases hrules : draft.violations = []
  · simp only [hrules, List.isEmpty_nil, ↓reduceIte, Json.readGiven, true_and,
      Checked.orIllFormed_eq_ok_iff, Checked.seq_eq_sound_iff, Checked.map_eq_sound_iff,
      Checked.within_eq_sound_iff, Json.readNullable_text_eq_sound_iff]
    constructor
    · rintro ⟨_, ⟨bucketId, hbucketId, rfl⟩, namePrefix, hnamePrefix, rfl⟩
      exact ⟨bucketId, namePrefix, hbucketId, hnamePrefix, rfl⟩
    · rintro ⟨bucketId, namePrefix, hbucketId, hnamePrefix, rfl⟩
      exact ⟨_, ⟨bucketId, hbucketId, rfl⟩, namePrefix, hnamePrefix, rfl⟩
  · simp [hrules]

end KeyDraft

/-! ## Refusals -/

namespace KeyDraft

variable {draft : KeyDraft} {fault : Fault}

theorem named_error {name : String} (herror : named name = .error fault) : fault.IsViolation := by
  unfold named checkKeyName at herror
  cases hname : keyNameViolation? name with
  | none => simp [hname, Except.map] at herror
  | some violation =>
      simp only [hname, Except.map, Except.error.injEq] at herror
      exact Fault.isViolation_of_eq herror

theorem withCapabilities_error {values : List Json}
    (herror : draft.withCapabilities (.arr values) = .error fault) : fault.IsViolation := by
  unfold withCapabilities at herror
  simp only [Json.items?] at herror
  split at herror
  · exact Fault.isViolation_of_eq (Except.error.inj herror)
  · exact Fault.isViolation_of_eq (Except.error.inj herror)
  · exact nomatch herror

theorem expiringAfter_error {span : Span} (herror : draft.expiringAfter span = .error fault) :
    fault.IsViolation := by
  unfold expiringAfter at herror
  split at herror
  · exact Fault.isViolation_of_eq (Except.error.inj herror)
  · exact nomatch herror

/-- A draft whose bucket and prefix are texts fails to be built only by its
rules. -/
theorem build_error {bucketId namePrefix : Option Loose}
    (hbucketId : draft.bucketId = Json.ofOptionalText bucketId)
    (hnamePrefix : draft.namePrefix = Json.ofOptionalText namePrefix)
    (herror : draft.build = .error fault) : fault.IsViolation := by
  by_cases hrules : draft.violations = []
  · rw [build_eq_ok_iff.mpr ⟨hrules, _, _, hbucketId, hnamePrefix, rfl⟩] at herror
    exact nomatch herror
  · simp only [build, List.isEmpty_iff, hrules, if_false, Except.error.injEq] at herror
    exact ⟨_, herror.symm⟩

end KeyDraft

/-- A request built from a draft that keeps the rules keeps the rules between
its fields. -/
theorem KeyDraft.build_sound {draft : KeyDraft} {request : KeyRequest} (hdraft : draft.Sound)
    (hbuild : draft.build = .ok request) : request.Sound := by
  obtain ⟨hrules, bucketId, namePrefix, hbucketId, hnamePrefix, rfl⟩ := build_eq_ok_iff.mp hbuild
  obtain ⟨hsome, hscopable, hbucket⟩ := (violations_eq_nil_iff draft).mp hrules
  rw [hbucketId, Json.isGiven_ofOptionalText] at hscopable hbucket
  rw [hnamePrefix, Json.isGiven_ofOptionalText] at hbucket
  obtain ⟨capabilities, hcapabilities⟩ := Option.isSome_iff_exists.mp hsome
  refine ⟨?_, hscopable, hbucket, KeyRequest.not_occurs_null_body _,
    KeyRequest.body_field?_accountId rfl⟩
  intro hempty
  apply hdraft.capabilities
  rw [hcapabilities] at hempty ⊢
  exact congrArg some hempty

/-- Every draft obtained by any calls in any order keeps the rules, and so does
every request built from one; and each rule refuses only what breaks it. -/
theorem keyDrafts_sound_and_complete :
    (∀ calls : List KeyCall, ∀ draft ∈ draftsAfter calls, draft.Sound ∧
      ∀ request, draft.build = .ok request → request.Sound) ∧
    (∀ (name : String) (draft : KeyDraft), KeyDraft.named name = .ok draft ↔
      IsKeyName name ∧ draft = ⟨name, none, none, .null, .null⟩) ∧
    (∀ (draft next : KeyDraft) (span : Span), draft.set (.duration span) = .ok next ↔
      ∃ duration : Duration, (IsKeySpan span ∧ duration.span = span) ∧
        next = { draft with duration := some duration }) ∧
    (∀ (draft next : KeyDraft) (values : Json), draft.set (.capabilities values) = .ok next ↔
      ∃ capabilities : List Capability,
        values.items? = some (capabilities.map fun capability => .str capability.name) ∧
        capabilities ≠ [] ∧ next = { draft with capabilities := some capabilities }) := by
  refine ⟨?_, fun _ _ => KeyDraft.named_eq_ok_iff, fun _ _ _ => KeyDraft.expiringAfter_eq_ok_iff,
    fun _ _ _ => KeyDraft.withCapabilities_eq_ok_iff⟩
  intro calls draft hmem
  have hsound : draft.Sound := foldl_extendDrafts_sound calls (by simp) draft hmem
  exact ⟨hsound, fun request hbuild => KeyDraft.build_sound hsound hbuild⟩

end BucketAccess

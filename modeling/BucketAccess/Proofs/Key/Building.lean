import BucketAccess.Proofs.Key.Draft

/-!
# Building a key's request

Drafts that are given texts for their bucket and their prefix are built, or the
rules that they break are named: capabilities that were never set, each
capability that a bucket does not allow, and a prefix without a bucket.  The
messages follow that order, and a capability asked for twice is named twice.
-/

namespace BucketAccess

/-! ## Messages -/

/-- The capabilities that a key limited to one bucket cannot hold. -/
def Capability.accountLevel : List Capability :=
  [.listKeys, .writeKeys, .deleteKeys, .listAllBucketNames, .writeBuckets, .deleteBuckets]

/-- What is said of the capabilities of a key that is limited to a bucket. -/
inductive ScopeMessages : List Capability → List String → Prop where
  | nil : ScopeMessages [] []
  | allowed {capability : Capability} {capabilities : List Capability} {messages : List String} :
      capability ∉ Capability.accountLevel → ScopeMessages capabilities messages →
      ScopeMessages (capability :: capabilities) messages
  | refused {capability : Capability} {capabilities : List Capability} {messages : List String} :
      capability ∈ Capability.accountLevel → ScopeMessages capabilities messages →
      ScopeMessages (capability :: capabilities)
        (("Invalid capability when bucket_id is set: " ++ capability.name) :: messages)

/-- What is said of the limits of a key, given its bucket and its prefix. -/
inductive LimitMessages (capabilities : List Capability) :
    Option Loose → Option Loose → List String → Prop where
  | unlimited : LimitMessages capabilities none none []
  | bucketMissing {namePrefix : Loose} : LimitMessages capabilities none (some namePrefix)
      ["bucket_id must be set when name_prefix is given."]
  | bucket {bucketId : Loose} {namePrefix : Option Loose} {messages : List String} :
      ScopeMessages capabilities messages →
      LimitMessages capabilities (some bucketId) namePrefix messages

/-- What is said of a draft, given its capabilities, its bucket and its prefix. -/
inductive KeyMessages : Option (List Capability) → Option Loose → Option Loose →
    List String → Prop where
  | unset {bucketId namePrefix : Option Loose} {messages : List String} :
      LimitMessages [] bucketId namePrefix messages →
      KeyMessages none bucketId namePrefix
        ("A list of capabilities for the key is required." :: messages)
  | set {capabilities : List Capability} {bucketId namePrefix : Option Loose}
      {messages : List String} :
      LimitMessages capabilities bucketId namePrefix messages →
      KeyMessages (some capabilities) bucketId namePrefix messages

theorem Capability.mem_accountLevel_iff (capability : Capability) :
    capability ∈ accountLevel ↔ capability.isAccountLevel = true := by
  cases capability <;> decide

/-- The violations of scope have exactly the messages of each occurrence. -/
theorem scopeMessages_iff {capabilities : List Capability} {messages : List String} :
    ScopeMessages capabilities messages ↔
      ((capabilities.filter fun capability => !capability.isBucketScopable).map
        Violation.notBucketScopable).map Violation.message = messages := by
  induction capabilities generalizing messages with
  | nil =>
      constructor
      · rintro ⟨⟩
        rfl
      · rintro rfl
        exact .nil
  | cons capability capabilities ih =>
      rw [List.filter_cons, Capability.isBucketScopable, Bool.not_not]
      by_cases hlevel : capability.isAccountLevel = true
      · have hmem := (Capability.mem_accountLevel_iff capability).mpr hlevel
        rw [if_pos hlevel, List.map_cons, List.map_cons]
        constructor
        · rintro (_ | ⟨hallowed, -⟩ | ⟨-, hrest⟩)
          · exact absurd hmem hallowed
          · rw [ih.mp hrest]
            rfl
        · rintro rfl
          exact .refused hmem (ih.mpr rfl)
      · have hmem := (Capability.mem_accountLevel_iff capability).not.mpr hlevel
        rw [if_neg hlevel]
        constructor
        · rintro (_ | ⟨-, hrest⟩ | ⟨hrefused, -⟩)
          · exact ih.mp hrest
          · exact absurd hrefused hmem
        · intro hrest
          exact .allowed hmem (ih.mpr hrest)

/-! ## Drafts of texts -/

/-- A draft whose bucket and prefix are these texts, or were not set. -/
structure KeyDraft.Holds (draft : KeyDraft) (bucketId namePrefix : Option Loose) : Prop where
  bucketId : draft.bucketId = Json.ofOptionalText bucketId
  namePrefix : draft.namePrefix = Json.ofOptionalText namePrefix

/-- A setting of a bucket or a prefix is given a text. -/
def KeySetting.IsTextual : KeySetting → Prop
  | .bucketId value | .namePrefix value => ∃ text, value = .str text
  | _ => True

/-- Calls that are given texts where texts are expected. -/
def KeyCall.IsTextual : KeyCall → Prop
  | .new _ => True
  | .set _ setting => setting.IsTextual

namespace KeyDraft

variable {draft next : KeyDraft} {bucketId namePrefix : Option Loose}

theorem Holds.violations (hholds : draft.Holds bucketId namePrefix) :
    draft.violations =
      (if draft.capabilities.isNone then [.capabilitiesMissing] else []) ++
        (if bucketId.isSome then
          ((draft.capabilities.getD []).filter fun capability =>
            !capability.isBucketScopable).map .notBucketScopable
        else if namePrefix.isSome then [.bucketMissing]
        else []) := by
  rw [KeyDraft.violations, hholds.bucketId, hholds.namePrefix, Json.isGiven_ofOptionalText,
    Json.isGiven_ofOptionalText]

/-- The limits of a draft are broken with exactly their messages. -/
theorem limitMessages_iff {capabilities : List Capability} {messages : List String} :
    LimitMessages capabilities bucketId namePrefix messages ↔
      (if bucketId.isSome then
        (capabilities.filter fun capability =>
          !capability.isBucketScopable).map .notBucketScopable
      else if namePrefix.isSome then [Violation.bucketMissing]
      else []).map Violation.message = messages := by
  cases bucketId with
  | some bucketId =>
      rw [Option.isSome_some, if_pos rfl, ← scopeMessages_iff]
      constructor
      · intro hlimits
        cases hlimits with
        | bucket hscope => exact hscope
      · exact .bucket
  | none =>
      cases namePrefix with
      | some namePrefix =>
          constructor
          · rintro ⟨⟩
            rfl
          · rintro rfl
            exact .bucketMissing
      | none =>
          constructor
          · rintro ⟨⟩
            rfl
          · rintro rfl
            exact .unlimited

/-- A draft breaks rules with exactly the messages that belong to what it
holds. -/
theorem Holds.keyMessages_iff (hholds : draft.Holds bucketId namePrefix)
    {messages : List String} :
    KeyMessages draft.capabilities bucketId namePrefix messages ↔
      draft.violations.map Violation.message = messages := by
  rw [hholds.violations, List.map_append]
  cases draft.capabilities with
  | none =>
      constructor
      · rintro ⟨hlimits⟩
        rw [← limitMessages_iff.mp hlimits]
        rfl
      · rintro rfl
        exact .unset (limitMessages_iff.mpr rfl)
  | some capabilities =>
      constructor
      · rintro (_ | ⟨hlimits⟩)
        rw [← limitMessages_iff.mp hlimits]
        rfl
      · rintro rfl
        exact .set (limitMessages_iff.mpr rfl)

/-- A draft of texts is built exactly if it has capabilities, its bucket allows
them all, and its prefix does not stand alone; and nothing is changed. -/
theorem Holds.build_eq_ok_iff (hholds : draft.Holds bucketId namePrefix)
    {request : KeyRequest} :
    draft.build = .ok request ↔ ∃ capabilities, draft.capabilities = some capabilities ∧
      (bucketId.isSome → ∀ capability ∈ capabilities,
        capability ∉ Capability.accountLevel) ∧
      (namePrefix.isSome → bucketId.isSome) ∧
      request = ⟨none, capabilities, draft.name, draft.duration, bucketId, namePrefix⟩ := by
  have hlevel : ∀ capability : Capability,
      capability.isAccountLevel = false ↔ capability ∉ Capability.accountLevel := by
    intro capability
    rw [Capability.mem_accountLevel_iff, Bool.not_eq_true]
  rw [KeyDraft.build_eq_ok_iff, violations_eq_nil_iff, hholds.bucketId, hholds.namePrefix,
    Json.isGiven_ofOptionalText, Json.isGiven_ofOptionalText]
  simp only [hlevel, Json.ofOptionalText_inj]
  constructor
  · rintro ⟨⟨hsome, hscope, hbucket⟩, _, _, rfl, rfl, hrequest⟩
    obtain ⟨capabilities, hcapabilities⟩ := Option.isSome_iff_exists.mp hsome
    rw [hcapabilities] at hscope hrequest
    exact ⟨capabilities, hcapabilities, hscope, hbucket, hrequest⟩
  · rintro ⟨capabilities, hcapabilities, hscope, hbucket, hrequest⟩
    rw [hcapabilities]
    exact ⟨⟨rfl, hscope, hbucket⟩, _, _, rfl, rfl, hrequest⟩

/-- A draft of texts that is not built is refused for the rules it breaks. -/
theorem Holds.build_eq_error (hholds : draft.Holds bucketId namePrefix) {fault : Fault}
    (herror : draft.build = .error fault) :
    draft.violations ≠ [] ∧ fault = .invalidRequest draft.violations := by
  by_cases hrules : draft.violations = []
  · rw [KeyDraft.build_eq_ok_iff.mpr ⟨hrules, _, _, hholds.bucketId, hholds.namePrefix, rfl⟩]
      at herror
    exact nomatch herror
  · simp only [build, List.isEmpty_iff, hrules, if_false, Except.error.injEq] at herror
    exact ⟨hrules, herror.symm⟩

/-! ## Histories of texts -/

/-- One setting that is given a text leaves a draft of texts one. -/
theorem Holds.set {setting : KeySetting} (htextual : setting.IsTextual)
    (hholds : draft.Holds bucketId namePrefix) (hset : draft.set setting = .ok next) :
    ∃ bucketId namePrefix, next.Holds bucketId namePrefix := by
  cases setting with
  | capabilities values =>
      obtain ⟨capabilities, -, -, rfl⟩ := withCapabilities_eq_ok_iff.mp hset
      exact ⟨bucketId, namePrefix, hholds.bucketId, hholds.namePrefix⟩
  | duration span =>
      obtain ⟨duration, -, rfl⟩ := expiringAfter_eq_ok_iff.mp hset
      exact ⟨bucketId, namePrefix, hholds.bucketId, hholds.namePrefix⟩
  | bucketId value =>
      obtain ⟨text, rfl⟩ := htextual
      obtain rfl := Except.ok.inj hset
      exact ⟨some text, namePrefix, rfl, hholds.namePrefix⟩
  | namePrefix value =>
      obtain ⟨text, rfl⟩ := htextual
      obtain rfl := Except.ok.inj hset
      exact ⟨bucketId, some text, hholds.bucketId, rfl⟩

end KeyDraft

/-- All drafts are drafts of texts. -/
def AllHoldTexts (drafts : List KeyDraft) : Prop :=
  ∀ draft ∈ drafts, ∃ bucketId namePrefix, draft.Holds bucketId namePrefix

theorem KeyCall.result?_holds {drafts : List KeyDraft} {call : KeyCall} {draft : KeyDraft}
    (htextual : call.IsTextual) (hdrafts : AllHoldTexts drafts)
    (hcall : call.result? drafts = some draft) :
    ∃ bucketId namePrefix, draft.Holds bucketId namePrefix := by
  cases call with
  | new name =>
      obtain ⟨-, rfl⟩ := KeyDraft.named_eq_ok_iff.mp (toOption_eq_some_iff.mp hcall)
      exact ⟨none, none, rfl, rfl⟩
  | set position setting =>
      obtain ⟨earlier, hearlier, hset⟩ := Option.bind_eq_some_iff.mp hcall
      obtain ⟨bucketId, namePrefix, hholds⟩ := hdrafts earlier (List.mem_of_getElem? hearlier)
      exact hholds.set htextual (toOption_eq_some_iff.mp hset)

theorem AllHoldTexts.extendDrafts {drafts : List KeyDraft} {call : KeyCall}
    (htextual : call.IsTextual) (hdrafts : AllHoldTexts drafts) :
    AllHoldTexts (extendDrafts drafts call) := by
  intro draft hmem
  rcases List.mem_append.mp hmem with hearlier | hnew
  · exact hdrafts draft hearlier
  · exact KeyCall.result?_holds htextual hdrafts (Option.mem_toList.mp hnew)

/-- Calls that are given texts, made after drafts of texts, give only such
drafts. -/
theorem AllHoldTexts.foldl_extendDrafts {drafts : List KeyDraft} {calls : List KeyCall}
    (hcalls : ∀ call ∈ calls, call.IsTextual) (hdrafts : AllHoldTexts drafts) :
    AllHoldTexts (calls.foldl BucketAccess.extendDrafts drafts) := by
  induction calls generalizing drafts with
  | nil => exact hdrafts
  | cons call calls ih =>
      rw [List.forall_mem_cons] at hcalls
      exact ih hcalls.2 (hdrafts.extendDrafts hcalls.1)

/-- Every draft obtained by any calls that are given texts is built exactly if
its settings go together, with what it holds; otherwise it is refused, and
nothing but the rules it breaks is said, in order. -/
theorem keyDrafts_build_or_name_rules (calls : List KeyCall)
    (hcalls : ∀ call ∈ calls, call.IsTextual) :
    ∀ draft ∈ draftsAfter calls, ∃ bucketId namePrefix : Option Loose,
      draft.Holds bucketId namePrefix ∧
      (∀ request, draft.build = .ok request ↔
        ∃ capabilities, draft.capabilities = some capabilities ∧
          (bucketId.isSome → ∀ capability ∈ capabilities,
            capability ∉ Capability.accountLevel) ∧
          (namePrefix.isSome → bucketId.isSome) ∧
          request = ⟨none, capabilities, draft.name, draft.duration, bucketId, namePrefix⟩) ∧
      (∀ fault, draft.build = .error fault → ∃ violations ≠ [],
        fault = .invalidRequest violations ∧
        ∀ messages, KeyMessages draft.capabilities bucketId namePrefix messages ↔
          violations.map Violation.message = messages) := by
  intro draft hmem
  have hnone : AllHoldTexts [] := fun _ hmem => nomatch hmem
  obtain ⟨bucketId, namePrefix, hholds⟩ := hnone.foldl_extendDrafts hcalls draft hmem
  refine ⟨bucketId, namePrefix, hholds, fun _ => hholds.build_eq_ok_iff, ?_⟩
  intro fault herror
  obtain ⟨hrules, rfl⟩ := hholds.build_eq_error herror
  exact ⟨draft.violations, hrules, rfl, fun _ => hholds.keyMessages_iff⟩

/-- A capability asked for twice, of a key limited to a bucket of the empty text. -/
theorem keyDrafts_build_or_name_rules_repeated :
    let capabilities : List Capability := [.writeKeys, .listFiles, .writeKeys]
    let calls : List KeyCall := [.new "key",
      .set 0 (.capabilities (.arr (capabilities.map fun capability => .str capability.name))),
      .set 1 (.bucketId (.str ""))]
    let draft : KeyDraft := ⟨"key", some capabilities, none, .str "", .null⟩
    (∀ call ∈ calls, call.IsTextual) ∧ draft ∈ draftsAfter calls ∧
      ∃ bucketId namePrefix : Option Loose,
        draft.Holds bucketId namePrefix ∧
        (∀ request, draft.build = .ok request ↔
          ∃ capabilities, draft.capabilities = some capabilities ∧
            (bucketId.isSome → ∀ capability ∈ capabilities,
              capability ∉ Capability.accountLevel) ∧
            (namePrefix.isSome → bucketId.isSome) ∧
            request =
              ⟨none, capabilities, draft.name, draft.duration, bucketId, namePrefix⟩) ∧
        (∀ fault, draft.build = .error fault → ∃ violations ≠ [],
          fault = .invalidRequest violations ∧
          ∀ messages, KeyMessages draft.capabilities bucketId namePrefix messages ↔
            violations.map Violation.message = messages) := by
  intro capabilities calls draft
  have hcalls : ∀ call ∈ calls, call.IsTextual := by
    simp [calls, KeyCall.IsTextual, KeySetting.IsTextual]
  have hmem : draft ∈ draftsAfter calls := List.mem_of_getElem? (i := 2) rfl
  exact ⟨hcalls, hmem, keyDrafts_build_or_name_rules calls hcalls draft hmem⟩

end BucketAccess

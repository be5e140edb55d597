import BucketAccess.Download.Draft
import BucketAccess.Proofs.Duration
import BucketAccess.Proofs.Outcome
import BucketAccess.Proofs.Text.Numeral
import BucketAccess.Proofs.Text.Run
import BucketAccess.Proofs.Text.Split

/-!
# Cache control as it was asked for

An age is a whole number of seconds that is not negative, and stands in its
directive in plain decimal; every other span is refused, for its sign, for being finer
than a millisecond, or for being no whole second.  No directive holds a comma, so the
value of the header splits into the directives it was made from: two lists of
directives never give the same header.
-/

namespace BucketAccess.Download

open Text

/-! ## Ages -/

/-- Why a span is no age.  The sign is looked at first and the fraction of a second
last. -/
inductive NoAge (span : Span) : Violation → Prop where
  | negative (hsign : span.microseconds < 0) : NoAge span (.negativeAge span)
  | tooFine (hsign : 0 ≤ span.microseconds) (hpart : span.microseconds % 1000 ≠ 0) :
      NoAge span (.subMillisecond span)
  | fraction (hsign : 0 ≤ span.microseconds) (hwhole : span.microseconds % 1000 = 0)
      (hpart : span.microseconds % 1000000 ≠ 0) : NoAge span (.notWhole .seconds span)

/-- A span lasts a number of seconds. -/
def Lasts (seconds : Nat) (span : Span) : Prop := span.microseconds = seconds * 1000000

theorem Lasts.unique {seconds : Nat} {left right : Span} (hleft : Lasts seconds left)
    (hright : Lasts seconds right) : left = right := by
  rcases left with ⟨microseconds, _, _⟩
  obtain rfl : microseconds = right.microseconds := hleft.trans hright.symm
  rfl

section Ages

variable {span : Span} {seconds : Int} {violation : Violation} {label text : String}

/-- The three rules for ages are looked at one after the other. -/
theorem ageSeconds_cases (span : Span) :
    (∃ seconds : Nat, Lasts seconds span ∧ ageSeconds span = .ok seconds) ∨
      ∃ violation, NoAge span violation ∧ ageSeconds span = .error violation := by
  unfold ageSeconds
  by_cases hsign : span.microseconds < 0
  · right
    exact ⟨_, .negative hsign, if_pos hsign⟩
  rw [if_neg hsign]
  by_cases hwhole : span.microseconds % 1000 = 0
  · have hspan : Duration.ofSpan span = .ok ⟨span, hwhole⟩ := Duration.ofSpan_eq_ok_iff.mpr rfl
    rw [hspan]
    change (∃ seconds : Nat, _ ∧ Duration.toWire .seconds ⟨span, hwhole⟩ = _) ∨
      ∃ violation, _ ∧ Duration.toWire .seconds ⟨span, hwhole⟩ = _
    by_cases hpart : span.microseconds % 1000000 = 0
    · left
      obtain ⟨seconds, hseconds⟩ := Int.eq_ofNat_of_zero_le
        (Int.ediv_nonneg (not_lt.mp hsign) (by decide : (0 : Int) ≤ 1000000))
      refine ⟨seconds, ?_, ?_⟩
      · unfold Lasts
        omega
      · rw [Duration.toWire, SpanUnit.microseconds, if_pos hpart, hseconds]
    · right
      refine ⟨_, .fraction (not_lt.mp hsign) hwhole hpart, ?_⟩
      rw [Duration.toWire, SpanUnit.microseconds, if_neg hpart]
  · right
    refine ⟨_, .tooFine (not_lt.mp hsign) hwhole, ?_⟩
    rw [Duration.ofSpan, dif_neg hwhole]
    rfl

theorem NoAge.not_lasts (hviolation : NoAge span violation) (seconds : Nat) :
    ¬ Lasts seconds span := by
  unfold Lasts
  cases hviolation with
  | negative hsign => omega
  | tooFine hsign hpart => omega
  | fraction hsign hwhole hpart => omega

/-- No span breaks two of the rules as far as they are looked at. -/
theorem NoAge.unique {other : Violation} (hviolation : NoAge span violation)
    (hother : NoAge span other) : violation = other := by
  cases hviolation <;> cases hother <;> first | rfl | omega

/-- A directive with an age, under whatever name. -/
def ageText (label : String) (span : Span) : Except Violation String :=
  (ageSeconds span).map fun seconds => label ++ Text.intText seconds

/-- An age is written in plain decimal, and only whole seconds are ages. -/
theorem ageText_eq_ok_iff : ageText label span = .ok text ↔
    ∃ seconds : Nat, Lasts seconds span ∧ text = label ++ toString seconds := by
  unfold ageText
  rw [map_eq_ok_iff]
  rcases ageSeconds_cases span with ⟨seconds, hlasts, hage⟩ | ⟨violation, hviolation, hage⟩
  · rw [hage]
    constructor
    · rintro ⟨_, hsame, rfl⟩
      obtain rfl := Except.ok.inj hsame
      exact ⟨seconds, hlasts, congrArg (label ++ ·) (natText_eq_toString seconds)⟩
    · rintro ⟨other, hother, rfl⟩
      obtain rfl : seconds = other := by
        unfold Lasts at hlasts hother
        omega
      exact ⟨seconds, rfl, congrArg (label ++ ·) (natText_eq_toString seconds)⟩
  · rw [hage]
    constructor
    · rintro ⟨_, hsame, -⟩
      exact nomatch hsame
    · rintro ⟨seconds, hlasts, -⟩
      exact absurd hlasts (hviolation.not_lasts seconds)

theorem ageText_eq_error_iff : ageText label span = .error violation ↔ NoAge span violation := by
  unfold ageText
  rw [map_eq_error_iff]
  rcases ageSeconds_cases span with ⟨seconds, hlasts, hage⟩ | ⟨other, hother, hage⟩
  · rw [hage]
    constructor
    · intro hsame
      exact nomatch hsame
    · intro hviolation
      exact absurd hlasts (hviolation.not_lasts seconds)
  · rw [hage, Except.error.injEq]
    constructor
    · rintro rfl
      exact hother
    · exact hother.unique

/-- An age can be told from its directive. -/
theorem ageText_injective {other : Span} (hspan : ageText label span = .ok text)
    (hother : ageText label other = .ok text) : span = other := by
  obtain ⟨seconds, hlasts, rfl⟩ := ageText_eq_ok_iff.mp hspan
  obtain ⟨others, hothers, heq⟩ := ageText_eq_ok_iff.mp hother
  have hlists := congrArg String.toList heq
  rw [String.toList_append, String.toList_append] at hlists
  obtain rfl : seconds = others :=
    Nat.repr_injective (String.toList_inj.mp (List.append_cancel_left hlists))
  exact hlasts.unique hothers

end Ages

/-! ## Directives -/

theorem CacheDirective.name_injective : Function.Injective CacheDirective.name := by
  intro left right heq
  cases left <;> cases right <;> first | rfl | exact absurd heq (by decide +kernel)

theorem CacheDirective.name_ne_maxAge (directive : CacheDirective) :
    directive.name ≠ "max-age" := by
  cases directive <;> decide +kernel

theorem CacheDirective.name_ne_sharedMaxAge (directive : CacheDirective) :
    directive.name ≠ "s-maxage" := by
  cases directive <;> decide +kernel

/-- What can be asked for: a directive without an argument, or one of the two ages. -/
inductive CacheEntry where
  | plain (directive : CacheDirective)
  | maxAge (span : Span)
  | sharedMaxAge (span : Span)

namespace CacheEntry

/-- The directive in words. -/
def text : CacheEntry → Except Violation String
  | plain directive => .ok directive.name
  | maxAge span => Download.maxAge span
  | sharedMaxAge span => Download.sharedMaxAge span

/-- The name of the directive, without its argument. -/
def name : CacheEntry → String
  | plain directive => directive.name
  | maxAge _ => "max-age"
  | sharedMaxAge _ => "s-maxage"

variable {entry other : CacheEntry} {words : String}

theorem not_mem_ageText {char : Char} {label : String} {span : Span}
    (hlabel : char ∉ label.toList) (hdigit : isAsciiDigit char = false)
    (htext : ageText label span = .ok words) : char ∉ words.toList := by
  obtain ⟨seconds, -, rfl⟩ := ageText_eq_ok_iff.mp htext
  rw [← natText_eq_toString, natText, String.toList_append, String.toList_ofList, List.mem_append,
    not_or]
  refine ⟨hlabel, fun hchar => ?_⟩
  rw [isAsciiDigit_of_mem_digits hchar] at hdigit
  cases hdigit

/-- No directive holds a comma. -/
theorem not_mem_text (htext : entry.text = .ok words) : ',' ∉ words.toList := by
  cases entry with
  | plain directive =>
      obtain rfl := Except.ok.inj htext
      cases directive <;> decide +kernel
  | maxAge span => exact not_mem_ageText (by decide +kernel) (by decide) htext
  | sharedMaxAge span => exact not_mem_ageText (by decide +kernel) (by decide) htext

theorem takeWhile_ageText {label name : String} {span : Span} (hlabel : label = name ++ "=")
    (hname : '=' ∉ name.toList) (htext : ageText label span = .ok words) :
    words.toList.takeWhile (· ≠ '=') = name.toList := by
  obtain ⟨seconds, -, rfl⟩ := ageText_eq_ok_iff.mp htext
  rw [hlabel, String.toList_append, String.toList_append, List.append_assoc]
  apply takeWhile_run
  · intro char hchar
    exact decide_eq_true fun heq => hname (heq ▸ hchar)
  · exact ends_cons.mpr (by decide)

/-- The name of a directive is what stands in front of an equals sign. -/
theorem takeWhile_text (htext : entry.text = .ok words) :
    words.toList.takeWhile (· ≠ '=') = entry.name.toList := by
  cases entry with
  | plain directive =>
      obtain rfl := Except.ok.inj htext
      cases directive <;> decide +kernel
  | maxAge span =>
      change _ = "max-age".toList
      exact takeWhile_ageText (by decide +kernel) (by decide +kernel) htext
  | sharedMaxAge span =>
      change _ = "s-maxage".toList
      exact takeWhile_ageText (by decide +kernel) (by decide +kernel) htext

theorem name_eq_of_text (hentry : entry.text = .ok words) (hother : other.text = .ok words) :
    entry.name = other.name := by
  rw [← String.toList_inj, ← takeWhile_text hentry, takeWhile_text hother]

/-- What is asked for can be told from its words: its name says what it is, and an age
stands in decimal behind it. -/
theorem text_injective (hentry : entry.text = .ok words) (hother : other.text = .ok words) :
    entry = other := by
  have hname := name_eq_of_text hentry hother
  cases entry with
  | plain directive =>
      cases other with
      | plain others => rw [CacheDirective.name_injective hname]
      | maxAge span => exact absurd hname (CacheDirective.name_ne_maxAge directive)
      | sharedMaxAge span => exact absurd hname (CacheDirective.name_ne_sharedMaxAge directive)
  | maxAge span =>
      cases other with
      | plain directive => exact absurd hname.symm (CacheDirective.name_ne_maxAge directive)
      | maxAge others => rw [ageText_injective hentry hother]
      | sharedMaxAge others =>
          exact absurd hname (by decide +kernel : "max-age" ≠ "s-maxage")
  | sharedMaxAge span =>
      cases other with
      | plain directive => exact absurd hname.symm (CacheDirective.name_ne_sharedMaxAge directive)
      | maxAge others => exact absurd hname (by decide +kernel : "s-maxage" ≠ "max-age")
      | sharedMaxAge others => rw [ageText_injective hentry hother]

end CacheEntry

/-! ## The header -/

/-- The directives in words, none of them refused. -/
def InWords : List CacheEntry → List String → Prop :=
  List.Forall₂ fun entry words => entry.text = .ok words

/-- What stands between the commas of a header, each with a space behind it. -/
def headerItems (value : String) : List String :=
  (split [',', ' '] value.toList).map String.ofList

section Header

variable {entries others : List CacheEntry} {texts : List String}

theorem InWords.not_mem (hwords : InWords entries texts) : ∀ text ∈ texts, ',' ∉ text.toList := by
  unfold InWords at hwords
  induction hwords with
  | nil => exact List.forall_mem_nil _
  | cons hentry _ ih => exact List.forall_mem_cons.mpr ⟨CacheEntry.not_mem_text hentry, ih⟩

theorem InWords.ne_nil (hwords : InWords entries texts) (hne : entries ≠ []) : texts ≠ [] := by
  rintro rfl
  exact hne (List.forall₂_nil_right_iff.mp hwords)

/-- Directives that are joined are found again. -/
theorem headerItems_intercalate (hne : texts ≠ []) (hfree : ∀ text ∈ texts, ',' ∉ text.toList) :
    headerItems (", ".intercalate texts) = texts := by
  have hpieces : ∀ piece ∈ texts.map String.toList, ',' ∉ piece := List.forall_mem_map.mpr hfree
  have hsplit : split [',', ' '] ([',', ' '].intercalate (texts.map String.toList)) =
      texts.map String.toList := split_intercalate (List.map_eq_nil_iff.not.mpr hne) hpieces
  rw [headerItems, String.toList_intercalate]
  change (split [',', ' '] ([',', ' '].intercalate _)).map String.ofList = texts
  rw [hsplit, List.map_map]
  calc
    texts.map (String.ofList ∘ String.toList) = texts.map id :=
      List.map_congr_left fun _ _ => String.ofList_toList
    _ = texts := List.map_id texts

theorem withCacheControl_of_ne_nil (draft : DownloadDraft) (hne : texts ≠ []) :
    draft.withCacheControl texts =
      .ok { draft with cacheControl := some (", ".intercalate texts) } := by
  have hempty : ¬ texts.isEmpty = true := List.isEmpty_iff.not.mpr hne
  rw [DownloadDraft.withCacheControl, cacheControl, if_neg hempty]

/-- Directives are told by their words. -/
theorem InWords.unique (hwords : InWords entries texts) (hothers : InWords others texts) :
    entries = others := by
  have hunique : Relator.LeftUnique fun (entry : CacheEntry) words => entry.text = .ok words :=
    fun _ _ _ => CacheEntry.text_injective
  exact List.left_unique_forall₂' hunique hwords hothers

/-- Directives are stored in a form that splits into them again. -/
theorem InWords.stored (draft : DownloadDraft) (hne : entries ≠ [])
    (hwords : InWords entries texts) :
    ∃ value, draft.withCacheControl texts = .ok { draft with cacheControl := some value } ∧
      headerItems value = texts :=
  have htexts := hwords.ne_nil hne
  ⟨_, withCacheControl_of_ne_nil draft htexts, headerItems_intercalate htexts hwords.not_mem⟩

end Header

/-- A maximal age and a maximal shared age are the whole seconds that are not negative, in
plain decimal, and every other span is refused.  Directives in words, at least one of them,
are stored as a text that splits at its commas into exactly these words; so what was asked
for can be told from the header. -/
theorem cache_control_is_faithful :
    (∀ span text, maxAge span = .ok text ↔
      ∃ seconds : Nat, Lasts seconds span ∧ text = "max-age=" ++ toString seconds) ∧
    (∀ span text, sharedMaxAge span = .ok text ↔
      ∃ seconds : Nat, Lasts seconds span ∧ text = "s-maxage=" ++ toString seconds) ∧
    (∀ span violation, maxAge span = .error violation ↔ NoAge span violation) ∧
    (∀ span violation, sharedMaxAge span = .error violation ↔ NoAge span violation) ∧
    (∀ (draft : DownloadDraft) entries texts, entries ≠ [] → InWords entries texts →
      ∃ value, draft.withCacheControl texts = .ok { draft with cacheControl := some value } ∧
        headerItems value = texts) ∧
    ∀ (draft other : DownloadDraft) entries others texts otherTexts next last,
      entries ≠ [] → others ≠ [] → InWords entries texts → InWords others otherTexts →
      draft.withCacheControl texts = .ok next → other.withCacheControl otherTexts = .ok last →
      next.cacheControl = last.cacheControl → entries = others := by
  refine ⟨fun _ _ => ageText_eq_ok_iff, fun _ _ => ageText_eq_ok_iff,
    fun _ _ => ageText_eq_error_iff, fun _ _ => ageText_eq_error_iff,
    fun draft _ _ hne hwords => hwords.stored draft hne, ?_⟩
  intro draft other entries others texts otherTexts next last hne hothers hwords hwords' hnext
    hlast hsame
  obtain ⟨value, hvalue, hitems⟩ := hwords.stored draft hne
  obtain ⟨value', hvalue', hitems'⟩ := hwords'.stored other hothers
  obtain rfl := Except.ok.inj (hvalue.symm.trans hnext)
  obtain rfl := Except.ok.inj (hvalue'.symm.trans hlast)
  obtain rfl : value = value' := Option.some.inj hsame
  obtain rfl : texts = otherTexts := hitems.symm.trans hitems'
  exact hwords.unique hwords'

/-- One day, and twice that it is not to be stored; any other directives with this header
are the same ones. -/
theorem cache_control_of_one_day :
    (∃ value, DownloadDraft.empty.withCacheControl ["max-age=86400", "no-store", "no-store"] =
        .ok { DownloadDraft.empty with cacheControl := some value } ∧
      headerItems value = ["max-age=86400", "no-store", "no-store"]) ∧
    ∀ others otherTexts last, others ≠ [] → InWords others otherTexts →
      DownloadDraft.empty.withCacheControl otherTexts = .ok last →
      last.cacheControl = some "max-age=86400, no-store, no-store" →
      others = [.maxAge ⟨86400000000, by decide, by decide⟩, .plain .noStore, .plain .noStore] := by
  obtain ⟨hage, -, -, -, hstored, hunique⟩ := cache_control_is_faithful
  have hwords : InWords
      [.maxAge ⟨86400000000, by decide, by decide⟩, .plain .noStore, .plain .noStore]
      ["max-age=86400", "no-store", "no-store"] := by
    refine .cons ?_ (.cons rfl (.cons rfl .nil))
    exact (hage _ _).mpr ⟨86400, rfl, by decide +kernel⟩
  refine ⟨hstored .empty _ _ (List.cons_ne_nil _ _) hwords, ?_⟩
  intro others otherTexts last hothers hwords' hlast hsame
  exact (hunique .empty .empty _ _ _ _ _ _ (List.cons_ne_nil _ _) hothers hwords hwords'
    (withCacheControl_of_ne_nil .empty (List.cons_ne_nil _ _)) hlast
    (Eq.trans (congrArg some (by decide +kernel)) hsame.symm)).symm

end BucketAccess.Download

import BucketAccess.Download.Draft
import BucketAccess.Proofs.Calendar.HttpDate

/-!
# Expirations of downloads

The Expires header of a download is fixed from a moment on any clock.  It shows the
instant of that moment as a clock in UTC does, down to the second, whatever the
offset carries over: the end of a day, of a month, of a leap February or of a year.
Only an instant that has no date in years 1 to 9999 is refused.
-/

namespace BucketAccess

open Calendar (IsTimeOf Moment dayAfter headerText microsPerDay microsPerSecond)

namespace DownloadDraft

variable {moment : Moment} {draft : DownloadDraft} {days time : Nat}

theorem expiringAt_eq_overflow_iff : draft.expiringAt moment = .error .overflow ↔
    ¬ ∃ days time, IsTimeOf moment.instant days time := by
  rw [← Calendar.ofInstant?_eq_none_iff, expiringAt, Moment.inUtc?]
  cases Moment.ofInstant? moment.instant <;> simp

theorem expiringAt_of_isTimeOf (htime : IsTimeOf moment.instant days time) :
    draft.expiringAt moment =
      .ok { draft with expires := some (headerText days (time / microsPerSecond)) } := by
  obtain ⟨inUtc, hinstant, htext⟩ := Option.map_eq_some_iff.mp htime.httpText
  rw [expiringAt, Moment.inUtc?, hinstant, ← htext]

/-- The text of an expiration is that of the day and the second of its instant. -/
theorem exists_isTimeOf_of_expiringAt {text : String}
    (hset : draft.expiringAt moment = .ok { draft with expires := some text }) :
    ∃ days time, IsTimeOf moment.instant days time ∧
      text = headerText days (time / microsPerSecond) := by
  have hnot : draft.expiringAt moment ≠ .error .overflow := fun hoverflow =>
    nomatch hset.symm.trans hoverflow
  rw [ne_eq, expiringAt_eq_overflow_iff, not_not] at hnot
  obtain ⟨days, time, htime⟩ := hnot
  refine ⟨days, time, htime, ?_⟩
  have hsame := Except.ok.inj (hset.symm.trans (expiringAt_of_isTimeOf htime))
  exact Option.some.inj (congrArg DownloadDraft.expires hsame)

end DownloadDraft

/-- The whole seconds of an instant, from the start of year 1 on. -/
theorem Calendar.IsTimeOf.seconds_eq {instant : Int} {days time : Nat}
    (htime : IsTimeOf instant days time) :
    instant / microsPerSecond = (days * 86400 + time / microsPerSecond : Nat) := by
  rw [htime.instant_eq]
  simp only [microsPerDay, microsPerSecond]
  omega

theorem Calendar.IsTimeOf.second_lt {instant : Int} {days time : Nat}
    (htime : IsTimeOf instant days time) : time / microsPerSecond < 86400 := by
  have hlt := htime.time_lt
  simp only [microsPerDay, microsPerSecond] at hlt ⊢
  omega

/-- A moment that the calendar has stands for an instant: its day and time of day
less the offset of its clock.  If that is a time of a day in years 1 to 9999, the
header shows this day and the second, always in 29 characters, and otherwise it is
refused.  Two headers are the same exactly when their instants lie within the same
second. -/
theorem expirations_show_instants :
    (∀ (moment : Moment) (draft : DownloadDraft), moment.isValid = true →
      (∃ days : Nat, moment.date = dayAfter days ∧
        moment.instant = (days * microsPerDay + moment.timeOfDay : Nat) -
          moment.offset.getD 0 * microsPerSecond) ∧
      (draft.expiringAt moment = .error .overflow ↔
        ¬ ∃ days time, IsTimeOf moment.instant days time) ∧
      ∀ days time, IsTimeOf moment.instant days time →
        draft.expiringAt moment =
            .ok { draft with expires := some (headerText days (time / microsPerSecond)) } ∧
          (headerText days (time / microsPerSecond)).length = 29) ∧
    ∀ (left right : Moment) (draft other : DownloadDraft) (text text' : String),
      draft.expiringAt left = .ok { draft with expires := some text } →
      other.expiringAt right = .ok { other with expires := some text' } →
      (text = text' ↔ left.instant / microsPerSecond = right.instant / microsPerSecond) := by
  constructor
  · intro moment draft hvalid
    refine ⟨?_, DownloadDraft.expiringAt_eq_overflow_iff, ?_⟩
    · obtain ⟨days, hdate, hordinal⟩ := (Moment.isProper_date hvalid).exists_dayAfter
      refine ⟨days, hdate, ?_⟩
      rw [Moment.instant, hordinal, Nat.add_sub_cancel]
    · intro days time htime
      exact ⟨DownloadDraft.expiringAt_of_isTimeOf htime,
        Calendar.length_headerText htime.year_le htime.second_lt⟩
  · intro left right draft other text text' hset hset'
    obtain ⟨days, time, htime, rfl⟩ := DownloadDraft.exists_isTimeOf_of_expiringAt hset
    obtain ⟨days', time', htime', rfl⟩ := DownloadDraft.exists_isTimeOf_of_expiringAt hset'
    have hsecond := htime.second_lt
    have hsecond' := htime'.second_lt
    rw [htime.seconds_eq, htime'.seconds_eq, Int.natCast_inj]
    constructor
    · intro heq
      obtain ⟨rfl, hsame⟩ := Calendar.headerText_injective htime.year_le htime'.year_le hsecond
        hsecond' heq
      rw [hsame]
    · intro heq
      generalize time / microsPerSecond = second at *
      generalize time' / microsPerSecond = second' at *
      obtain rfl : days = days' := by omega
      obtain rfl : second = second' := by omega
      rfl

/-- Half past midnight on 1 March of a leap year, one hour ahead of UTC. -/
def afterLeapDay : Moment := ⟨⟨2024, 3, 1⟩, 0, 30, 0, 999999, some 3600⟩

/-- Half past eleven on the evening before, on a clock that is taken to show UTC. -/
def onLeapDay : Moment := ⟨⟨2024, 2, 29⟩, 23, 30, 0, 0, none⟩

theorem expirations_show_instants_leapDay :
    DownloadDraft.empty.expiringAt afterLeapDay =
        .ok { DownloadDraft.empty with expires := some "Thu, 29 Feb 2024 23:30:00 GMT" } ∧
      DownloadDraft.empty.expiringAt onLeapDay =
        .ok { DownloadDraft.empty with expires := some "Thu, 29 Feb 2024 23:30:00 GMT" } ∧
      afterLeapDay.instant / microsPerSecond = onLeapDay.instant / microsPerSecond := by
  have hdate : (dayAfter 738944).year ≤ 9999 := by
    rw [← Calendar.ofOrdinal_succ]
    decide
  have hahead : IsTimeOf afterLeapDay.instant 738944 84600999999 := ⟨by decide, by decide, hdate⟩
  have hinUtc : IsTimeOf onLeapDay.instant 738944 84600000000 := ⟨by decide, by decide, hdate⟩
  have htext : headerText 738944 84600 = "Thu, 29 Feb 2024 23:30:00 GMT" := by
    rw [headerText, ← Calendar.ofOrdinal_succ]
    decide +kernel
  have hshown := (expirations_show_instants.1 afterLeapDay .empty (by decide)).2.2 _ _ hahead
  have hshown' := (expirations_show_instants.1 onLeapDay .empty (by decide)).2.2 _ _ hinUtc
  have hahead' : 84600999999 / microsPerSecond = 84600 := by decide
  have hinUtc' : 84600000000 / microsPerSecond = 84600 := by decide
  rw [hahead', htext] at hshown
  rw [hinUtc', htext] at hshown'
  exact ⟨hshown.1, hshown'.1, (expirations_show_instants.2 _ _ _ _ _ _ hshown.1 hshown'.1).mp rfl⟩

end BucketAccess

import BucketAccess.Calendar.Reader
import BucketAccess.Proofs.Calendar.HttpDate

/-!
# The moment of an instant

A clock in UTC shows each instant within years 1 to 9999 in one way: the day that the
instant falls on, and the parts of the time into that day.  The moment of an instant is
what it shows.

A number stands for an instant as well.  A number of moderate size counts seconds from
the epoch and only a larger one counts milliseconds, so that the greatest number of
seconds is a later instant than many numbers of milliseconds.
-/

namespace BucketAccess.Calendar

/-! ## What a clock shows -/

/-- A moment of the calendar that a clock in UTC shows at an instant. -/
structure Moment.Shows (moment : Moment) (instant : Int) : Prop where
  isValid : moment.isValid = true
  offset_eq : moment.offset = some 0
  instant_eq : moment.instant = instant

section Days

variable {days time : Nat}

theorem timeOfDay_momentOn (days time : Nat) : (momentOn days time).timeOfDay = time := by
  simp only [momentOn, Moment.timeOfDay, microsPerSecond]
  omega

theorem instant_momentOn (days time : Nat) :
    (momentOn days time).instant = (days * microsPerDay + time : Nat) := by
  have hdate : (momentOn days time).date.ordinal = days + 1 := ordinal_dayAfter days
  have hoffset : (momentOn days time).offset = some 0 := rfl
  rw [Moment.instant, hdate, timeOfDay_momentOn, hoffset, Nat.add_sub_cancel, Option.getD_some,
    Int.zero_mul, Int.sub_zero]

theorem isValid_momentOn (htime : time < microsPerDay) (hyear : (dayAfter days).year ≤ 9999) :
    (momentOn days time).isValid = true := by
  have hdate : (dayAfter days).isValid = true :=
    Date.isValid_iff.mpr ⟨isProper_dayAfter days, hyear⟩
  have hhour : time / microsPerSecond / 3600 < 24 := by
    unfold microsPerDay at htime
    unfold microsPerSecond
    omega
  have hminute : time / microsPerSecond / 60 % 60 < 60 := Nat.mod_lt _ (by decide)
  have hsecond : time / microsPerSecond % 60 < 60 := Nat.mod_lt _ (by decide)
  have hmicrosecond : time % microsPerSecond < microsPerSecond := Nat.mod_lt _ (by decide)
  simp [momentOn, Moment.isValid, hdate, hhour, hminute, hsecond, hmicrosecond, isOffset]

end Days

section Instants

variable {instant : Int} {days time : Nat} {moment : Moment}

theorem IsTimeOf.shows_momentOn (htime : IsTimeOf instant days time) :
    (momentOn days time).Shows instant where
  isValid := isValid_momentOn htime.time_lt htime.year_le
  offset_eq := rfl
  instant_eq := (instant_momentOn days time).trans htime.instant_eq.symm

/-- What a clock in UTC shows at an instant tells the day and the time. -/
theorem Moment.Shows.exists_isTimeOf (hshows : moment.Shows instant) :
    ∃ days time, IsTimeOf instant days time ∧ moment = momentOn days time := by
  obtain ⟨hvalid, hoffset, rfl⟩ := hshows
  obtain ⟨days, hdate, hordinal⟩ := (isProper_date hvalid).exists_dayAfter
  rcases moment with ⟨date, hour, minute, second, microsecond, offset⟩
  simp only [Moment.isValid, Bool.and_eq_true, decide_eq_true_eq] at hvalid
  obtain ⟨⟨⟨⟨⟨hcalendar, hhour⟩, hminute⟩, hsecond⟩, hmicrosecond⟩, -⟩ := hvalid
  change offset = some 0 at hoffset
  change date = dayAfter days at hdate
  change date.ordinal = days + 1 at hordinal
  have hyear := (Date.isValid_iff.mp hcalendar).2
  subst hoffset hdate
  unfold microsPerSecond at hmicrosecond
  have htime : ((hour * 60 + minute) * 60 + second) * microsPerSecond + microsecond <
      microsPerDay := by
    unfold microsPerSecond microsPerDay
    omega
  refine ⟨days, ((hour * 60 + minute) * 60 + second) * microsPerSecond + microsecond,
    ⟨?_, htime, hyear⟩, ?_⟩
  · simp only [Moment.instant, Moment.timeOfDay, hordinal, Nat.add_sub_cancel, Option.getD_some,
      Int.zero_mul, Int.sub_zero]
  · simp only [momentOn, Moment.mk.injEq, true_and, and_true]
    unfold microsPerSecond
    omega

/-- The moment of an instant is the one that a clock in UTC shows then. -/
theorem ofInstant?_eq_some_iff :
    Moment.ofInstant? instant = some moment ↔ moment.Shows instant := by
  constructor
  · intro hmoment
    have hsome : Moment.ofInstant? instant ≠ none := by
      rw [hmoment]
      exact Option.some_ne_none moment
    obtain ⟨days, time, htime⟩ := not_not.mp (ofInstant?_eq_none_iff.not.mp hsome)
    obtain rfl := Option.some.inj (htime.ofInstant?_eq.symm.trans hmoment)
    exact htime.shows_momentOn
  · intro hshows
    obtain ⟨days, time, htime, rfl⟩ := hshows.exists_isTimeOf
    exact htime.ofInstant?_eq

/-- The instants that a clock in UTC can show are those within years 1 to 9999. -/
theorem exists_shows_iff :
    (∃ moment : Moment, moment.Shows instant) ↔ 0 ≤ instant ∧ instant < Moment.instantEnd := by
  rw [← exists_isTimeOf_iff]
  constructor
  · rintro ⟨moment, hshows⟩
    obtain ⟨days, time, htime, -⟩ := hshows.exists_isTimeOf
    exact ⟨days, time, htime⟩
  · rintro ⟨days, time, htime⟩
    exact ⟨_, htime.shows_momentOn⟩

end Instants

/-! ## Numbers as instants -/

namespace Moment

/-- The instant a number of seconds after the epoch. -/
def secondsIn (number : Int) : Int := epoch + number * 1000000

/-- The instant a number of milliseconds after the epoch. -/
def millisecondsIn (number : Int) : Int := epoch + number * 1000

/-- The instant that a number stands for. -/
def instantOf (number : Int) : Int :=
  if number.natAbs ≤ maxSeconds then secondsIn number else millisecondsIn number

variable {number : Int} {moment : Moment}

theorem ofInt_eq_ok_iff : ofInt number = .ok moment ↔ moment.Shows (instantOf number) := by
  have hmicros : epoch + number * microsPerUnit (number.natAbs ≤ maxSeconds) =
      instantOf number := by
    unfold instantOf microsPerUnit secondsIn millisecondsIn
    split <;> simp_all
  rw [ofInt, ofEpochMicros, hmicros, ← ofInstant?_eq_some_iff]
  cases ofInstant? (instantOf number) <;> simp

/-- Only zero is the same in both units. -/
theorem instantOf_eq_millisecondsIn_iff :
    instantOf number = millisecondsIn number ↔ number = 0 ∨ maxSeconds < number.natAbs := by
  unfold instantOf secondsIn millisecondsIn
  split <;> omega

theorem instantOf_eq_secondsIn_iff :
    instantOf number = secondsIn number ↔ number.natAbs ≤ maxSeconds := by
  unfold instantOf secondsIn millisecondsIn maxSeconds
  split <;> omega

/-- In one and the same unit, larger numbers stand for later instants. -/
theorem instantOf_lt {other : Int} (hlt : number < other)
    (hunit : number.natAbs ≤ maxSeconds ↔ other.natAbs ≤ maxSeconds) :
    instantOf number < instantOf other := by
  unfold instantOf secondsIn millisecondsIn
  split <;> split <;> omega

end Moment

end BucketAccess.Calendar

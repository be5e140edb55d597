import BucketAccess.Calendar.Moment
import BucketAccess.Proofs.Calendar.Day
import BucketAccess.Proofs.Text.Numeral

/-!
# Dates in headers

An instant in years 1 to 9999 lies on a day of the calendar, a number of days after
1 January of year 1, and some time into that day.  The date in a header tells the
day, by its date and by the day of the week, and the whole seconds of the time.  Its
parts have fixed widths, so it tells them without doubt.
-/

namespace BucketAccess.Calendar

open Moment (dayNames monthNames)

/-! ## The form of a date in headers -/

/-- The date in a header of a day and a second of it.  The days are counted from
1 January of year 1, which is a Monday. -/
def headerText (days second : Nat) : String :=
  dayNames.getD (days % 7) "" ++ ", " ++ Text.paddedText 2 (dayAfter days).day ++ " " ++
    monthNames.getD ((dayAfter days).month - 1) "" ++ " " ++
    Text.paddedText 4 (dayAfter days).year ++ " " ++ Text.paddedText 2 (second / 3600) ++ ":" ++
    Text.paddedText 2 (second / 60 % 60) ++ ":" ++ Text.paddedText 2 (second % 60) ++ " GMT"

/-- The parts of a date in a header. -/
def headerParts (days second : Nat) : List (List Char) :=
  [(dayNames.getD (days % 7) "").toList, ", ".toList,
    Text.paddedDigits 2 (dayAfter days).day, " ".toList,
    (monthNames.getD ((dayAfter days).month - 1) "").toList, " ".toList,
    Text.paddedDigits 4 (dayAfter days).year, " ".toList,
    Text.paddedDigits 2 (second / 3600), ":".toList, Text.paddedDigits 2 (second / 60 % 60),
    ":".toList, Text.paddedDigits 2 (second % 60), " GMT".toList]

theorem toList_headerText (days second : Nat) :
    (headerText days second).toList = (headerParts days second).flatten := by
  simp [headerText, headerParts, Text.paddedText, String.toList_append]

theorem length_dayName {weekday : Nat} (hweekday : weekday < 7) :
    (dayNames.getD weekday "").toList.length = 3 := by
  revert weekday
  decide

theorem length_monthName {month : Nat} (hmonth : month < 12) :
    (monthNames.getD month "").toList.length = 3 := by
  revert month
  decide

theorem monthName_injective {left right : Nat} (hleft : left < 12) (hright : right < 12)
    (heq : monthNames.getD left "" = monthNames.getD right "") : left = right := by
  have hall : ∀ left < 12, ∀ right < 12,
      monthNames.getD left "" = monthNames.getD right "" → left = right := by decide
  exact hall left hleft right hright heq

/-! ## What a date in a header tells -/

section Widths

variable {days second : Nat}

/-- Every part has its width. -/
theorem length_headerParts (hyear : (dayAfter days).year ≤ 9999) (hsecond : second < 86400) :
    (headerParts days second).map List.length = [3, 2, 2, 1, 3, 1, 4, 1, 2, 1, 2, 1, 2, 4] := by
  have hproper := isProper_dayAfter days
  have hmonths := hproper.month_le
  have hdays := day_dayAfter_le days
  have hmonth : (dayAfter days).month - 1 < 12 := by omega
  have hname := length_dayName (Nat.mod_lt days (by decide : 0 < 7))
  have hday : (Text.paddedDigits 2 (dayAfter days).day).length = 2 :=
    Text.length_paddedDigits (by decide) (by omega)
  have hyears : (Text.paddedDigits 4 (dayAfter days).year).length = 4 :=
    Text.length_paddedDigits (by decide) (by omega)
  have hhour : (Text.paddedDigits 2 (second / 3600)).length = 2 :=
    Text.length_paddedDigits (by decide) (by omega)
  have hminute : (Text.paddedDigits 2 (second / 60 % 60)).length = 2 :=
    Text.length_paddedDigits (by decide) (by omega)
  have hlast : (Text.paddedDigits 2 (second % 60)).length = 2 :=
    Text.length_paddedDigits (by decide) (by omega)
  simp only [headerParts, List.map_cons, List.map_nil, hname, hday, length_monthName hmonth, hyears,
    hhour, hminute, hlast]
  rfl

/-- A date in a header always has the same length. -/
theorem length_headerText (hyear : (dayAfter days).year ≤ 9999) (hsecond : second < 86400) :
    (headerText days second).length = 29 := by
  rw [← String.length_toList, toList_headerText, List.length_flatten,
    length_headerParts hyear hsecond]
  rfl

/-- A date in a header tells the day and the second. -/
theorem headerText_injective {days' second' : Nat} (hyear : (dayAfter days).year ≤ 9999)
    (hyear' : (dayAfter days').year ≤ 9999) (hsecond : second < 86400) (hsecond' : second' < 86400)
    (heq : headerText days second = headerText days' second') :
    days = days' ∧ second = second' := by
  have hparts : headerParts days second = headerParts days' second' := by
    apply List.eq_iff_flatten_eq.mpr
    constructor
    · rw [← toList_headerText, ← toList_headerText, heq]
    · rw [length_headerParts hyear hsecond, length_headerParts hyear' hsecond']
  simp only [headerParts, List.cons.injEq, and_true, true_and, String.toList_inj] at hparts
  obtain ⟨-, hday, hmonthName, hyears, hhour, hminute, hlast⟩ := hparts
  have hmonth : (dayAfter days).month = (dayAfter days').month := by
    have hmonths := (isProper_dayAfter days).month_le
    have hmonths' := (isProper_dayAfter days').month_le
    have hsame := monthName_injective (by omega) (by omega) hmonthName
    have hone := (isProper_dayAfter days).one_le_month
    have hone' := (isProper_dayAfter days').one_le_month
    omega
  have hdate : dayAfter days = dayAfter days' := by
    calc
      dayAfter days = ⟨(dayAfter days').year, (dayAfter days').month, (dayAfter days').day⟩ := by
        rw [← Text.paddedDigits_injective hyears, ← hmonth, ← Text.paddedDigits_injective hday]
      _ = dayAfter days' := rfl
  have hhourEq := Text.paddedDigits_injective hhour
  have hminuteEq := Text.paddedDigits_injective hminute
  have hlastEq := Text.paddedDigits_injective hlast
  exact ⟨dayAfter_injective hdate, by omega⟩

end Widths

/-! ## Instants on days of the calendar -/

theorem Moment.isProper_date {moment : Moment} (hvalid : moment.isValid = true) :
    moment.date.IsProper := by
  simp only [Moment.isValid, Bool.and_eq_true] at hvalid
  obtain ⟨⟨⟨⟨⟨hdate, -⟩, -⟩, -⟩, -⟩, -⟩ := hvalid
  exact (Date.isValid_iff.mp hdate).1

/-- What a clock in UTC shows at a time of a day.  The days are counted from 1 January of
year 1. -/
def momentOn (days time : Nat) : Moment where
  date := dayAfter days
  hour := time / microsPerSecond / 3600
  minute := time / microsPerSecond / 60 % 60
  second := time / microsPerSecond % 60
  microsecond := time % microsPerSecond
  offset := some 0

/-- An instant is a time, in microseconds, of a day in years 1 to 9999. -/
structure IsTimeOf (instant : Int) (days time : Nat) : Prop where
  instant_eq : instant = (days * microsPerDay + time : Nat)
  time_lt : time < microsPerDay
  year_le : (dayAfter days).year ≤ 9999

section Instants

variable {instant : Int} {days time : Nat}

/-- The instants within years 1 to 9999 are those that are a time of some day. -/
theorem exists_isTimeOf_iff :
    (∃ days time, IsTimeOf instant days time) ↔ 0 ≤ instant ∧ instant < Moment.instantEnd := by
  have hend : Moment.instantEnd = (lastOrdinal * microsPerDay : Nat) := rfl
  have hpos : 0 < microsPerDay := by decide
  constructor
  · rintro ⟨days, time, rfl, htime, hyear⟩
    have hdays := (year_dayAfter_le_iff days).mp hyear
    have hle : (days + 1) * microsPerDay ≤ lastOrdinal * microsPerDay :=
      Nat.mul_le_mul_right _ hdays
    rw [Nat.succ_mul] at hle
    omega
  · rintro ⟨hstart, hlt⟩
    obtain ⟨count, rfl⟩ := Int.eq_ofNat_of_zero_le hstart
    refine ⟨count / microsPerDay, count % microsPerDay, ?_, Nat.mod_lt _ hpos, ?_⟩
    · rw [Nat.mul_comm, Nat.div_add_mod]
    · rw [year_dayAfter_le_iff, Nat.div_lt_iff_lt_mul hpos]
      omega

theorem ofInstant?_eq_none_iff :
    Moment.ofInstant? instant = none ↔ ¬ ∃ days time, IsTimeOf instant days time := by
  rw [exists_isTimeOf_iff, Moment.ofInstant?]
  split
  · next hin => simpa using hin
  · next hout => simpa using hout

/-- A clock in UTC shows an instant by its day and its time. -/
theorem IsTimeOf.ofInstant?_eq (htime : IsTimeOf instant days time) :
    Moment.ofInstant? instant = some (momentOn days time) := by
  have hin := exists_isTimeOf_iff.mp ⟨days, time, htime⟩
  obtain ⟨rfl, hlt, -⟩ := htime
  have hdays : (days * microsPerDay + time) / microsPerDay = days := by
    rw [Nat.mul_comm, Nat.mul_add_div (by decide), Nat.div_eq_of_lt hlt, Nat.add_zero]
  have hrest : (days * microsPerDay + time) % microsPerDay = time := by
    rw [Nat.mul_comm, Nat.mul_add_mod, Nat.mod_eq_of_lt hlt]
  rw [Moment.ofInstant?, if_pos (by simpa using hin), Int.toNat_natCast]
  simp only [hdays, hrest, ofOrdinal_succ, momentOn]

/-- The date in a header of an instant tells its day and its second. -/
theorem IsTimeOf.httpText (htime : IsTimeOf instant days time) :
    (Moment.ofInstant? instant).map Moment.httpText =
      some (headerText days (time / microsPerSecond)) := by
  have hweekday : (dayAfter days).weekday = days % 7 := by
    rw [Date.weekday, ordinal_dayAfter]
    omega
  rw [htime.ofInstant?_eq]
  simp only [momentOn, Option.map_some, Moment.httpText, hweekday, Moment.clockText, headerText,
    String.append_assoc]

end Instants

end BucketAccess.Calendar

import BucketAccess.Calendar.Date
import Mathlib.Algebra.Order.BigOperators.Group.List
import Mathlib.Algebra.Order.Group.Nat
import Mathlib.Algebra.Ring.Nat
import Mathlib.Logic.Function.Iterate
import Mathlib.Tactic.SplitIfs

/-!
# Counting days

The days of the calendar follow one another from 1 January of year 1: within a
month, from month to month and from year to year.  The ordinal of a date is its
place in this sequence, and the date of an ordinal is found by taking off whole
cycles of years and then whole months, without going through the days before it.
-/

namespace BucketAccess.Calendar

/-! ## One day after another -/

/-- The day after a date. -/
def Date.next (date : Date) : Date :=
  if date.day < daysInMonth date.year date.month then ⟨date.year, date.month, date.day + 1⟩
  else if date.month < 12 then ⟨date.year, date.month + 1, 1⟩
  else ⟨date.year + 1, 1, 1⟩

/-- The date a number of days after 1 January of year 1. -/
def dayAfter (days : Nat) : Date := Date.next^[days] ⟨1, 1, 1⟩

theorem dayAfter_succ (days : Nat) : dayAfter (days + 1) = (dayAfter days).next :=
  Function.iterate_succ_apply' Date.next days _

/-- The calendar has the date, in any year from 1 on. -/
structure Date.IsProper (date : Date) : Prop where
  one_le_year : 1 ≤ date.year
  one_le_month : 1 ≤ date.month
  month_le : date.month ≤ 12
  one_le_day : 1 ≤ date.day
  day_le : date.day ≤ daysInMonth date.year date.month

variable {date : Date} {year month day : Nat}

theorem Date.isValid_iff : date.isValid = true ↔ date.IsProper ∧ date.year ≤ 9999 := by
  simp only [isValid, Bool.and_eq_true, decide_eq_true_eq]
  constructor
  · rintro ⟨⟨⟨⟨⟨hyear, hlast⟩, hmonth⟩, hmonths⟩, hday⟩, hdays⟩
    exact ⟨⟨hyear, hmonth, hmonths, hday, hdays⟩, hlast⟩
  · rintro ⟨⟨hyear, hmonth, hmonths, hday, hdays⟩, hlast⟩
    exact ⟨⟨⟨⟨⟨hyear, hlast⟩, hmonth⟩, hmonths⟩, hday⟩, hdays⟩

/-! ## Months and years -/

theorem length_monthLengths (year : Nat) : (monthLengths year).length = 12 := rfl

theorem daysInMonth_mem (hmonth : 1 ≤ month) (hmonths : month ≤ 12) :
    daysInMonth year month ∈ monthLengths year := by
  obtain ⟨month, rfl⟩ := Nat.exists_eq_add_of_le' hmonth
  have hlt : month < (monthLengths year).length := hmonths
  rw [daysInMonth, List.getD_eq_getElem?_getD, List.getElem?_eq_getElem hlt]
  exact List.getElem_mem hlt

theorem daysInMonth_bounds (hmonth : 1 ≤ month) (hmonths : month ≤ 12) :
    1 ≤ daysInMonth year month ∧ daysInMonth year month ≤ 31 := by
  have hlengths : ∀ length ∈ monthLengths year, 1 ≤ length ∧ length ≤ 31 := by
    simp only [monthLengths, List.forall_mem_cons]
    split <;> simp
  exact hlengths _ (daysInMonth_mem hmonth hmonths)

theorem daysBeforeMonth_succ (year : Nat) (hmonth : 1 ≤ month) :
    daysBeforeMonth year (month + 1) = daysBeforeMonth year month + daysInMonth year month := by
  obtain ⟨month, rfl⟩ := Nat.exists_eq_add_of_le' hmonth
  change ((monthLengths year).take (month + 1)).sum = ((monthLengths year).take month).sum + _
  rw [List.take_add_one, List.sum_append, daysInMonth, List.getD_eq_getElem?_getD]
  cases (monthLengths year)[month]? <;> simp

/-- The days of a year. -/
def yearLength (year : Nat) : Nat := if isLeap year then 366 else 365

theorem daysBeforeMonth_end (year : Nat) : daysBeforeMonth year 13 = yearLength year := by
  simp only [daysBeforeMonth, monthLengths, yearLength]
  split <;> rfl

/-- A day of a month lies within its year. -/
theorem daysBeforeMonth_add_lt (hmonth : 1 ≤ month) (hday : day < daysInMonth year month) :
    daysBeforeMonth year month + day < yearLength year := by
  have htake : ((monthLengths year).take month).sum ≤ (monthLengths year).sum :=
    (List.take_sublist month _).sum_le_sum fun _ _ => Nat.zero_le _
  calc
    daysBeforeMonth year month + day < daysBeforeMonth year month + daysInMonth year month :=
      Nat.add_lt_add_left hday _
    _ = daysBeforeMonth year (month + 1) := (daysBeforeMonth_succ year hmonth).symm
    _ ≤ daysBeforeMonth year 13 := htake
    _ = yearLength year := daysBeforeMonth_end year

theorem isLeap_iff : isLeap year = true ↔ year % 4 = 0 ∧ (year % 100 ≠ 0 ∨ year % 400 = 0) := by
  simp [isLeap]

theorem daysBeforeYear_succ (hyear : 1 ≤ year) :
    daysBeforeYear (year + 1) = daysBeforeYear year + yearLength year := by
  obtain ⟨year, rfl⟩ := Nat.exists_eq_add_of_le' hyear
  have hfour : (year + 1) / 4 = year / 4 + if (year + 1) % 4 = 0 then 1 else 0 := by
    split <;> omega
  have hcentury : (year + 1) / 100 = year / 100 + if (year + 1) % 100 = 0 then 1 else 0 := by
    split <;> omega
  have hcycle : (year + 1) / 400 = year / 400 + if (year + 1) % 400 = 0 then 1 else 0 := by
    split <;> omega
  have hle : year / 100 ≤ year / 4 := Nat.div_le_div_left (by decide) (by decide)
  simp only [daysBeforeYear, yearLength, isLeap_iff, Nat.add_sub_cancel, hfour, hcentury, hcycle]
  clear hfour hcentury hcycle
  split_ifs <;> omega

theorem daysBeforeYear_mono {left right : Nat} (hleft : 1 ≤ left) (hle : left ≤ right) :
    daysBeforeYear left ≤ daysBeforeYear right := by
  induction right, hle using Nat.le_induction with
  | base => exact Nat.le_refl _
  | succ right hle ih =>
      rw [daysBeforeYear_succ (Nat.le_trans hleft hle)]
      exact Nat.le_add_right_of_le ih

/-! ## Ordinals -/

theorem Date.IsProper.next (hproper : date.IsProper) : date.next.IsProper := by
  obtain ⟨hyear, hmonth, hmonths, -, -⟩ := hproper
  unfold Date.next
  split
  · next hday => exact ⟨hyear, hmonth, hmonths, Nat.le_add_left 1 _, hday⟩
  · split
    · next hlt =>
        have hnext : 1 ≤ date.month + 1 := Nat.le_add_left 1 _
        exact ⟨hyear, hnext, hlt, Nat.le_refl 1, (daysInMonth_bounds hnext hlt).1⟩
    · have hjanuary : 1 ≤ daysInMonth (date.year + 1) 1 :=
        (daysInMonth_bounds (by decide) (by decide)).1
      have hle : 1 ≤ 12 := by decide
      exact ⟨Nat.le_add_left 1 _, Nat.le_refl 1, hle, Nat.le_refl 1, hjanuary⟩

/-- The next day has the next ordinal, also across the end of a month or a year. -/
theorem Date.IsProper.ordinal_next (hproper : date.IsProper) :
    date.next.ordinal = date.ordinal + 1 := by
  obtain ⟨hyear, hmonth, hmonths, hday, hdays⟩ := hproper
  unfold Date.next
  split
  · simp only [ordinal]
    omega
  · have hlast : date.day = daysInMonth date.year date.month := by omega
    have hmonthEnd := daysBeforeMonth_succ date.year hmonth
    split
    · simp only [ordinal, hmonthEnd]
      omega
    · have hdecember : date.month = 12 := by omega
      rw [hdecember, daysBeforeMonth_end] at hmonthEnd
      have hjanuary : daysBeforeMonth (date.year + 1) 1 = 0 := rfl
      simp only [ordinal, daysBeforeYear_succ hyear, hjanuary, hdecember]
      rw [hdecember] at hlast
      omega

theorem Date.IsProper.daysBeforeYear_lt (hproper : date.IsProper) :
    daysBeforeYear date.year < date.ordinal := by
  have hday := hproper.one_le_day
  rw [ordinal]
  omega

theorem Date.IsProper.ordinal_le (hproper : date.IsProper) :
    date.ordinal ≤ daysBeforeYear (date.year + 1) := by
  obtain ⟨hyear, hmonth, -, hday, hdays⟩ := hproper
  have hwithin : daysBeforeMonth date.year date.month + (date.day - 1) < yearLength date.year :=
    daysBeforeMonth_add_lt hmonth (by omega)
  rw [daysBeforeYear_succ hyear, ordinal]
  omega

theorem isProper_dayAfter (days : Nat) : (dayAfter days).IsProper := by
  induction days with
  | zero => exact ⟨by decide, by decide, by decide, by decide, by decide⟩
  | succ days ih =>
      rw [dayAfter_succ]
      exact ih.next

theorem day_dayAfter_le (days : Nat) : (dayAfter days).day ≤ 31 := by
  obtain ⟨-, hmonth, hmonths, -, hday⟩ := isProper_dayAfter days
  exact Nat.le_trans hday (daysInMonth_bounds hmonth hmonths).2

/-- The ordinal of a date is its place among all days, the first being 1. -/
theorem ordinal_dayAfter (days : Nat) : (dayAfter days).ordinal = days + 1 := by
  induction days with
  | zero => decide
  | succ days ih => rw [dayAfter_succ, (isProper_dayAfter days).ordinal_next, ih]

theorem dayAfter_injective {left right : Nat} (heq : dayAfter left = dayAfter right) :
    left = right := by
  have hordinal := congrArg Date.ordinal heq
  rw [ordinal_dayAfter, ordinal_dayAfter] at hordinal
  exact Nat.add_right_cancel hordinal

/-- The days of years up to 9999 are those before the last ordinal. -/
theorem year_dayAfter_le_iff (days : Nat) : (dayAfter days).year ≤ 9999 ↔ days < lastOrdinal := by
  have hproper := isProper_dayAfter days
  have hordinal := ordinal_dayAfter days
  have hbefore := hproper.daysBeforeYear_lt
  have hend := hproper.ordinal_le
  have hlast : daysBeforeYear 10000 = lastOrdinal := by decide
  constructor
  · intro hyear
    have hmono : daysBeforeYear ((dayAfter days).year + 1) ≤ daysBeforeYear 10000 :=
      daysBeforeYear_mono (Nat.le_add_left 1 _) (Nat.succ_le_succ hyear)
    omega
  · intro hdays
    by_contra hyear
    have hmono : daysBeforeYear 10000 ≤ daysBeforeYear (dayAfter days).year :=
      daysBeforeYear_mono (by decide) (Nat.lt_of_not_le hyear)
    omega

/-! ## Dates of ordinals -/

/-- Whole months are taken off in turn until a day falls within one. -/
theorem monthAndDay_eq {first : Nat} {lengths : List Nat} {index : Nat}
    (hindex : index < lengths.length) (hday : day < lengths[index]) :
    monthAndDay first lengths ((lengths.take index).sum + day) = (first + index, day + 1) := by
  induction lengths generalizing first index with
  | nil => exact absurd hindex (Nat.not_lt_zero index)
  | cons length lengths ih =>
      cases index with
      | zero =>
          have hlt : day < length := hday
          simp [monthAndDay, hlt]
      | succ index =>
          have hrest : monthAndDay (first + 1) lengths ((lengths.take index).sum + day) =
              (first + 1 + index, day + 1) := ih (Nat.lt_of_succ_lt_succ hindex) hday
          have hge : ¬ length + ((lengths.take index).sum + day) < length := by omega
          rw [List.take_succ_cons, List.sum_cons, Nat.add_assoc, monthAndDay, if_neg hge,
            Nat.add_sub_cancel_left, hrest, Nat.add_assoc, Nat.add_comm 1 index]

/-- A day of a year is found again, whatever cycles of years lie before it. -/
theorem yearAndDay_eq (hyear : 1 ≤ year) (hday : day < yearLength year) :
    yearAndDay (daysBeforeYear year + day + 1) = (year, day) := by
  -- The year before is taken apart as 400a + 100b + 4c + e.
  obtain ⟨a, b, c, e, hb, hc, he, rfl⟩ : ∃ a b c e : Nat, b ≤ 3 ∧ c ≤ 24 ∧ e ≤ 3 ∧
      year = 400 * a + 100 * b + 4 * c + e + 1 :=
    ⟨(year - 1) / 400, (year - 1) % 400 / 100, (year - 1) % 100 / 4, (year - 1) % 4, by omega⟩
  have hbefore : daysBeforeYear (400 * a + 100 * b + 4 * c + e + 1) =
      146097 * a + 36524 * b + 1461 * c + 365 * e := by
    simp only [daysBeforeYear]
    omega
  -- A leap year closes its cycle of 4 years, and of 400 years if it closes a century.
  have hleap : day ≤ 364 ∨ day = 365 ∧ e = 3 ∧ (c ≠ 24 ∨ b = 3) := by
    simp only [yearLength, isLeap_iff] at hday
    split at hday <;> omega
  have hcycles : (146097 * a + 36524 * b + 1461 * c + 365 * e + day) / 146097 = a := by omega
  have hin400 : (146097 * a + 36524 * b + 1461 * c + 365 * e + day) % 146097 =
      36524 * b + (1461 * c + 365 * e + day) := by omega
  have hcenturies : min 3 ((36524 * b + (1461 * c + 365 * e + day)) / 36524) = b := by omega
  have hquads : (1461 * c + 365 * e + day) / 1461 = c := by omega
  have hin4 : (1461 * c + 365 * e + day) % 1461 = 365 * e + day := by omega
  have hyears : min 3 ((365 * e + day) / 365) = e := by omega
  simp only [yearAndDay, hbefore, Nat.add_sub_cancel, hcycles, hin400, hcenturies,
    Nat.add_sub_cancel_left, hquads, hin4, hyears]

/-- The date of an ordinal is the date that has it. -/
theorem Date.IsProper.ofOrdinal_ordinal (hproper : date.IsProper) :
    ofOrdinal date.ordinal = date := by
  obtain ⟨hyear, hmonth, hmonths, hday, hdays⟩ := hproper
  obtain ⟨month, hmonthEq⟩ := Nat.exists_eq_add_of_le' hmonth
  obtain ⟨day, hdayEq⟩ := Nat.exists_eq_add_of_le' hday
  have hwithin : day < daysInMonth date.year date.month := by omega
  have hindex : month < (monthLengths date.year).length := by
    rw [length_monthLengths]
    omega
  have hlength : day < (monthLengths date.year)[month] := by
    rw [hmonthEq, daysInMonth, List.getD_eq_getElem?_getD, List.getElem?_eq_getElem hindex]
      at hwithin
    exact hwithin
  have hbefore : daysBeforeMonth date.year date.month =
      ((monthLengths date.year).take month).sum := by
    rw [hmonthEq]
    rfl
  have hyearDay : yearAndDay date.ordinal =
      (date.year, ((monthLengths date.year).take month).sum + day) := by
    rw [ordinal, hdayEq, hbefore, ← Nat.add_assoc, Nat.add_assoc (daysBeforeYear _)]
    exact yearAndDay_eq hyear (hbefore ▸ daysBeforeMonth_add_lt hmonth hwithin)
  have hmonthDay : monthAndDay 1 (monthLengths date.year)
      (((monthLengths date.year).take month).sum + day) = (date.month, date.day) := by
    rw [monthAndDay_eq hindex hlength, Nat.add_comm 1 month, ← hmonthEq, ← hdayEq]
  rw [ofOrdinal, hyearDay]
  simp only [hmonthDay]

/-- Every day has the date that is found from its number. -/
theorem ofOrdinal_succ (days : Nat) : Date.ofOrdinal (days + 1) = dayAfter days := by
  rw [← ordinal_dayAfter days, (isProper_dayAfter days).ofOrdinal_ordinal]

/-- Every date is that of some day. -/
theorem Date.IsProper.exists_dayAfter (hproper : date.IsProper) :
    ∃ days, date = dayAfter days ∧ date.ordinal = days + 1 := by
  have hpos : 1 ≤ date.ordinal := Nat.le_trans hproper.one_le_day (Nat.le_add_left _ _)
  obtain ⟨days, hdays⟩ := Nat.exists_eq_add_of_le' hpos
  refine ⟨days, ?_, hdays⟩
  rw [← ofOrdinal_succ, ← hdays, hproper.ofOrdinal_ordinal]

end BucketAccess.Calendar

import Mathlib.Tactic.IntervalCases
import Wireframe.Time.Calendar

/-!
# Days and dates

Every day has a date, and counting the days of that date gives the day again
(`Date.toDays_ofDays`, `Date.isValid_ofDays`). The days of a cycle are parted into four centuries,
each of them into spans of four years and those into years, all counted from March. The last year
of a span and the last century of a cycle may be a day longer.
-/

namespace Wireframe

namespace Date

/-- The parts of a day of the cycle : the century, the span of four years, the year in it and the
day of the year. A year has a day more than 365 only as the last of its span, and in the last span
of a century only at the end of the cycle. -/
structure Parts (dayOfCycle century span year day : Int) : Prop where
  century_range : 0 ≤ century ∧ century ≤ 3
  span_range : 0 ≤ span ∧ span ≤ 24
  year_range : 0 ≤ year ∧ year ≤ 3
  day_range : 0 ≤ day ∧ day ≤ 365
  leap : day = 365 → year = 3 ∧ (span = 24 → century = 3)
  sum : dayOfCycle = 36524 * century + 1461 * span + 365 * year + day

/-- Every day of the cycle has its parts. -/
theorem exists_parts {d : Int} (low : 0 ≤ d) (high : d < 146097) :
    ∃ century span year day, Parts d century span year day := by
  obtain ⟨century, hcentury⟩ : ∃ century, century = min (d / 36524) 3 := ⟨_, rfl⟩
  obtain ⟨r, hr⟩ : ∃ r, r = d - 36524 * century := ⟨_, rfl⟩
  obtain ⟨span, hspan⟩ : ∃ span, span = r / 1461 := ⟨_, rfl⟩
  obtain ⟨t, ht⟩ : ∃ t, t = r - 1461 * span := ⟨_, rfl⟩
  obtain ⟨year, hyear⟩ : ∃ year, year = min (t / 365) 3 := ⟨_, rfl⟩
  have r_range : 0 ≤ r ∧ r ≤ 36524 ∧ (r = 36524 → century = 3) := by omega
  have span_range : 0 ≤ span ∧ span ≤ 24 := by omega
  have t_range : 0 ≤ t ∧ t ≤ 1460 := by omega
  refine ⟨century, span, year, t - 365 * year, ?_, span_range, ?_, ?_, ?_, ?_⟩ <;> omega

namespace Parts

variable {d century span year day : Int} (h : Parts d century span year day)
include h

/-- The years that have gone by in the cycle. -/
theorem years_eq :
    (d - d / 1460 + d / 36524 - d / 146096) / 365 = 100 * century + 4 * span + year := by
  obtain ⟨hcentury, hspan, hyear, hday, leap, sum⟩ := h
  obtain ⟨r, hr⟩ : ∃ r, r = 1461 * span + 365 * year + day := ⟨_, rfl⟩
  have r_range : r < 36524 ∨ r = 36524 ∧ century = 3 := by omega
  have centuries : d / 36524 - d / 146096 = century := by
    rcases r_range with inside | ⟨last, rfl⟩
    · have outer : d / 146096 = 0 := by omega
      omega
    · have last_day : d = 146096 := by omega
      omega
  have spans : d / 1460 = 25 * century + span ∨ d / 1460 = 25 * century + span + 1 := by omega
  omega

/-- The days of those years. -/
theorem day_eq : d - (365 * (100 * century + 4 * span + year) +
    (100 * century + 4 * span + year) / 4 - (100 * century + 4 * span + year) / 100) = day := by
  obtain ⟨hcentury, hspan, hyear, hday, leap, sum⟩ := h
  omega

end Parts

/-- The month of a day of the year, from March as none on, and the day of the month. -/
structure MonthDay (day month dayOfMonth : Int) : Prop where
  month_range : 0 ≤ month ∧ month ≤ 11
  dayOfMonth_range : 1 ≤ dayOfMonth ∧ dayOfMonth ≤ 31
  short : month = 1 ∨ month = 3 ∨ month = 6 ∨ month = 8 → dayOfMonth ≤ 30
  last : month = 11 → dayOfMonth ≤ 29 ∧ (dayOfMonth = 29 → day = 365)
  sum : (153 * month + 2) / 5 + dayOfMonth - 1 = day

/-- Every day of the year is in a month. -/
theorem monthDay {day : Int} (low : 0 ≤ day) (high : day ≤ 365) :
    MonthDay day ((5 * day + 2) / 153) (day - (153 * ((5 * day + 2) / 153) + 2) / 5 + 1) := by
  obtain ⟨month, hmonth⟩ : ∃ month, month = (5 * day + 2) / 153 := ⟨_, rfl⟩
  have month_range : 0 ≤ month ∧ month ≤ 11 := by omega
  rw [← hmonth]
  refine ⟨month_range, ?_, ?_, ?_, ?_⟩ <;> omega

/-- Every day has a date, of which these are the parts. -/
theorem ofDays_eq (days : Int) : ∃ cycle century span year day month dayOfMonth : Int,
    Parts (days + 719468 - cycle * 146097) century span year day ∧
      MonthDay day month dayOfMonth ∧
      ofDays days =
        ⟨(if month < 10 then 0 else 1) + (100 * century + 4 * span + year) + cycle * 400,
          (if month < 10 then month + 3 else month - 9).toNat, dayOfMonth.toNat⟩ := by
  obtain ⟨cycle, hcycle⟩ : ∃ cycle, cycle = (days + 719468) / 146097 := ⟨_, rfl⟩
  obtain ⟨century, span, year, day, parts⟩ :=
    exists_parts (d := days + 719468 - cycle * 146097) (by omega) (by omega)
  have months := monthDay parts.day_range.1 parts.day_range.2
  refine ⟨cycle, century, span, year, day, _, _, parts, months, ?_⟩
  have range := months.month_range
  rw [ofDays]
  simp only [← hcycle, parts.years_eq, parts.day_eq]
  congr 1
  split_ifs <;> omega

/-- The days of the date of a day are the day. -/
theorem toDays_ofDays (days : Int) : (ofDays days).toDays = days := by
  obtain ⟨cycle, century, span, year, day, month, dayOfMonth, parts, months, date_eq⟩ :=
    ofDays_eq days
  rw [date_eq]
  obtain ⟨hcentury, hspan, hyear, hday, leap, sum⟩ := parts
  obtain ⟨hmonth, hdayOfMonth, short, last, monthSum⟩ := months
  have early_eq : (if month < 10 then month + 3 else month - 9).toNat ≤ 2 ↔ ¬ month < 10 := by
    split_ifs <;> omega
  have month_eq :
      ((((if month < 10 then month + 3 else month - 9).toNat + 9) % 12 : Nat) : Int) = month := by
    split_ifs <;> omega
  have year_eq : (if ¬ month < 10 then
        (if month < 10 then 0 else 1) + (100 * century + 4 * span + year) + cycle * 400 - 1
      else (if month < 10 then 0 else 1) + (100 * century + 4 * span + year) + cycle * 400) =
      100 * century + 4 * span + year + cycle * 400 := by
    split_ifs <;> omega
  simp only [toDays, early_eq, month_eq, year_eq]
  omega

/-- The date of a day is one of the calendar. -/
theorem isValid_ofDays (days : Int) : (ofDays days).isValid = true := by
  obtain ⟨cycle, century, span, year, day, month, dayOfMonth, parts, months, date_eq⟩ :=
    ofDays_eq days
  rw [date_eq]
  obtain ⟨hcentury, hspan, hyear, hday, leap, sum⟩ := parts
  obtain ⟨⟨low, high⟩, hdayOfMonth, short, last, monthSum⟩ := months
  interval_cases month <;> simp [isValid, daysInMonth, isLeap] <;> omega

end Date

end Wireframe

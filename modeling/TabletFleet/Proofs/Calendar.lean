import TabletFleet.Timestamp

set_option autoImplicit false

/-! # Dates of days

Days are counted from 1970-01-01, in both directions. Each of them has a date of the calendar
(`Timestamp.isDate_dateOfDay`), and the date gives the day back (`Timestamp.dayOfDate_dateOfDay`).

Both are computed by eras of 400 years which start in March, so that leap days end a year. The one hard
step is to find the year of an era without trying them all: a day's number in the era is first corrected
for the leap days before it, as if every 1460th day were one, and then divided by 365. Of that quotient we
show what a search would have shown, that the day lies between the first day of this year and the first day
of the next (`dayOfYear_range`). The dates that are told are those between the two ends of the calendar
(`year_range`). -/

namespace TabletFleet.Timestamp

/-! ## Years of an era -/

/-- The years of an era that are over before a day of it. -/
def yearOfEra (dayOfEra : Int) : Int :=
  (dayOfEra - dayOfEra / 1460 + dayOfEra / 36524 - dayOfEra / 146096) / 365

/-- The days of an era before a year of it: every fourth year ends with a leap day, but the last one of a
century only where it is the last of the era. -/
def daysBefore (year : Int) : Int := 365 * year + year / 4 - year / 100

section Era

variable {d : Int} (h0 : 0 ≤ d) (h1 : d < 146097)

include h0 h1

theorem yearOfEra_range : 0 ≤ yearOfEra d ∧ yearOfEra d < 400 := by
  unfold yearOfEra
  omega

/-- The correction for leap days does not move a day into another century. -/
theorem yearOfEra_div_hundred : yearOfEra d / 100 = d / 36524 - d / 146096 := by
  unfold yearOfEra
  have hcentury : d / 36524 = 0 ∨ d / 36524 = 1 ∨ d / 36524 = 2 ∨ d / 36524 = 3 ∨ d / 36524 = 4 := by
    omega
  rcases hcentury with h | h | h | h | h <;> omega

theorem daysBefore_yearOfEra_le : daysBefore (yearOfEra d) ≤ d := by
  have hcentury := yearOfEra_div_hundred h0 h1
  have hleap : yearOfEra d / 4 ≤ d / 1460 := by
    unfold yearOfEra at hcentury ⊢
    omega
  unfold daysBefore
  unfold yearOfEra at hcentury hleap ⊢
  omega

theorem lt_daysBefore_succ :
    d < daysBefore (yearOfEra d + 1) + if yearOfEra d = 399 then 1 else 0 := by
  have hcentury := yearOfEra_div_hundred h0 h1
  unfold daysBefore
  by_cases hlast : (yearOfEra d + 1) % 100 = 0
  · unfold yearOfEra at hcentury hlast ⊢
    split <;> omega
  · have hleap : d / 1460 ≤ (yearOfEra d + 1) / 4 := by
      unfold yearOfEra at hcentury hlast ⊢
      omega
    unfold yearOfEra at hcentury hleap hlast ⊢
    split <;> omega

/-- A year has 365 days and, where the next one is a leap year, one more: its last month is the February of
the next. -/
theorem dayOfYear_range :
    daysBefore (yearOfEra d) ≤ d ∧ d ≤ daysBefore (yearOfEra d) + 365 ∧
      (d = daysBefore (yearOfEra d) + 365 → (yearOfEra d + 1) % 4 = 0 ∧
        ((yearOfEra d + 1) % 100 ≠ 0 ∨ yearOfEra d = 399)) := by
  have hle := daysBefore_yearOfEra_le h0 h1
  have hlt := lt_daysBefore_succ h0 h1
  unfold daysBefore at *
  generalize yearOfEra d = y at *
  have hfour : (y + 1) / 4 = y / 4 ∧ (y + 1) % 4 ≠ 0 ∨
      (y + 1) / 4 = y / 4 + 1 ∧ (y + 1) % 4 = 0 := by omega
  have hhundred : (y + 1) / 100 = y / 100 ∧ (y + 1) % 100 ≠ 0 ∨
      (y + 1) / 100 = y / 100 + 1 ∧ (y + 1) % 100 = 0 := by omega
  split at hlt <;> omega

end Era

/-! ## Dates -/

/-- A day told by its era, the year of the era and the month of the year, both counted from March and from
0, and the day of the month. -/
structure MarchDate where
  era : Int
  year : Int
  month : Int
  day : Int

namespace MarchDate

/-- The days of a year before a month of it. -/
def daysBeforeMonth (month : Int) : Int := (153 * month + 2) / 5

/-- The days since 1970-01-01. -/
def days (m : MarchDate) : Int :=
  m.era * 146097 + daysBefore m.year + daysBeforeMonth m.month + m.day - 1 - 719468

/-- The year, the month and the day of the calendar. -/
def date (m : MarchDate) : Int × Nat × Nat :=
  (m.year + m.era * 400 + (if m.month < 10 then 0 else 1),
    (if m.month < 10 then m.month + 3 else m.month - 9).toNat, m.day.toNat)

/-- There is such a day. -/
structure Exists (m : MarchDate) : Prop where
  year : 0 ≤ m.year ∧ m.year < 400
  month : 0 ≤ m.month ∧ m.month < 12
  day : 1 ≤ m.day ∧ daysBeforeMonth m.month + m.day ≤ daysBeforeMonth (m.month + 1)
  /-- The last month is February. -/
  february : m.month = 11 → m.day ≤ 29 ∧
    (m.day = 29 → (m.year + 1) % 4 = 0 ∧ ((m.year + 1) % 100 ≠ 0 ∨ m.year = 399))

end MarchDate

open MarchDate (daysBeforeMonth)

theorem exists_marchDate (days : Int) :
    ∃ m : MarchDate, m.Exists ∧ m.days = days ∧ m.date = dateOfDay days := by
  obtain ⟨era, d, h0, h1, hd⟩ : ∃ era d : Int, 0 ≤ d ∧ d < 146097 ∧ days + 719468 = era * 146097 + d :=
    ⟨(days + 719468) / 146097, (days + 719468) % 146097, by omega, by omega, by omega⟩
  have hera : (days + 719468) / 146097 = era := by omega
  have hdayOfEra : days + 719468 - era * 146097 = d := by omega
  have hdate : dateOfDay days =
      let y := yearOfEra d
      let m := (5 * (d - daysBefore y) + 2) / 153
      let month := if m < 10 then m + 3 else m - 9
      (y + era * 400 + (if month ≤ 2 then 1 else 0), month.toNat,
        (d - daysBefore y - (153 * m + 2) / 5 + 1).toNat) := by
    unfold dateOfDay
    simp only [hera, hdayOfEra]
    rfl
  have hrange := yearOfEra_range h0 h1
  obtain ⟨hfirst, hlast, hleap⟩ := dayOfYear_range h0 h1
  dsimp only at hdate
  generalize yearOfEra d = y at *
  generalize hdayOfYear : d - daysBefore y = dayOfYear at *
  have hyear : 0 ≤ dayOfYear ∧ dayOfYear ≤ 365 := by omega
  generalize hmonth : (5 * dayOfYear + 2) / 153 = m at *
  refine ⟨⟨era, y, m, dayOfYear - daysBeforeMonth m + 1⟩, ⟨hrange, ?_, ?_, ?_⟩, ?_, ?_⟩
  · dsimp only
    omega
  · dsimp only [daysBeforeMonth]
    omega
  · dsimp only [daysBeforeMonth]
    omega
  · dsimp only [MarchDate.days]
    omega
  · rw [hdate]
    dsimp only [MarchDate.date, daysBeforeMonth]
    split
    · rw [if_neg (by omega)]
    · rw [if_pos (by omega)]

theorem dayOfDate_dateOfDay (days : Int) :
    dayOfDate (dateOfDay days).1 (dateOfDay days).2.1 (dateOfDay days).2.2 = days := by
  obtain ⟨m, ⟨hyear, hmonth, hday, -⟩, rfl, hdate⟩ := exists_marchDate days
  rw [← hdate]
  have hera : (m.year + m.era * 400) / 400 = m.era := by omega
  unfold dayOfDate
  dsimp only [MarchDate.date, MarchDate.days, daysBefore, daysBeforeMonth] at *
  by_cases hlate : m.month < 10
  · simp only [if_pos hlate]
    rw [if_neg (by omega), if_pos (by omega), Int.add_zero, hera]
    omega
  · simp only [if_neg hlate]
    rw [if_pos (by omega), if_neg (by omega), Int.add_sub_cancel, hera]
    omega

/-- A month of a year and a day of this month. -/
structure IsDate (year : Int) (month day : Nat) : Prop where
  one_le_month : 1 ≤ month
  month_le : month ≤ 12
  one_le_day : 1 ≤ day
  day_le : day ≤ daysInMonth year month

theorem daysInMonth_le (year : Int) (month : Nat) : daysInMonth year month ≤ 31 := by
  unfold daysInMonth
  split
  · split <;> decide
  · split <;> decide

/-- From March on, months last as long as the days before them tell; only February does not. -/
theorem daysInMonth_fromMarch (year : Int) {m : Int} (h0 : 0 ≤ m) (h1 : m < 11) :
    (daysInMonth year (if m < 10 then m + 3 else m - 9).toNat : Int)
      = daysBeforeMonth (m + 1) - daysBeforeMonth m := by
  have hmonths : m = 0 ∨ m = 1 ∨ m = 2 ∨ m = 3 ∨ m = 4 ∨ m = 5 ∨ m = 6 ∨ m = 7 ∨ m = 8 ∨ m = 9 ∨
      m = 10 := by omega
  rcases hmonths with rfl | rfl | rfl | rfl | rfl | rfl | rfl | rfl | rfl | rfl | rfl <;> rfl

theorem isDate_dateOfDay (days : Int) :
    IsDate (dateOfDay days).1 (dateOfDay days).2.1 (dateOfDay days).2.2 := by
  obtain ⟨m, ⟨hyear, hmonth, hday, hfebruary⟩, -, hdate⟩ := exists_marchDate days
  rw [← hdate]
  dsimp only [MarchDate.date] at *
  refine ⟨by split <;> omega, by split <;> omega, by omega, ?_⟩
  by_cases hlast : m.month = 11
  · obtain ⟨h29, hleap⟩ := hfebruary hlast
    have hdays : daysInMonth (m.year + m.era * 400 + 1) 2
        = if isLeapYear (m.year + m.era * 400 + 1) then 29 else 28 := rfl
    rw [hlast, if_neg (by decide), if_neg (by decide)]
    change _ ≤ daysInMonth _ 2
    rw [hdays]
    split
    · omega
    · next hcommon =>
        simp only [isLeapYear, Bool.and_eq_true, Bool.or_eq_true, decide_eq_true_eq] at hcommon
        omega
  · have hdays := daysInMonth_fromMarch (m.year + m.era * 400 + (if m.month < 10 then 0 else 1))
      hmonth.1 (by omega)
    omega

/-- The dates of the days of the calendar are those of its years. -/
theorem year_range {days : Int} (hfirst : firstDay ≤ days) (hlast : days ≤ lastDay) :
    -262143 ≤ (dateOfDay days).1 ∧ (dateOfDay days).1 ≤ 262142 := by
  have hfirstDay : firstDay = -96465292 := by decide
  have hlastDay : lastDay = 95026236 := by decide
  obtain ⟨m, ⟨hyear, hmonth, hday, hfebruary⟩, rfl, hdate⟩ := exists_marchDate days
  rw [← hdate]
  dsimp only [MarchDate.date, MarchDate.days, daysBefore, daysBeforeMonth] at *
  have hera : -656 ≤ m.era ∧ m.era ≤ 655 := by omega
  constructor
  · by_cases h : m.era = -656
    · have : 256 ≤ m.year := by omega
      split <;> omega
    · split <;> omega
  · by_cases h : m.era = 655
    · have : m.year ≤ 142 := by omega
      split <;> omega
    · split <;> omega

end TabletFleet.Timestamp

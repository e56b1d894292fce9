import FeedMonitor.Time.Calendar
import Mathlib.Tactic.IntervalCases

/-!
The date of a day is a date of the calendar, and counting its days gives the day back.

A day of a cycle is taken apart into centuries, groups of four years, years and days. The parts say
which year it lies in, and which day of that year it is.
-/

namespace FeedMonitor.Date

/-- The days of a cycle before its year `year`. -/
def yearStart (year : Int) : Int := 365 * year + year / 4 - year / 100

def yearOfCycle (day : Int) : Int := (day - day / 1460 + day / 36524 - day / 146096) / 365

/-- A day of a cycle: a day of a year in a group of four years in a century. The last day of a group
is there unless the century ends without a leap day. -/
structure CycleDay where
  century : Int
  group : Int
  year : Int
  day : Int
  century_range : 0 ≤ century ∧ century ≤ 3
  group_range : 0 ≤ group ∧ group ≤ 24
  year_range : 0 ≤ year ∧ year ≤ 3
  day_range : 0 ≤ day ∧ day ≤ 365
  leap : day = 365 → year = 3 ∧ (group = 24 → century = 3)

namespace CycleDay

def count (cd : CycleDay) : Int :=
  36524 * cd.century + 1461 * cd.group + 365 * cd.year + cd.day

/-- The year of the cycle. -/
def yearInCycle (cd : CycleDay) : Int := 100 * cd.century + 4 * cd.group + cd.year

theorem exists_count {day : Int} (first : 0 ≤ day) (last : day < 146097) :
    ∃ cd : CycleDay, cd.count = day := by
  -- The last day of a cycle would open a fifth century.
  obtain ⟨century, rest, splits, centuries, rests⟩ : ∃ century rest : Int,
      day = 36524 * century + rest ∧ (0 ≤ century ∧ century ≤ 3) ∧
        (0 ≤ rest ∧ rest ≤ 36524 ∧ (rest = 36524 → century = 3)) := by
    by_cases final : day = 146096
    · exact ⟨3, 36524, by omega⟩
    · exact ⟨day / 36524, day % 36524, by omega⟩
  by_cases leap : rest % 1461 = 1460
  · refine ⟨⟨century, rest / 1461, 3, 365, by omega, by omega, by omega, by omega, by omega⟩, ?_⟩
    simp only [count]
    omega
  · refine ⟨⟨century, rest / 1461, rest % 1461 / 365, rest % 1461 % 365, by omega, by omega,
      by omega, by omega, by omega⟩, ?_⟩
    simp only [count]
    omega

variable (cd : CycleDay)

theorem yearOfCycle_count : yearOfCycle cd.count = cd.yearInCycle := by
  obtain ⟨century, group, year, day, centuries, groups, years, days, leap⟩ := cd
  simp only [yearOfCycle, count, yearInCycle]
  have centuryOf : (36524 * century + 1461 * group + 365 * year + day) / 36524
      - (36524 * century + 1461 * group + 365 * year + day) / 146096 = century := by
    obtain ⟨rest, eq⟩ : ∃ rest, rest = 1461 * group + 365 * year + day := ⟨_, rfl⟩
    have rests : 0 ≤ rest ∧ rest ≤ 36524 ∧ (rest = 36524 → century = 3) := by omega
    rw [show 36524 * century + 1461 * group + 365 * year + day = 36524 * century + rest by omega]
    omega
  have groupOf : (36524 * century + 1461 * group + 365 * year + day) / 1460
      = 25 * century + group + (24 * century + group + 365 * year + day) / 1460 := by omega
  rw [add_sub_assoc, centuryOf, groupOf]
  omega

theorem yearStart_yearInCycle : yearStart cd.yearInCycle = cd.count - cd.day := by
  obtain ⟨century, group, year, day, centuries, groups, years, days, leap⟩ := cd
  simp only [yearStart, yearInCycle, count]
  omega

theorem yearInCycle_range : 0 ≤ cd.yearInCycle ∧ cd.yearInCycle ≤ 399 := by
  have centuries := cd.century_range
  have groups := cd.group_range
  have years := cd.year_range
  simp only [yearInCycle]
  omega

theorem isLeapYear_of_day (last : cd.day = 365) (cycle : Int) :
    isLeapYear (cd.yearInCycle + cycle * 400 + 1) = true := by
  obtain ⟨century, group, year, day, centuries, groups, years, days, leap⟩ := cd
  obtain ⟨third, ends⟩ := leap last
  simp only [isLeapYear, yearInCycle, Bool.and_eq_true, Bool.or_eq_true, beq_iff_eq, bne_iff_ne]
  omega

end CycleDay

/-- The date of a day of a year that starts in March. -/
def ofYearDay (year day : Int) : Date :=
  let month := (5 * day + 2) / 153
  let inMonth := day - (153 * month + 2) / 5 + 1
  if month < 10 then ⟨year, (month + 3).toNat, inMonth.toNat⟩
  else ⟨year + 1, (month - 9).toNat, inMonth.toNat⟩

/-- Every day is a day of a cycle, and its date is that of the day of its year. -/
theorem exists_ofDays (days : Int) : ∃ (cycle : Int) (cd : CycleDay),
    days + 719468 = cycle * 146097 + cd.count ∧
      ofDays days = ofYearDay (cd.yearInCycle + cycle * 400) cd.day := by
  obtain ⟨cd, counts⟩ : ∃ cd : CycleDay, cd.count = (days + 719468) % 146097 :=
    CycleDay.exists_count (by omega) (by omega)
  refine ⟨(days + 719468) / 146097, cd, by omega, ?_⟩
  have year : yearOfCycle ((days + 719468) % 146097) = cd.yearInCycle := by
    rw [← counts, cd.yearOfCycle_count]
  have day : (days + 719468) % 146097 - yearStart cd.yearInCycle = cd.day := by
    rw [cd.yearStart_yearInCycle, ← counts]
    omega
  simp only [yearOfCycle, yearStart] at year day
  simp only [ofDays, ofYearDay, year, day]

theorem toDays_ofYearDay {day : Int} (cycle : Int) {year : Int} (years : 0 ≤ year ∧ year ≤ 399)
    (days : 0 ≤ day ∧ day ≤ 365) :
    (ofYearDay (year + cycle * 400) day).toDays
      = cycle * 146097 + yearStart year + day - 719468 := by
  have months : 0 ≤ (5 * day + 2) / 153 ∧ (5 * day + 2) / 153 ≤ 11 := by omega
  have inMonth : 0 ≤ day - (153 * ((5 * day + 2) / 153) + 2) / 5 + 1 := by omega
  simp only [ofYearDay]
  split
  · have later : ¬ ((5 * day + 2) / 153 + 3).toNat ≤ 2 := by omega
    simp only [toDays, later, if_false, yearStart]
    omega
  · have early : ((5 * day + 2) / 153 - 9).toNat ≤ 2 := by omega
    simp only [toDays, early, if_true, yearStart]
    omega

theorem toDays_ofDays (days : Int) : (ofDays days).toDays = days := by
  obtain ⟨cycle, cd, splits, date⟩ := exists_ofDays days
  rw [date, toDays_ofYearDay cycle cd.yearInCycle_range cd.day_range, cd.yearStart_yearInCycle]
  omega

/-- The day of a year lies within its month. The last one is the leap day. -/
theorem ofYearDay_inMonth {year day : Int} (days : 0 ≤ day ∧ day ≤ 365)
    (leap : day = 365 → isLeapYear (year + 1) = true) :
    (1 ≤ (ofYearDay year day).month ∧ (ofYearDay year day).month ≤ 12) ∧
      1 ≤ (ofYearDay year day).day ∧
      (ofYearDay year day).day ≤ monthLength (ofYearDay year day).year (ofYearDay year day).month := by
  obtain ⟨month, eq⟩ : ∃ month, month = (5 * day + 2) / 153 := ⟨_, rfl⟩
  have first : 0 ≤ month := by omega
  have last : month ≤ 11 := by omega
  simp only [ofYearDay, ← eq]
  by_cases february : month = 11
  · subst february
    have length : monthLength (year + 1) (11 - 9 : Int).toNat =
        if isLeapYear (year + 1) then 29 else 28 := rfl
    rw [if_neg (by decide), length]
    by_cases leapYear : isLeapYear (year + 1) = true
    · rw [if_pos leapYear]
      dsimp only
      omega
    · rw [if_neg leapYear]
      dsimp only
      have notLast : day ≠ 365 := fun final => leapYear (leap final)
      omega
  · interval_cases month
    all_goals
      simp [monthLength]
      omega

theorem monthLength_le (year : Int) (month : Nat) : monthLength year month ≤ 31 := by
  simp only [monthLength]
  split
  · split <;> decide
  · split <;> decide

theorem year_ofYearDay (year day : Int) :
    (ofYearDay year day).year = if day ≤ 305 then year else year + 1 := by
  simp only [ofYearDay]
  by_cases early : day ≤ 305
  · rw [if_pos early, if_pos (by omega)]
  · rw [if_neg early, if_neg (by omega)]

theorem isValid_ofDays {days : Int} (first : firstDay ≤ days) (last : days ≤ lastDay) :
    (ofDays days).isValid = true := by
  obtain ⟨cycle, cd, splits, date⟩ := exists_ofDays days
  have starts := cd.yearStart_yearInCycle
  have inCycle := cd.yearInCycle_range
  have inYear := cd.day_range
  obtain ⟨months, dayOf⟩ := ofYearDay_inMonth inYear fun final => cd.isLeapYear_of_day final cycle
  rw [← date] at months dayOf
  have years : firstYear ≤ (ofDays days).year ∧ (ofDays days).year ≤ lastYear := by
    rw [date, year_ofYearDay]
    have firstDay_eq : firstDay = -96465292 := by decide
    have lastDay_eq : lastDay = 95026236 := by decide
    simp only [yearStart, firstYear, lastYear] at *
    -- Both ends lie inside a cycle, which is settled first.
    have cycles : -656 ≤ cycle ∧ cycle ≤ 655 := by omega
    have lowest : cycle = -656 → 255 ≤ cd.yearInCycle := by omega
    have highest : cycle = 655 → cd.yearInCycle ≤ 142 := by omega
    split
    · omega
    · omega
  simp only [isValid, Bool.and_eq_true, decide_eq_true_eq]
  exact ⟨⟨⟨⟨years, months.1⟩, months.2⟩, dayOf.1⟩, dayOf.2⟩

end FeedMonitor.Date

import FeedMonitor.Proofs.Time.Calendar
import Mathlib.Tactic.IntervalCases

/-!
Days counted one after the other.

The date of a day is found by going from each date to the next. A date so many days after 1970-01-01
has that number as its count of days, and from 1970-01-01 on each date of the calendar is found.
-/

namespace FeedMonitor.Date

/-- The day lies within its month. -/
structure InMonth (date : Date) : Prop where
  month : 1 ≤ date.month ∧ date.month ≤ 12
  day : 1 ≤ date.day ∧ date.day ≤ monthLength date.year date.month

def next (date : Date) : Date :=
  if date.day < monthLength date.year date.month then ⟨date.year, date.month, date.day + 1⟩
  else if date.month < 12 then ⟨date.year, date.month + 1, 1⟩
  else ⟨date.year + 1, 1, 1⟩

/-- The date so many days after 1970-01-01. -/
def after : Nat → Date
  | 0 => ⟨1970, 1, 1⟩
  | days + 1 => (after days).next

theorem one_le_monthLength (year : Int) (month : Nat) : 1 ≤ monthLength year month := by
  simp only [monthLength]
  split
  · split <;> decide
  · split <;> decide

theorem toDays_day (year : Int) (month day : Nat) :
    toDays ⟨year, month, day⟩ = toDays ⟨year, month, 1⟩ + day - 1 := by
  simp only [toDays]
  omega

/-- The leap day is what the years before March run ahead of the years before February. -/
theorem toDays_march (year : Int) :
    toDays ⟨year, 3, 1⟩ = toDays ⟨year, 2, 1⟩ + monthLength year 2 := by
  by_cases leap : isLeapYear year = true
  · have length : monthLength year 2 = 29 := by simp [monthLength, leap]
    simp only [isLeapYear, Bool.and_eq_true, Bool.or_eq_true, beq_iff_eq, bne_iff_ne] at leap
    rw [length]
    simp [toDays]
    omega
  · have length : monthLength year 2 = 28 := by simp [monthLength, leap]
    simp only [isLeapYear, Bool.and_eq_true, Bool.or_eq_true, beq_iff_eq, bne_iff_ne] at leap
    rw [length]
    simp [toDays]
    omega

theorem toDays_month (year : Int) {month : Nat} (first : 1 ≤ month) (last : month < 12) :
    toDays ⟨year, month + 1, 1⟩ = toDays ⟨year, month, 1⟩ + monthLength year month := by
  by_cases february : month = 2
  · subst february
    exact toDays_march year
  · interval_cases month
    all_goals
      first
        | contradiction
        | simp [toDays, monthLength]
          omega

theorem toDays_year (year : Int) :
    toDays ⟨year + 1, 1, 1⟩ = toDays ⟨year, 12, 1⟩ + monthLength year 12 := by
  simp [toDays, monthLength]
  omega

variable {date : Date}

theorem inMonth_next (inMonth : date.InMonth) : date.next.InMonth := by
  obtain ⟨month, day⟩ := inMonth
  unfold next
  split
  · rename_i more
    exact ⟨month, Nat.le_add_left 1 _, more⟩
  · split
    · exact ⟨by dsimp only; omega, Nat.le_refl 1, one_le_monthLength _ _⟩
    · exact ⟨⟨Nat.le_refl 1, Nat.le_add_left 1 11⟩, Nat.le_refl 1, one_le_monthLength _ _⟩

theorem toDays_next (inMonth : date.InMonth) : date.next.toDays = date.toDays + 1 := by
  obtain ⟨year, month, day⟩ := date
  obtain ⟨⟨first, last⟩, ⟨-, ends⟩⟩ := inMonth
  dsimp only at first last ends
  have counted := toDays_day year month day
  unfold next
  dsimp only
  split
  · rw [toDays_day]
    omega
  · split
    · rename_i early
      rw [toDays_month year first early]
      omega
    · obtain rfl : month = 12 := by omega
      rw [toDays_year]
      omega

theorem inMonth_after (days : Nat) : (after days).InMonth := by
  induction days with
  | zero => exact ⟨by decide, by decide⟩
  | succ days ih => exact inMonth_next ih

theorem toDays_after (days : Nat) : (after days).toDays = days := by
  induction days with
  | zero => rfl
  | succ days ih =>
    have next := toDays_next (inMonth_after days)
    rw [ih] at next
    rw [Int.natCast_succ]
    exact next

theorem year_le_next (date : Date) : date.year ≤ date.next.year := by
  unfold next
  split
  · exact Int.le_refl _
  · split
    · exact Int.le_refl _
    · exact Int.le_add_one (Int.le_refl _)

theorem year_after (days : Nat) : 1970 ≤ (after days).year := by
  induction days with
  | zero => decide
  | succ days ih => exact Int.le_trans ih (year_le_next _)

/-- A day before the year 10000 has a year of four digits. -/
theorem year_le_of_toDays (inMonth : date.InMonth) (early : date.toDays ≤ 2932896) :
    date.year ≤ 9999 := by
  obtain ⟨year, month, day⟩ := date
  obtain ⟨months, days⟩ := inMonth
  by_contra late
  dsimp only at months days late
  simp only [toDays] at early
  split at early
  · omega
  · omega

/-! ### Each date is found -/

/-- The day before a date, which `next` leads back to the date. -/
theorem exists_before (inMonth : date.InMonth) :
    ∃ before : Date, before.InMonth ∧ before.next = date := by
  obtain ⟨year, month, day⟩ := date
  obtain ⟨⟨first, last⟩, ⟨begins, ends⟩⟩ := inMonth
  dsimp only at first last begins ends
  by_cases early : day = 1
  · subst early
    by_cases january : month = 1
    · subst january
      refine ⟨⟨year - 1, 12, 31⟩, ⟨⟨Nat.le_add_left 1 11, Nat.le_refl 12⟩,
        ⟨Nat.le_add_left 1 30, Nat.le_refl 31⟩⟩, ?_⟩
      have final : ¬31 < monthLength (year - 1) 12 := Nat.lt_irrefl 31
      rw [next, if_neg final, if_neg (Nat.lt_irrefl 12), Int.sub_add_cancel]
    · refine ⟨⟨year, month - 1, monthLength year (month - 1)⟩,
        ⟨by dsimp only; omega, one_le_monthLength _ _, Nat.le_refl _⟩, ?_⟩
      have later : month - 1 + 1 = month := by omega
      rw [next, if_neg (Nat.lt_irrefl _), if_pos (by dsimp only; omega), later]
  · refine ⟨⟨year, month, day - 1⟩, ⟨⟨first, last⟩, by dsimp only; omega⟩, ?_⟩
    have later : day - 1 + 1 = day := by omega
    rw [next, if_pos (by dsimp only; omega), later]

theorem eq_after (inMonth : date.InMonth) {days : Nat} (counted : date.toDays = days) :
    date = after days := by
  induction days generalizing date with
  | zero =>
    obtain ⟨year, month, day⟩ := date
    obtain ⟨⟨first, last⟩, ⟨begins, ends⟩⟩ := inMonth
    have short := monthLength_le year month
    dsimp only at first last begins ends
    simp only [toDays] at counted
    split at counted
    · obtain ⟨rfl, rfl⟩ : year = 1970 ∧ month = 1 := by omega
      have day : day = 1 := by omega
      rw [day]
      rfl
    · -- From March on. The cycle of four hundred years tells that a year before 1970 is too early.
      have months : 0 ≤ (153 * ((month : Int) - 3) + 2) / 5 ∧
          (153 * ((month : Int) - 3) + 2) / 5 ≤ 275 := by omega
      have years : year / 400 ≤ 3 ∨ year / 400 = 4 ∧ year % 400 ≤ 369 ∨ 1970 ≤ year := by omega
      rcases years with cycle | cycle | later
      · omega
      · omega
      · omega
  | succ days ih =>
    obtain ⟨before, beforeInMonth, rfl⟩ := exists_before inMonth
    have next := toDays_next beforeInMonth
    rw [ih beforeInMonth (by omega)]
    rfl

end FeedMonitor.Date

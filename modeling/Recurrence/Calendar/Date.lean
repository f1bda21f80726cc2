import Recurrence.Text.Decimal
/-!
Dates of the Gregorian calendar, carried back before its adoption and forward without end. A day
is counted from 1970-01-01, which is day 0. Calendar values stay between the first day of year
-262143 and the last day of year 262142; `dayOf?` gives the day of a real date in that range.
-/
namespace Recurrence.Calendar

/-- Every fourth year is a leap year, of the centuries every fourth. -/
def isLeapYear (year : Int) : Bool :=
  year % 4 == 0 && (year % 100 != 0 || year % 400 == 0)

def yearLength (year : Int) : Int := if isLeapYear year then 366 else 365

/-- The number of days in a month counted from 1. -/
def monthLength (year : Int) (month : Nat) : Nat :=
  match month with
  | 2 => if isLeapYear year then 29 else 28
  | 4 | 6 | 9 | 11 => 30
  | _ => 31

/-- The day on which a year begins. -/
def yearStart (year : Int) : Int :=
  365 * (year - 1970) + (year - 1) / 4 - (year - 1) / 100 + (year - 1) / 400 - 477

theorem yearStart_succ (year : Int) : yearStart (year + 1) = yearStart year + yearLength year := by
  unfold yearStart yearLength isLeapYear
  split <;> rename_i h <;> simp at h <;> omega

/-- The year a day lies in. The mean year has 146097 / 400 days and no year begins more than a
year off that mean, so the estimate is wrong by one at most. -/
def yearOf (day : Int) : Int :=
  let estimate := 1970 + day * 400 / 146097
  if day < yearStart estimate then estimate - 1
  else if yearStart (estimate + 1) ≤ day then estimate + 1
  else estimate

theorem yearStart_yearOf_le (day : Int) : yearStart (yearOf day) ≤ day := by
  unfold yearOf
  dsimp only
  split
  · unfold yearStart at *; omega
  · split
    · assumption
    · omega

theorem lt_yearStart_yearOf_succ (day : Int) : day < yearStart (yearOf day + 1) := by
  unfold yearOf
  dsimp only
  split
  · simpa using ‹_›
  · split
    · unfold yearStart at *; omega
    · omega

/-- The days of a year before the first of a month. Month 13 stands for the year's end. -/
def daysBefore (year : Int) (month : Nat) : Int :=
  let leap : Int := if isLeapYear year then 1 else 0
  match month with
  | 0 | 1 => 0
  | 2 => 31
  | 3 => 59 + leap
  | 4 => 90 + leap
  | 5 => 120 + leap
  | 6 => 151 + leap
  | 7 => 181 + leap
  | 8 => 212 + leap
  | 9 => 243 + leap
  | 10 => 273 + leap
  | 11 => 304 + leap
  | 12 => 334 + leap
  | _ => 365 + leap

/-- A year, a month and a day of the month, the last two counted from 1. -/
structure Date where
  year : Int
  month : Nat
  day : Nat
deriving DecidableEq

/-- The day that a date names. -/
def Date.toDay (date : Date) : Int :=
  yearStart date.year + daysBefore date.year date.month + date.day - 1

/-- The month in which a day of the year counted from 0 lies. Months have at most 31 days and the
shorter ones add up to less than a month, so the estimate is at most one month early. -/
def monthOf (year : Int) (ordinal : Int) : Nat :=
  let estimate := (ordinal / 31).toNat + 1
  if daysBefore year (estimate + 1) ≤ ordinal then estimate + 1 else estimate

/-- The date of a day. -/
def dateOf (day : Int) : Date :=
  let year := yearOf day
  let ordinal := day - yearStart year
  let month := monthOf year ordinal
  ⟨year, month, (ordinal - daysBefore year month).toNat + 1⟩

def firstYear : Int := -262143
def lastYear : Int := 262142
def firstDay : Int := -96465292
def lastDay : Int := 95026236

theorem firstDay_eq : firstDay = yearStart firstYear := by decide
theorem lastDay_eq : lastDay = yearStart (lastYear + 1) - 1 := by decide

/-- Whether a day lies in the range of the calendar. -/
def InCalendar (day : Int) : Prop := firstDay ≤ day ∧ day ≤ lastDay

instance (day : Int) : Decidable (InCalendar day) :=
  inferInstanceAs (Decidable (firstDay ≤ day ∧ day ≤ lastDay))

/-- A date whose year, month and day exist. -/
structure Date.IsReal (date : Date) : Prop where
  firstYear_le : firstYear ≤ date.year
  le_lastYear : date.year ≤ lastYear
  month_pos : 1 ≤ date.month
  month_le : date.month ≤ 12
  day_pos : 1 ≤ date.day
  day_le : date.day ≤ monthLength date.year date.month

instance (date : Date) : Decidable date.IsReal :=
  decidable_of_iff
    (firstYear ≤ date.year ∧ date.year ≤ lastYear ∧ 1 ≤ date.month ∧ date.month ≤ 12 ∧
      1 ≤ date.day ∧ date.day ≤ monthLength date.year date.month)
    ⟨fun ⟨a, b, c, d, e, f⟩ => ⟨a, b, c, d, e, f⟩, fun ⟨a, b, c, d, e, f⟩ => ⟨a, b, c, d, e, f⟩⟩

/-- The day of a date, if it is a real one. -/
def dayOf? (year : Int) (month day : Nat) : Option Int :=
  let date : Date := ⟨year, month, day⟩
  if date.IsReal then some date.toDay else none

/-- A year with four digits, and a sign where four do not do. -/
def yearText (year : Int) : String :=
  if 0 ≤ year ∧ year ≤ 9999 then Text.paddedText 4 year.toNat
  else (if year < 0 then "-" else "+") ++ Text.paddedText 4 year.natAbs

/-- A date as YYYYMMDD. -/
def dateText (day : Int) : String :=
  let date := dateOf day
  yearText date.year ++ Text.paddedText 2 date.month ++ Text.paddedText 2 date.day

theorem daysBefore_succ (year : Int) (month : Nat) (hp : 1 ≤ month) (hm : month ≤ 12) :
    daysBefore year (month + 1) = daysBefore year month + monthLength year month := by
  have : month = 1 ∨ month = 2 ∨ month = 3 ∨ month = 4 ∨ month = 5 ∨ month = 6 ∨ month = 7 ∨
      month = 8 ∨ month = 9 ∨ month = 10 ∨ month = 11 ∨ month = 12 := by omega
  rcases this with rfl | rfl | rfl | rfl | rfl | rfl | rfl | rfl | rfl | rfl | rfl | rfl <;>
    simp [daysBefore, monthLength] <;> split <;> rfl

theorem daysBefore_end (year : Int) : daysBefore year 13 = yearLength year := by
  by_cases h : isLeapYear year = true <;> simp [daysBefore, yearLength, h]

theorem monthOf_bounds (year ordinal : Int) (h0 : 0 ≤ ordinal) (hl : ordinal < yearLength year) :
    1 ≤ monthOf year ordinal ∧ monthOf year ordinal ≤ 12 ∧
      daysBefore year (monthOf year ordinal) ≤ ordinal ∧
      ordinal < daysBefore year (monthOf year ordinal + 1) := by
  have hle : yearLength year ≤ 366 := by unfold yearLength; split <;> decide
  obtain ⟨n, hn⟩ : ∃ n : Nat, ordinal / 31 = n := ⟨(ordinal / 31).toNat, by omega⟩
  have hn' : n ≤ 11 := by omega
  have hlow : 31 * (n : Int) ≤ ordinal := by omega
  have hhigh : ordinal < 31 * (n : Int) + 31 := by omega
  rw [← daysBefore_end year] at hl
  unfold monthOf
  simp only [hn, Int.toNat_natCast]
  have : n = 0 ∨ n = 1 ∨ n = 2 ∨ n = 3 ∨ n = 4 ∨ n = 5 ∨ n = 6 ∨ n = 7 ∨ n = 8 ∨ n = 9 ∨
      n = 10 ∨ n = 11 := by omega
  rcases this with rfl | rfl | rfl | rfl | rfl | rfl | rfl | rfl | rfl | rfl | rfl | rfl <;>
    by_cases hleap : isLeapYear year = true <;>
    simp only [daysBefore, hleap, if_true, Bool.false_eq_true, if_false] at hl ⊢ <;>
    split <;> simp_all <;> omega

/-- A day's date names that day. -/
@[simp] theorem toDay_dateOf (day : Int) : (dateOf day).toDay = day := by
  have hs := yearStart_yearOf_le day
  have he := lt_yearStart_yearOf_succ day
  rw [yearStart_succ] at he
  obtain ⟨-, -, hb, -⟩ := monthOf_bounds (yearOf day) (day - yearStart (yearOf day))
    (by omega) (by omega)
  simp only [dateOf, Date.toDay]
  omega

end Recurrence.Calendar

import Mathlib
import Recurrence.Proofs.Calendar.Unit

/-! The calendar repeats after 400 years, which are a whole number of weeks. What
a filter says of a day it has said of the same day a number of cycles before. -/
namespace Recurrence
open Calendar

namespace Calendar

variable (cycles : Int)

theorem isLeapYear_cycle (year : Int) : isLeapYear (year + 400 * cycles) = isLeapYear year := by
  have h4 : (year + 400 * cycles) % 4 = year % 4 := by omega
  have h100 : (year + 400 * cycles) % 100 = year % 100 := by omega
  have h400 : (year + 400 * cycles) % 400 = year % 400 := by omega
  unfold isLeapYear
  rw [h4, h100, h400]

@[simp] theorem yearStart_cycle (year : Int) :
    yearStart (year + 400 * cycles) = yearStart year + 146097 * cycles := by
  unfold yearStart
  omega

@[simp] theorem yearLength_cycle (year : Int) :
    yearLength (year + 400 * cycles) = yearLength year := by
  unfold yearLength
  rw [isLeapYear_cycle]

@[simp] theorem monthLength_cycle (year : Int) (month : Nat) :
    monthLength (year + 400 * cycles) month = monthLength year month := by
  unfold monthLength
  rw [isLeapYear_cycle]

@[simp] theorem daysBefore_cycle (year : Int) (month : Nat) :
    daysBefore (year + 400 * cycles) month = daysBefore year month := by
  unfold daysBefore
  rw [isLeapYear_cycle]

@[simp] theorem yearOf_cycle (day : Int) :
    yearOf (day + 146097 * cycles) = yearOf day + 400 * cycles := by
  have hnext := yearStart_cycle cycles (yearOf day + 1)
  have hlow := yearStart_yearOf_le day
  have hhigh := lt_yearStart_yearOf_succ day
  rw [add_right_comm] at hnext
  rw [yearOf_eq_iff, yearStart_cycle, hnext]
  omega

theorem dateOf_cycle (day : Int) : dateOf (day + 146097 * cycles) =
    { dateOf day with year := yearOf day + 400 * cycles } := by
  have hordinal : day + 146097 * cycles - yearStart (yearOf day + 400 * cycles) =
      day - yearStart (yearOf day) := by
    rw [yearStart_cycle]
    omega
  have hmonth : ∀ ordinal, monthOf (yearOf day + 400 * cycles) ordinal =
      monthOf (yearOf day) ordinal := by
    intro ordinal
    unfold monthOf
    simp only [daysBefore_cycle]
  unfold dateOf
  simp only [yearOf_cycle, hordinal, hmonth, daysBefore_cycle]

theorem weekday_cycle (day : Int) : Weekday.of (day + 146097 * cycles) = Weekday.of day := by
  have h : (day + 146097 * cycles + 3) % 7 = (day + 3) % 7 := by omega
  unfold Weekday.of
  rw [h]

theorem weekStart_cycle (first : Weekday) (day : Int) :
    weekStart first (day + 146097 * cycles) = weekStart first day + 146097 * cycles := by
  unfold weekStart
  omega

variable {cycles}

theorem weekOneStart?_eq_some_iff {first : Weekday} {year start : Int} :
    weekOneStart? first year = some start ↔ (firstYear ≤ year ∧ year ≤ lastYear) ∧
      InCalendar start ∧ start = weekStart first (yearStart year + 3) := by
  have hreal : (Date.IsReal ⟨year, 1, 4⟩) ↔ firstYear ≤ year ∧ year ≤ lastYear := by
    constructor
    · exact fun h => ⟨h.firstYear_le, h.le_lastYear⟩
    · rintro ⟨hlow, hhigh⟩
      constructor <;> simp_all [monthLength]
  have hday : (Date.toDay ⟨year, 1, 4⟩) = yearStart year + 3 := by
    simp only [Date.toDay, daysBefore_one]
    omega
  unfold weekOneStart? dayOf?
  simp only [hreal, hday]
  by_cases hy : firstYear ≤ year ∧ year ≤ lastYear
  · by_cases hs : InCalendar (weekStart first (yearStart year + 3))
    · simp only [hy, hs, and_self, if_true, Option.some.injEq, true_and]
      constructor
      · rintro rfl
        exact ⟨hs, rfl⟩
      · exact fun h => h.2.symm
    · simp only [hy, hs, and_self, if_true, if_false, reduceCtorEq, true_and, false_iff]
      rintro ⟨hin, rfl⟩
      exact hs hin
  · simp [hy]

theorem weekOneStart?_of_cycle {first : Weekday} {year start : Int} (hc : 0 ≤ cycles)
    (hy : firstYear < year) (h : weekOneStart? first (year + 400 * cycles) = some start) :
    weekOneStart? first year = some (start - 146097 * cycles) := by
  obtain ⟨⟨-, hlast⟩, ⟨-, hin⟩, rfl⟩ := weekOneStart?_eq_some_iff.1 h
  have hfirst := yearStart_le_iff.2 (show firstYear + 1 ≤ year by omega)
  have hle := weekStart_le first (yearStart year + 3)
  have hlt := lt_weekStart_add first (yearStart year + 3)
  rw [yearStart_succ, ← firstDay_eq] at hfirst
  have hlength : yearLength firstYear = 365 := by decide
  rw [yearStart_cycle, add_right_comm, weekStart_cycle] at hin ⊢
  refine weekOneStart?_eq_some_iff.2 ⟨by omega, ⟨?_, ?_⟩, ?_⟩
  · omega
  · omega
  · omega

end Calendar

namespace DayFilter

variable {cycles day : Int} (hc : 0 ≤ cycles) (hday : firstYear + 1 < yearOf day)
include hc hday

theorem weekNumber?_of_cycle {first : Weekday} {number : Int × Int}
    (h : weekNumber? first (day + 146097 * cycles) = some number) :
    weekNumber? first day = some number := by
  unfold weekNumber? at h ⊢
  simp only [yearOf_cycle, Option.bind_eq_bind, Option.bind_eq_some_iff] at h ⊢
  obtain ⟨previous, hprevious, this, hthis, next, hnext, afterNext, hafter, hnumber⟩ := h
  rw [show yearOf day + 400 * cycles - 1 = yearOf day - 1 + 400 * cycles by omega] at hprevious
  rw [show yearOf day + 400 * cycles + 1 = yearOf day + 1 + 400 * cycles by omega] at hnext
  rw [show yearOf day + 400 * cycles + 2 = yearOf day + 2 + 400 * cycles by omega] at hafter
  refine ⟨_, weekOneStart?_of_cycle hc (by omega) hprevious,
    _, weekOneStart?_of_cycle hc (by omega) hthis,
    _, weekOneStart?_of_cycle hc (by omega) hnext,
    _, weekOneStart?_of_cycle hc (by omega) hafter, ?_⟩
  -- The four first weeks lie equally far back, so that the day lies among them as it did.
  have hbefore : day < this - 146097 * cycles ↔ day + 146097 * cycles < this := by omega
  have hbehind : next - 146097 * cycles ≤ day ↔ next ≤ day + 146097 * cycles := by omega
  have hstart : ∀ start, day - (start - 146097 * cycles) = day + 146097 * cycles - start := by
    intro start
    omega
  have hlength : ∀ start stop : Int, stop - 146097 * cycles - (start - 146097 * cycles) =
      stop - start := by
    intro start stop
    omega
  rw [← hnumber]
  simp only [hbefore, hbehind]
  by_cases h1 : day + 146097 * cycles < this
  · simp only [h1, if_true, hstart, hlength]
  · by_cases h2 : next ≤ day + 146097 * cycles
    · simp only [h1, h2, if_true, if_false, hstart, hlength]
    · simp only [h1, h2, if_false, hstart, hlength]

theorem weekListed_of_cycle {filter : DayFilter}
    (h : filter.weekListed (day + 146097 * cycles) = true) : filter.weekListed day = true := by
  unfold weekListed at h ⊢
  cases hn : weekNumber? filter.weekStart (day + 146097 * cycles) with
  | none => simp [hn] at h
  | some number =>
    rw [weekNumber?_of_cycle hc hday hn]
    simpa [hn] using h

omit hday in
/-- A filter has accepted the day that lies some cycles before, unless that lies too
far back for the number of its week. -/
theorem accepts_of_cycle {filter : DayFilter}
    (hweeks : filter.weekNumbers = [] ∨ firstYear + 1 < yearOf day)
    (h : filter.accepts (day + 146097 * cycles) = true) : filter.accepts day = true := by
  have hyear : day + 146097 * cycles - (yearStart (yearOf day) + 146097 * cycles) =
      day - yearStart (yearOf day) := by
    omega
  unfold accepts at h ⊢
  simp only [dateOf_cycle, yearStart_cycle, yearLength_cycle, monthLength_cycle, weekday_cycle,
    hyear] at h
  simp only [dateOf_year]
  rw [Bool.and_eq_true, Bool.and_eq_true, Bool.and_eq_true, Bool.and_eq_true] at h ⊢
  obtain ⟨⟨⟨⟨hmonth, hweek⟩, hyearDay⟩, hmonthDay⟩, hweekday⟩ := h
  refine ⟨⟨⟨⟨hmonth, ?_⟩, hyearDay⟩, hmonthDay⟩, hweekday⟩
  rw [Bool.or_eq_true] at hweek ⊢
  rcases hweeks with hnone | hday
  · exact .inl (by rw [hnone]; rfl)
  · exact hweek.imp_right (weekListed_of_cycle hc hday)

end DayFilter

end Recurrence

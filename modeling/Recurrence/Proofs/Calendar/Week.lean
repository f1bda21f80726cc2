import Mathlib
import Recurrence.Proofs.Calendar.Cycle
import Recurrence.Proofs.Calendar.Place

/-! Weeks by number. A week belongs to the year that has most of its days, and its number
says how many weeks of that year come up to it. -/
namespace Recurrence
open Calendar

namespace Calendar

/-- Whether a day begins a week of a year: it is the weekday that weeks begin on, and of
the seven days from it on at least four lie in the year. -/
structure IsWeekOf (first : Weekday) (year start : Int) : Prop where
  begins : Weekday.of start = first
  mostly : 4 ≤ (Set.Ico start (start + 7) ∩ {day | yearOf day = year}).ncard

/-- The days on which the weeks of a year begin. -/
def weeksOf (first : Weekday) (year : Int) : Set Int := {start | IsWeekOf first year start}

/-- Whether a number is that of the week of a day in the year of that week, counted from 1
at the first of its weeks or from -1 at the last. -/
def IsWeekNumber (first : Weekday) (day number : Int) : Prop :=
  ∃ year start, IsWeekOf first year start ∧ day ∈ Set.Ico start (start + 7) ∧
    (number = (weeksOf first year ∩ Set.Iic start).ncard ∨
      number = (weeksOf first year ∩ Set.Iic start).ncard - (weeksOf first year).ncard - 1)

theorem le_yearLength (year : Int) : 365 ≤ yearLength year := by
  unfold yearLength
  split <;> decide

/-- The day in the middle decides to which year a week belongs. -/
theorem isWeekOf_iff {first : Weekday} {year start : Int} :
    IsWeekOf first year start ↔ Weekday.of start = first ∧ yearOf (start + 3) = year := by
  have hdays : Set.Ico start (start + 7) ∩ {day | yearOf day = year} =
      Set.Icc (max start (yearStart year)) (min (start + 6) (yearStart (year + 1) - 1)) := by
    ext day
    simp only [Set.mem_inter_iff, Set.mem_Ico, Set.mem_ofPred_eq, yearOf_eq_iff, Set.mem_Icc]
    omega
  have hmost : 4 ≤ (Set.Ico start (start + 7) ∩ {day | yearOf day = year}).ncard ↔
      yearOf (start + 3) = year := by
    have hlength := le_yearLength year
    rw [hdays, ncard_Icc, yearOf_eq_iff, yearStart_succ]
    omega
  rw [← hmost]
  exact ⟨fun h => ⟨h.begins, h.mostly⟩, fun h => ⟨h.1, h.2⟩⟩

theorem of_weekStart (first : Weekday) (day : Int) :
    Weekday.of (weekStart first day) = first := by
  rw [Weekday.of_eq_iff]
  unfold weekStart
  omega

/-- The day on which the first week of a year begins. -/
def weekOneOf (first : Weekday) (year : Int) : Int := weekStart first (yearStart year + 3)

theorem weekOneOf_near (first : Weekday) (year : Int) :
    yearStart year - 3 ≤ weekOneOf first year ∧ weekOneOf first year ≤ yearStart year + 3 := by
  unfold weekOneOf weekStart
  omega

theorem yearOf_week_iff {first : Weekday} {day year : Int} :
    yearOf (weekStart first day + 3) = year ↔
      weekOneOf first year ≤ day ∧ day < weekOneOf first (year + 1) := by
  rw [yearOf_eq_iff]
  unfold weekOneOf weekStart
  omega

theorem mem_weeksOf_iff {first : Weekday} {year start : Int} : start ∈ weeksOf first year ↔
    (weekOneOf first year ≤ start ∧ start < weekOneOf first (year + 1)) ∧
      (start - weekOneOf first year) % 7 = 0 := by
  change IsWeekOf first year start ↔ _
  rw [isWeekOf_iff, Weekday.of_eq_iff, yearOf_eq_iff]
  unfold weekOneOf weekStart
  omega

theorem ncard_weeksOf {first : Weekday} {year start : Int} (h : start ∈ weeksOf first year) :
    ((weeksOf first year ∩ Set.Iic start).ncard : Int) = (start - weekOneOf first year) / 7 + 1 ∧
      ((weeksOf first year).ncard : Int) =
        (weekOneOf first (year + 1) - weekOneOf first year) / 7 := by
  have hweeks : (weekOneOf first (year + 1) - weekOneOf first year) % 7 = 0 := by
    unfold weekOneOf weekStart
    omega
  obtain ⟨⟨hlow, hhigh⟩, hseven⟩ := mem_weeksOf_iff.1 h
  -- Both sets are every seventh day of an interval that begins with the first week.
  have hbefore : weeksOf first year ∩ Set.Iic start =
      {day | (weekOneOf first year ≤ day ∧
        day < weekOneOf first year + 7 * ((start - weekOneOf first year) / 7 + 1).toNat) ∧
          (day - weekOneOf first year) % 7 = 0} := by
    ext day
    rw [Set.mem_inter_iff, mem_weeksOf_iff, Set.mem_Iic, Set.mem_ofPred_eq]
    omega
  have hall : weeksOf first year =
      {day | (weekOneOf first year ≤ day ∧ day < weekOneOf first year +
        7 * ((weekOneOf first (year + 1) - weekOneOf first year) / 7).toNat) ∧
          (day - weekOneOf first year) % 7 = 0} := by
    ext day
    rw [mem_weeksOf_iff, Set.mem_ofPred_eq]
    omega
  constructor
  · rw [hbefore, ncard_everySeventh]
    omega
  · rw [hall, ncard_everySeventh]
    omega

/-- A day lies in one week, and that belongs to one year. -/
theorem isWeekNumber_iff {first : Weekday} {day year number : Int}
    (hyear : yearOf (weekStart first day + 3) = year) : IsWeekNumber first day number ↔
      number = (day - weekOneOf first year) / 7 + 1 ∨
        number = (day - weekOneOf first year) / 7 + 1 -
          (weekOneOf first (year + 1) - weekOneOf first year) / 7 - 1 := by
  have hweek : weekStart first day ∈ weeksOf first year :=
    isWeekOf_iff.2 ⟨of_weekStart first day, hyear⟩
  obtain ⟨hcount, hall⟩ := ncard_weeksOf hweek
  have hsame : (weekStart first day - weekOneOf first year) / 7 =
      (day - weekOneOf first year) / 7 := by
    unfold weekOneOf weekStart
    omega
  rw [hsame] at hcount
  rw [← hcount, ← hall]
  constructor
  · rintro ⟨other, start, hother, ⟨hlow, hhigh⟩, hnumber⟩
    obtain ⟨hbegins, hmiddle⟩ := isWeekOf_iff.1 hother
    -- The week that holds a day is the one that begins on its weekday before.
    have hstart : start = weekStart first day := by
      rw [Weekday.of_eq_iff] at hbegins
      unfold weekStart
      omega
    subst hstart
    obtain rfl : year = other := hyear.symm.trans hmiddle
    exact hnumber
  · exact fun hnumber =>
      ⟨year, _, hweek, ⟨weekStart_le first day, lt_weekStart_add first day⟩, hnumber⟩

theorem weekOneStart?_eq (first : Weekday) {year : Int} (hlow : -1 ≤ year) (hhigh : year ≤ 10001) :
    weekOneStart? first year = some (weekOneOf first year) := by
  refine weekOneStart?_eq_some_iff.2 ⟨?_, ?_, rfl⟩
  · unfold firstYear lastYear
    omega
  · unfold InCalendar firstDay lastDay weekOneOf weekStart yearStart
    omega

end Calendar

namespace DayFilter

variable {day : Int} (hlow : 0 ≤ yearOf day) (hhigh : yearOf day ≤ 9999)
include hlow hhigh

theorem weekNumber?_eq {first : Weekday} {year : Int}
    (hyear : yearOf (Calendar.weekStart first day + 3) = year) : weekNumber? first day =
      some ((day - weekOneOf first year) / 7 + 1,
        (weekOneOf first (year + 1) - weekOneOf first year) / 7) := by
  obtain ⟨own, hown⟩ : ∃ own, yearOf day = own := ⟨_, rfl⟩
  rw [hown] at hlow hhigh
  obtain ⟨hbegin, hend⟩ := yearOf_eq_iff.1 hown
  have hbefore := yearStart_succ (own - 1)
  have hbehind := yearStart_succ (own + 1)
  have hprevious := le_yearLength (own - 1)
  have hnext := le_yearLength (own + 1)
  rw [sub_add_cancel] at hbefore
  unfold weekNumber?
  simp only [hown, weekOneStart?_eq first (show -1 ≤ own - 1 by omega) (by omega),
    weekOneStart?_eq first (show -1 ≤ own by omega) (by omega),
    weekOneStart?_eq first (show -1 ≤ own + 1 by omega) (by omega),
    weekOneStart?_eq first (show -1 ≤ own + 2 by omega) (by omega),
    Option.bind_eq_bind, Option.bind_some]
  have hpreviousOne := weekOneOf_near first (own - 1)
  have hafterOne := weekOneOf_near first (own + 2)
  rw [show own + 2 = own + 1 + 1 by omega] at hafterOne ⊢
  -- The week of a day may belong to the year before or to the next.
  by_cases hearly : day < weekOneOf first own
  · obtain rfl : year = own - 1 := by
      refine hyear.symm.trans (yearOf_week_iff.2 ⟨by omega, ?_⟩)
      rwa [sub_add_cancel]
    simp [hearly]
  · by_cases hlate : weekOneOf first (own + 1) ≤ day
    · obtain rfl : year = own + 1 := hyear.symm.trans (yearOf_week_iff.2 ⟨hlate, by omega⟩)
      simp [hearly, hlate]
    · obtain rfl : year = own := hyear.symm.trans (yearOf_week_iff.2 ⟨by omega, by omega⟩)
      simp [hearly, hlate]

theorem weekListed_iff {filter : DayFilter} : filter.weekListed day = true ↔
    ∃ number ∈ filter.weekNumbers, IsWeekNumber filter.weekStart day number := by
  unfold weekListed
  rw [weekNumber?_eq hlow hhigh rfl]
  simp only [List.any_eq_true, Bool.or_eq_true, beq_iff_eq, isWeekNumber_iff rfl]

end DayFilter

end Recurrence

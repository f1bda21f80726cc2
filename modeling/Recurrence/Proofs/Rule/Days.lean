import Mathlib
import Recurrence.Proofs.Calendar.Week

/-! Which days a pattern selects, told by the calendar: each list that is given has the
month of the day, the number of its week, or its place among the days of its year or month,
or the like of it among the days of its weekday. -/
namespace Recurrence
open Calendar

/-- The lists of a pattern with what they leave open. Where no list says which day of its
unit is meant, a year takes the month and day of the anchor, a month its day and a week its
weekday. -/
def Pattern.dayLists (pattern : Pattern) (anchorDay : Int) : ByLists :=
  let lists := pattern.lists
  if lists.weekNumbers = [] ∧ lists.yearDays = [] ∧ lists.monthDays = [] ∧ lists.days = [] then
    match pattern.frequency with
    | .yearly =>
      { lists with
        months := if lists.months = [] then [(dateOf anchorDay).month] else lists.months
        monthDays := [((dateOf anchorDay).day : Int)] }
    | .monthly => { lists with monthDays := [((dateOf anchorDay).day : Int)] }
    | .weekly => { lists with days := [⟨none, Weekday.of anchorDay⟩] }
    | .daily | .hourly | .minutely | .secondly => lists
  else lists

/-- The days among which an ordinal weekday is counted: those of the month for months and
where months are listed, and those of the year otherwise. -/
def ByLists.ordinalScope (lists : ByLists) (frequency : Frequency) (day : Int) : Set Int :=
  if frequency = .monthly ∨ lists.months ≠ [] then sameMonth day else sameYear day

/-- Whether lists of a frequency select a day. -/
structure ByLists.SelectsDay (lists : ByLists) (frequency : Frequency) (first : Weekday)
    (day : Int) : Prop where
  month : lists.months ≠ [] → (dateOf day).month ∈ lists.months
  week : lists.weekNumbers ≠ [] → ∃ number ∈ lists.weekNumbers, IsWeekNumber first day number
  yearDay : lists.yearDays ≠ [] → ∃ place ∈ lists.yearDays, IsPlace (sameYear day) day place
  monthDay : lists.monthDays ≠ [] → ∃ place ∈ lists.monthDays, IsPlace (sameMonth day) day place
  weekday : lists.days ≠ [] → ∃ entry ∈ lists.days, entry.weekday = Weekday.of day ∧
    ∀ place ∈ entry.ordinal, IsPlace (lists.ordinalScope frequency day ∩ sameWeekday day) day place

namespace DayFilter

/-- The filter that looks at some lists as they are. -/
def ofLists (frequency : Frequency) (weekStart : Weekday) (lists : ByLists) : DayFilter where
  weekStart
  months := lists.months
  weekNumbers := lists.weekNumbers
  yearDays := lists.yearDays
  monthDays := lists.monthDays
  weekdays := lists.days.filterMap fun day => if day.ordinal.isNone then some day.weekday else none
  ordinals := lists.days.filterMap fun day => day.ordinal.map (·, day.weekday)
  withinMonth := frequency = .monthly || !lists.months.isEmpty

theorem ofPattern_eq (pattern : Pattern) (anchorDay : Int) : ofPattern pattern anchorDay =
    ofLists pattern.frequency pattern.weekStart (pattern.dayLists anchorDay) := by
  have hopen : leavesDayOpen pattern.lists = true ↔ pattern.lists.weekNumbers = [] ∧
      pattern.lists.yearDays = [] ∧ pattern.lists.monthDays = [] ∧ pattern.lists.days = [] := by
    simp [leavesDayOpen, and_assoc]
  unfold ofPattern Pattern.dayLists ofLists
  by_cases h : leavesDayOpen pattern.lists = true
  · obtain ⟨hweeks, hyear, hmonth, hdays⟩ := hopen.1 h
    cases pattern.frequency <;> simp [h, hweeks, hyear, hmonth, hdays]
  · rw [if_neg (hopen.not.1 h)]
    simp [h]

section Lists

variable {frequency : Frequency} {first : Weekday} {lists : ByLists} {day : Int}

theorem isEmpty_or_iff {α : Type} {values : List α} {test : Bool} :
    (values.isEmpty || test) = true ↔ (values ≠ [] → test = true) := by
  cases values <;> simp

theorem listed_iff {values : List Int} {start stop : Int} (hlow : start ≤ day) (hhigh : day < stop) :
    listed values (day - start + 1) (stop - start) = true ↔
      (values ≠ [] → ∃ place ∈ values, IsPlace (Set.Ico start stop) day place) := by
  have hback : day - start + 1 - (stop - start) - 1 = day - stop := by omega
  unfold listed
  rw [isEmpty_or_iff]
  simp only [List.any_eq_true, Bool.or_eq_true, beq_iff_eq, hback, isPlace_interval hlow hhigh]

theorem listed_year_iff {values : List Int} :
    listed values (day - yearStart (yearOf day) + 1) (yearLength (yearOf day)) = true ↔
      (values ≠ [] → ∃ place ∈ values, IsPlace (sameYear day) day place) := by
  have hlength := yearStart_succ (yearOf day)
  rw [sameYear_eq, ← listed_iff (yearStart_yearOf_le day) (lt_yearStart_yearOf_succ day), hlength,
    add_sub_cancel_left]

theorem day_mem_month (day : Int) : day - ((dateOf day).day - 1) ≤ day ∧
    day < day - ((dateOf day).day - 1) + monthLength (yearOf day) (dateOf day).month := by
  have h : day ∈ sameMonth day := ⟨rfl, rfl⟩
  rwa [sameMonth_eq] at h

theorem listed_month_iff {values : List Int} :
    listed values (dateOf day).day (monthLength (yearOf day) (dateOf day).month) = true ↔
      (values ≠ [] → ∃ place ∈ values, IsPlace (sameMonth day) day place) := by
  rw [sameMonth_eq, ← listed_iff (day_mem_month day).1 (day_mem_month day).2, add_sub_cancel_left,
    sub_sub_cancel, sub_add_cancel]

/-- Counting like days by sevens, from where the month or the year begins. -/
theorem isNth_iff {place : Int} :
    (if (ofLists frequency first lists).withinMonth then
        isNth place ((dateOf day).day - 1) (monthLength (yearOf day) (dateOf day).month)
      else isNth place (day - yearStart (yearOf day)) (yearLength (yearOf day))) = true ↔
      IsPlace (lists.ordinalScope frequency day ∩ sameWeekday day) day place := by
  have hscope : (ofLists frequency first lists).withinMonth = true ↔
      frequency = .monthly ∨ lists.months ≠ [] := by
    simp [ofLists]
  unfold ByLists.ordinalScope
  by_cases h : frequency = .monthly ∨ lists.months ≠ []
  · rw [if_pos (hscope.2 h), if_pos h, sameMonth_eq,
      isPlace_weekday (day_mem_month day).1 (day_mem_month day).2, add_sub_cancel_left,
      sub_sub_cancel]
  · rw [if_neg (hscope.not.2 h), if_neg h, sameYear_eq,
      isPlace_weekday (yearStart_yearOf_le day) (lt_yearStart_yearOf_succ day), yearStart_succ,
      add_sub_cancel_left]

theorem mem_weekdays {weekday : Weekday} :
    weekday ∈ (ofLists frequency first lists).weekdays ↔ ⟨none, weekday⟩ ∈ lists.days := by
  unfold ofLists
  simp only [List.mem_filterMap, Option.ite_none_right_eq_some, Option.some.injEq,
    Option.isNone_iff_eq_none]
  constructor
  · rintro ⟨⟨ordinal, other⟩, hmem, hnone, rfl⟩
    obtain rfl : ordinal = none := hnone
    exact hmem
  · exact fun hmem => ⟨_, hmem, rfl, rfl⟩

theorem mem_ordinals {place : Int} {weekday : Weekday} :
    (place, weekday) ∈ (ofLists frequency first lists).ordinals ↔
      ⟨some place, weekday⟩ ∈ lists.days := by
  unfold ofLists
  simp only [List.mem_filterMap, Option.map_eq_some_iff, Prod.mk.injEq]
  constructor
  · rintro ⟨⟨ordinal, other⟩, hmem, n, hsome, rfl, rfl⟩
    obtain rfl : ordinal = some n := hsome
    exact hmem
  · exact fun hmem => ⟨_, hmem, place, rfl, rfl, rfl⟩

theorem days_eq_nil_iff : lists.days = [] ↔ (ofLists frequency first lists).weekdays = [] ∧
    (ofLists frequency first lists).ordinals = [] := by
  constructor
  · intro h
    simp [ofLists, h]
  · rintro ⟨halone, hordinals⟩
    refine List.eq_nil_iff_forall_not_mem.2 fun entry hmem => ?_
    obtain ⟨_ | place, weekday⟩ := entry
    · have halso : weekday ∈ (ofLists frequency first lists).weekdays := mem_weekdays.2 hmem
      simp [halone] at halso
    · have halso : (place, weekday) ∈ (ofLists frequency first lists).ordinals :=
        mem_ordinals.2 hmem
      simp [hordinals] at halso

theorem weekdays_iff :
    ((ofLists frequency first lists).weekdays.isEmpty &&
        (ofLists frequency first lists).ordinals.isEmpty ||
      (ofLists frequency first lists).weekdays.contains (Weekday.of day) ||
      (ofLists frequency first lists).ordinals.any fun (place, weekday) =>
        weekday == Weekday.of day &&
          if (ofLists frequency first lists).withinMonth then
            isNth place ((dateOf day).day - 1) (monthLength (yearOf day) (dateOf day).month)
          else isNth place (day - yearStart (yearOf day)) (yearLength (yearOf day))) = true ↔
      (lists.days ≠ [] → ∃ entry ∈ lists.days, entry.weekday = Weekday.of day ∧
        ∀ place ∈ entry.ordinal,
          IsPlace (lists.ordinalScope frequency day ∩ sameWeekday day) day place) := by
  have hempty : ((ofLists frequency first lists).weekdays.isEmpty &&
      (ofLists frequency first lists).ordinals.isEmpty) = true ↔ lists.days = [] := by
    rw [Bool.and_eq_true, List.isEmpty_iff, List.isEmpty_iff, ← days_eq_nil_iff]
  rw [Bool.or_eq_true, Bool.or_eq_true, hempty, List.contains_iff_mem, mem_weekdays,
    List.any_eq_true]
  constructor
  · rintro ((hnone | halone) | ⟨⟨place, weekday⟩, hmem, htest⟩) hne
    · exact absurd hnone hne
    · exact ⟨_, halone, rfl, fun place hplace => nomatch hplace⟩
    · simp only [Bool.and_eq_true, beq_iff_eq, isNth_iff] at htest
      refine ⟨_, mem_ordinals.1 hmem, htest.1, fun other hother => ?_⟩
      obtain rfl := Option.some.inj hother
      exact htest.2
  · intro h
    by_cases hnone : lists.days = []
    · exact .inl (.inl hnone)
    · obtain ⟨⟨ordinal, weekday⟩, hmem, rfl, hplace⟩ := h hnone
      cases ordinal with
      | none => exact .inl (.inr hmem)
      | some place =>
        refine .inr ⟨_, mem_ordinals.2 hmem, ?_⟩
        simp only [Bool.and_eq_true, beq_iff_eq, isNth_iff]
        exact ⟨trivial, hplace place rfl⟩

end Lists

section Years

variable {day : Int} (hlow : 0 ≤ yearOf day) (hhigh : yearOf day ≤ 9999)
include hlow hhigh

theorem accepts_ofLists_iff {frequency : Frequency} {first : Weekday} {lists : ByLists} :
    (ofLists frequency first lists).accepts day = true ↔ lists.SelectsDay frequency first day := by
  unfold accepts
  simp only [dateOf_year]
  rw [Bool.and_eq_true, Bool.and_eq_true, Bool.and_eq_true, Bool.and_eq_true, listed_year_iff,
    listed_month_iff, weekdays_iff, isEmpty_or_iff, isEmpty_or_iff, weekListed_iff hlow hhigh,
    List.contains_iff_mem]
  constructor
  · rintro ⟨⟨⟨⟨hmonth, hweek⟩, hyearDay⟩, hmonthDay⟩, hweekday⟩
    exact ⟨hmonth, hweek, hyearDay, hmonthDay, hweekday⟩
  · exact fun h => ⟨⟨⟨⟨h.month, h.week⟩, h.yearDay⟩, h.monthDay⟩, h.weekday⟩

/-- A pattern selects the days that its lists select, and those of its anchor where they
leave the day open. -/
theorem accepts_ofPattern_iff (pattern : Pattern) (anchorDay : Int) :
    (ofPattern pattern anchorDay).accepts day = true ↔
      (pattern.dayLists anchorDay).SelectsDay pattern.frequency pattern.weekStart day := by
  rw [ofPattern_eq]
  exact accepts_ofLists_iff hlow hhigh

end Years

/-- Every day of the last week of a year. -/
def lastWeek : Pattern :=
  { Pattern.ofFrequency .yearly with
    lists := { ByLists.empty with weekNumbers := [-1] }
    inRange := by constructor <;> simp [ByLists.empty, CountsWithin]
    fits := by constructor <;> simp [ByLists.empty, Pattern.ofFrequency] }

/-- The last week of 2026 has days in 2027. -/
theorem accepts_lastWeek : 0 ≤ yearOf 20819 ∧ yearOf 20819 ≤ 9999 ∧
    dateOf 20819 = ⟨2027, 1, 1⟩ ∧ (lastWeek.dayLists 0).SelectsDay .yearly .monday 20819 :=
  ⟨by decide, by decide, by decide,
    (accepts_ofPattern_iff (by decide) (by decide) lastWeek 0).1 (by decide)⟩

end DayFilter

end Recurrence

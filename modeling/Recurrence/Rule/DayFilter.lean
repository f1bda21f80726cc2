import Recurrence.Rule.Pattern
/-!
The days that a pattern selects. Each list that is given has to hold the day; a pattern without
any list of days takes them from its anchor.
-/
namespace Recurrence
open Calendar

structure DayFilter where
  weekStart : Weekday
  months : List Nat
  weekNumbers : List Int
  yearDays : List Int
  monthDays : List Int
  weekdays : List Weekday
  /-- Weekdays with their place among their like in a month or year. -/
  ordinals : List (Int × Weekday)
  /-- Whether places count within the month. -/
  withinMonth : Bool

namespace DayFilter

/-- Whether a pattern says nothing about the day within its month or year. -/
def leavesDayOpen (lists : ByLists) : Bool :=
  lists.weekNumbers.isEmpty && lists.yearDays.isEmpty && lists.monthDays.isEmpty &&
    lists.days.isEmpty

/-- The filter of a pattern. Where the pattern leaves the day open, years take the month and day of
the anchor, months its day, and weeks its weekday. -/
def ofPattern (pattern : Pattern) (anchorDay : Int) : DayFilter :=
  let lists := pattern.lists
  let date := dateOf anchorDay
  let openTo := fun (frequency : Frequency) =>
    leavesDayOpen lists && pattern.frequency = frequency
  let months := if openTo .yearly && lists.months.isEmpty then [date.month] else lists.months
  { weekStart := pattern.weekStart
    months
    weekNumbers := lists.weekNumbers
    yearDays := lists.yearDays
    monthDays :=
      if openTo .yearly || openTo .monthly then [(date.day : Int)] else lists.monthDays
    weekdays :=
      if openTo .weekly then [Weekday.of anchorDay]
      else lists.days.filterMap fun day => if day.ordinal.isNone then some day.weekday else none
    ordinals := lists.days.filterMap fun day => day.ordinal.map (·, day.weekday)
    withinMonth := pattern.frequency = .monthly || !months.isEmpty }

/-- Whether a place counted from 1 is listed, from the start or from the end of `length` places.
An empty list holds every place. -/
def listed (values : List Int) (place length : Int) : Bool :=
  values.isEmpty || values.any fun v => v == place || v == place - length - 1

/-- The week number of a day and the number of weeks of the year that week belongs to. -/
def weekNumber? (weekStart : Weekday) (day : Int) : Option (Int × Int) := do
  let year := yearOf day
  let previous ← weekOneStart? weekStart (year - 1)
  let this ← weekOneStart? weekStart year
  let next ← weekOneStart? weekStart (year + 1)
  let afterNext ← weekOneStart? weekStart (year + 2)
  let (start, stop) :=
    if day < this then (previous, this)
    else if next ≤ day then (next, afterNext)
    else (this, next)
  return ((day - start) / 7 + 1, (stop - start) / 7)

/-- Whether the week of a day is listed by number. -/
def weekListed (filter : DayFilter) (day : Int) : Bool :=
  match weekNumber? filter.weekStart day with
  | some (week, weeks) => filter.weekNumbers.any fun w => w == week || w == week - weeks - 1
  | none => false

/-- Whether the day with some days before it and `length` in all, of which every seventh has its
weekday, is the `n`-th such day or the `n`-th from the end. -/
def isNth (n before length : Int) : Bool :=
  n == before / 7 + 1 || n == -((length - 1 - before) / 7 + 1)

/-- Whether a day passes every list. -/
def accepts (filter : DayFilter) (day : Int) : Bool :=
  let date := dateOf day
  let beforeInYear := day - yearStart date.year
  (filter.months.isEmpty || filter.months.contains date.month) &&
  (filter.weekNumbers.isEmpty || filter.weekListed day) &&
  listed filter.yearDays (beforeInYear + 1) (yearLength date.year) &&
  listed filter.monthDays date.day (monthLength date.year date.month) &&
  (filter.weekdays.isEmpty && filter.ordinals.isEmpty ||
    filter.weekdays.contains (Weekday.of day) ||
    filter.ordinals.any fun (n, weekday) =>
      weekday == Weekday.of day &&
        if filter.withinMonth then isNth n (date.day - 1) (monthLength date.year date.month)
        else isNth n beforeInYear (yearLength date.year))

end DayFilter
end Recurrence

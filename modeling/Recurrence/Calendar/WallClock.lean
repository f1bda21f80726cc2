import Recurrence.Calendar.Date
/-!
Positions on a clock, in whole seconds from 1970-01-01T00:00:00 of that clock. A wall clock
reading and a UTC instant are both such counts; which clock is meant is said by the argument's
name. `move?` is the one way to go from one position to another, and it never leaves the calendar.
-/
namespace Recurrence.Calendar

def secondsPerDay : Int := 86400

/-- The day a position lies in. -/
def dayOf (wall : Int) : Int := wall / 86400

/-- The first position of a day. -/
def midnight (day : Int) : Int := day * 86400

/-- The seconds since midnight. -/
def secondOfDay (wall : Int) : Nat := (wall % 86400).toNat

def hourOf (wall : Int) : Nat := secondOfDay wall / 3600
def minuteOf (wall : Int) : Nat := secondOfDay wall / 60 % 60
def secondOf (wall : Int) : Nat := secondOfDay wall % 60

/-- A time of day as seconds since midnight. -/
def timeOfDay (hour minute second : Nat) : Nat := 3600 * hour + 60 * minute + second

def firstSecond : Int := midnight firstDay
def lastSecond : Int := midnight lastDay + 86399

/-- Whether a position lies in the range of the calendar. -/
def Representable (wall : Int) : Prop := firstSecond ≤ wall ∧ wall ≤ lastSecond

instance (wall : Int) : Decidable (Representable wall) :=
  inferInstanceAs (Decidable (firstSecond ≤ wall ∧ wall ≤ lastSecond))

/-- The position some seconds away, unless that leaves the calendar. -/
def move? (wall seconds : Int) : Option Int :=
  if Representable (wall + seconds) then some (wall + seconds) else none

/-- The day some days away, unless that leaves the calendar. -/
def moveDay? (day days : Int) : Option Int :=
  if InCalendar (day + days) then some (day + days) else none

/-- The position of a date and a time of day, if both are real. -/
def wallOf? (year : Int) (month day hour minute second : Nat) : Option Int :=
  match dayOf? year month day with
  | some d =>
    if hour ≤ 23 ∧ minute ≤ 59 ∧ second ≤ 59 then
      some (midnight d + timeOfDay hour minute second)
    else none
  | none => none

/-- A time of day as HHMMSS. -/
def timeText (wall : Int) : String :=
  Text.paddedText 2 (hourOf wall) ++ Text.paddedText 2 (minuteOf wall) ++
    Text.paddedText 2 (secondOf wall)

/-- A position as YYYYMMDDTHHMMSS. -/
def wallText (wall : Int) : String := dateText (dayOf wall) ++ "T" ++ timeText wall

/-- A position as messages show it, such as 2026-01-01 09:00:00. -/
def readableText (wall : Int) : String :=
  let date := dateOf (dayOf wall)
  yearText date.year ++ "-" ++ Text.paddedText 2 date.month ++ "-" ++
    Text.paddedText 2 date.day ++ " " ++ Text.paddedText 2 (hourOf wall) ++ ":" ++
    Text.paddedText 2 (minuteOf wall) ++ ":" ++ Text.paddedText 2 (secondOf wall)

theorem midnight_dayOf_add (wall : Int) : midnight (dayOf wall) + secondOfDay wall = wall := by
  simp only [midnight, dayOf, secondOfDay]
  omega

@[simp] theorem dayOf_midnight_add (day : Int) (time : Nat) (h : time < 86400) :
    dayOf (midnight day + time) = day := by
  simp only [midnight, dayOf]
  omega

theorem move?_eq_some_iff {wall seconds target : Int} :
    move? wall seconds = some target ↔ target = wall + seconds ∧ Representable target := by
  unfold move?
  split
  · simp only [Option.some.injEq]
    constructor
    · rintro rfl; exact ⟨rfl, ‹_›⟩
    · rintro ⟨rfl, -⟩; rfl
  · simp only [reduceCtorEq, false_iff, not_and]
    rintro rfl
    assumption

end Recurrence.Calendar

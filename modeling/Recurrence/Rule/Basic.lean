import Recurrence.DateTime
import Recurrence.Calendar.Weekday
/-!
Recurrence rules as they are written: a frequency, an interval, an end, and lists that select or
multiply the instances of a step. Nothing is checked here.
-/
namespace Recurrence

/-- The unit a rule steps by, from the finest to the coarsest. -/
inductive Frequency where
  | secondly
  | minutely
  | hourly
  | daily
  | weekly
  | monthly
  | yearly
deriving DecidableEq, Inhabited

namespace Frequency

def text : Frequency → String
  | secondly => "SECONDLY"
  | minutely => "MINUTELY"
  | hourly => "HOURLY"
  | daily => "DAILY"
  | weekly => "WEEKLY"
  | monthly => "MONTHLY"
  | yearly => "YEARLY"

def all : List Frequency := [secondly, minutely, hourly, daily, weekly, monthly, yearly]

/-- Reads the name of a frequency in either case. -/
def read? (cs : List Char) : Option Frequency :=
  all.find? fun frequency => frequency.text.toList = Text.upper cs

/-- The seconds of a unit shorter than a day. -/
def unitSeconds? : Frequency → Option Nat
  | secondly => some 1
  | minutely => some 60
  | hourly => some 3600
  | daily | weekly | monthly | yearly => none

def isSubDaily (frequency : Frequency) : Bool := frequency.unitSeconds?.isSome

@[simp] theorem read?_text (frequency : Frequency) :
    read? frequency.text.toList = some frequency := by
  cases frequency <;> decide

end Frequency

/-- A weekday, or the one of a given place among its like in a month or year. -/
structure WeekdayNum where
  ordinal : Option Int
  weekday : Calendar.Weekday
deriving DecidableEq, Inhabited

def WeekdayNum.text (day : WeekdayNum) : String :=
  match day.ordinal with
  | some n => Text.intText n ++ day.weekday.text
  | none => day.weekday.text

/-- The last moment a rule may reach: a day, or a value with a time. -/
inductive Until where
  | date (day : Int)
  | dateTime (value : DateTime)
deriving DecidableEq, Inhabited

def Until.text : Until → String
  | date day => Calendar.dateText day
  | dateTime value => value.text

/-- The lists of a rule, each empty where the rule does not give it. -/
structure ByLists where
  seconds : List Nat
  minutes : List Nat
  hours : List Nat
  days : List WeekdayNum
  monthDays : List Int
  yearDays : List Int
  weekNumbers : List Int
  months : List Nat
  positions : List Int
deriving DecidableEq, Inhabited

def ByLists.empty : ByLists := ⟨[], [], [], [], [], [], [], [], []⟩

/-- A rule as written. -/
structure Rule where
  frequency : Option Frequency
  interval : Option UInt32
  endsAt : Option Until
  count : Option UInt32
  weekStart : Option Calendar.Weekday
  lists : ByLists
deriving DecidableEq, Inhabited

namespace Rule

def blank : Rule := ⟨none, none, none, none, none, .empty⟩

def ofFrequency (frequency : Frequency) : Rule := { blank with frequency := some frequency }

/-- Sets the number of instances, which replaces a last moment. -/
def withCount (rule : Rule) (count : UInt32) : Rule :=
  { rule with count := some count, endsAt := none }

/-- Sets the last moment, which replaces a number of instances. -/
def withUntil (rule : Rule) (endsAt : Until) : Rule :=
  { rule with endsAt := some endsAt, count := none }

/-- One part of a rule's text for a list, none for an empty one. -/
def listPart (name : String) (values : List String) : List String :=
  if values.isEmpty then [] else [name ++ "=" ++ ",".intercalate values]

/-- One part of a rule's text for a value that may be absent. -/
def part (name : String) (value : Option String) : List String :=
  match value with
  | some text => [name ++ "=" ++ text]
  | none => []

/-- The parts of a rule in the order in which they are written. An interval of one is left out. -/
def parts (rule : Rule) : List String :=
  part "FREQ" (rule.frequency.map Frequency.text) ++
  part "INTERVAL" ((rule.interval.filter (· ≠ 1)).map fun n => Text.natText n.toNat) ++
  part "UNTIL" (rule.endsAt.map Until.text) ++
  part "COUNT" (rule.count.map fun n => Text.natText n.toNat) ++
  part "WKST" (rule.weekStart.map Calendar.Weekday.text) ++
  listPart "BYSECOND" (rule.lists.seconds.map Text.natText) ++
  listPart "BYMINUTE" (rule.lists.minutes.map Text.natText) ++
  listPart "BYHOUR" (rule.lists.hours.map Text.natText) ++
  listPart "BYDAY" (rule.lists.days.map WeekdayNum.text) ++
  listPart "BYMONTHDAY" (rule.lists.monthDays.map Text.intText) ++
  listPart "BYYEARDAY" (rule.lists.yearDays.map Text.intText) ++
  listPart "BYWEEKNO" (rule.lists.weekNumbers.map Text.intText) ++
  listPart "BYMONTH" (rule.lists.months.map Text.natText) ++
  listPart "BYSETPOS" (rule.lists.positions.map Text.intText)

/-- A rule as its parts between semicolons. -/
def text (rule : Rule) : String := ";".intercalate rule.parts

end Rule
end Recurrence

import Recurrence.Text.Decimal
/-!
Durations of weeks, days, hours, minutes and seconds under one sign. Weeks and days are nominal:
they move the calendar date. Hours, minutes and seconds are exact: they move the instant.
-/
namespace Recurrence

structure Duration where
  negative : Bool
  weeks : UInt32
  days : UInt32
  hours : UInt32
  minutes : UInt32
  seconds : UInt32
deriving DecidableEq

namespace Duration

def zero : Duration := ⟨false, 0, 0, 0, 0, 0⟩

instance : Inhabited Duration := ⟨zero⟩

/-- Whether hours, minutes or seconds are set. -/
def hasTime (d : Duration) : Bool := d.hours != 0 || d.minutes != 0 || d.seconds != 0

def isWeekBased (d : Duration) : Bool := d.weeks != 0

def isZero (d : Duration) : Bool := d.weeks == 0 && d.days == 0 && !d.hasTime

/-- Whether a duration is below zero; a zero has no sign. -/
def isNegative (d : Duration) : Bool := d.negative && !d.isZero

def negate (d : Duration) : Duration := { d with negative := !d.negative }

/-- A magnitude under the sign of a duration. -/
def signed (d : Duration) (magnitude : Nat) : Int :=
  if d.negative then -(magnitude : Int) else magnitude

/-- The calendar days of a duration, of which a week has seven. -/
def nominalDays (d : Duration) : Int := d.signed (d.weeks.toNat * 7 + d.days.toNat)

/-- The seconds of the hour, minute and second parts. -/
def exactSeconds (d : Duration) : Int :=
  d.signed (d.hours.toNat * 3600 + d.minutes.toNat * 60 + d.seconds.toNat)

/-- The whole duration in seconds, with days of 24 hours. -/
def totalSeconds (d : Duration) : Int := d.nominalDays * 86400 + d.exactSeconds

/-- One component with its designator; a zero is left out. -/
def component (value : UInt32) (designator : String) : String :=
  if value = 0 then "" else Text.natText value.toNat ++ designator

/-- The hour, minute and second parts behind their mark, where one of them is set. -/
def timeText (d : Duration) : String :=
  if d.hasTime then
    "T" ++ component d.hours "H" ++ component d.minutes "M" ++ component d.seconds "S"
  else ""

/-- A duration in weeks where it has nothing else, and in days and times otherwise. -/
def text (d : Duration) : String :=
  let days := d.weeks.toNat * 7 + d.days.toNat
  (if d.isNegative then "-P" else "P") ++
    (if d.isWeekBased && d.days == 0 && !d.hasTime then Text.natText d.weeks.toNat ++ "W"
    else if days = 0 && !d.hasTime then "0D"
    else (if days = 0 then "" else Text.natText days ++ "D") ++ d.timeText)

@[simp] theorem negate_negate (d : Duration) : d.negate.negate = d := by
  simp [negate]

theorem totalSeconds_negate (d : Duration) : d.negate.totalSeconds = -d.totalSeconds := by
  cases hn : d.negative <;>
    simp [totalSeconds, nominalDays, exactSeconds, signed, negate, hn] <;> omega

end Duration
end Recurrence

import Recurrence.Calendar.WallClock
/-!
DATE and DATE-TIME values. A DATE is a day; a DATE-TIME is a wall clock reading in one of three
forms: floating, UTC, or local to a zone that is named and resolved only when needed.
-/
namespace Recurrence

/-- How a wall clock reading is tied to the timeline. -/
inductive Form where
  | floating
  | utc
  | zoned (tzid : String)
deriving DecidableEq, Inhabited

inductive DateTime where
  | date (day : Int)
  | time (wall : Int) (form : Form)
deriving DecidableEq, Inhabited

namespace DateTime

/-- The wall clock reading; a DATE reads as its midnight. -/
def wall : DateTime → Int
  | date day => Calendar.midnight day
  | time wall _ => wall

/-- The form; a DATE is floating. -/
def form : DateTime → Form
  | date _ => .floating
  | time _ form => form

def hasTime : DateTime → Bool
  | date _ => false
  | time _ _ => true

/-- The calendar day. -/
def day : DateTime → Int
  | date day => day
  | time wall _ => Calendar.dayOf wall

def isUtc (value : DateTime) : Bool := value.form = .utc

def isFloating (value : DateTime) : Bool := value.form = .floating

/-- The zone identifier of a zoned value. -/
def tzid? (value : DateTime) : Option String :=
  match value.form with
  | .zoned tzid => some tzid
  | _ => none

/-- A value in its written form, which leaves the zone identifier out. -/
def text : DateTime → String
  | date day => Calendar.dateText day
  | time wall .utc => Calendar.wallText wall ++ "Z"
  | time wall _ => Calendar.wallText wall

end DateTime
end Recurrence

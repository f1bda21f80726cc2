import Recurrence.DateTime
import Recurrence.Text.Blank
import Recurrence.Text.Fields
/-!
Names of the instances that an override replaces: one instance, or one and all later ones.
-/
namespace Recurrence

inductive RecurrenceRange where
  | thisInstance
  | thisAndFuture
deriving DecidableEq, Inhabited

/-- The written form, which is empty for a single instance. -/
def RecurrenceRange.text : RecurrenceRange → String
  | thisInstance => ""
  | thisAndFuture => "THISANDFUTURE"

/-- Reads a range in either case; any other text stands for a single instance. -/
def RecurrenceRange.read (s : String) : RecurrenceRange :=
  if Text.upper (Text.trim s.toList) = "THISANDFUTURE".toList then .thisAndFuture
  else .thisInstance

structure RecurrenceId where
  value : DateTime
  range : RecurrenceRange
deriving DecidableEq, Inhabited

namespace RecurrenceId

/-- The replaced instance, where it is the only one. -/
def single? (id : RecurrenceId) : Option DateTime :=
  match id.range with
  | .thisInstance => some id.value
  | .thisAndFuture => none

def text (id : RecurrenceId) : String :=
  match id.range with
  | .thisInstance => id.value.text
  | .thisAndFuture => s!"RANGE={id.range.text}:{id.value.text}"

end RecurrenceId
end Recurrence

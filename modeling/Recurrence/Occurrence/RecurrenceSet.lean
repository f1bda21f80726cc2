import Recurrence.Period
import Recurrence.RecurrenceId
import Recurrence.Rule.Pattern
/-!
What one calendar component says about its recurrence: a start, rules, and single occurrences, of
which some are taken away again.
-/
namespace Recurrence

structure RecurrenceSet where
  uid : String
  start : DateTime
  /-- How long generated occurrences last. -/
  duration : Duration
  rules : List Pattern
  /-- Rules whose instances are taken away. -/
  exclusionRules : List Pattern
  /-- Single occurrences; a start alone lasts as long as a generated one. -/
  added : List Period
  /-- Single starts that are taken away. -/
  excluded : List DateTime
  /-- The instance of another set with the same UID that this one replaces. -/
  replaces : Option RecurrenceId
  duration_ok : Period.durationError? start duration = none

namespace RecurrenceSet

/-- The set whose only occurrence is its start. -/
def single (uid : String) (start : DateTime) : RecurrenceSet :=
  ⟨uid, start, .zero, [], [], [], [], none, by cases start <;> rfl⟩

/-- The set whose generated occurrences last a duration. -/
def withDuration (set : RecurrenceSet) (duration : Duration) :
    Except InvalidValue RecurrenceSet :=
  match h : Period.durationError? set.start duration with
  | some error => .error error
  | none => .ok { set with duration, duration_ok := h }

end RecurrenceSet
end Recurrence

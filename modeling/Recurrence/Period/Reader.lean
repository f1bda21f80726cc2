import Recurrence.DateTime.Reader
import Recurrence.Duration.Reader
import Recurrence.Period
/-!
Reading periods: a start, a slash, and an end or a duration.
-/
namespace Recurrence.Period

/-- Whether what follows the slash begins as a duration does. -/
def beginsDuration : List Char → Bool
  | 'P' :: _ | '+' :: _ | '-' :: _ => true
  | _ => false

def read (s : String) (tzid : Option String) : Except ReadError Period := do
  match Text.cut? '/' s.toList with
  | none => throw ⟨.period, s, none⟩
  | some (startText, endText) =>
    let start ← DateTime.readTimed (String.ofList startText) tzid
    let rest := String.ofList endText
    let period ←
      if beginsDuration endText then
        pure (withDuration start (← Duration.read rest))
      else
        pure (withEnd start (← DateTime.readTimed rest tzid))
    period.mapError fun error => ⟨.period, s, some (.constraint error)⟩

/-- Reads an explicit occurrence: a period where a slash occurs, and a start alone otherwise. -/
def readEntry (s : String) (tzid : Option String) : Except ReadError Period :=
  if s.toList.contains '/' then read s tzid else (DateTime.read s tzid).map instant

/-- Reads explicit occurrences between commas, of which blanks are taken off at both ends. -/
def readList (s : String) (tzid : Option String) : Except ReadError (List Period) :=
  (Text.fields ',' s.toList).mapM fun part => readEntry (String.ofList (Text.trim part)) tzid

end Recurrence.Period

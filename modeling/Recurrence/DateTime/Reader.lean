import Recurrence.Error
/-!
Reading DATE and DATE-TIME text. A date is YYYYMMDD; a date-time adds T and HHMMSS, and a Z makes
it UTC. A leap second is read as the second before it.
-/
namespace Recurrence

/-- The day of eight digits that name a real date. -/
def readDay? : List Char → Option Int
  | [y1, y2, y3, y4, m1, m2, d1, d2] => do
    let year ← Text.readNat? [y1, y2, y3, y4]
    let month ← Text.readNat? [m1, m2]
    let day ← Text.readNat? [d1, d2]
    Calendar.dayOf? year month day
  | _ => none

/-- The time of day of six digits, in seconds; a second of 60 counts as 59. -/
def readTime? : List Char → Option Nat
  | [h1, h2, m1, m2, s1, s2] => do
    let hour ← Text.readNat? [h1, h2]
    let minute ← Text.readNat? [m1, m2]
    let second ← Text.readNat? [s1, s2]
    if hour ≤ 23 ∧ minute ≤ 59 ∧ second ≤ 60 then
      some (Calendar.timeOfDay hour minute (min second 59))
    else none
  | _ => none

namespace DateTime

def readDate (s : String) : Except ReadError Int :=
  match readDay? s.toList with
  | some day => .ok day
  | none => .error ⟨.date, s, none⟩

/-- A time of day in digits, and whether a Z follows it. -/
def cutUtcMark (cs : List Char) : List Char × Bool :=
  if cs.getLast? = some 'Z' then (cs.dropLast, true) else (cs, false)

/-- The form of a date-time without Z: local to a given zone, and floating without one. -/
def readForm? (tzid : Option String) : Option Form :=
  match tzid with
  | none => some .floating
  | some tzid =>
    let name := Text.trimmed tzid
    if name.isEmpty then none else some (.zoned name)

def readTimed (s : String) (tzid : Option String) : Except ReadError DateTime :=
  match Text.cut? 'T' s.toList with
  | none => .error ⟨.dateTime, s, none⟩
  | some (dateText, rest) =>
    match readDay? dateText with
    | none => .error ⟨.dateTime, s, none⟩
    | some day =>
      let (timeText, isUtc) := cutUtcMark rest
      match readTime? timeText with
      | none => .error ⟨.time, s, none⟩
      | some seconds =>
        let wall := Calendar.midnight day + seconds
        if isUtc then .ok (time wall .utc)
        else match readForm? tzid with
          | some form => .ok (time wall form)
          | none => .error ⟨.dateTime, s, some .blankZone⟩

/-- Reads a date-time where a T occurs in the text and a date otherwise. -/
def read (s : String) (tzid : Option String) : Except ReadError DateTime :=
  if s.toList.contains 'T' then readTimed s tzid else (readDate s).map .date

/-- Reads values between commas, of which blanks are taken off at both ends. -/
def readList (s : String) (tzid : Option String) : Except ReadError (List DateTime) :=
  (Text.fields ',' s.toList).mapM fun part => read (String.ofList (Text.trim part)) tzid

end DateTime
end Recurrence

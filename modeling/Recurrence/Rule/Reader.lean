import Recurrence.DateTime.Reader
import Recurrence.Rule.Pattern
/-!
Reading rules: parts of a key, an equals sign and a value, between semicolons. Keys are read in
either case, unknown ones are passed over, and the last of equal ones counts. A rule with a count
admits no last moment and the other way round.
-/
namespace Recurrence.Rule

/-- Reads the values between commas, of which blanks are taken off at both ends. -/
def readValues (read : List Char → Except ReadKind α) (cs : List Char) : Except ReadKind (List α) :=
  (Text.fields ',' cs).mapM fun part => read (Text.trim part)

/-- A value that is there, or a rule that cannot be read. -/
def orRule (value : Option α) : Except ReadKind α :=
  match value with
  | some a => .ok a
  | none => .error .rule

/-- Numbers below 256. -/
def readCounts : List Char → Except ReadKind (List Nat) :=
  readValues fun cs => orRule (Text.readUnsigned? 255 cs)

/-- Numbers of a magnitude around 128. -/
def readShortPlaces : List Char → Except ReadKind (List Int) :=
  readValues fun cs => orRule (Text.readSigned? (-128) 127 cs)

/-- Numbers of a magnitude around 32768. -/
def readLongPlaces : List Char → Except ReadKind (List Int) :=
  readValues fun cs => orRule (Text.readSigned? (-32768) 32767 cs)

/-- Reads a weekday of two letters behind an optional ordinal. -/
def readWeekdayNum (cs : List Char) : Except ReadKind WeekdayNum :=
  let ordinal := cs.take (cs.length - 2)
  match Calendar.Weekday.read? (cs.drop (cs.length - 2)) with
  | none => .error .weekday
  | some weekday =>
    if ordinal.isEmpty then .ok ⟨none, weekday⟩
    else (orRule (Text.readSigned? (-128) 127 ordinal)).map fun n => ⟨some n, weekday⟩

/-- Reads a last moment: a date-time where a T occurs, and a date otherwise. -/
def readUntil (cs : List Char) : Except ReadKind Until :=
  let s := String.ofList cs
  if cs.contains 'T' then
    ((DateTime.readTimed s none).mapError ReadError.kind).map .dateTime
  else ((DateTime.readDate s).mapError ReadError.kind).map .date

/-- The keys of a rule's parts. -/
inductive Key where
  | frequency
  | interval
  | count
  | endsAt
  | weekStart
  | seconds
  | minutes
  | hours
  | days
  | monthDays
  | yearDays
  | weekNumbers
  | months
  | positions
deriving DecidableEq

/-- Each key by its name. -/
def keys : List (String × Key) :=
  [("FREQ", .frequency), ("INTERVAL", .interval), ("COUNT", .count), ("UNTIL", .endsAt),
   ("WKST", .weekStart), ("BYSECOND", .seconds), ("BYMINUTE", .minutes), ("BYHOUR", .hours),
   ("BYDAY", .days), ("BYMONTHDAY", .monthDays), ("BYYEARDAY", .yearDays),
   ("BYWEEKNO", .weekNumbers), ("BYMONTH", .months), ("BYSETPOS", .positions)]

def Key.read? (cs : List Char) : Option Key :=
  (keys.find? fun entry => entry.1.toList = Text.upper cs).map (·.2)

/-- The rule with its lists changed. -/
def setLists (rule : Rule) (change : ByLists → ByLists) : Rule :=
  { rule with lists := change rule.lists }

/-- The rule with one more part read into it. -/
def readPart (rule : Rule) (key : Key) (value : List Char) : Except ReadKind Rule :=
  match key with
  | .frequency =>
    match Frequency.read? value with
    | some frequency => .ok { rule with frequency := some frequency }
    | none => .error .frequency
  | .interval => (orRule (Text.readWord? value)).map fun n => { rule with interval := some n }
  | .count =>
    if rule.endsAt.isSome then .error .untilWithCount
    else (orRule (Text.readWord? value)).map fun n => { rule with count := some n }
  | .endsAt =>
    if rule.count.isSome then .error .untilWithCount
    else (readUntil value).map fun last => { rule with endsAt := some last }
  | .weekStart =>
    match Calendar.Weekday.read? value with
    | some weekday => .ok { rule with weekStart := some weekday }
    | none => .error .weekday
  | .seconds => (readCounts value).map fun vs => rule.setLists ({ · with seconds := vs })
  | .minutes => (readCounts value).map fun vs => rule.setLists ({ · with minutes := vs })
  | .hours => (readCounts value).map fun vs => rule.setLists ({ · with hours := vs })
  | .days => (readValues readWeekdayNum value).map fun vs => rule.setLists ({ · with days := vs })
  | .monthDays => (readShortPlaces value).map fun vs => rule.setLists ({ · with monthDays := vs })
  | .yearDays => (readLongPlaces value).map fun vs => rule.setLists ({ · with yearDays := vs })
  | .weekNumbers =>
    (readShortPlaces value).map fun vs => rule.setLists ({ · with weekNumbers := vs })
  | .months => (readCounts value).map fun vs => rule.setLists ({ · with months := vs })
  | .positions => (readLongPlaces value).map fun vs => rule.setLists ({ · with positions := vs })

/-- The rule with one more piece of text, between semicolons, read into it. -/
def readPiece (rule : Rule) (piece : List Char) : Except ReadKind Rule :=
  match Text.cut? '=' piece with
  | none => .error .rule
  | some (name, value) =>
    match Key.read? name with
    | some key => rule.readPart key value
    | none => .ok rule

/-- The pieces of a rule's text, which may begin with the name of the property. -/
def pieces (cs : List Char) : List (List Char) :=
  let body := (Text.after? "RRULE:".toList cs).getD cs
  (Text.fields ';' body).filter (· ≠ [])

def read (s : String) : Except ReadError Rule :=
  ((pieces s.toList).foldlM readPiece blank).mapError fun kind => ⟨kind, s, none⟩

end Recurrence.Rule

namespace Recurrence.Pattern

/-- Reads a rule and checks it. -/
def read (s : String) : Except Failure Pattern := do
  orInvalid (ofRule (← orUnreadable (Rule.read s)))

end Recurrence.Pattern

import Recurrence.Error
/-!
Values from the fields of a date and a time of day, which have to be real.
-/
namespace Recurrence.DateTime

/-- The wall clock reading of some fields. -/
def readingOf (year : Int) (month day hour minute second : Nat) : Except InvalidValue Int :=
  match Calendar.wallOf? year month day hour minute second with
  | some wall => .ok wall
  | none => .error (.noSuchDateTime year month day hour minute second)

def ofDate (year : Int) (month day : Nat) : Except InvalidValue DateTime :=
  match Calendar.dayOf? year month day with
  | some day => .ok (.date day)
  | none => .error (.noSuchDate year month day)

def ofFloating (year : Int) (month day hour minute second : Nat) : Except InvalidValue DateTime :=
  (readingOf year month day hour minute second).map (.time · .floating)

def ofUtc (year : Int) (month day hour minute second : Nat) : Except InvalidValue DateTime :=
  (readingOf year month day hour minute second).map (.time · .utc)

/-- A zoned value. Its zone need not be known yet, but its identifier must not be blank. -/
def ofZoned (year : Int) (month day hour minute second : Nat) (tzid : String) :
    Except InvalidValue DateTime :=
  if (Text.trim tzid.toList).isEmpty then .error .blankZone
  else (readingOf year month day hour minute second).map (.time · (.zoned tzid))

end Recurrence.DateTime

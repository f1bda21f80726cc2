import Recurrence.Error
/-!
Reading UTC offsets: a sign, HHMM and optionally SS. A negative zero is refused.
-/
namespace Recurrence.Offset

/-- The sign of an offset's text, negative for a minus, and what follows it. -/
def cutSign? : List Char → Option (Bool × List Char)
  | '+' :: rest => some (false, rest)
  | '-' :: rest => some (true, rest)
  | _ => none

/-- The seconds that HHMM or HHMMSS stand for, with minutes and seconds below 60. -/
def readMagnitude? (cs : List Char) : Option Nat := do
  let (hour, minute, second) ← match cs with
    | [h1, h2, m1, m2] => some ([h1, h2], [m1, m2], ['0'])
    | [h1, h2, m1, m2, s1, s2] => some ([h1, h2], [m1, m2], [s1, s2])
    | _ => none
  let hour ← Text.readNat? hour
  let minute ← Text.readNat? minute
  let second ← Text.readNat? second
  if minute ≤ 59 ∧ second ≤ 59 then some (Calendar.timeOfDay hour minute second) else none

def read (s : String) : Except ReadError Offset :=
  match cutSign? s.toList with
  | none => .error ⟨.offset, s, none⟩
  | some (negative, rest) =>
    match readMagnitude? rest with
    | none => .error ⟨.offset, s, none⟩
    | some magnitude =>
      if negative && magnitude == 0 then .error ⟨.offset, s, some .negativeZero⟩
      else match ofSeconds? (if negative then -(magnitude : Int) else magnitude) with
        | some offset => .ok offset
        | none => .error ⟨.offset, s, none⟩

end Recurrence.Offset

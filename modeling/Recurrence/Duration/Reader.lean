import Recurrence.Error
/-!
Reading durations: an optional sign, P, weeks and days, and behind a T hours, minutes and seconds.
Each component is a number before its designator, and designators come from the longest unit to
the shortest.
-/
namespace Recurrence.Duration

/-- What has been read of a duration. -/
structure Reading where
  value : Duration
  /-- The digits since the last designator, last one first. -/
  pending : List Char
  inTime : Bool
  /-- The place of the last designator among W, D, H, M and S, counted from 1. -/
  rank : Nat

/-- A designator's place and the duration with its component set, if it may stand there. -/
def setComponent? (designator : Char) (inTime : Bool) (number : UInt32) (value : Duration) :
    Option (Nat × Duration) :=
  match designator, inTime with
  | 'W', false => some (1, { value with weeks := number })
  | 'D', false => some (2, { value with days := number })
  | 'H', true => some (3, { value with hours := number })
  | 'M', true => some (4, { value with minutes := number })
  | 'S', true => some (5, { value with seconds := number })
  | _, _ => none

/-- The reading after one more character, or what is wrong with it. -/
def Reading.next (reading : Reading) (c : Char) : Except (Option ReadDetail) Reading :=
  if c.isDigit then .ok { reading with pending := c :: reading.pending }
  else if c = 'T' then
    if reading.inTime || !reading.pending.isEmpty then .error none
    else .ok { reading with inTime := true }
  else
    match Text.readWord? reading.pending.reverse with
    | none => .error none
    | some number =>
      match setComponent? c reading.inTime number reading.value with
      | none => .error (some (.unexpectedDesignator c))
      | some (rank, value) =>
        if rank ≤ reading.rank then .error (some .designatorsOutOfOrder)
        else .ok { reading with value, rank, pending := [] }

/-- Whether a reading may end: nothing is pending, a component was read, and one behind T. -/
def Reading.isComplete (reading : Reading) : Bool :=
  reading.pending.isEmpty && reading.rank != 0 && (!reading.inTime || 3 ≤ reading.rank)

/-- The duration of the components behind P. -/
def readComponents (negative : Bool) (cs : List Char) : Except (Option ReadDetail) Duration := do
  let reading ← cs.foldlM Reading.next ⟨{ zero with negative }, [], false, 0⟩
  if reading.isComplete then return reading.value else throw none

/-- Whether the sign of a text is a minus, and what follows an optional sign. -/
def cutSign : List Char → Bool × List Char
  | '-' :: rest => (true, rest)
  | '+' :: rest => (false, rest)
  | cs => (false, cs)

def read (s : String) : Except ReadError Duration :=
  let (negative, rest) := cutSign s.toList
  let result := match rest with
    | 'P' :: body => readComponents negative body
    | _ => .error none
  result.mapError fun detail => ⟨.duration, s, detail⟩

end Recurrence.Duration

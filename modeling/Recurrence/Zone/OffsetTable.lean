import Recurrence.Zone.Conversion
/-!
Offsets as tables: the offset before the first change, and the changes in order of time.
-/
namespace Recurrence.Zone

structure OffsetTable where
  /-- Seconds from UTC before the first change. -/
  initial : Int
  /-- Each instant of a change with the seconds from UTC from then on. -/
  changes : List (Int × Int)

namespace OffsetTable

/-- A table without changes. -/
def constant (seconds : Int) : OffsetTable := ⟨seconds, []⟩

/-- An offset in seconds, UTC where it is a day or more. -/
def offsetOf (seconds : Int) : Offset := (Offset.ofSeconds? seconds).getD .utc

/-- The seconds in effect at an instant, by the last change not after it. -/
def secondsAt (current : Int) : List (Int × Int) → Int → Int
  | [], _ => current
  | (change, seconds) :: rest, instant =>
    if change ≤ instant then secondsAt seconds rest instant else current

/-- The offset in effect at an instant. -/
def offsetAt (table : OffsetTable) (instant : Int) : Offset :=
  offsetOf (secondsAt table.initial table.changes instant)

/-- All offsets of a table, each once. -/
def offsets (table : OffsetTable) : List Offset :=
  (table.initial :: table.changes.map (·.2)).eraseDups.map offsetOf

end OffsetTable
end Recurrence.Zone

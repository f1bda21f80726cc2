import Recurrence.Text.Decimal
/-!
Offsets of a local clock from UTC. An offset is shorter than a day, east of Greenwich positive.
-/
namespace Recurrence

structure Offset where
  seconds : Int
  within_day : -86400 < seconds ∧ seconds < 86400
deriving DecidableEq

namespace Offset

def utc : Offset := ⟨0, by decide⟩

instance : Inhabited Offset := ⟨utc⟩

/-- The offset of some seconds, if they are less than a day. -/
def ofSeconds? (seconds : Int) : Option Offset :=
  if h : -86400 < seconds ∧ seconds < 86400 then some ⟨seconds, h⟩ else none

/-- The offset of a sign and of hours and minutes, of which the minutes stay below 60. -/
def ofHoursMinutes? (negative : Bool) (hours minutes : Nat) : Option Offset :=
  if 59 < minutes then none
  else
    let magnitude : Int := hours * 3600 + minutes * 60
    ofSeconds? (if negative then -magnitude else magnitude)

/-- Whole hours, with the sign of the offset. -/
def hours (offset : Offset) : Int := offset.seconds.tdiv 3600

/-- Minutes past the whole hours, without sign. -/
def minutes (offset : Offset) : Nat := offset.seconds.natAbs % 3600 / 60

/-- The offset as a sign, HHMM, and SS where it is not 00. -/
def text (offset : Offset) : String :=
  let total := offset.seconds.natAbs
  let seconds := total % 60
  (if 0 ≤ offset.seconds then "+" else "-") ++ Text.paddedText 2 (total / 3600) ++
    Text.paddedText 2 (total % 3600 / 60) ++
    (if seconds = 0 then "" else Text.paddedText 2 seconds)

/-- The greater of two offsets, the second where they agree. -/
def max (a b : Offset) : Offset := if a.seconds ≤ b.seconds then b else a

theorem ofSeconds?_seconds (offset : Offset) : ofSeconds? offset.seconds = some offset := by
  simp [ofSeconds?, offset.within_day]

theorem ofSeconds?_eq_some_iff {seconds : Int} {offset : Offset} :
    ofSeconds? seconds = some offset ↔ offset.seconds = seconds := by
  constructor
  · unfold ofSeconds?
    split
    · rintro ⟨rfl⟩; rfl
    · simp
  · rintro rfl
    exact ofSeconds?_seconds offset

end Offset
end Recurrence

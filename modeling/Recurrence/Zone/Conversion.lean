import Recurrence.DateTime.Timeline
/-!
Conversions between a wall clock and UTC under an offset that changes in time. A reading that
occurs twice stands for its first instant; one that is skipped is read with the offset in effect
a day earlier, which moves it past the gap.
-/
namespace Recurrence.Zone
open Calendar

/-- A change of the offset in effect. -/
structure Transition where
  /-- The first instant of the offset after it. -/
  instant : Int
  before : Offset
  after : Offset
  name : Option String
deriving DecidableEq

/-- The instant of a reading under one offset. -/
def utcUnder (offset : Offset) (wall : Int) : Except ZoneError Int :=
  match move? wall (-offset.seconds) with
  | some instant => .ok instant
  | none => .error (.unrepresentableAt wall offset)

/-- The first instant that reads so under one of some offsets while that offset is in effect. -/
def firstInstant? (offsetAt : Int → Offset) (offsets : List Offset) (wall : Int) : Option Int :=
  (offsets.filterMap fun offset =>
    (move? wall (-offset.seconds)).filter fun instant => offsetAt instant = offset).min?

/-- The instant of a reading, for a clock whose offsets are all among the given ones. -/
def utcOf (offsetAt : Int → Offset) (offsets : List Offset) (wall : Int) : Except ZoneError Int :=
  match firstInstant? offsetAt offsets wall with
  | some instant => .ok instant
  | none =>
    match move? wall (-secondsPerDay) with
    | some before => utcUnder (offsetAt before) wall
    | none => .error (.unrepresentable wall)

/-- The reading of an instant; UTC itself where the reading would leave the calendar. -/
def localOf (offsetAt : Int → Offset) (instant : Int) : Int :=
  (move? instant (offsetAt instant).seconds).getD instant

/-- The first instant after `low` with another offset than `low` has, found by halving. -/
def changeBetween (offsetAt : Int → Offset) (offset : Offset) (low high : Int) : Int :=
  if 1 < high - low then
    let middle := low + (high - low) / 2
    if offsetAt middle = offset then changeBetween offsetAt offset middle high
    else changeBetween offsetAt offset low middle
  else high
termination_by (high - low).toNat

/-- The next probe: a day later, but not past `stop`. -/
def nextProbe (probe stop : Int) : Int :=
  match move? probe secondsPerDay with
  | some next => if next < stop then next else stop
  | none => stop

theorem lt_nextProbe {probe stop : Int} (h : probe < stop) : probe < nextProbe probe stop := by
  unfold nextProbe
  split
  · next hm =>
    obtain ⟨rfl, -⟩ := move?_eq_some_iff.1 hm
    unfold secondsPerDay
    split <;> omega
  · exact h

/-- The changes of an offset from `probe`, where `offset` holds, up to `stop`. The offset is probed
once a day, and a day on which it changes is halved down to the second. -/
def changesFrom (offsetAt : Int → Offset) (probe stop : Int) (offset : Offset) : List Transition :=
  if _ : probe < stop then
    let next := nextProbe probe stop
    let after := offsetAt next
    if after = offset then changesFrom offsetAt next stop offset
    else
      let change := changeBetween offsetAt offset probe next
      let later := changesFrom offsetAt next stop after
      if change < stop then ⟨change, offset, offsetAt change, none⟩ :: later else later
  else []
termination_by (stop - probe).toNat
decreasing_by
  all_goals
    have := lt_nextProbe ‹probe < stop›
    omega

/-- The changes of an offset from `start` up to `stop`. -/
def changes (offsetAt : Int → Offset) (start stop : Int) : List Transition :=
  changesFrom offsetAt start stop (offsetAt start)

end Recurrence.Zone

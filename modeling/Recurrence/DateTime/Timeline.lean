import Recurrence.Error
/-!
Values on the timeline. A clock converts between the wall clock of a zone and UTC; a reading of
zone identifiers gives the clock of each zone it knows. Zoned values are placed by their UTC
instant, floating values and dates by their wall clock taken as UTC.
-/
namespace Recurrence

/-- The two conversions of a time zone. -/
structure Clock where
  toUtc : (wall : Int) → Except ZoneError Int
  toLocal : (instant : Int) → Int

/-- The clocks that zone identifiers stand for. -/
abbrev Clocks := (tzid : String) → Except ZoneError Clock

/-- A place on the timeline. A DATE and a DATE-TIME never share one, not even at midnight. -/
structure TimelineKey where
  instant : Int
  hasTime : Bool
deriving DecidableEq, Inhabited

namespace TimelineKey

/-- A number by which places are ordered: by instant, and a DATE before a DATE-TIME. -/
def rank (key : TimelineKey) : Int := 2 * key.instant + if key.hasTime then 1 else 0

instance : LE TimelineKey := ⟨fun a b => a.rank ≤ b.rank⟩
instance : LT TimelineKey := ⟨fun a b => a.rank < b.rank⟩
instance (a b : TimelineKey) : Decidable (a ≤ b) := inferInstanceAs (Decidable (a.rank ≤ b.rank))
instance (a b : TimelineKey) : Decidable (a < b) := inferInstanceAs (Decidable (a.rank < b.rank))

theorem rank_inj {a b : TimelineKey} : a.rank = b.rank ↔ a = b := by
  obtain ⟨i, t⟩ := a
  obtain ⟨j, u⟩ := b
  constructor
  · intro h
    cases t <;> cases u <;> simp [rank] at h ⊢ <;> omega
  · rintro h
    rw [h]

theorem lt_iff (a b : TimelineKey) :
    a < b ↔ a.instant < b.instant ∨
      a.instant = b.instant ∧ a.hasTime = false ∧ b.hasTime = true := by
  obtain ⟨i, t⟩ := a
  obtain ⟨j, u⟩ := b
  change rank _ < rank _ ↔ _
  cases t <;> cases u <;> simp [rank] <;> omega

/-- The least of some keys. -/
def least? : List TimelineKey → Option TimelineKey
  | [] => none
  | key :: keys =>
    match least? keys with
    | some other => if key ≤ other then some key else some other
    | none => some key

end TimelineKey

namespace DateTime

/-- The clock of a zoned value, none for other values. -/
def clock? (clocks : Clocks) (value : DateTime) : Except ZoneError (Option Clock) :=
  match value.form with
  | .zoned tzid => (clocks tzid).map some
  | _ => .ok none

/-- The place of a value whose zone's clock is at hand. -/
def keyBy (clock : Option Clock) : DateTime → Except ZoneError TimelineKey
  | date day => .ok ⟨Calendar.midnight day, false⟩
  | time wall form =>
    match form, clock with
    | .zoned _, some clock => (clock.toUtc wall).map (⟨·, true⟩)
    | _, _ => .ok ⟨wall, true⟩

/-- The place of a value on the timeline. -/
def key (clocks : Clocks) (value : DateTime) : Except ZoneError TimelineKey := do
  value.keyBy (← value.clock? clocks)

/-- The UTC instant of a value. -/
def toUtc (clocks : Clocks) (value : DateTime) : Except ZoneError Int :=
  (value.key clocks).map TimelineKey.instant

/-- The value at the same instant on the clock of another zone. A DATE stays as it is. -/
def inZone (clocks : Clocks) (tzid : String) (value : DateTime) : Except ZoneError DateTime :=
  match value with
  | date _ => .ok value
  | time _ _ => do
    let instant ← value.toUtc clocks
    let clock ← clocks tzid
    return time (clock.toLocal instant) (.zoned tzid)

/-- The order of two values, or nothing for a DATE against a DATE-TIME. Where one of them floats
their wall clocks decide, otherwise their instants. -/
def compare? (clocks : Clocks) (left right : DateTime) : Except ZoneError (Option Ordering) :=
  if left.hasTime ≠ right.hasTime then .ok none
  else if left.isFloating || right.isFloating then .ok (some (compare left.wall right.wall))
  else do
    let l ← left.toUtc clocks
    let r ← right.toUtc clocks
    return some (compare l r)

/-- The order of two values, which a DATE and a DATE-TIME do not have. -/
def compareStrictly (clocks : Clocks) (left right : DateTime) : Except ZoneError Ordering := do
  match ← compare? clocks left right with
  | some order => return order
  | none => throw (.incomparable left right)

/-- The sum of a value and a duration by a clock at hand. Days move the wall clock; hours, minutes
and seconds move the instant where a zone has one. A time added to a DATE makes a DATE-TIME. -/
def addBy (clock : Option Clock) (value : DateTime) (duration : Duration) :
    Except Failure DateTime :=
  let outOfRange : Except Failure Int := .error (.invalid (.sumOutOfRange value duration))
  let move := fun (start seconds : Int) =>
    match Calendar.move? start seconds with
    | some target => Except.ok target
    | none => outOfRange
  do
    let wall ← move value.wall (duration.nominalDays * 86400)
    match value with
    | date _ =>
      let wall ← move wall duration.exactSeconds
      return if duration.hasTime then time wall .floating else date (Calendar.dayOf wall)
    | time _ form =>
      match form, clock with
      | .zoned _, some clock =>
        let instant ← orZone (clock.toUtc wall)
        let shifted ← move instant duration.exactSeconds
        return time (clock.toLocal shifted) form
      | _, _ => return time (← move wall duration.exactSeconds) form

/-- The sum of a value and a duration, in the form of the value. -/
def add (clocks : Clocks) (value : DateTime) (duration : Duration) : Except Failure DateTime := do
  value.addBy (← orZone (value.clock? clocks)) duration

end DateTime
end Recurrence

import Recurrence.Calendar.WallClock
/-!
Positions on a clock that may lie between whole seconds. Zones and rules produce whole seconds
only, but the moments between which they are asked for need not be such. A whole second is
compared with a moment by the second that the moment lies in, or by the first one not before it.
-/
namespace Recurrence.Calendar

structure Moment where
  second : Int
  /-- The nanoseconds since that second. -/
  nanosecond : Fin 1000000000
deriving DecidableEq

namespace Moment

def ofSecond (second : Int) : Moment := ⟨second, 0⟩

instance : Coe Int Moment := ⟨ofSecond⟩

instance : LE Moment where
  le one other := one.second < other.second ∨
    one.second = other.second ∧ one.nanosecond ≤ other.nanosecond

instance : LT Moment where
  lt one other := one.second < other.second ∨
    one.second = other.second ∧ one.nanosecond < other.nanosecond

instance (one other : Moment) : Decidable (one ≤ other) :=
  inferInstanceAs (Decidable (one.second < other.second ∨
    one.second = other.second ∧ one.nanosecond ≤ other.nanosecond))

instance (one other : Moment) : Decidable (one < other) :=
  inferInstanceAs (Decidable (one.second < other.second ∨
    one.second = other.second ∧ one.nanosecond < other.nanosecond))

def IsWhole (moment : Moment) : Prop := moment.nanosecond = 0

instance (moment : Moment) : Decidable moment.IsWhole :=
  inferInstanceAs (Decidable (moment.nanosecond = 0))

/-- The first whole second that is not before a moment. -/
def ceiling (moment : Moment) : Int :=
  if moment.IsWhole then moment.second else moment.second + 1

/-- The moment some seconds later. -/
def add (moment : Moment) (seconds : Int) : Moment :=
  ⟨moment.second + seconds, moment.nanosecond⟩

/-- The moment some seconds away, unless that leaves the calendar. -/
def move? (moment : Moment) (seconds : Int) : Option Moment :=
  if Representable (moment.second + seconds) then some (moment.add seconds) else none

@[simp] theorem second_ofSecond (second : Int) : (ofSecond second).second = second := rfl

@[simp] theorem ceiling_ofSecond (second : Int) : (ofSecond second).ceiling = second := rfl

@[simp] theorem second_add (moment : Moment) (seconds : Int) :
    (moment.add seconds).second = moment.second + seconds := rfl

@[simp] theorem ceiling_add (moment : Moment) (seconds : Int) :
    (moment.add seconds).ceiling = moment.ceiling + seconds := by
  unfold ceiling
  change (if moment.IsWhole then _ else _) = _
  simp only [second_add]
  split <;> omega

theorem ceiling_bounds (moment : Moment) :
    moment.second ≤ moment.ceiling ∧ moment.ceiling ≤ moment.second + 1 := by
  unfold ceiling
  split <;> omega

theorem ceiling_eq_second {moment : Moment} (h : moment.IsWhole) :
    moment.ceiling = moment.second :=
  if_pos h

theorem ceiling_eq_succ {moment : Moment} (h : ¬ moment.IsWhole) :
    moment.ceiling = moment.second + 1 :=
  if_neg h

@[simp] theorem ofSecond_le_iff {second : Int} {moment : Moment} :
    ofSecond second ≤ moment ↔ second ≤ moment.second := by
  change second < moment.second ∨ second = moment.second ∧ 0 ≤ moment.nanosecond ↔ _
  have := Fin.zero_le moment.nanosecond
  omega

@[simp] theorem le_ofSecond_iff {second : Int} {moment : Moment} :
    moment ≤ ofSecond second ↔ moment.ceiling ≤ second := by
  change moment.second < second ∨ moment.second = second ∧ moment.nanosecond ≤ 0 ↔ _
  by_cases h : moment.IsWhole
  · rw [ceiling_eq_second h]
    unfold IsWhole at h
    omega
  · rw [ceiling_eq_succ h]
    unfold IsWhole at h
    omega

@[simp] theorem ofSecond_lt_iff {second : Int} {moment : Moment} :
    ofSecond second < moment ↔ second < moment.ceiling := by
  rw [← Int.not_le, ← le_ofSecond_iff]
  change second < moment.second ∨ second = moment.second ∧ 0 < moment.nanosecond ↔
    ¬ (moment.second < second ∨ moment.second = second ∧ moment.nanosecond ≤ 0)
  omega

end Moment
end Recurrence.Calendar

import Mathlib
import Recurrence.Proofs.Calendar.Unit
import Recurrence.Rule.Run

/-! The units a rule steps by. Units follow each other without gaps, so one
number per reading says which unit holds it, and `le_unitOf_iff` ties that
number to the readings at which units begin. Step `k` is the unit whose number
is `k` intervals. -/
namespace Recurrence
open Calendar

/-- Whether a value lies in the calendar, as every date and reading does. -/
def DateTime.InCalendar (value : DateTime) : Prop := Representable value.wall

instance (value : DateTime) : Decidable value.InCalendar :=
  inferInstanceAs (Decidable (Representable value.wall))

namespace Calendar

theorem midnight_lt_iff {a b : Int} : midnight a < midnight b ↔ a < b := by
  unfold midnight
  omega

theorem midnight_le_iff {day wall : Int} : midnight day ≤ wall ↔ day ≤ dayOf wall := by
  unfold midnight dayOf
  omega

theorem lt_midnight_iff {day wall : Int} : wall < midnight day ↔ dayOf wall < day := by
  unfold midnight dayOf
  omega

theorem representable_midnight_iff {day : Int} :
    Representable (midnight day) ↔ InCalendar day := by
  unfold Representable InCalendar firstSecond lastSecond midnight
  omega

theorem Representable.inCalendar {wall : Int} (h : Representable wall) :
    InCalendar (dayOf wall) := by
  unfold Representable firstSecond lastSecond midnight at h
  unfold InCalendar dayOf
  omega

theorem dayOf_mono {a b : Int} (h : a ≤ b) : dayOf a ≤ dayOf b := by
  unfold dayOf
  omega

@[simp] theorem dayOf_midnight (day : Int) : dayOf (midnight day) = day := by
  unfold dayOf midnight
  omega

theorem yearStart_mem_iff {year : Int} :
    InCalendar (yearStart year) ↔ firstYear ≤ year ∧ year ≤ lastYear := by
  unfold InCalendar
  rw [firstDay_eq, lastDay_eq, yearStart_le_iff, Int.le_sub_one_iff, yearStart_lt_iff,
    Int.lt_add_one_iff]

theorem monthStart_mem_iff {index : Int} :
    InCalendar (monthStart index) ↔ firstYear ≤ index / 12 ∧ index / 12 ≤ lastYear := by
  have h1 : monthStart (12 * firstYear) = firstDay := by decide
  have h2 : monthStart (12 * (lastYear + 1)) = lastDay + 1 := by decide
  have hf : firstYear = -262143 := rfl
  have hl : lastYear = 262142 := rfl
  unfold InCalendar
  -- The calendar begins and ends with whole years, and so with months.
  constructor
  · rintro ⟨ha, hb⟩
    constructor
    · by_contra hlt
      have := monthStart_lt_of_lt (show index < 12 * firstYear by omega)
      omega
    · by_contra hgt
      have := monthStart_le_of_le (show 12 * (lastYear + 1) ≤ index by omega)
      omega
  · rintro ⟨ha, hb⟩
    have h3 := monthStart_le_of_le (show 12 * firstYear ≤ index by omega)
    have h4 := monthStart_lt_of_lt (show index < 12 * (lastYear + 1) by omega)
    omega

end Calendar

namespace DateTime

theorem dayOf_wall (value : DateTime) : dayOf value.wall = value.day := by
  cases value with
  | date day => exact dayOf_midnight day
  | time wall form => rfl

end DateTime

namespace Plan

/-- The number of units from the anchor's to the one that holds a reading. -/
def unitOf (plan : Plan) (wall : Int) : Int :=
  match plan.frequency with
  | .yearly => yearOf (dayOf wall) - yearOf plan.anchor.day
  | .monthly => monthIndex (dateOf (dayOf wall)) - monthIndex (dateOf plan.anchor.day)
  | .weekly => (dayOf wall - plan.firstWeek) / 7
  | .daily => dayOf wall - plan.anchor.day
  | .hourly => (wall - plan.base 3600) / 3600
  | .minutely => (wall - plan.base 60) / 60
  | .secondly => wall - plan.base 1

/-- The first reading of a unit by its number. -/
def unitStart (plan : Plan) (unit : Int) : Int :=
  match plan.frequency with
  | .yearly => midnight (yearStart (yearOf plan.anchor.day + unit))
  | .monthly => midnight (monthStart (monthIndex (dateOf plan.anchor.day) + unit))
  | .weekly => midnight (plan.firstWeek + unit * 7)
  | .daily => midnight (plan.anchor.day + unit)
  | .hourly => plan.base 3600 + unit * 3600
  | .minutely => plan.base 60 + unit * 60
  | .secondly => plan.base 1 + unit

theorem le_unitOf_iff {plan : Plan} {unit wall : Int} :
    unit ≤ plan.unitOf wall ↔ plan.unitStart unit ≤ wall := by
  unfold unitOf unitStart
  cases plan.frequency with
  | secondly => dsimp only; omega
  | minutely => dsimp only; omega
  | hourly => dsimp only; omega
  | daily => dsimp only; rw [midnight_le_iff]; omega
  | weekly => dsimp only; rw [midnight_le_iff]; omega
  | monthly =>
    dsimp only
    rw [midnight_le_iff]
    have h1 := monthStart_monthIndex_le (dayOf wall)
    have h2 := lt_monthStart_monthIndex_succ (dayOf wall)
    constructor
    · intro h
      exact (monthStart_le_of_le (by omega)).trans h1
    · intro h
      by_contra hlt
      have := monthStart_le_of_le (show monthIndex (dateOf (dayOf wall)) + 1 ≤
        monthIndex (dateOf plan.anchor.day) + unit by omega)
      omega
  | yearly =>
    dsimp only
    rw [midnight_le_iff]
    have h1 := yearStart_yearOf_le (dayOf wall)
    have h2 := lt_yearStart_yearOf_succ (dayOf wall)
    constructor
    · intro h
      exact (yearStart_le_iff.2 (by omega)).trans h1
    · intro h
      have := yearStart_lt_iff.1 (h.trans_lt h2)
      omega

theorem unitOf_lt_iff {plan : Plan} {unit wall : Int} :
    plan.unitOf wall < unit ↔ wall < plan.unitStart unit := by
  rw [← not_le, le_unitOf_iff, not_le]

theorem unitOf_mono (plan : Plan) {a b : Int} (h : a ≤ b) : plan.unitOf a ≤ plan.unitOf b :=
  le_unitOf_iff.2 ((le_unitOf_iff.1 le_rfl).trans h)

theorem lt_of_unitOf_lt {plan : Plan} {a b : Int} (h : plan.unitOf a < plan.unitOf b) : a < b := by
  by_contra hle
  have := plan.unitOf_mono (not_lt.1 hle)
  omega

theorem unitOf_eq_iff {plan : Plan} {unit wall : Int} : plan.unitOf wall = unit ↔
    plan.unitStart unit ≤ wall ∧ wall < plan.unitStart (unit + 1) := by
  rw [← le_unitOf_iff, ← unitOf_lt_iff]
  omega

theorem unitStart_lt_succ (plan : Plan) (unit : Int) :
    plan.unitStart unit < plan.unitStart (unit + 1) := by
  unfold unitStart
  cases plan.frequency with
  | secondly => dsimp only; omega
  | minutely => dsimp only; omega
  | hourly => dsimp only; omega
  | daily => exact midnight_lt_iff.2 (by omega)
  | weekly => exact midnight_lt_iff.2 (by omega)
  | monthly => exact midnight_lt_iff.2 (monthStart_lt_of_lt (by omega))
  | yearly => exact midnight_lt_iff.2 (yearStart_lt_iff.2 (by omega))

@[simp] theorem unitOf_unitStart (plan : Plan) (unit : Int) :
    plan.unitOf (plan.unitStart unit) = unit :=
  unitOf_eq_iff.2 ⟨le_rfl, plan.unitStart_lt_succ unit⟩

theorem unitStart_le_iff {plan : Plan} {a b : Int} :
    plan.unitStart a ≤ plan.unitStart b ↔ a ≤ b := by
  rw [← le_unitOf_iff, unitOf_unitStart]

theorem unitStart_lt_iff {plan : Plan} {a b : Int} :
    plan.unitStart a < plan.unitStart b ↔ a < b := by
  rw [← unitOf_lt_iff, unitOf_unitStart]

theorem unitStart_add_le (plan : Plan) {a b : Int} (h : a ≤ b) :
    plan.unitStart a + (b - a) ≤ plan.unitStart b := by
  induction b, h using Int.leInduction with
  | base => omega
  | succ b hle ih =>
    have := plan.unitStart_lt_succ b
    omega

/-- Between two readings there are no more units than seconds, and the one left begun. -/
theorem unitOf_le_add (plan : Plan) {a b : Int} (h : a ≤ b) :
    plan.unitOf b ≤ plan.unitOf a + (b - a) + 1 := by
  by_contra hlt
  have hb := le_unitOf_iff.1 (le_refl (plan.unitOf b))
  have ha := unitOf_lt_iff.1 (Int.lt_add_one_iff.2 (le_refl (plan.unitOf a)))
  have := plan.unitStart_add_le (show plan.unitOf a + 1 ≤ plan.unitOf b by omega)
  omega

theorem stepContaining_eq (plan : Plan) (target : Int) :
    plan.stepContaining target = (plan.unitOf target / plan.interval).toNat := by
  unfold stepContaining unitOf
  cases plan.frequency <;> rfl

theorem interval_pos (plan : Plan) : 0 < plan.interval := plan.pattern.interval_pos

/-- The number of the unit that is a step. -/
abbrev number (plan : Plan) (step : Nat) : Int := step * plan.interval

/-- The first reading of a step, whether in the calendar or not. -/
abbrev stepStart (plan : Plan) (step : Nat) : Int := plan.unitStart (plan.number step)

theorem number_lt_iff {plan : Plan} {i j : Nat} : plan.number i < plan.number j ↔ i < j := by
  unfold number
  rw [Int.mul_lt_mul_right (by exact_mod_cast plan.interval_pos)]
  exact Int.ofNat_lt

theorem number_le_iff {plan : Plan} {i j : Nat} : plan.number i ≤ plan.number j ↔ i ≤ j := by
  rw [← not_lt, number_lt_iff, not_lt]

theorem stepStart_lt_iff {plan : Plan} {i j : Nat} :
    plan.stepStart i < plan.stepStart j ↔ i < j := by
  rw [unitStart_lt_iff, number_lt_iff]

theorem stepStart_le_iff {plan : Plan} {i j : Nat} :
    plan.stepStart i ≤ plan.stepStart j ↔ i ≤ j := by
  rw [unitStart_le_iff, number_le_iff]

theorem stepStart_stepContaining_le {plan : Plan} {target : Int}
    (h : plan.stepContaining target ≠ 0) :
    plan.stepStart (plan.stepContaining target) ≤ target := by
  apply le_unitOf_iff.1
  rw [stepContaining_eq] at h ⊢
  have hpos : (0 : Int) < plan.interval := by exact_mod_cast plan.interval_pos
  have hmul := Int.ediv_mul_le (plan.unitOf target) hpos.ne'
  unfold number
  rw [Int.toNat_of_nonneg (by omega)]
  exact hmul

theorem unitOf_anchor (plan : Plan) : plan.unitOf plan.anchor.wall = 0 := by
  unfold unitOf
  rw [DateTime.dayOf_wall]
  cases plan.frequency with
  | secondly => simp only [base]; omega
  | minutely => simp only [base]; omega
  | hourly => simp only [base]; omega
  | daily => exact Int.sub_self _
  | weekly =>
    have hle := weekStart_le plan.pattern.weekStart plan.anchor.day
    have hlt := lt_weekStart_add plan.pattern.weekStart plan.anchor.day
    simp only [firstWeek]
    split <;> omega
  | monthly => exact Int.sub_self _
  | yearly => exact Int.sub_self _

theorem eq_zero_of_stepStart_le {plan : Plan} {step : Nat}
    (h : plan.stepStart step ≤ plan.anchor.wall) : step = 0 := by
  have hunit := le_unitOf_iff.2 h
  rw [unitOf_anchor] at hunit
  have hle : plan.number step ≤ plan.number 0 := by simpa [number] using hunit
  exact Nat.le_zero.1 (number_le_iff.1 hle)

end Plan
end Recurrence

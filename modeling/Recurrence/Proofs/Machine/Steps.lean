import Mathlib
import Recurrence.Proofs.Machine.Numbers
import Recurrence.Proofs.Rule.Reach

/-! The steps of a plan on machine numbers. Each function is written operation by operation,
plain where the program does not check and checked where it does. From an anchor in the
calendar none fails, and all come to what they come to on numbers without bounds, for
intervals have 32 bits. -/
namespace Recurrence
open Calendar

namespace Machine

section Functions

variable (plan : Plan)

/-- The reading at which a step of a unit shorter than a day begins. Every operation is
checked. -/
def unitAt? (unit step : Nat) : Option Int := do
  let length ← int64? (plan.interval * unit)
  let steps ← int64? step
  let seconds ← int64? (steps * length)
  if IsSpan seconds then move? (plan.base unit) seconds else none

/-- The units from the anchor's to a step of days. -/
def units? (step : Nat) : Option Int := do
  let steps ← int64? step
  int64? (steps * plan.interval)

/-- The first day and the length of a step of days. Only the months from year 0 to the
anchor are counted by plain operations. -/
def span (step : Nat) : Except Fault (Option (Int × Nat)) :=
  match units? plan step with
  | none => .ok none
  | some units =>
    let date := dateOf plan.anchor.day
    match plan.frequency with
    | .yearly => return do
      let year ← int64? (date.year + units)
      if firstYear ≤ year ∧ year ≤ lastYear then
        some (yearStart year, (yearLength year).toNat)
      else none
    | .monthly => do
      let months ← int64 (date.year * 12)
      let first ← int64 (months + (date.month - 1))
      return do
        let index ← int64? (first + units)
        let year := index / 12
        let month := (index % 12).toNat + 1
        if firstYear ≤ year ∧ year ≤ lastYear then
          some (yearStart year + daysBefore year month, monthLength year month)
        else none
    | .weekly => return do
      let days ← int64? (units * 7)
      if InCalendar (plan.firstWeek + days) then some (plan.firstWeek + days, 7) else none
    | .daily => return (
      if InCalendar (plan.anchor.day + units) then some (plan.anchor.day + units, 1) else none)
    | .hourly | .minutely | .secondly => return none

/-- The reading at which a step begins. -/
def start (step : Nat) : Except Fault (Option Int) :=
  match plan.frequency.unitSeconds? with
  | some unit => .ok (unitAt? plan unit step)
  | none => (span plan step).map fun span? => span?.map fun (start, _) => midnight start

/-- The first step of some seconds that does not begin before a reading, and after the
step at hand. -/
def stepAt (unit step : Nat) (length target : Int) : Except Fault Nat := do
  let seconds ← elapsed (plan.base unit) target
  let sum ← int64 (seconds + length)
  let last ← int64 (sum - 1)
  let next ← quotient last length
  return max next.toNat (stepAfter step)

/-- What a step of a unit shorter than a day comes to. -/
def evaluateUnit (unit step : Nat) : Except Fault Step := do
  let length ← int64 (plan.interval * unit)
  match unitAt? plan unit step with
  | none => return .exhausted
  | some wall =>
    if plan.isPastStop wall then return .exhausted
    else
      match plan.miss? wall with
      | some (target, byDay) =>
        if Representable target then
          return .leap byDay (← stepAt plan unit step length target)
        else return .exhausted
      | none => return .candidates (Plan.select plan.pattern.lists.positions (plan.offered step))

/-- What a step of days comes to. -/
def evaluateDays (step : Nat) : Except Fault Step := do
  match ← span plan step with
  | none => return .exhausted
  | some (start, length) =>
    if plan.isPastStop (midnight start) then return .exhausted
    else
      let days := (Plan.daysOf start length).filter plan.filter.accepts
      return .candidates <| Plan.select plan.pattern.lists.positions <|
        days.flatMap fun day => plan.times.map fun (time : Nat) => midnight day + (time : Int)

def evaluate (step : Nat) : Except Fault Step :=
  match plan.frequency.unitSeconds? with
  | some unit => evaluateUnit plan unit step
  | none => evaluateDays plan step

/-- The number of units from the anchor's to the one that holds a reading. -/
def unitOf (target : Int) : Except Fault Int :=
  let anchor := dateOf plan.anchor.day
  let date := dateOf (dayOf target)
  match plan.frequency with
  | .yearly => int64 (date.year - anchor.year)
  | .monthly => do
    let years ← int64 (date.year - anchor.year)
    let months ← int64 (years * 12)
    let later ← int64 (months + (date.month - 1))
    int64 (later - (anchor.month - 1))
  | .weekly => do
    let days ← daysBetween plan.firstWeek (dayOf target)
    quotient days 7
  | .daily => daysBetween plan.anchor.day (dayOf target)
  | .hourly => do
    let seconds ← elapsed (plan.base 3600) target
    quotient seconds 3600
  | .minutely => do
    let seconds ← elapsed (plan.base 60) target
    quotient seconds 60
  | .secondly => do
    let seconds ← elapsed (plan.base 1) target
    quotient seconds 1

/-- The step whose unit holds a reading, or the first one for a reading before the
anchor. -/
def stepContaining (target : Int) : Except Fault Nat := do
  let units ← unitOf plan target
  let steps ← quotient units plan.interval
  return steps.toNat

end Functions

theorem unit_le {frequency : Frequency} {unit : Nat} (h : frequency.unitSeconds? = some unit) :
    unit ≤ 3600 := by
  cases frequency <;> simp only [Frequency.unitSeconds?, Option.some.injEq, reduceCtorEq] at h <;>
    omega

theorem interval_lt (plan : Plan) : plan.interval < 4294967296 := plan.pattern.interval.toNat_lt

variable {plan : Plan} {unit step : Nat} {target : Int}

section Unit

variable (hunit : plan.frequency.unitSeconds? = some unit)
include hunit

theorem stepSeconds_lt : plan.stepSeconds unit < 17592186044416 := by
  have hle := Nat.mul_le_mul (interval_lt plan).le (unit_le hunit)
  exact hle.trans_lt (by decide)

theorem fitsInt64_stepSeconds : FitsInt64 (plan.interval * unit) := by
  rw [← Nat.cast_mul, fitsInt64_natCast_iff]
  exact (stepSeconds_lt hunit).trans (by decide)

variable (hC : plan.Canonical)
include hC

theorem unitAt?_eq (step : Nat) : unitAt? plan unit step = plan.unitAt? unit step := by
  unfold unitAt?
  rw [int64?_eq (fitsInt64_stepSeconds hunit), Option.bind_eq_bind, Option.bind_some,
    Plan.unitAt?, ← Nat.cast_mul, ← Nat.cast_mul]
  exact move?_product (hC.base_mem hunit) (Plan.stepSeconds_pos hunit) step

theorem stepAt_eq (hstep : step ≤ stepLimit) (ht : Representable target) :
    stepAt plan unit step (plan.stepSeconds unit) target = .ok (plan.stepAt unit step target) := by
  have hbase := hC.base_mem hunit
  have hlength := stepSeconds_lt hunit
  have hpos := Plan.stepSeconds_pos hunit
  unfold stepAt
  rw [elapsed_eq hbase ht, ok_bind]
  unfold Representable firstSecond lastSecond midnight firstDay lastDay at ht hbase
  rw [int64_eq (by unfold FitsInt64; omega), ok_bind, int64_eq (by unfold FitsInt64; omega),
    ok_bind, quotient_eq (by omega) (by omega), ok_bind, stepAfter_eq hstep]
  rfl

theorem evaluateUnit_eq (hstep : step ≤ stepLimit) :
    evaluateUnit plan unit step = .ok (plan.evaluate step) := by
  unfold evaluateUnit
  rw [int64_eq (fitsInt64_stepSeconds hunit), ok_bind, unitAt?_eq hunit hC, Plan.evaluate_eq,
    Plan.unitAt?_eq hunit]
  by_cases hr : Representable (plan.stepStart step)
  · rw [if_pos hr, if_neg (not_not.2 hr)]
    dsimp only
    split
    · rfl
    · cases plan.miss? (plan.stepStart step) with
      | none => rfl
      | some miss =>
        obtain ⟨target, byDay⟩ := miss
        dsimp only
        by_cases ht : Representable target
        · rw [if_pos ht, if_neg (not_not.2 ht), ← Nat.cast_mul, ← Plan.stepSeconds,
            stepAt_eq hunit hC hstep ht, ok_bind, Plan.stepFrom, hunit]
          rfl
        · rw [if_neg ht, if_pos ht]
          rfl
  · rw [if_neg hr, if_pos hr]
    rfl

theorem elapsed_base_eq (ht : Representable target) :
    (do
      let seconds ← elapsed (plan.base unit) target
      quotient seconds unit) = .ok ((target - plan.base unit) / unit) := by
  have hbase := hC.base_mem hunit
  have hpos : unit ≠ 0 := by
    rintro rfl
    exact (Plan.stepSeconds_pos hunit).ne' (Nat.mul_zero _)
  rw [elapsed_eq hbase ht, ok_bind]
  unfold Representable firstSecond lastSecond midnight firstDay lastDay at hbase ht
  exact quotient_eq (by omega) (by exact_mod_cast hpos)

end Unit

theorem units?_eq (plan : Plan) (step : Nat) :
    units? plan step = int64? (step * plan.interval : Nat) := by
  have hstep : step ≤ step * plan.interval := Nat.le_mul_of_pos_right step plan.interval_pos
  rw [units?, Option.bind_eq_bind, int64?_bind, Nat.cast_mul]
  intro hlong
  rw [← Nat.cast_mul]
  refine if_neg ?_
  rw [fitsInt64_natCast_iff] at hlong ⊢
  omega

variable (hC : plan.Canonical)
include hC

theorem span?_eq_none (hlong : ¬ FitsInt64 (step * plan.interval : Nat)) :
    plan.span? step = none := by
  have hday := hC.day_mem
  have hweek := hC.firstWeek_mem
  have hyear := InCalendar.yearOf_bounds hday
  have hmonth := dateOf_month_bounds plan.anchor.day
  unfold InCalendar firstDay lastDay at hday hweek
  unfold firstYear lastYear at hyear
  rw [← dateOf_year] at hyear
  rw [fitsInt64_natCast_iff] at hlong
  unfold Plan.span?
  rw [← Nat.cast_mul]
  cases plan.frequency with
  | secondly => rfl
  | minutely => rfl
  | hourly => rfl
  | daily =>
    refine if_neg ?_
    unfold InCalendar lastDay
    omega
  | weekly =>
    refine if_neg ?_
    unfold InCalendar lastDay
    omega
  | monthly =>
    refine if_neg ?_
    unfold lastYear Plan.monthIndex
    omega
  | yearly =>
    refine if_neg ?_
    unfold lastYear
    omega

theorem span_eq (step : Nat) : span plan step = .ok (plan.span? step) := by
  have hweek := hC.firstWeek_mem
  have hyear := InCalendar.yearOf_bounds hC.day_mem
  have hmonth := dateOf_month_bounds plan.anchor.day
  unfold InCalendar firstDay at hweek
  unfold firstYear lastYear at hyear
  rw [← dateOf_year] at hyear
  unfold span
  rw [units?_eq]
  by_cases hunits : FitsInt64 (step * plan.interval : Nat)
  · rw [int64?_eq hunits, Plan.span?, ← Nat.cast_mul]
    dsimp only
    cases plan.frequency with
    | secondly => rfl
    | minutely => rfl
    | hourly => rfl
    | daily => rfl
    | weekly =>
      refine congrArg Except.ok (int64?_bind fun hlong => if_neg ?_)
      unfold FitsInt64 at hlong
      unfold InCalendar lastDay
      omega
    | monthly =>
      have hmonths : FitsInt64 ((dateOf plan.anchor.day).year * 12) := by
        unfold FitsInt64
        omega
      have hfirst : FitsInt64 ((dateOf plan.anchor.day).year * 12 +
          ((dateOf plan.anchor.day).month - 1)) := by
        unfold FitsInt64
        omega
      dsimp only
      rw [int64_eq hmonths, ok_bind, int64_eq hfirst, ok_bind, Plan.monthIndex, add_sub_assoc]
      refine congrArg Except.ok (int64?_bind fun hlong => if_neg ?_)
      unfold FitsInt64 at hlong
      unfold lastYear
      omega
    | yearly =>
      refine congrArg Except.ok (int64?_bind fun hlong => if_neg ?_)
      unfold FitsInt64 at hlong
      unfold lastYear
      omega
  · -- What is too long for 64 bits would lead out of the calendar anyway.
    rw [int64?, if_neg hunits, span?_eq_none hC hunits]

theorem start_eq (step : Nat) : start plan step = .ok (plan.stepStart? step) := by
  unfold start Plan.stepStart?
  cases hunit : plan.frequency.unitSeconds? with
  | some unit => exact congrArg Except.ok (unitAt?_eq hunit hC step)
  | none =>
    dsimp only
    rw [span_eq hC]
    rfl

theorem evaluate_eq (hstep : step ≤ stepLimit) :
    evaluate plan step = .ok (plan.evaluate step) := by
  unfold evaluate
  cases hunit : plan.frequency.unitSeconds? with
  | some unit => exact evaluateUnit_eq hunit hC hstep
  | none =>
    dsimp only
    rw [evaluateDays, span_eq hC, ok_bind, Plan.evaluate, hunit]
    dsimp only [Plan.evaluateDays]
    cases plan.span? step with
    | none => rfl
    | some days =>
      dsimp only
      split <;> rfl

theorem unitOf_eq (ht : Representable target) :
    unitOf plan target = .ok (plan.unitOf target) := by
  have hweek := hC.firstWeek_mem
  have hyear := InCalendar.yearOf_bounds hC.day_mem
  have hyear' := InCalendar.yearOf_bounds ht.inCalendar
  have hmonth := dateOf_month_bounds plan.anchor.day
  have hmonth' := dateOf_month_bounds (dayOf target)
  unfold firstYear lastYear at hyear hyear'
  rw [← dateOf_year] at hyear hyear'
  unfold unitOf Plan.unitOf
  -- The anchor and the target lie in the calendar, so their years, months and days fit.
  cases hf : plan.frequency with
  | secondly =>
    refine (elapsed_base_eq (by rw [hf]; rfl) hC ht).trans ?_
    exact congrArg Except.ok (Int.ediv_one _)
  | minutely => exact elapsed_base_eq (by rw [hf]; rfl) hC ht
  | hourly => exact elapsed_base_eq (by rw [hf]; rfl) hC ht
  | daily => exact daysBetween_eq hC.day_mem ht.inCalendar
  | weekly =>
    have htarget := ht.inCalendar
    dsimp only
    rw [daysBetween_eq hweek htarget, ok_bind]
    unfold InCalendar firstDay lastDay at hweek htarget
    exact quotient_eq (by omega) (by decide)
  | monthly =>
    dsimp only
    rw [int64_eq (by unfold FitsInt64; omega), ok_bind, int64_eq (by unfold FitsInt64; omega),
      ok_bind, int64_eq (by unfold FitsInt64; omega), ok_bind,
      int64_eq (by unfold FitsInt64; omega)]
    refine congrArg Except.ok ?_
    unfold Plan.monthIndex
    omega
  | yearly =>
    refine int64_eq ?_
    unfold FitsInt64
    omega

theorem unitOf_lt (ht : Representable target) :
    (plan.unitOf target).natAbs < 9223372036854775808 := by
  have hanchor := hC.anchor_mem
  have hzero := plan.unitOf_anchor
  unfold DateTime.InCalendar at hanchor
  unfold Representable firstSecond lastSecond midnight firstDay lastDay at hanchor ht
  rcases le_total plan.anchor.wall target with hle | hle
  · have := plan.unitOf_mono hle
    have := plan.unitOf_le_add hle
    omega
  · have := plan.unitOf_mono hle
    have := plan.unitOf_le_add hle
    omega

theorem stepContaining_eq (ht : Representable target) :
    stepContaining plan target = .ok (plan.stepContaining target) := by
  have hinterval : (plan.interval : Int) ≠ 0 := by exact_mod_cast plan.interval_pos.ne'
  rw [stepContaining, unitOf_eq hC ht, ok_bind, quotient_eq (unitOf_lt hC ht) hinterval, ok_bind,
    Plan.stepContaining_eq]
  rfl

end Machine
end Recurrence

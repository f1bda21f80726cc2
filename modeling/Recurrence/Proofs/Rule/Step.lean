import Mathlib
import Recurrence.Proofs.Rule.Selection
import Recurrence.Proofs.Rule.TimeOfDay

/-! What a single step comes to. A step beyond the calendar or past the stop
ends the run, one that misses jumps to the boundary up to which everything
misses as it does, and any other yields the readings that it offers, from which
positions select. `evaluate_eq` says this once for every frequency. -/
namespace Recurrence
open Calendar

/-- A plan as its pattern and its anchor make it, whatever its limits are. -/
structure Plan.Canonical (plan : Plan) : Prop where
  anchor_mem : plan.anchor.InCalendar
  filter_eq : plan.filter = .ofPattern plan.pattern plan.anchor.day
  hours_eq : plan.hours = ascending plan.pattern.lists.hours
  minutes_eq : plan.minutes = ascending plan.pattern.lists.minutes
  seconds_eq : plan.seconds = ascending plan.pattern.lists.seconds
  times_eq : plan.times =
    if plan.anchor.hasTime then
      timeGrid (orElse plan.hours (hourOf plan.anchor.wall))
        (orElse plan.minutes (minuteOf plan.anchor.wall))
        (orElse plan.seconds (secondOf plan.anchor.wall))
    else [0]
  timed : plan.frequency.isSubDaily = true → plan.anchor.hasTime = true

/-- Whether a field of a reading goes with the list for it. Without a list a field
is free where the unit fixes it, and the anchor's where the unit is longer. -/
def fieldFits (values : List Nat) (byUnit : Bool) (field own : Nat) : Prop :=
  if values = [] then byUnit = true ∨ field = own else field ∈ values

/-- Whether the time of a reading goes with the lists of a pattern. After a DATE
only midnights do. -/
def Pattern.timeFits (pattern : Pattern) (anchor : DateTime) (wall : Int) : Prop :=
  if anchor.hasTime then
    fieldFits pattern.lists.hours pattern.frequency.isSubDaily
      (hourOf wall) (hourOf anchor.wall) ∧
    fieldFits pattern.lists.minutes (pattern.frequency = .minutely || pattern.frequency = .secondly)
      (minuteOf wall) (minuteOf anchor.wall) ∧
    fieldFits pattern.lists.seconds (pattern.frequency = .secondly)
      (secondOf wall) (secondOf anchor.wall)
  else secondOfDay wall = 0

namespace Plan

/-- The readings of a step before positions select among them. A step of days
never offers the last day of the calendar. -/
structure Offers (plan : Plan) (step : Nat) (wall : Int) : Prop where
  unit : plan.unitOf wall = plan.number step
  day : plan.filter.accepts (dayOf wall) = true
  time : plan.pattern.timeFits plan.anchor wall
  reached : plan.frequency.isSubDaily = true ∨ dayOf wall < lastDay

/-- The boundary up to which every reading misses just as this one does, and
whether it misses by its day. -/
def miss? (plan : Plan) (wall : Int) : Option (Int × Bool) :=
  if plan.frequency.isSubDaily then
    if !plan.filter.accepts (dayOf wall) then some (midnight (dayOf wall + 1), true)
    else if !plan.hours.isEmpty && !plan.hours.contains (hourOf wall) then
      some (wall - wall % 3600 + 3600, false)
    else if plan.frequency ≠ .hourly && !plan.minutes.isEmpty &&
        !plan.minutes.contains (minuteOf wall) then
      some (wall - wall % 3600 + (minuteOf wall + 1) * 60, false)
    else none
  else none

/-- The step at which evaluation goes on after a miss up to a boundary. -/
def stepFrom (plan : Plan) (step : Nat) (target : Int) : Nat :=
  match plan.frequency.unitSeconds? with
  | some unit => plan.stepAt unit step target
  | none => step + 1

/-- The readings that a step offers, in order. -/
def offered (plan : Plan) (step : Nat) : List Int :=
  match plan.frequency.unitSeconds? with
  | some _ =>
    let wall := plan.stepStart step
    if plan.frequency = .secondly && !plan.seconds.isEmpty &&
        !plan.seconds.contains (secondOf wall) then []
    else (plan.unitTimes wall).map fun (time : Nat) => midnight (dayOf wall) + (time : Int)
  | none =>
    match plan.span? step with
    | some (start, length) =>
      ((daysOf start length).filter plan.filter.accepts).flatMap fun day =>
        plan.times.map fun (time : Nat) => midnight day + (time : Int)
    | none => []

theorem isSubDaily_iff {plan : Plan} {unit : Nat} (h : plan.frequency.unitSeconds? = some unit) :
    plan.frequency.isSubDaily = true := by
  simp [Frequency.isSubDaily, h]

theorem stepStart_of_unit {plan : Plan} {unit : Nat}
    (h : plan.frequency.unitSeconds? = some unit) (step : Nat) :
    plan.stepStart step = plan.base unit + step * plan.stepSeconds unit := by
  have key : plan.stepStart step = plan.base unit + plan.number step * unit := by
    unfold stepStart unitStart
    cases hf : plan.frequency <;> rw [hf] at h <;>
      simp only [Frequency.unitSeconds?, Option.some.injEq, reduceCtorEq] at h <;>
      subst h <;> simp
  rw [key]
  simp only [number, stepSeconds]
  push_cast
  ring

theorem unitAt?_eq {plan : Plan} {unit : Nat} (h : plan.frequency.unitSeconds? = some unit)
    (step : Nat) : plan.unitAt? unit step =
      if Representable (plan.stepStart step) then some (plan.stepStart step) else none := by
  rw [stepStart_of_unit h]
  rfl

theorem span?_eq {plan : Plan} (h : plan.frequency.unitSeconds? = none) (step : Nat) :
    plan.span? step =
      if Representable (plan.stepStart step) then
        some (dayOf (plan.stepStart step),
          (dayOf (plan.unitStart (plan.number step + 1)) - dayOf (plan.stepStart step)).toNat)
      else none := by
  unfold span? stepStart unitStart
  cases hf : plan.frequency <;> rw [hf] at h <;>
    simp only [Frequency.unitSeconds?, reduceCtorEq] at h
  · simp only [representable_midnight_iff, dayOf_midnight, number]
    split <;> simp
  · simp only [representable_midnight_iff, dayOf_midnight, number]
    split
    · congr 2
      omega
    · rfl
  · simp only [representable_midnight_iff, dayOf_midnight, number, monthStart_mem_iff]
    rw [← add_assoc, monthStart_succ]
    split
    · congr 2
      omega
    · rfl
  · simp only [representable_midnight_iff, dayOf_midnight, number, yearStart_mem_iff]
    rw [← add_assoc, yearStart_succ, dateOf_year]
    split
    · congr 2
      omega
    · rfl

theorem midnight_dayOf_unitStart {plan : Plan} (h : plan.frequency.unitSeconds? = none)
    (unit : Int) : midnight (dayOf (plan.unitStart unit)) = plan.unitStart unit := by
  unfold unitStart
  cases hf : plan.frequency <;> rw [hf] at h <;>
    simp only [Frequency.unitSeconds?, reduceCtorEq] at h <;> simp

theorem stepStart?_eq (plan : Plan) (step : Nat) : plan.stepStart? step =
    if Representable (plan.stepStart step) then some (plan.stepStart step) else none := by
  unfold stepStart?
  split
  · next unit h => exact unitAt?_eq h step
  · next h =>
    rw [span?_eq h]
    split
    · simp [midnight_dayOf_unitStart h]
    · rfl

theorem lt_of_miss? {plan : Plan} {start target : Int} {byDay : Bool}
    (h : plan.miss? start = some (target, byDay)) : start < target := by
  unfold miss? at h
  split at h
  · split at h
    · simp only [Option.some.injEq, Prod.mk.injEq] at h
      unfold midnight dayOf at h
      omega
    · split at h
      · simp only [Option.some.injEq, Prod.mk.injEq] at h
        omega
      · split at h
        · simp only [Option.some.injEq, Prod.mk.injEq] at h
          unfold minuteOf secondOfDay at h
          omega
        · simp at h
  · simp at h

theorem miss?_of_lt {plan : Plan} {start target wall : Int} {byDay : Bool}
    (h : plan.miss? start = some (target, byDay)) (hl : start ≤ wall) (hr : wall < target) :
    plan.miss? wall = some (target, byDay) := by
  unfold miss? at h ⊢
  -- A miss by its day lasts until midnight, one by its hour or minute until the next: the
  -- fields tested stay the same until then.
  split at h
  · next hsub =>
    rw [if_pos hsub]
    split at h
    · next hday =>
      simp only [Option.some.injEq, Prod.mk.injEq] at h
      have : dayOf wall = dayOf start := by
        rw [← h.1, lt_midnight_iff] at hr
        have := dayOf_mono hl
        omega
      rw [this, if_pos hday, h.1, h.2]
    · next hday =>
      split at h
      · next hhour =>
        simp only [Option.some.injEq, Prod.mk.injEq] at h
        have hd : dayOf wall = dayOf start := by unfold dayOf; omega
        have hh : hourOf wall = hourOf start := by unfold hourOf secondOfDay; omega
        have hs : wall - wall % 3600 = start - start % 3600 := by omega
        rw [hd, hh, hs, if_neg hday, if_pos hhour, h.1, h.2]
      · next hhour =>
        split at h
        · next hminute =>
          simp only [Option.some.injEq, Prod.mk.injEq] at h
          obtain ⟨htarget, rfl⟩ := h
          have hlt : wall < start - start % 3600 + (minuteOf start + 1) * 60 := by omega
          unfold minuteOf secondOfDay at hlt
          have hd : dayOf wall = dayOf start := by unfold dayOf; omega
          have hh : hourOf wall = hourOf start := by unfold hourOf secondOfDay; omega
          have hm : minuteOf wall = minuteOf start := by unfold minuteOf secondOfDay; omega
          have hs : wall - wall % 3600 = start - start % 3600 := by omega
          rw [hd, hh, hm, hs, if_neg hday, if_neg hhour, if_pos hminute, htarget]
        · simp at h
  · simp at h

/-- What a step comes to, for every frequency alike. -/
theorem evaluate_eq (plan : Plan) (step : Nat) : plan.evaluate step =
    if ¬ Representable (plan.stepStart step) then .exhausted
    else if plan.isPastStop (plan.stepStart step) then .exhausted
    else
      match plan.miss? (plan.stepStart step) with
      | some (target, byDay) =>
        if ¬ Representable target then .exhausted
        else if byDay then .skipDay (plan.stepFrom step target)
        else .skip (plan.stepFrom step target)
      | none => .candidates (select plan.pattern.lists.positions (plan.offered step)) := by
  unfold evaluate
  split
  · next unit hunit =>
    have hsub := isSubDaily_iff hunit
    unfold evaluateUnit
    rw [unitAt?_eq hunit]
    by_cases hr : Representable (plan.stepStart step)
    · simp only [hr, if_true, not_true, if_false, miss?, hsub, offered, hunit, jump, stepFrom]
      split
      · rfl
      · split
        · split <;> simp_all
        · split
          · split <;> simp_all
          · split
            · split <;> simp_all
            · split <;> simp_all
    · simp only [hr, if_false, not_false_eq_true, if_true]
  · next hunit =>
    have hsub : plan.frequency.isSubDaily = false := by simp [Frequency.isSubDaily, hunit]
    unfold evaluateDays
    have hstart := midnight_dayOf_unitStart hunit (plan.number step)
    by_cases hr : Representable (plan.stepStart step)
    · simp [span?_eq hunit, hr, miss?, hsub, offered, hunit, hstart]
    · simp [span?_eq hunit, hr]

theorem stepSeconds_pos {plan : Plan} {unit : Nat}
    (h : plan.frequency.unitSeconds? = some unit) : 0 < plan.stepSeconds unit := by
  have hpos : 0 < unit := by
    cases hf : plan.frequency <;> rw [hf] at h <;>
      simp only [Frequency.unitSeconds?, Option.some.injEq, reduceCtorEq] at h <;> omega
  exact Nat.mul_pos plan.interval_pos hpos

/-- Evaluation goes on at the first later step that does not begin before the
boundary. -/
theorem stepFrom_le_iff {plan : Plan} (h : plan.frequency.isSubDaily = true) {i j : Nat}
    {target : Int} : plan.stepFrom i target ≤ j ↔ i < j ∧ target ≤ plan.stepStart j := by
  obtain ⟨unit, hunit⟩ : ∃ unit, plan.frequency.unitSeconds? = some unit :=
    Option.isSome_iff_exists.1 h
  have hpos : (0 : Int) < plan.stepSeconds unit := by exact_mod_cast stepSeconds_pos hunit
  have hceil : (target - plan.base unit + plan.stepSeconds unit - 1) / plan.stepSeconds unit ≤ j ↔
      target ≤ plan.base unit + j * plan.stepSeconds unit := by
    rw [← Int.lt_add_one_iff, Int.ediv_lt_iff_lt_mul hpos, add_mul]
    omega
  unfold stepFrom stepAt
  rw [hunit, stepStart_of_unit hunit, max_le_iff, Int.toNat_le, hceil, Nat.succ_le_iff]
  exact And.comm

theorem fieldFits_false_iff {values : List Nat} {field own : Nat} :
    fieldFits values false field own ↔ field ∈ orElse (ascending values) own := by
  unfold fieldFits
  rw [mem_orElse, ascending_eq_nil_iff, mem_ascending]
  by_cases h : values = []
  · simp [h]
  · simp [h]

theorem fieldFits_true_iff {values : List Nat} {field own : Nat} :
    fieldFits values true field own ↔ values = [] ∨ field ∈ values := by
  unfold fieldFits
  by_cases h : values = []
  · simp [h]
  · simp [h]

theorem unitOf_eq_iff_day {plan : Plan} (h : plan.frequency.unitSeconds? = none)
    {unit wall : Int} : plan.unitOf wall = unit ↔
      dayOf (plan.unitStart unit) ≤ dayOf wall ∧
        dayOf wall < dayOf (plan.unitStart (unit + 1)) := by
  rw [unitOf_eq_iff, ← midnight_dayOf_unitStart h unit, ← midnight_dayOf_unitStart h (unit + 1),
    midnight_le_iff, lt_midnight_iff, dayOf_midnight, dayOf_midnight]

theorem unitOf_eq_iff_fields {plan : Plan} (h : plan.frequency.isSubDaily = true)
    {unit wall : Int} : plan.unitOf wall = unit ↔
      dayOf wall = dayOf (plan.unitStart unit) ∧
      hourOf wall = hourOf (plan.unitStart unit) ∧
      (plan.frequency ≠ .hourly → minuteOf wall = minuteOf (plan.unitStart unit)) ∧
      (plan.frequency = .secondly → secondOf wall = secondOf (plan.unitStart unit)) := by
  rw [unitOf_eq_iff]
  unfold unitStart base
  cases hf : plan.frequency <;> rw [hf] at h <;>
    simp only [Frequency.isSubDaily, Frequency.unitSeconds?, Option.isSome_none,
      Bool.false_eq_true] at h <;>
    simp only [dayOf, hourOf, minuteOf, secondOf, secondOfDay, ne_eq, reduceCtorEq,
      not_true, not_false_eq_true, false_implies, true_implies, and_true]
  · omega
  · omega
  · omega

end Plan
end Recurrence

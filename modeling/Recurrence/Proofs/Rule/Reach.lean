import Mathlib
import Recurrence.Proofs.Rule.Offer

/-! How far the steps of a plan reach. Once a step is exhausted all later ones
are, and between a step that misses and the step where evaluation goes on every
step misses alike or is exhausted. So nothing is lost by jumping. -/
namespace Recurrence
open Calendar

theorem Calendar.InCalendar.yearOf_bounds {day : Int} (h : InCalendar day) :
    firstYear ≤ yearOf day ∧ yearOf day ≤ lastYear := by
  have hfirst : yearOf firstDay = firstYear := by decide
  have hlast : yearOf lastDay = lastYear := by decide
  rw [← hfirst, ← hlast]
  exact ⟨yearOf_mono h.1, yearOf_mono h.2⟩

/-- A step that misses, by its day or by its time. -/
def Step.leap (byDay : Bool) (next : Nat) : Step := if byDay then .skipDay next else .skip next

namespace Plan

theorem Canonical.day_mem {plan : Plan} (hC : plan.Canonical) : InCalendar plan.anchor.day :=
  DateTime.dayOf_wall plan.anchor ▸ Representable.inCalendar hC.anchor_mem

theorem Canonical.firstWeek_mem {plan : Plan} (hC : plan.Canonical) :
    InCalendar plan.firstWeek := by
  unfold firstWeek
  dsimp only
  split
  · assumption
  · exact hC.day_mem

theorem Canonical.stepStart_zero {plan : Plan} (hC : plan.Canonical) :
    Representable (plan.stepStart 0) := by
  have hday := hC.day_mem
  have hanchor := hC.anchor_mem
  unfold DateTime.InCalendar Representable firstSecond lastSecond at hanchor
  unfold stepStart number unitStart
  cases plan.frequency with
  | secondly =>
    simp only [base, Representable, firstSecond, lastSecond] at hanchor ⊢
    omega
  | minutely =>
    simp only [base, Representable, firstSecond, lastSecond, midnight] at hanchor ⊢
    omega
  | hourly =>
    simp only [base, Representable, firstSecond, lastSecond, midnight] at hanchor ⊢
    omega
  | daily => simpa [representable_midnight_iff] using hday
  | weekly => simpa [representable_midnight_iff] using hC.firstWeek_mem
  | monthly =>
    simp only [representable_midnight_iff, monthStart_mem_iff, Nat.cast_zero, zero_mul, add_zero,
      (monthIndex_dateOf_div plan.anchor.day).1]
    exact InCalendar.yearOf_bounds hday
  | yearly =>
    simp only [representable_midnight_iff, yearStart_mem_iff, Nat.cast_zero, zero_mul, add_zero]
    exact InCalendar.yearOf_bounds hday

theorem Canonical.base_mem {plan : Plan} (hC : plan.Canonical) {unit : Nat}
    (hunit : plan.frequency.unitSeconds? = some unit) : Representable (plan.base unit) := by
  have hstart := hC.stepStart_zero
  rwa [stepStart_of_unit hunit, Nat.cast_zero, zero_mul, add_zero] at hstart

theorem stepStart_zero_add_le (plan : Plan) (step : Nat) :
    plan.stepStart 0 + step ≤ plan.stepStart step := by
  induction step with
  | zero => simp
  | succ step ih =>
    have : plan.stepStart step < plan.stepStart (step + 1) :=
      stepStart_lt_iff.2 (Nat.lt_add_one step)
    push_cast at ih ⊢
    omega

theorem Canonical.firstSecond_le {plan : Plan} (hC : plan.Canonical) (step : Nat) :
    firstSecond ≤ plan.stepStart step :=
  hC.stepStart_zero.1.trans (stepStart_le_iff.2 (Nat.zero_le step))

theorem Canonical.representable_iff {plan : Plan} (hC : plan.Canonical) (step : Nat) :
    Representable (plan.stepStart step) ↔ plan.stepStart step ≤ lastSecond := by
  unfold Representable
  exact and_iff_right (hC.firstSecond_le step)

theorem Canonical.not_representable {plan : Plan} (hC : plan.Canonical) {step : Nat}
    (h : stepLimit ≤ step) : ¬ Representable (plan.stepStart step) := by
  have h0 := hC.stepStart_zero.1
  have hle := plan.stepStart_zero_add_le step
  rw [hC.representable_iff]
  unfold stepLimit at h
  omega

theorem Canonical.lastSecond_lt {plan : Plan} (hC : plan.Canonical) :
    lastSecond < plan.stepStart stepLimit := by
  have hbeyond := hC.not_representable (le_refl stepLimit)
  rwa [hC.representable_iff, not_le] at hbeyond

theorem Canonical.stepContaining_le {plan : Plan} (hC : plan.Canonical) {target : Int}
    (ht : Representable target) : plan.stepContaining target ≤ stepLimit := by
  by_contra hgt
  have hle := stepStart_stepContaining_le (show plan.stepContaining target ≠ 0 by omega)
  have hlt : plan.stepStart stepLimit < plan.stepStart (plan.stepContaining target) :=
    stepStart_lt_iff.2 (not_le.1 hgt)
  have := hC.lastSecond_lt
  have := ht.2
  omega

theorem isPastStop_mono {plan : Plan} {a b : Int} (h : a ≤ b) (ha : plan.isPastStop a = true) :
    plan.isPastStop b = true := by
  unfold isPastStop at ha ⊢
  split at ha
  · simp only [decide_eq_true_eq] at ha ⊢
    omega
  · simp at ha

/-- The readings that a step yields. -/
def yields (plan : Plan) (step : Nat) : List Int :=
  match plan.evaluate step with
  | .candidates walls => walls
  | _ => []

theorem yields_eq (plan : Plan) (step : Nat) : plan.yields step =
    if Representable (plan.stepStart step) ∧ plan.isPastStop (plan.stepStart step) = false ∧
        plan.miss? (plan.stepStart step) = none then
      select plan.pattern.lists.positions (plan.offered step)
    else [] := by
  unfold yields
  rw [evaluate_eq]
  by_cases hr : Representable (plan.stepStart step)
  · cases hp : plan.isPastStop (plan.stepStart step) with
    | true => simp [hr]
    | false =>
      cases hm : plan.miss? (plan.stepStart step) with
      | none => simp [hr]
      | some miss =>
        obtain ⟨target, byDay⟩ := miss
        simp only [hr, not_true, if_false, Bool.false_eq_true, reduceCtorEq, and_false]
        split_ifs <;> simp_all
  · simp [hr]

/-- A step that is exhausted begins beyond the calendar or past the stop, or it
misses up to a boundary beyond the calendar. -/
theorem evaluate_eq_exhausted_iff {plan : Plan} {step : Nat} : plan.evaluate step = .exhausted ↔
    ¬ Representable (plan.stepStart step) ∨ plan.isPastStop (plan.stepStart step) = true ∨
      ∃ target byDay, plan.miss? (plan.stepStart step) = some (target, byDay) ∧
        ¬ Representable target := by
  rw [evaluate_eq]
  by_cases hr : Representable (plan.stepStart step)
  · cases hp : plan.isPastStop (plan.stepStart step) with
    | true => simp [hr]
    | false =>
      cases hm : plan.miss? (plan.stepStart step) with
      | none => simp [hr]
      | some miss =>
        obtain ⟨target, byDay⟩ := miss
        by_cases ht : Representable target
        · cases byDay <;> simp [hr, ht]
        · simp [hr, ht]
  · simp [hr]

theorem Canonical.exhausted_mono {plan : Plan} (hC : plan.Canonical) {i j : Nat} (hij : i ≤ j)
    (h : plan.evaluate i = .exhausted) : plan.evaluate j = .exhausted := by
  have hle : plan.stepStart i ≤ plan.stepStart j := stepStart_le_iff.2 hij
  rw [evaluate_eq_exhausted_iff] at h ⊢
  rcases h with hr | hp | ⟨target, byDay, hm, ht⟩
  · left
    rw [hC.representable_iff] at hr ⊢
    omega
  · exact .inr (.inl (isPastStop_mono hle hp))
  · rcases lt_or_ge (plan.stepStart j) target with hlt | hge
    · exact .inr (.inr ⟨target, byDay, miss?_of_lt hm hle hlt, ht⟩)
    · left
      have hfirst := hC.firstSecond_le i
      have hlt := lt_of_miss? hm
      unfold Representable at ht
      rw [hC.representable_iff]
      omega

theorem evaluate_eq_leap_iff {plan : Plan} {step next : Nat} {byDay : Bool} :
    plan.evaluate step = .leap byDay next ↔
      Representable (plan.stepStart step) ∧ plan.isPastStop (plan.stepStart step) = false ∧
      ∃ target, plan.miss? (plan.stepStart step) = some (target, byDay) ∧
        Representable target ∧ next = plan.stepFrom step target := by
  rw [evaluate_eq]
  unfold Step.leap
  by_cases hr : Representable (plan.stepStart step)
  · cases hp : plan.isPastStop (plan.stepStart step) with
    | true => cases byDay <;> simp [hr]
    | false =>
      cases hm : plan.miss? (plan.stepStart step) with
      | none => cases byDay <;> simp [hr]
      | some miss =>
        obtain ⟨target, kind⟩ := miss
        by_cases ht : Representable target
        · cases byDay <;> cases kind <;> simp [hr, ht, eq_comm]
        · cases byDay <;> simp [hr, ht]
  · cases byDay <;> simp [hr]

theorem isSubDaily_of_miss? {plan : Plan} {wall target : Int} {byDay : Bool}
    (h : plan.miss? wall = some (target, byDay)) : plan.frequency.isSubDaily = true := by
  unfold miss? at h
  split at h
  · assumption
  · simp at h

/-- From a step that misses up to the step where evaluation goes on, all steps begin
before the boundary of the miss and miss alike. -/
theorem miss?_of_lt_stepFrom {plan : Plan} {i j : Nat} {target : Int} {byDay : Bool}
    (h : plan.miss? (plan.stepStart i) = some (target, byDay)) (hij : i ≤ j)
    (hj : j < plan.stepFrom i target) :
    plan.stepStart j < target ∧ plan.miss? (plan.stepStart j) = some (target, byDay) := by
  have hlt : plan.stepStart j < target := by
    rcases eq_or_lt_of_le hij with rfl | hlt
    · exact lt_of_miss? h
    · by_contra hge
      have := (stepFrom_le_iff (isSubDaily_of_miss? h)).2 ⟨hlt, not_lt.1 hge⟩
      omega
  exact ⟨hlt, miss?_of_lt h (stepStart_le_iff.2 hij) hlt⟩

theorem Canonical.evaluate_between {plan : Plan} (hC : plan.Canonical) {i j next : Nat}
    {byDay : Bool} (h : plan.evaluate i = .leap byDay next) (hij : i ≤ j) (hj : j < next) :
    plan.evaluate j = .leap byDay next ∨ plan.evaluate j = .exhausted := by
  obtain ⟨hr, hp, target, hm, ht, rfl⟩ := evaluate_eq_leap_iff.1 h
  have hsub := isSubDaily_of_miss? hm
  obtain ⟨hlt, hmiss⟩ := miss?_of_lt_stepFrom hm hij hj
  cases hstop : plan.isPastStop (plan.stepStart j) with
  | true => exact .inr (evaluate_eq_exhausted_iff.2 (.inr (.inl hstop)))
  | false =>
    left
    have hfirst := hC.firstSecond_le j
    refine evaluate_eq_leap_iff.2 ⟨?_, hstop, target, hmiss, ht, ?_⟩
    · unfold Representable at ht ⊢
      omega
    · -- Both are the first step that does not begin before the boundary.
      apply eq_of_forall_ge_iff
      intro k
      rw [stepFrom_le_iff hsub, stepFrom_le_iff hsub]
      constructor
      · rintro ⟨-, hk⟩
        exact ⟨stepStart_lt_iff.1 (hlt.trans_le hk), hk⟩
      · rintro ⟨hk, htarget⟩
        exact ⟨hij.trans_lt hk, htarget⟩

theorem yields_of_exhausted {plan : Plan} {step : Nat} (h : plan.evaluate step = .exhausted) :
    plan.yields step = [] := by
  simp [yields, h]

theorem Canonical.unitOf_of_mem_yields {plan : Plan} (hC : plan.Canonical) {step : Nat}
    {wall : Int} (h : wall ∈ plan.yields step) : plan.unitOf wall = plan.number step := by
  rw [yields_eq] at h
  split at h
  · next hy =>
    obtain ⟨hr, -, hm⟩ := hy
    exact ((hC.mem_offered hr hm).1 ((select_sublist _ _).subset h)).unit
  · simp at h

theorem Canonical.yields_pairwise {plan : Plan} (hC : plan.Canonical) (step : Nat) :
    (plan.yields step).Pairwise (· < ·) := by
  rw [yields_eq]
  split
  · exact (hC.offered_pairwise step).sublist (select_sublist _ _)
  · exact List.Pairwise.nil

end Plan
end Recurrence

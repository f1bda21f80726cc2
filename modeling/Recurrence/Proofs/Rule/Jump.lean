import Mathlib
import Recurrence.Proofs.Rule.Between
import Recurrence.Zone.Atlas

/-! What the jumps of a rule finer than a day pass over. Such a rule goes on from a
step that misses at the next day, hour or minute, however its interval falls there.
No step in between would have been let through, and behind a step where the run is
exhausted none is. -/
namespace Recurrence
open Calendar

/-- Whether the day of a reading passes the filter of a pattern finer than a day, and
its hour and minute the lists that limit such a pattern. The minutes of an hourly one
do not. -/
structure Pattern.Admits (pattern : Pattern) (anchor : DateTime) (wall : Int) : Prop where
  day : (DayFilter.ofPattern pattern anchor.day).accepts (dayOf wall) = true
  hour : pattern.lists.hours ≠ [] → hourOf wall ∈ pattern.lists.hours
  minute : pattern.frequency ≠ .hourly → pattern.lists.minutes ≠ [] →
    minuteOf wall ∈ pattern.lists.minutes

namespace Plan

theorem Canonical.miss?_eq_none_iff_admits {plan : Plan} (hC : plan.Canonical)
    (hsub : plan.frequency.isSubDaily = true) {wall : Int} :
    plan.miss? wall = none ↔ plan.pattern.Admits plan.anchor wall := by
  rw [hC.miss?_eq_none_iff hsub, hC.filter_eq]
  constructor
  · rintro ⟨hday, hhour, hminute⟩
    exact ⟨hday, hhour.resolve_left, fun hf => (hminute hf).resolve_left⟩
  · rintro ⟨hday, hhour, hminute⟩
    exact ⟨hday, or_iff_not_imp_left.2 hhour, fun hf => or_iff_not_imp_left.2 (hminute hf)⟩

/-- A jump passes over no step that would be let through. -/
theorem Canonical.not_admits_of_leap {plan : Plan} (hC : plan.Canonical) {i j next : Nat}
    {byDay : Bool} (h : plan.evaluate i = .leap byDay next) (hij : i ≤ j) (hj : j < next) :
    ¬ plan.pattern.Admits plan.anchor (plan.stepStart j) := by
  obtain ⟨-, -, target, hm, -, rfl⟩ := evaluate_eq_leap_iff.1 h
  obtain ⟨-, hmiss⟩ := miss?_of_lt_stepFrom hm hij hj
  rw [← hC.miss?_eq_none_iff_admits (isSubDaily_of_miss? hm), hmiss]
  exact Option.some_ne_none _

/-- From an exhausted step on no step in the calendar and before the stop would be let
through. -/
theorem Canonical.not_admits_of_exhausted {plan : Plan} (hC : plan.Canonical)
    (hsub : plan.frequency.isSubDaily = true) {i j : Nat} (h : plan.evaluate i = .exhausted)
    (hij : i ≤ j) (hr : Representable (plan.stepStart j))
    (hstop : plan.isPastStop (plan.stepStart j) = false) :
    ¬ plan.pattern.Admits plan.anchor (plan.stepStart j) := by
  rw [← hC.miss?_eq_none_iff_admits hsub]
  rcases evaluate_eq_exhausted_iff.1 (hC.exhausted_mono hij h) with hout | hpast | ⟨_, _, hm, -⟩
  · exact absurd hr hout
  · rw [hstop] at hpast
    exact absurd hpast Bool.false_ne_true
  · rw [hm]
    exact Option.some_ne_none _

theorem evaluate_of_unit {plan : Plan} {unit : Nat}
    (hunit : plan.frequency.unitSeconds? = some unit) (step : Nat) :
    plan.evaluate step = plan.evaluateUnit unit step := by
  unfold evaluate
  rw [hunit]

theorem unitAt?_eq_some_iff {plan : Plan} {unit : Nat}
    (hunit : plan.frequency.unitSeconds? = some unit) {step : Nat} {wall : Int} :
    plan.unitAt? unit step = some wall ↔
      Representable (plan.stepStart step) ∧ plan.stepStart step = wall := by
  rw [unitAt?_eq hunit]
  split <;> simp_all

end Plan

namespace Run

/-- A rule finer than a day that jumps goes forward and passes over no step in the
calendar that would be let through; where it is exhausted, none before the stop
follows. -/
theorem not_admits_of_evaluateUnit {clocks : Clocks} {pattern : Pattern} {anchor : DateTime}
    {run : Run} (hstart : Run.start clocks pattern anchor = .ok run)
    (hanchor : anchor.InCalendar) {unit : Nat}
    (hunit : pattern.frequency.unitSeconds? = some unit) (limit : UInt32)
    (first last : Option Int) (step : Nat) :
    let plan := ((run.withEmptyLimit limit).between first last).plan
    (∀ next, plan.evaluateUnit unit step = .skip next ∨
        plan.evaluateUnit unit step = .skipDay next →
      step < next ∧ ∀ j wall, step ≤ j → j < next → plan.unitAt? unit j = some wall →
        ¬ pattern.Admits anchor wall) ∧
    (plan.evaluateUnit unit step = .exhausted → ∀ j wall, step ≤ j →
      plan.unitAt? unit j = some wall → plan.isPastStop wall = false →
        ¬ pattern.Admits anchor wall) := by
  intro plan
  obtain ⟨hcursor, hopens⟩ := Run.opens_withEmptyLimit hstart limit
  obtain ⟨_, hbetween, -⟩ := between_eq hcursor hopens.resume_eq hopens.horizon_eq first last
  have hplan : plan = (run.withEmptyLimit limit).plan.limited first last :=
    congrArg Run.plan hbetween
  have hC : plan.Canonical := hplan ▸ (hopens.canonical hanchor).limited first last
  obtain rfl : plan.pattern = pattern := hplan ▸ hopens.pattern_eq
  obtain rfl : plan.anchor = anchor := hplan ▸ hopens.anchor_eq
  rw [← Plan.evaluate_of_unit hunit]
  constructor
  · intro next hnext
    refine ⟨Plan.lt_of_evaluate hnext, fun j wall hij hj hwall => ?_⟩
    obtain ⟨-, rfl⟩ := (Plan.unitAt?_eq_some_iff hunit).1 hwall
    obtain ⟨byDay, hleap⟩ : ∃ byDay, plan.evaluate step = .leap byDay next :=
      hnext.elim (fun hskip => ⟨false, hskip⟩) (fun hskip => ⟨true, hskip⟩)
    exact hC.not_admits_of_leap hleap hij hj
  · intro hexhausted j wall hij hwall hstop
    obtain ⟨hr, rfl⟩ := (Plan.unitAt?_eq_some_iff hunit).1 hwall
    exact hC.not_admits_of_exhausted (Plan.isSubDaily_iff hunit) hexhausted hij hr hstop

end Run

/-- Every twenty minutes from nine to before eleven. -/
def morningTwenties : Pattern :=
  { Pattern.ofFrequency .minutely with
    interval := 20
    lists := { ByLists.empty with hours := [9, 10] }
    interval_pos := by decide
    inRange := by constructor <;> simp [ByLists.empty]
    fits := by constructor <;> simp [ByLists.empty] }

theorem Plan.Opens.evaluate_morningTwenties {clocks : Clocks} {plan : Plan}
    (h : plan.Opens clocks morningTwenties (.time 873190800 .floating)) :
    plan.evaluateUnit 60 6 = .skip 9 := by
  have hunit : plan.frequency.unitSeconds? = some 60 := by rw [frequency, h.pattern_eq]; rfl
  have hbase : plan.base 60 = 873190800 := by rw [base, h.anchor_eq]; rfl
  have hlength : plan.stepSeconds 60 = 1200 := by rw [stepSeconds, interval, h.pattern_eq]; rfl
  have hsub := isSubDaily_iff hunit
  have hmiss : plan.miss? 873198000 = some (873201600, false) := by
    have hday : plan.filter.accepts (dayOf 873198000) = true := by rw [h.filter_eq]; decide
    have hhour : hourOf 873198000 = 11 := by decide
    have hlisted : morningTwenties.lists.hours = [9, 10] := rfl
    simp [miss?, hsub, hday, h.hours_eq, hhour, hlisted, ascending_eq_nil_iff]
  have hstart : plan.stepStart 6 = 873198000 := by
    rw [stepStart_of_unit hunit, hbase, hlength]
    rfl
  have hnext : plan.stepFrom 6 873201600 = 9 := by
    rw [stepFrom, hunit]
    dsimp only [stepAt]
    rw [hbase, hlength]
    rfl
  have hleap : plan.evaluate 6 = .leap false 9 ↔ _ := evaluate_eq_leap_iff
  rw [← evaluate_of_unit hunit]
  refine hleap.2 ⟨?_, ?_, 873201600, ?_, by decide, hnext.symm⟩
  · rw [hstart]
    decide
  · exact isPastStop_eq_false (h.bound_eq_none rfl) h.horizon_eq _
  · rw [hstart, hmiss]

/-- At eleven this rule goes on at noon, and rightly so. -/
theorem Run.not_admits_morningTwenties : ∃ run,
    Run.start (Resolver.empty Zone.Atlas.database).clocks morningTwenties
      (.time 873190800 .floating) = .ok run ∧
    ((run.withEmptyLimit 1000).between none none).plan.evaluateUnit 60 6 = .skip 9 ∧
    ∀ j wall, 6 ≤ j → j < 9 →
      ((run.withEmptyLimit 1000).between none none).plan.unitAt? 60 j = some wall →
        ¬ morningTwenties.Admits (.time 873190800 .floating) wall := by
  cases hrun : Run.start (Resolver.empty Zone.Atlas.database).clocks morningTwenties
      (.time 873190800 .floating) with
  | error error => exact absurd hrun (by rintro ⟨⟩)
  | ok run =>
    have hskip := (Run.opens_withEmptyLimit hrun 1000).2.evaluate_morningTwenties
    have hunit : morningTwenties.frequency.unitSeconds? = some 60 := rfl
    obtain ⟨hjump, -⟩ := not_admits_of_evaluateUnit hrun (by decide) hunit 1000 none none 6
    exact ⟨run, rfl, hskip, (hjump 9 (.inl hskip)).2⟩

end Recurrence

import Mathlib
import Recurrence.Proofs.Rule.Step

/-! What the steps of a canonical plan offer. A miss holds for every reading up
to its boundary, so a step that offers anything does not miss; one that does not
miss offers exactly the readings of its unit whose day and time go with the
lists, in order. -/
namespace Recurrence
open Calendar
namespace Plan

theorem Canonical.fields {plan : Plan} (hC : plan.Canonical) :
    Fields (orElse plan.hours (hourOf plan.anchor.wall))
      (orElse plan.minutes (minuteOf plan.anchor.wall))
      (orElse plan.seconds (secondOf plan.anchor.wall)) := by
  have hR := plan.pattern.inRange
  constructor
  · intro h hh
    rw [hC.hours_eq, mem_orElse, mem_ascending] at hh
    rcases hh with ⟨-, rfl⟩ | hh
    · exact hourOf_le _
    · exact hR.hours h hh
  · intro m hm
    rw [hC.minutes_eq, mem_orElse, mem_ascending] at hm
    rcases hm with ⟨-, rfl⟩ | hm
    · exact minuteOf_le _
    · exact hR.minutes m hm
  · intro s hs
    rw [hC.seconds_eq, mem_orElse, mem_ascending] at hs
    rcases hs with ⟨-, rfl⟩ | hs
    · exact secondOf_le _
    · exact hR.seconds s hs

theorem Canonical.times_lt {plan : Plan} (hC : plan.Canonical) :
    ∀ time ∈ plan.times, time < 86400 := by
  intro time ht
  rw [hC.times_eq] at ht
  split at ht
  · exact hC.fields.time_lt time ht
  · simp only [List.mem_singleton] at ht
    omega

theorem Canonical.times_pairwise {plan : Plan} (hC : plan.Canonical) :
    plan.times.Pairwise (· < ·) := by
  rw [hC.times_eq]
  split
  · apply hC.fields.timeGrid_pairwise
    · rw [hC.hours_eq]
      exact orElse_pairwise (ascending_pairwise _) _
    · rw [hC.minutes_eq]
      exact orElse_pairwise (ascending_pairwise _) _
    · rw [hC.seconds_eq]
      exact orElse_pairwise (ascending_pairwise _) _
  · exact List.pairwise_singleton _ _

theorem Canonical.mem_times_iff {plan : Plan} (hC : plan.Canonical)
    (h : plan.frequency.isSubDaily = false) (wall : Int) :
    secondOfDay wall ∈ plan.times ↔ plan.pattern.timeFits plan.anchor wall := by
  have hunit : (plan.pattern.frequency = .minutely || plan.pattern.frequency = .secondly) = false ∧
      decide (plan.pattern.frequency = .secondly) = false := by
    unfold frequency at h
    cases hf : plan.pattern.frequency <;> rw [hf] at h <;> simp [Frequency.isSubDaily,
      Frequency.unitSeconds?] at h ⊢
  rw [hC.times_eq]
  unfold Pattern.timeFits
  split
  · rw [hC.fields.secondOfDay_mem_iff, hunit.1, hunit.2,
      show plan.pattern.frequency.isSubDaily = false from h]
    simp only [fieldFits_false_iff, hC.hours_eq, hC.minutes_eq, hC.seconds_eq]
  · exact List.mem_singleton

/-- The minutes of a step of a unit shorter than a day. -/
def minutesAt (plan : Plan) (wall : Int) : List Nat :=
  if plan.frequency = .hourly then orElse plan.minutes (minuteOf plan.anchor.wall)
  else [minuteOf wall]

/-- The seconds of a step of a unit shorter than a day. -/
def secondsAt (plan : Plan) (wall : Int) : List Nat :=
  if plan.frequency = .secondly then [secondOf wall]
  else orElse plan.seconds (secondOf plan.anchor.wall)

theorem unitTimes_eq {plan : Plan} (h : plan.frequency.isSubDaily = true) (wall : Int) :
    plan.unitTimes wall = timeGrid [hourOf wall] (plan.minutesAt wall) (plan.secondsAt wall) := by
  unfold unitTimes minutesAt secondsAt
  cases hf : plan.frequency <;> rw [hf] at h <;>
    simp only [Frequency.isSubDaily, Frequency.unitSeconds?, Option.isSome_none,
      Bool.false_eq_true] at h
  · simp [timeGrid, timeOfDay_fields]
  · rfl
  · rfl

theorem Canonical.unitFields {plan : Plan} (hC : plan.Canonical) (wall : Int) :
    Fields [hourOf wall] (plan.minutesAt wall) (plan.secondsAt wall) := by
  refine ⟨?_, ?_, ?_⟩
  · simpa using hourOf_le wall
  · unfold minutesAt
    split
    · exact hC.fields.minutes
    · simpa using minuteOf_le wall
  · unfold secondsAt
    split
    · simpa using secondOf_le wall
    · exact hC.fields.seconds

theorem Canonical.unitTimes_pairwise {plan : Plan} (hC : plan.Canonical)
    (h : plan.frequency.isSubDaily = true) (wall : Int) :
    (plan.unitTimes wall).Pairwise (· < ·) := by
  rw [unitTimes_eq h]
  apply (hC.unitFields wall).timeGrid_pairwise
  · exact List.pairwise_singleton _ _
  · unfold minutesAt
    split
    · rw [hC.minutes_eq]
      exact orElse_pairwise (ascending_pairwise _) _
    · exact List.pairwise_singleton _ _
  · unfold secondsAt
    split
    · exact List.pairwise_singleton _ _
    · rw [hC.seconds_eq]
      exact orElse_pairwise (ascending_pairwise _) _

/-- A reading that does not miss has its day accepted and its fields listed, as
far as they are those of its unit. -/
theorem Canonical.miss?_eq_none_iff {plan : Plan} (hC : plan.Canonical)
    (h : plan.frequency.isSubDaily = true) {wall : Int} : plan.miss? wall = none ↔
      plan.filter.accepts (dayOf wall) = true ∧
      (plan.pattern.lists.hours = [] ∨ hourOf wall ∈ plan.pattern.lists.hours) ∧
      (plan.frequency ≠ .hourly →
        plan.pattern.lists.minutes = [] ∨ minuteOf wall ∈ plan.pattern.lists.minutes) := by
  unfold miss?
  rw [if_pos h, hC.hours_eq, hC.minutes_eq]
  simp only [Bool.and_eq_true, Bool.not_eq_true', decide_eq_true_eq, List.isEmpty_eq_false_iff,
    ne_eq, ascending_eq_nil_iff, List.contains_eq_mem, decide_eq_false_iff_not, mem_ascending]
  by_cases hday : plan.filter.accepts (dayOf wall) = true
  · simp only [hday, Bool.true_eq_false, if_false, true_and]
    by_cases hhour : ¬ plan.pattern.lists.hours = [] ∧ hourOf wall ∉ plan.pattern.lists.hours
    · rw [if_pos hhour]
      simp only [reduceCtorEq, false_iff]
      tauto
    · rw [if_neg hhour]
      by_cases hminute : (¬ plan.frequency = .hourly ∧ ¬ plan.pattern.lists.minutes = []) ∧
          minuteOf wall ∉ plan.pattern.lists.minutes
      · rw [if_pos hminute]
        simp only [reduceCtorEq, false_iff]
        tauto
      · rw [if_neg hminute]
        tauto
  · simp [hday]

theorem mem_offered_unit {plan : Plan} (h : plan.frequency.isSubDaily = true) (hC : plan.Canonical)
    {step : Nat} {wall : Int} : wall ∈ plan.offered step ↔
      (plan.frequency = .secondly → plan.pattern.lists.seconds = [] ∨
        secondOf (plan.stepStart step) ∈ plan.pattern.lists.seconds) ∧
      dayOf wall = dayOf (plan.stepStart step) ∧
      secondOfDay wall ∈ plan.unitTimes (plan.stepStart step) := by
  obtain ⟨unit, hunit⟩ : ∃ unit, plan.frequency.unitSeconds? = some unit :=
    Option.isSome_iff_exists.1 h
  have htimes : ∀ time ∈ plan.unitTimes (plan.stepStart step), time < 86400 := by
    rw [unitTimes_eq h]
    exact (hC.unitFields _).time_lt
  unfold offered
  rw [hunit]
  simp only [hC.seconds_eq, Bool.and_eq_true, Bool.not_eq_true', decide_eq_true_eq,
    List.isEmpty_eq_false_iff, ne_eq, ascending_eq_nil_iff, List.contains_eq_mem,
    decide_eq_false_iff_not, mem_ascending]
  split
  · next hmiss =>
    simp only [List.not_mem_nil, false_iff]
    tauto
  · next hfit =>
    rw [List.mem_map]
    constructor
    · rintro ⟨time, ht, rfl⟩
      obtain ⟨hday, htime⟩ := (eq_midnight_add_iff (htimes time ht)).1 rfl
      rw [hday, htime]
      exact ⟨by tauto, rfl, ht⟩
    · rintro ⟨-, hday, ht⟩
      exact ⟨_, ht, ((eq_midnight_add_iff (htimes _ ht)).2 ⟨hday, rfl⟩).symm⟩

theorem Canonical.mem_offered_unit {plan : Plan} (hC : plan.Canonical)
    (h : plan.frequency.isSubDaily = true) {step : Nat}
    (hm : plan.miss? (plan.stepStart step) = none) {wall : Int} :
    wall ∈ plan.offered step ↔ plan.Offers step wall := by
  obtain ⟨hday, hhour, hminute⟩ := (hC.miss?_eq_none_iff h).1 hm
  have hoffers : plan.Offers step wall ↔ plan.unitOf wall = plan.number step ∧
      plan.filter.accepts (dayOf wall) = true ∧ plan.pattern.timeFits plan.anchor wall :=
    ⟨fun ho => ⟨ho.unit, ho.day, ho.time⟩, fun ⟨h1, h2, h3⟩ => ⟨h1, h2, h3, .inl h⟩⟩
  rw [Plan.mem_offered_unit h hC, unitTimes_eq h, (hC.unitFields _).secondOfDay_mem_iff, hoffers,
    unitOf_eq_iff_fields h]
  unfold Pattern.timeFits minutesAt secondsAt
  rw [if_pos (hC.timed h), show plan.pattern.frequency = plan.frequency from rfl,
    hC.minutes_eq, hC.seconds_eq]
  -- The fields of the unit are those of its start, which are listed.
  cases hf : plan.frequency <;> rw [hf] at h hminute <;>
    simp only [Frequency.isSubDaily, Frequency.unitSeconds?, Option.isSome_none,
      Bool.false_eq_true] at h <;>
    simp only [Frequency.isSubDaily, Frequency.unitSeconds?, Option.isSome_some, reduceCtorEq,
      decide_true, decide_false, Bool.or_true, Bool.or_false, if_true, if_false,
      fieldFits_true_iff, fieldFits_false_iff, List.mem_singleton, ne_eq, not_true,
      not_false_eq_true, false_implies, true_implies] at hminute ⊢
  · grind
  · grind
  · grind

theorem mem_daysOf {start day : Int} {length : Nat} :
    day ∈ daysOf start length ↔ start ≤ day ∧ day < start + length ∧ day < lastDay := by
  unfold daysOf
  simp only [List.mem_filter, List.mem_map, List.mem_range, decide_eq_true_eq]
  constructor
  · rintro ⟨⟨i, hi, rfl⟩, hlast⟩
    omega
  · rintro ⟨hstart, hstop, hlast⟩
    exact ⟨⟨(day - start).toNat, by omega, by omega⟩, hlast⟩

theorem daysOf_pairwise (start : Int) (length : Nat) :
    (daysOf start length).Pairwise (· < ·) := by
  unfold daysOf
  apply List.Pairwise.filter
  rw [List.pairwise_map]
  refine List.pairwise_lt_range.imp ?_
  intro i j hij
  omega

theorem Canonical.mem_offered_days {plan : Plan} (hC : plan.Canonical)
    (h : plan.frequency.isSubDaily = false) {step : Nat}
    (hr : Representable (plan.stepStart step)) {wall : Int} :
    wall ∈ plan.offered step ↔ plan.Offers step wall := by
  have hunit : plan.frequency.unitSeconds? = none := by
    simpa [Frequency.isSubDaily] using h
  have hle := plan.unitStart_lt_succ (plan.number step)
  have hmono := dayOf_mono hle.le
  unfold offered
  rw [hunit, span?_eq hunit, if_pos hr]
  simp only [List.mem_flatMap, List.mem_map, List.mem_filter, mem_daysOf, stepStart]
  constructor
  · rintro ⟨day, ⟨⟨hstart, hstop, hlast⟩, hday⟩, time, ht, rfl⟩
    obtain ⟨hd, htime⟩ := (eq_midnight_add_iff (hC.times_lt time ht)).1 rfl
    refine ⟨(unitOf_eq_iff_day hunit).2 ?_, ?_, ?_, .inr ?_⟩
    · rw [hd]
      omega
    · rwa [hd]
    · rw [← hC.mem_times_iff h, htime]
      exact ht
    · rwa [hd]
  · intro ho
    have hlast := ho.reached.resolve_left (by simp [h])
    obtain ⟨hstart, hstop⟩ := (unitOf_eq_iff_day hunit).1 ho.unit
    have ht := (hC.mem_times_iff h wall).2 ho.time
    refine ⟨dayOf wall, ⟨⟨hstart, by omega, hlast⟩, ho.day⟩, _, ht, ?_⟩
    exact ((eq_midnight_add_iff (hC.times_lt _ ht)).2 ⟨rfl, rfl⟩).symm

theorem Canonical.mem_offered {plan : Plan} (hC : plan.Canonical) {step : Nat}
    (hr : Representable (plan.stepStart step))
    (hm : plan.miss? (plan.stepStart step) = none) {wall : Int} :
    wall ∈ plan.offered step ↔ plan.Offers step wall := by
  cases h : plan.frequency.isSubDaily with
  | false => exact hC.mem_offered_days h hr
  | true => exact hC.mem_offered_unit h hm

theorem Canonical.offered_pairwise {plan : Plan} (hC : plan.Canonical) (step : Nat) :
    (plan.offered step).Pairwise (· < ·) := by
  unfold offered
  split
  · next unit hunit =>
    dsimp only
    split
    · exact List.Pairwise.nil
    · rw [List.pairwise_map]
      refine (hC.unitTimes_pairwise (isSubDaily_iff hunit) _).imp ?_
      intro a b hab
      omega
  · split
    · rw [List.pairwise_flatMap]
      constructor
      · intro day _
        rw [List.pairwise_map]
        refine hC.times_pairwise.imp ?_
        intro a b hab
        omega
      · refine ((daysOf_pairwise _ _).filter _).imp ?_
        intro a b hab x hx y hy
        obtain ⟨s, hs, rfl⟩ := List.mem_map.1 hx
        obtain ⟨t, ht, rfl⟩ := List.mem_map.1 hy
        have := hC.times_lt s hs
        unfold midnight
        omega
    · exact List.Pairwise.nil

theorem Canonical.miss?_of_offers {plan : Plan} (hC : plan.Canonical) {step : Nat} {wall : Int}
    (ho : plan.Offers step wall) : plan.miss? (plan.stepStart step) = none := by
  by_cases h : plan.frequency.isSubDaily = true
  · obtain ⟨hday, hhour, hminute, hsecond⟩ := (unitOf_eq_iff_fields h).1 ho.unit
    have ht := ho.time
    unfold Pattern.timeFits at ht
    rw [if_pos (hC.timed h), show plan.pattern.frequency = plan.frequency from rfl, h,
      fieldFits_true_iff] at ht
    obtain ⟨hhours, hminutes, -⟩ := ht
    rw [hC.miss?_eq_none_iff h]
    refine ⟨?_, ?_, ?_⟩
    · exact hday ▸ ho.day
    · exact hhour ▸ hhours
    · intro hn
      have hfits : plan.frequency = .minutely ∨ plan.frequency = .secondly := by
        cases hf : plan.frequency <;> simp [hf, Frequency.isSubDaily, Frequency.unitSeconds?] at h hn ⊢
      rw [show (decide (plan.frequency = .minutely) || decide (plan.frequency = .secondly)) = true by
        simpa using hfits, fieldFits_true_iff, hminute hn] at hminutes
      exact hminutes
  · simp [miss?, h]

end Plan
end Recurrence

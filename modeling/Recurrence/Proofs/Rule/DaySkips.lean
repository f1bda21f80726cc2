import Mathlib
import Recurrence.Proofs.Rule.GiveUp
import Recurrence.Zone.Atlas

/-! When a rule finer than a day gives up over the days it skips. All its steps have
then been barren for a cycle of the calendar. Whether that shows the others to be
barren depends on the interval: it does if steps come back to their places in the
cycle, or if none leaps over a day. One cycle is taken to be enough in any case. -/
namespace Recurrence
open Calendar Relation

namespace Plan

/-- Whether a step finer than a day has no reading to select. -/
def IsBarren (plan : Plan) (step : Nat) : Prop :=
  plan.miss? (plan.stepStart step) = none →
    select plan.pattern.lists.positions (plan.offered step) = []

/-- Whether every step is barren since the one that a cursor remembers as the first to
miss, and is so by its day if none was counted. -/
def Retraces (plan : Plan) (cursor : Cursor) : Prop :=
  ∀ since ∈ cursor.emptySince, ∃ first, since = plan.stepStart first ∧
    ∀ step, first ≤ step → step < cursor.step → plan.IsBarren step ∧
      (cursor.emptySteps = 0 → plan.filter.accepts (dayOf (plan.stepStart step)) = false)

theorem retraces_of_none {plan : Plan} {cursor : Cursor} (h : cursor.emptySince = none) :
    plan.Retraces cursor := by
  intro since hs
  simp [h] at hs

theorem accepts_of_miss? {plan : Plan} {wall target : Int}
    (h : plan.miss? wall = some (target, true)) : plan.filter.accepts (dayOf wall) = false := by
  unfold miss? at h
  split_ifs at h <;> simp_all

/-- Where a miss leads past, all steps are barren, by their day unless the miss
counts. -/
theorem isBarren_of_missesTo? {plan : Plan} {i j next : Nat} {counted : Bool}
    (h : plan.missesTo? i = some (counted, next)) (hij : i ≤ j) (hj : j < next) :
    plan.IsBarren j ∧
      (counted = false → plan.filter.accepts (dayOf (plan.stepStart j)) = false) := by
  rcases missesTo?_cases h with ⟨byDay, he, rfl⟩ | ⟨he, rfl, rfl⟩
  · obtain ⟨-, -, target, hm, -, rfl⟩ := evaluate_eq_leap_iff.1 he
    obtain ⟨-, hmiss⟩ := miss?_of_lt_stepFrom hm hij hj
    constructor
    · intro hnone
      simp [hmiss] at hnone
    · intro hcounted
      obtain rfl : byDay = true := by simpa using hcounted
      exact accepts_of_miss? hmiss
  · obtain rfl : j = i := by omega
    refine ⟨fun hnone => ?_, fun hcounted => nomatch hcounted⟩
    rw [evaluate_eq, hnone] at he
    split_ifs at he
    exact Step.candidates.inj he

variable {plan : Plan}

theorem Retraces.missed {cursor : Cursor} (h : plan.Retraces cursor) {counted : Bool} {next : Nat}
    (hm : plan.missesTo? cursor.step = some (counted, next)) :
    plan.Retraces (plan.missed cursor counted next) := by
  have hzero : (plan.missed cursor counted next).emptySteps = 0 →
      cursor.emptySteps = 0 ∧ counted = false := by
    cases counted <;> simp [Plan.missed]
  intro since hs
  rcases mem_emptySince_missed.1 hs with hs | ⟨-, -, rfl⟩
  · obtain ⟨first, rfl, hall⟩ := h since hs
    refine ⟨first, rfl, fun step hle hlt => ?_⟩
    rcases lt_or_ge step cursor.step with hbefore | hhere
    · exact (hall step hle hbefore).imp_right fun hday hempty => hday (hzero hempty).1
    · exact (isBarren_of_missesTo? hm hhere hlt).imp_right fun hday hempty => hday (hzero hempty).2
  · refine ⟨cursor.step, rfl, fun step hle hlt => ?_⟩
    exact (isBarren_of_missesTo? hm hle hlt).imp_right fun hday hempty => hday (hzero hempty).2

theorem Retraces.goes {cursor next : Cursor} (h : plan.Retraces cursor)
    (hmove : plan.Goes cursor next) : plan.Retraces next := by
  cases hmove with
  | passed hw hj => exact h
  | found hw hj => exact h
  | missed hw hg hm => exact h.missed hm
  | yielded hw hg hy => exact retraces_of_none rfl

theorem Retraces.reaches {cursor stuck : Cursor} (h : plan.Retraces cursor)
    (hpath : ReflTransGen plan.Goes cursor stuck) : plan.Retraces stuck := by
  induction hpath with
  | refl => exact h
  | tail _ hmove ih => exact ih.goes hmove

variable (hsub : plan.frequency.isSubDaily = true)
include hsub

theorem Retraces.exists_cycle {stuck : Cursor} (h : plan.Retraces stuck)
    (hspan : plan.hasSpanned stuck = true) :
    ∃ first, plan.number first + plan.frequency.cycleUnits ≤ plan.number stuck.step ∧
      ∀ step, first ≤ step → step < stuck.step → plan.IsBarren step ∧
        (stuck.emptySteps = 0 → plan.filter.accepts (dayOf (plan.stepStart step)) = false) := by
  obtain ⟨since, hs, -, hlong⟩ := hasSpanned_iff.1 hspan
  obtain ⟨first, rfl, hall⟩ := h since hs
  refine ⟨first, ?_, hall⟩
  have hcycle := plan.unitStart_cycle (plan.number first) 1
  rw [mul_one] at hcycle
  rw [← unitStart_le_iff, hcycle]
  simp only [hsub, gregorianCycle, if_true] at hlong
  push_cast at hlong
  unfold stepStart at hlong
  unfold cycleSeconds
  omega

omit hsub in
theorem exists_step_on_day {unit : Nat} (hunit : plan.frequency.unitSeconds? = some unit)
    (hshort : plan.stepSeconds unit ≤ 86400) {first last : Nat} {day : Int}
    (hlow : dayOf (plan.stepStart first) ≤ day) (hhigh : day < dayOf (plan.stepStart last)) :
    ∃ step, first ≤ step ∧ step < last ∧ dayOf (plan.stepStart step) = day := by
  induction last with
  | zero =>
    have := dayOf_mono (@stepStart_le_iff plan _ _ |>.2 (Nat.zero_le first))
    omega
  | succ last ih =>
    rcases lt_or_ge day (dayOf (plan.stepStart last)) with hbefore | hhere
    · obtain ⟨step, hfirst, hlast, hday⟩ := ih hbefore
      exact ⟨step, hfirst, by omega, hday⟩
    · have hnext : plan.stepStart (last + 1) ≤ plan.stepStart last + 86400 := by
        rw [stepStart_of_unit hunit, stepStart_of_unit hunit]
        push_cast
        rw [add_mul]
        omega
      have hadjacent : dayOf (plan.stepStart (last + 1)) ≤ dayOf (plan.stepStart last) + 1 := by
        unfold dayOf
        omega
      refine ⟨last, ?_, Nat.lt_succ_self _, by omega⟩
      by_contra hfirst
      have := dayOf_mono (@stepStart_le_iff plan (last + 1) first |>.2 (by omega))
      omega

theorem frequency_ne {coarse : Frequency} (h : coarse.isSubDaily = false) :
    plan.frequency ≠ coarse := by
  rintro rfl
  simp [hsub] at h

theorem Canonical.offers_of_number (hC : plan.Canonical) {early step cycles : Nat}
    (hnumber : step * plan.interval = early * plan.interval + plan.frequency.cycleUnits * cycles)
    {wall : Int} (h : wall ∈ plan.pattern.readings plan.anchor step) :
    plan.Offers early (wall - cycleSeconds cycles) := by
  have hunit := unitOf_eq_number_of_mem_readings
    (fun hweekly => absurd hweekly (frequency_ne hsub rfl)) h
  have hweeks := hC.weekNumbers_eq_nil (frequency_ne hsub rfl)
  refine ⟨unitOf_sub_cycle (by exact_mod_cast hnumber) hunit, ?_, ?_, .inl hsub⟩
  · have hday := h.day
    rw [show wall = wall - cycleSeconds cycles + cycleSeconds cycles by omega, dayOf_cycle] at hday
    exact DayFilter.accepts_of_cycle (Int.natCast_nonneg _) (.inl hweeks) (hC.filter_eq ▸ hday)
  · apply (Pattern.timeFits_cycle _ cycles).1
    rw [sub_add_cancel]
    exact h.time

theorem Canonical.not_selected_of_isBarren (hC : plan.Canonical) {early step cycles : Nat}
    (hbarren : plan.IsBarren early)
    (hnumber : step * plan.interval = early * plan.interval + plan.frequency.cycleUnits * cycles)
    (wall : Int) : ¬ Selected plan.pattern.lists.positions
      (plan.pattern.readings plan.anchor step) wall := by
  intro hselected
  have hmiss := hC.miss?_of_offers (hC.offers_of_number hsub hnumber hselected.1)
  exact hC.not_selected_of_offered (hbarren hmiss)
    (fun v hv => (hC.mem_offered_unit hsub hmiss).2 (hC.offers_of_number hsub hnumber hv))
    wall hselected

/-- No step follows on a day of the filter where days have been skipped for a cycle,
without counting a step and without leaping over a day. -/
theorem Canonical.not_selected_of_every_day (hC : plan.Canonical) {unit : Nat}
    (hunit : plan.frequency.unitSeconds? = some unit) (hshort : plan.stepSeconds unit ≤ 86400)
    {stuck : Cursor} (h : plan.Retraces stuck) (hspan : plan.hasSpanned stuck = true)
    (hempty : stuck.emptySteps = 0) {step : Nat} (hstep : stuck.step ≤ step) (wall : Int) :
    ¬ Selected plan.pattern.lists.positions (plan.pattern.readings plan.anchor step) wall := by
  rintro ⟨hmem, -⟩
  obtain ⟨first, hcycle, hall⟩ := h.exists_cycle hsub hspan
  have hlong : dayOf (plan.stepStart first) + 146097 ≤ dayOf (plan.stepStart stuck.step) := by
    have hle := dayOf_mono ((@unitStart_le_iff plan _ _).2 hcycle)
    rwa [← mul_one (plan.frequency.cycleUnits : Int), unitStart_cycle, dayOf_cycle] at hle
  have hlater : dayOf (plan.stepStart stuck.step) ≤ dayOf (plan.stepStart step) :=
    dayOf_mono (stepStart_le_iff.2 hstep)
  -- The day among those skipped that lies as far into a cycle as the step's.
  obtain ⟨day, cycles, hlow, hhigh, hcycles, hday⟩ : ∃ day cycles : Int,
      dayOf (plan.stepStart first) ≤ day ∧ day < dayOf (plan.stepStart stuck.step) ∧
        0 ≤ cycles ∧ dayOf (plan.stepStart step) = day + 146097 * cycles := by
    generalize dayOf (plan.stepStart step) = last at *
    generalize dayOf (plan.stepStart stuck.step) = here at *
    exact ⟨here - 146097 + (last - here) % 146097, (last - here) / 146097 + 1,
      by omega, by omega, by omega, by omega⟩
  obtain ⟨early, hfirst, hlast, rfl⟩ := exists_step_on_day hunit hshort hlow hhigh
  have hrejected := (hall early hfirst hlast).2 hempty
  have hnumber := unitOf_eq_number_of_mem_readings
    (fun hweekly => absurd hweekly (frequency_ne hsub rfl)) hmem
  have haccepted := hC.filter_eq ▸ hmem.day
  rw [((unitOf_eq_iff_fields hsub).1 hnumber).1, hday] at haccepted
  have hweeks := hC.weekNumbers_eq_nil (frequency_ne hsub rfl)
  rw [DayFilter.accepts_of_cycle hcycles (.inl hweeks) haccepted] at hrejected
  exact absurd hrejected (by decide)

/-- Where the days skipped span a cycle, no reading is selected from there on, if steps
come back to their places in the cycle or if none leaps over a day and none counts. -/
theorem Canonical.not_selected_of_hasSpanned (hC : plan.Canonical) {unit : Nat}
    (hunit : plan.frequency.unitSeconds? = some unit) {stuck : Cursor} (h : plan.Retraces stuck)
    (hspan : plan.hasSpanned stuck = true)
    (hinterval : plan.interval ∣ plan.frequency.cycleUnits ∨
      plan.frequency.cycleUnits ∣ plan.interval ∨
        plan.interval * unit ≤ 86400 ∧ stuck.emptySteps = 0)
    {step : Nat} (hstep : stuck.step ≤ step) (wall : Int) :
    ¬ Selected plan.pattern.lists.positions (plan.pattern.readings plan.anchor step) wall := by
  rcases or_assoc.2 hinterval with hdvd | ⟨hshort, hempty⟩
  · obtain ⟨first, hcycle, hall⟩ := h.exists_cycle hsub hspan
    obtain ⟨early, cycles, hfirst, hlast, hnumber⟩ := exists_early_of_dvd plan.interval_pos
      plan.frequency.cycleUnits_pos hdvd (by exact_mod_cast hcycle) hstep
    exact hC.not_selected_of_isBarren hsub (hall early hfirst hlast).1 hnumber wall
  · exact hC.not_selected_of_every_day hsub hunit hshort h hspan hempty hstep wall

end Plan

namespace Run

/-- A rule finer than a day that gives up before it has counted as many empty steps as
its limit has no candidate from there on, not even where its end or the calendar's
would have hidden it, if steps come back to their places in a cycle of the calendar, or
if none leaps over a day and none was counted. -/
theorem nothing_behind_daySkips {clocks : Clocks} {pattern : Pattern} {anchor : DateTime}
    {run : Run} (hstart : Run.start clocks pattern anchor = .ok run)
    (hanchor : anchor.InCalendar) {unit : Nat}
    (hunit : pattern.frequency.unitSeconds? = some unit) (limit : UInt32)
    (first last : Option Int) :
    let part := (run.withEmptyLimit limit).between first last
    (.error (.evaluation (.emptySteps limit)) ∈ part.toList ↔
      ∃ stuck, part.plan.Strands part.cursor stuck) ∧
    ∀ stuck, part.plan.Strands part.cursor stuck → stuck.emptySteps < limit.toNat →
      (pattern.interval.toNat ∣ pattern.frequency.cycleUnits ∨
        pattern.frequency.cycleUnits ∣ pattern.interval.toNat ∨
          pattern.interval.toNat * unit ≤ 86400 ∧ stuck.emptySteps = 0) →
      ∀ step, stuck.step ≤ step →
        ∀ wall, ¬ Plan.Selected pattern.lists.positions (pattern.readings anchor step) wall := by
  intro part
  obtain ⟨hcursor, hopens⟩ := Run.opens_withEmptyLimit hstart limit
  obtain ⟨begin, hbetween, -⟩ :=
    between_eq hcursor hopens.resume_eq hopens.horizon_eq first last
  have hpart : part = ⟨(run.withEmptyLimit limit).plan.limited first last, .before begin⟩ :=
    hbetween
  have hC := (hopens.canonical hanchor).limited first last
  obtain rfl := hopens.pattern_eq
  obtain rfl := hopens.anchor_eq
  have hsub : ((run.withEmptyLimit limit).plan.limited first last).frequency.isSubDaily = true :=
    Plan.isSubDaily_iff hunit
  rw [hpart]
  refine ⟨hC.mem_items_iff_strands _, ?_⟩
  rintro stuck ⟨hpath, -, hg⟩ hfew hinterval step hstep wall
  have hretraces := (Plan.retraces_of_none rfl).reaches hpath
  rw [Plan.givesUp_iff, if_pos hsub] at hg
  have hspan := hg.resolve_left (not_le.2 hfew)
  exact hC.not_selected_of_hasSpanned hsub hunit hretraces hspan hinterval hstep wall

end Run

/-- Sundays among days so many hours apart. -/
def sundaysEvery (hours : UInt32) (hpos : 0 < hours.toNat) : Pattern :=
  { Pattern.ofFrequency .hourly with
    interval := hours
    lists := { ByLists.empty with days := [⟨none, .sunday⟩] }
    interval_pos := hpos
    inRange := by constructor <;> simp [ByLists.empty]
    fits := by constructor <;> simp [ByLists.empty] }

section SundaysEvery

variable {clocks : Clocks} {plan : Plan} {hours : UInt32} {hpos : 0 < hours.toNat}
  (h : plan.Opens clocks (sundaysEvery hours hpos) (.time 946684800 .floating))
include h

theorem Plan.Opens.unit_sundaysEvery : plan.frequency.unitSeconds? = some 3600 := by
  rw [frequency, h.pattern_eq]
  rfl

theorem Plan.Opens.stepStart_sundaysEvery (step : Nat) :
    plan.stepStart step = 946684800 + step * (hours.toNat * 3600) := by
  have hbase : plan.base 3600 = 946684800 := by rw [base, h.anchor_eq]; rfl
  have hlength : plan.stepSeconds 3600 = hours.toNat * 3600 := by
    rw [stepSeconds, interval, h.pattern_eq]
    rfl
  rw [stepStart_of_unit h.unit_sundaysEvery, hbase, hlength]
  push_cast
  ring

theorem Plan.Opens.miss?_sundaysEvery : plan.miss? 946684800 = some (946771200, true) := by
  have hday : dayOf 946684800 = 10957 := by decide
  have hsaturday : plan.filter.accepts 10957 = false := by
    rw [h.filter_eq]
    exact show (DayFilter.ofPattern (sundaysEvery 1 (by decide)) 10957).accepts _ = false by
      decide
  simp [miss?, isSubDaily_iff h.unit_sundaysEvery, hday, hsaturday, midnight]

/-- From a Saturday on, one step over a cycle or more makes such a rule give up. -/
theorem Plan.Opens.strands_sundaysEvery (hlimit : 0 < plan.emptyLimit.toNat)
    (hlong : 3506328 ≤ hours.toNat) (hnear : hours.toNat ≤ 4000000) :
    ∃ stuck, plan.Strands (.before 0) stuck ∧ stuck.step = 1 ∧ stuck.emptySteps = 0 := by
  have hsub := isSubDaily_iff h.unit_sundaysEvery
  have hzero : plan.stepStart 0 = 946684800 := by simp [h.stepStart_sundaysEvery]
  have hone : plan.stepStart 1 = 946684800 + hours.toNat * 3600 := by
    simp [h.stepStart_sundaysEvery]
  have hnext : plan.stepFrom 0 946771200 = 1 := by
    apply le_antisymm
    · rw [stepFrom_le_iff hsub, hone]
      omega
    · rw [Nat.one_le_iff_ne_zero, ne_eq, ← Nat.le_zero, stepFrom_le_iff hsub]
      simp
  have hleap : plan.evaluate 0 = .leap true 1 := by
    refine evaluate_eq_leap_iff.2 ⟨?_, ?_, 946771200, ?_, by decide, hnext.symm⟩
    · rw [hzero]
      decide
    · exact isPastStop_eq_false (h.bound_eq_none rfl) h.horizon_eq _
    · rw [hzero, h.miss?_sundaysEvery]
  have hmisses : plan.missesTo? (Cursor.before 0).step = some (false, 1) := by
    simp [missesTo?, Cursor.before, hleap, Step.leap]
  have hgoes : plan.givesUp (.before 0) = false := by
    simp [givesUp, hsub, hasSpanned, Cursor.before, hlimit.ne']
  -- The one step misses by its day, which is not counted, and spans more than a cycle.
  refine ⟨_, ⟨.single (.missed rfl hgoes hmisses), rfl, ?_⟩, rfl, rfl⟩
  rw [givesUp_iff, if_pos hsub, hasSpanned_iff]
  refine .inr ⟨plan.stepStart 0, mem_emptySince_missed.2 (.inr ⟨rfl, ?_, rfl⟩), ?_, ?_⟩
  · rw [Cursor.before, hzero]
    decide
  · change Representable (plan.stepStart 1)
    rw [hone]
    unfold Representable firstSecond lastSecond midnight
    simp only [firstDay, lastDay]
    omega
  · change _ ≤ (plan.stepStart 1 - plan.stepStart 0) / 86400
    rw [hone, hzero]
    simp only [hsub, gregorianCycle, if_true]
    omega

end SundaysEvery

/-- Steps of a whole cycle come back to a Saturday, so that giving up is right. -/
theorem Run.nothing_behind_sundaysEvery_cycle : ∃ run stuck,
    Run.start (Resolver.empty Zone.Atlas.database).clocks (sundaysEvery 3506328 (by decide))
      (.time 946684800 .floating) = .ok run ∧
    (run.withEmptyLimit 1000).plan.Strands run.cursor stuck ∧ stuck.emptySteps < 1000 ∧
    .error (.evaluation (.emptySteps 1000)) ∈ (run.withEmptyLimit 1000).toList ∧
    ∀ step, stuck.step ≤ step → ∀ wall, ¬ Plan.Selected []
      ((sundaysEvery 3506328 (by decide)).readings (.time 946684800 .floating) step) wall := by
  cases hrun : Run.start (Resolver.empty Zone.Atlas.database).clocks
      (sundaysEvery 3506328 (by decide)) (.time 946684800 .floating) with
  | error error => exact absurd hrun (by rintro ⟨⟩)
  | ok run =>
    obtain ⟨hcursor, hopens⟩ := Run.opens_withEmptyLimit hrun 1000
    obtain ⟨stuck, hstuck, -, hempty⟩ :=
      hopens.strands_sundaysEvery (show 0 < (1000 : UInt32).toNat by decide) (by decide) (by decide)
    have hfew : stuck.emptySteps < (1000 : UInt32).toNat := by rw [hempty]; decide
    have hunit : (sundaysEvery 3506328 (by decide)).frequency.unitSeconds? = some 3600 := rfl
    obtain ⟨hfails, hbehind⟩ :=
      nothing_behind_daySkips hrun (by decide) hunit 1000 none none
    rw [← hcursor] at hstuck
    exact ⟨run, stuck, rfl, hstuck, hfew, hfails.2 ⟨stuck, hstuck⟩,
      hbehind stuck hstuck hfew (.inl (by decide))⟩

/-- Steps of a cycle and a day go on to a Sunday, so that giving up is wrong. -/
theorem Run.sunday_behind_sundaysEvery : ∃ run stuck,
    Run.start (Resolver.empty Zone.Atlas.database).clocks (sundaysEvery 3506352 (by decide))
      (.time 946684800 .floating) = .ok run ∧
    (run.withEmptyLimit 1000).plan.Strands run.cursor stuck ∧ stuck.emptySteps < 1000 ∧
    .error (.evaluation (.emptySteps 1000)) ∈ (run.withEmptyLimit 1000).toList ∧
    stuck.step ≤ 1 ∧ Plan.Selected []
      ((sundaysEvery 3506352 (by decide)).readings (.time 946684800 .floating) 1) 13569552000 := by
  cases hrun : Run.start (Resolver.empty Zone.Atlas.database).clocks
      (sundaysEvery 3506352 (by decide)) (.time 946684800 .floating) with
  | error error => exact absurd hrun (by rintro ⟨⟩)
  | ok run =>
    obtain ⟨hcursor, hopens⟩ := Run.opens_withEmptyLimit hrun 1000
    obtain ⟨stuck, hstuck, hstep, hempty⟩ :=
      hopens.strands_sundaysEvery (show 0 < (1000 : UInt32).toNat by decide) (by decide) (by decide)
    have hC := hopens.canonical (by decide)
    rw [← hcursor] at hstuck
    have hfails := (hC.mem_items_iff_strands _).2 ⟨stuck, hstuck⟩
    refine ⟨run, stuck, rfl, hstuck, by omega, hfails, hstep.le, ?_⟩
    refine Plan.selected_nil.2 ⟨by decide, by decide, by decide, ?_⟩
    simp [Pattern.timeFits, fieldFits, sundaysEvery, ByLists.empty, Pattern.ofFrequency,
      DateTime.hasTime, DateTime.wall, Frequency.isSubDaily, Frequency.unitSeconds?]
    decide

end Recurrence

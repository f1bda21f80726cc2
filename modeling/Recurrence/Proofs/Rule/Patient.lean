import Mathlib
import Recurrence.Proofs.Rule.GiveUp
import Recurrence.Proofs.Rule.Limited

/-! Rules of days under a limit of a thousand empty steps or more, wherever in the
calendar they start. They give up only where nothing follows. Without a clock no
reading fails, so a run between two instants has just those instances of the whole
run that lie between them. -/
namespace Recurrence
open Calendar

/-- The limit that no rule of days exceeds within the calendar. -/
def highestLimit : UInt32 := 4294967295

namespace Plan

variable {plan : Plan} (hC : plan.Canonical) (hdays : plan.frequency.isSubDaily = false)
include hC hdays

/-- What a step offers, the step some cycles before it offers too. Years count from
the third on, since weeks have no numbers at the calendar's start. -/
theorem Canonical.offers_before {step cycles : Nat} (hlate : plan.frequency = .yearly → 2 ≤ step)
    {wall : Int} (h : plan.Offers (step + plan.frequency.cycleUnits * cycles) wall) :
    plan.Offers step (wall - cycleSeconds (cycles * plan.interval)) := by
  have hcycles : (0 : Int) ≤ cycles * plan.interval :=
    Int.mul_nonneg (Int.natCast_nonneg _) (Int.natCast_nonneg _)
  have hnumber := plan.number_cycle step cycles
  push_cast at hnumber
  have hunit := unitOf_sub_cycle hnumber h.unit
  obtain ⟨earlier, rfl⟩ : ∃ earlier, wall = earlier + cycleSeconds (cycles * plan.interval) :=
    ⟨wall - cycleSeconds (cycles * plan.interval), by omega⟩
  rw [add_sub_cancel_right] at hunit ⊢
  refine ⟨hunit, ?_, (Pattern.timeFits_cycle _ _).1 h.time, .inr ?_⟩
  · have hday := h.day
    rw [dayOf_cycle] at hday
    refine DayFilter.accepts_of_cycle hcycles ?_ hday
    by_cases hyearly : plan.frequency = .yearly
    · right
      have hbounds := InCalendar.yearOf_bounds hC.day_mem
      have hstep : (step : Int) ≤ step * plan.interval :=
        le_mul_of_one_le_right (Int.natCast_nonneg _) (by exact_mod_cast plan.interval_pos)
      have := hlate hyearly
      simp only [unitOf, hyearly, number] at hunit
      omega
    · exact .inl (hC.weekNumbers_eq_nil hyearly)
  · have hreached := h.reached.resolve_left (by simp [hdays])
    rw [dayOf_cycle] at hreached
    omega

theorem Canonical.yields_of_cycle {step cycles : Nat} (hlate : plan.frequency = .yearly → 2 ≤ step)
    (hmiss : (plan.missesTo? step).isSome = true) :
    plan.yields (step + plan.frequency.cycleUnits * cycles) = [] := by
  rw [List.eq_nil_iff_forall_not_mem]
  intro wall hw
  rw [yields_eq] at hw
  split at hw
  · next hopen =>
    obtain ⟨hr, -, hm⟩ := hopen
    have hoffers : ∀ v ∈ {v | v ∈ plan.offered (step + plan.frequency.cycleUnits * cycles)},
        plan.Offers step (v - cycleSeconds (cycles * plan.interval)) :=
      fun v hv => hC.offers_before hdays hlate ((hC.mem_offered hr hm).1 hv)
    exact hC.not_selected_of_shift hdays hmiss hoffers wall
      ((mem_select (hC.offered_pairwise _)).1 hw)
  · exact List.not_mem_nil hw

/-- Walks miss nothing under a limit of a thousand empty steps or more. -/
theorem Canonical.missesNone (hlimit : 1000 ≤ plan.emptyLimit.toNat) : plan.MissesNone := by
  intro first walls gaveUp hwalks wall
  refine hC.mem_walks_iff_of_known hdays
    (fun cursor => plan.Recalls cursor ∧ cursor.emptySteps ≤ cursor.step)
    (fun step => ⟨recalls_of_none rfl, Nat.zero_le _⟩) ?_ ?_ hwalks
    ⟨recalls_of_none rfl, Nat.zero_le _⟩
  · rintro cursor counted next ⟨hr, hempty⟩ hm
    refine ⟨hr.missed hdays hm, ?_⟩
    have hlt := lt_of_missesTo? hm
    simp only [missed]
    split <;> omega
  · rintro stuck step ⟨hr, hempty⟩ hg hstep
    obtain ⟨early, cycles, hlate, -, rfl, hmiss⟩ := hr.exists_missed hdays hg hstep
    rw [givesUp_iff, if_neg (by simp [hdays])] at hg
    -- As many empty steps as the limit come before the run gives up, which is past the first
    -- years.
    have hlast := hg.1
    refine hC.yields_of_cycle hdays (fun hyearly => ?_) hmiss
    rw [hyearly] at hlate
    simp only [Frequency.cycleUnits] at hlate
    omega

omit hC in
theorem stepStart_zero_add_days_le (step : Nat) :
    plan.stepStart 0 + step * 86400 ≤ plan.stepStart step := by
  have hunit : plan.frequency.unitSeconds? = none := by
    simpa [Frequency.isSubDaily] using hdays
  induction step with
  | zero => simp
  | succ step ih =>
    have hlt : plan.stepStart step < plan.stepStart (step + 1) :=
      stepStart_lt_iff.2 (Nat.lt_add_one step)
    have hday := midnight_dayOf_unitStart hunit (plan.number step)
    have hday' := midnight_dayOf_unitStart hunit (plan.number (step + 1))
    unfold midnight at hday hday'
    unfold stepStart at *
    push_cast at ih ⊢
    omega

theorem Canonical.walks_highestLimit (hlimit : plan.emptyLimit = highestLimit) {cursor : Cursor}
    {walls : List Int} {gaveUp : Bool} (h : plan.Walks cursor walls gaveUp)
    (hempty : cursor.emptySteps ≤ cursor.step) : gaveUp = false := by
  induction h with
  | @gaveUp cursor hg =>
    rw [givesUp_iff, if_neg (by simp [hdays]), hasSpanned_iff, hlimit] at hg
    obtain ⟨hcount, _, -, ⟨-, hhigh⟩, -⟩ := hg
    have hlow := hC.stepStart_zero.1
    have hle := stepStart_zero_add_days_le hdays cursor.step
    have hmany : (highestLimit.toNat : Int) ≤ cursor.step := by
      exact_mod_cast hcount.trans hempty
    have hlong : lastSecond < firstSecond + highestLimit.toNat * 86400 := by decide
    omega
  | exhausted hg he => rfl
  | @missed cursor counted next walls gaveUp hg hm rest ih =>
    apply ih
    have hlt := lt_of_missesTo? hm
    simp only [missed]
    split <;> omega
  | yielded hg hy rest ih => exact ih (Nat.zero_le _)

end Plan

theorem Plan.judge_ne_fail {plan : Plan} (hclock : plan.clock = none) (emitted : Nat)
    (latest : Option TimelineKey) (wall : Int) (error : Failure) :
    plan.judge emitted latest wall ≠ .fail error := by
  obtain ⟨found, hf⟩ : ∃ found, plan.instanceAt wall = .ok found := by
    unfold instanceAt
    rw [hclock]
    cases plan.anchor <;> exact ⟨_, rfl⟩
  intro h
  obtain ⟨cause, herror, -⟩ := of_judge_fail h
  cases hf.symm.trans herror

theorem Plan.error_notMem_judged {plan : Plan} (hclock : plan.clock = none)
    (error : Failure) (walls : List Int) (emitted : Nat) (latest : Option TimelineKey) :
    .error error ∉ plan.judged [] emitted latest walls := by
  induction walls generalizing emitted latest with
  | nil => exact List.not_mem_nil
  | cons wall walls ih =>
    rw [judged]
    cases hj : plan.judge emitted latest wall with
    | pass => exact ih emitted latest
    | stop => simp
    | fail cause => exact absurd hj (judge_ne_fail hclock emitted latest wall cause)
    | found found shown final => cases shown <;> cases final <;> simp [ih]

theorem Plan.Canonical.mem_items_highestLimit {plan : Plan} (hC : plan.Canonical)
    (hdays : plan.frequency.isSubDaily = false) (hlimit : plan.emptyLimit = defaultEmptyLimit)
    (step : Nat) (found : Instance) : .ok found ∈ plan.items (.before step) ↔
      .ok found ∈ (plan.tolerating highestLimit).items (.before step) := by
  have hsame : plan.tolerating defaultEmptyLimit = plan := by
    rw [← hlimit]
    rfl
  have hmisses : ∀ limit : UInt32, 1000 ≤ limit.toNat → (plan.tolerating limit).MissesNone :=
    fun limit hle => (hC.tolerating limit).missesNone hdays hle
  have heq := hC.successes_tolerating_of_missesNone step
    (hmisses defaultEmptyLimit (by decide)) (hmisses highestLimit (by decide))
  rw [hsame] at heq
  rw [← mem_successes, heq, mem_successes]

namespace Run

variable {clocks : Clocks} {pattern : Pattern} {wall : Int} {run : Run}

theorem emptyLimit_of_start {anchor : DateTime} (h : Run.start clocks pattern anchor = .ok run) :
    run.plan.emptyLimit = Plan.defaultEmptyLimit := by
  unfold Run.start Plan.of at h
  by_cases htimed : (pattern.frequency.isSubDaily && !anchor.hasTime) = true
  · simp [htimed] at h
  · rw [if_neg htimed] at h
    simp only [bind_eq_ok_iff, pure_eq_ok_iff] at h
    obtain ⟨_, ⟨clock, -, bound, -, rfl⟩, rfl⟩ := h
    rfl

theorem mem_slice_iff {first last : Option Int} {items : List Item} {found : Instance} :
    .ok found ∈ slice first last items ↔
      .ok found ∈ items ∧ found.isWithin first last = true := by
  rw [slice, List.mem_map]
  simp only [Except.ok.injEq, exists_eq_right, List.mem_filter, mem_successes]

theorem reaches_highestLimit (hcursor : run.cursor = .before 0) (hC : run.plan.Canonical)
    (hclock : run.plan.clock = none) (hdays : run.plan.frequency.isSubDaily = false)
    (hlimit : run.plan.emptyLimit = highestLimit) (last : Option Int) :
    Reaches last run.toList := by
  obtain ⟨walls, gaveUp, hwalks⟩ := hC.exists_walks (.before 0)
  obtain rfl := hC.walks_highestLimit hdays hlimit hwalks (Nat.zero_le _)
  have hitems := toList_eq_judged hC hwalks
  rw [← hcursor] at hitems
  refine .inl fun error => ?_
  rw [hitems]
  exact Plan.error_notMem_judged hclock error walls 0 none

theorem mem_limited_highestLimit {anchor : DateTime} (hcursor : run.cursor = .before 0)
    (hopens : run.plan.Opens clocks pattern anchor) (hA : anchor.InCalendar)
    (hclock : run.plan.clock = none) (hdays : run.plan.frequency.isSubDaily = false)
    (hlimit : run.plan.emptyLimit = highestLimit) {first last : Option Int}
    (hopen : ∀ start ∈ first, ∀ stop ∈ last, start ≤ stop) {step : Nat}
    (hstep : run.plan.BeginsBefore first step) (found : Instance) :
    .ok found ∈ (Run.mk (run.plan.limited first last) (.before step)).toList ↔
      .ok found ∈ run.toList ∧ found.isWithin first last = true := by
  have hC := hopens.canonical hA
  have hn : run.plan.IsNear := Plan.isNear_of_clock (by simp [hclock])
  obtain ⟨tail, htail, hnone⟩ := limited_eq_append hC hn hcursor hopens.resume_eq
    hopens.horizon_eq hopen hstep
  rw [← mem_slice_iff]
  constructor
  · intro hmem
    obtain ⟨_, -, hf, hbound, hwithin⟩ := of_mem_limited hC hmem
    have hreach : Reaches last run.toList :=
      reaches_highestLimit hcursor hC hclock hdays hlimit last
    have hpass : ∀ start ∈ first, ¬ run.plan.Passes start := by
      intro start hs hp
      rw [Option.mem_def] at hs
      simp only [Instance.isWithin, hs, Option.all_some, Bool.and_eq_true,
        decide_eq_true_eq] at hwithin
      obtain ⟨_, -, clock, hsome, -⟩ :=
        Plan.of_passes hn (by simp [hclock]) hp hf hbound hwithin.1
      simp [hclock] at hsome
    rwa [htail, hnone hreach hpass, List.append_nil] at hmem
  · intro hmem
    rw [htail]
    exact List.mem_append_left _ hmem

/-- Between two instants a rule of days on no clock has the instances of the whole
rule that lie between them, from whatever step its run may begin at. -/
theorem mem_limited_of_days (hstart : Run.start clocks pattern (.time wall .floating) = .ok run)
    (hwall : Representable wall) (hdays : pattern.frequency.isSubDaily = false)
    {first last : Option Int} (hopen : ∀ start ∈ first, ∀ stop ∈ last, start ≤ stop) {step : Nat}
    (hstep : run.plan.BeginsBefore first step) {found : Instance} :
    .ok found ∈ (Run.mk (run.plan.limited first last) (.before step)).toList ↔
      .ok found ∈ run.toList ∧ found.isWithin first last = true := by
  obtain ⟨hcursor, hopens⟩ := Run.opens hstart
  obtain ⟨hcursor', hopens'⟩ := Run.opens_withEmptyLimit hstart highestLimit
  have hA : (DateTime.time wall .floating).InCalendar := hwall
  have hdays' : run.plan.frequency.isSubDaily = false := by
    rw [Plan.frequency, hopens.pattern_eq]
    exact hdays
  have hC := hopens.canonical hA
  have hhigh := mem_limited_highestLimit hcursor' hopens' hA (hopens'.clock_eq_none rfl)
    hdays' rfl hopen hstep found
  -- The limit makes no difference to the instances, between the instants or without.
  have hpart := (hC.limited first last).mem_items_highestLimit hdays'
    (emptyLimit_of_start hstart) step found
  have hwhole := hC.mem_items_highestLimit hdays' (emptyLimit_of_start hstart) 0 found
  change .ok found ∈ (run.plan.limited first last).items (.before step) ↔
    .ok found ∈ run.plan.items run.cursor ∧ _
  rw [hpart, hcursor, hwhole]
  exact hhigh.trans (by rw [← hcursor]; rfl)

end Run
end Recurrence

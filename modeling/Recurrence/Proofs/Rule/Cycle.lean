import Mathlib
import Recurrence.Proofs.Calendar.Cycle
import Recurrence.Proofs.Rule.Meaning

/-! Steps a cycle of the calendar apart. A cycle per interval is a whole number of
steps for every frequency, and each reading of the later step is one of the
earlier step, moved. So a step of days without candidates has none later. -/
namespace Recurrence
open Calendar

/-- The units of a frequency in 400 years. -/
def Frequency.cycleUnits : Frequency → Nat
  | .yearly => 400
  | .monthly => 4800
  | .weekly => 20871
  | .daily => 146097
  | .hourly => 3506328
  | .minutely => 210379680
  | .secondly => 12622780800

theorem Frequency.cycleUnits_pos (frequency : Frequency) : 0 < frequency.cycleUnits := by
  cases frequency <;> simp [cycleUnits]

/-- The seconds in some cycles of 400 years. -/
def Calendar.cycleSeconds (cycles : Int) : Int := 146097 * 86400 * cycles

namespace Calendar

theorem midnight_cycle (day cycles : Int) :
    midnight (day + 146097 * cycles) = midnight day + cycleSeconds cycles := by
  unfold midnight cycleSeconds
  omega

@[simp] theorem dayOf_cycle (wall cycles : Int) :
    dayOf (wall + cycleSeconds cycles) = dayOf wall + 146097 * cycles := by
  unfold dayOf cycleSeconds
  omega

@[simp] theorem secondOfDay_cycle (wall cycles : Int) :
    secondOfDay (wall + cycleSeconds cycles) = secondOfDay wall := by
  unfold secondOfDay cycleSeconds
  omega

theorem monthStart_cycle (index cycles : Int) :
    monthStart (index + 4800 * cycles) = monthStart index + 146097 * cycles := by
  have hyear : (index + 4800 * cycles) / 12 = index / 12 + 400 * cycles := by omega
  have hmonth : (index + 4800 * cycles) % 12 = index % 12 := by omega
  unfold monthStart
  rw [hyear, hmonth, yearStart_cycle, daysBefore_cycle]
  omega

end Calendar

theorem Pattern.timeFits_cycle {pattern : Pattern} {anchor : DateTime} (wall cycles : Int) :
    pattern.timeFits anchor (wall + cycleSeconds cycles) ↔ pattern.timeFits anchor wall := by
  unfold timeFits hourOf minuteOf secondOf
  rw [secondOfDay_cycle]

namespace Plan

theorem unitStart_cycle (plan : Plan) (unit cycles : Int) :
    plan.unitStart (unit + plan.frequency.cycleUnits * cycles) =
      plan.unitStart unit + cycleSeconds cycles := by
  unfold unitStart
  cases plan.frequency with
  | secondly => simp only [Frequency.cycleUnits, cycleSeconds]; omega
  | minutely => simp only [Frequency.cycleUnits, cycleSeconds]; omega
  | hourly => simp only [Frequency.cycleUnits, cycleSeconds]; omega
  | daily =>
    simp only [Frequency.cycleUnits, ← midnight_cycle]
    congr 1
    omega
  | weekly =>
    simp only [Frequency.cycleUnits, ← midnight_cycle]
    congr 1
    omega
  | monthly =>
    simp only [Frequency.cycleUnits, ← midnight_cycle, ← monthStart_cycle]
    congr 2
    omega
  | yearly =>
    simp only [Frequency.cycleUnits, ← midnight_cycle, ← yearStart_cycle]
    congr 2
    omega

theorem unitOf_cycle (plan : Plan) (wall cycles : Int) :
    plan.unitOf (wall + cycleSeconds cycles) =
      plan.unitOf wall + plan.frequency.cycleUnits * cycles := by
  obtain ⟨hlow, hhigh⟩ := unitOf_eq_iff.1 (Eq.refl (plan.unitOf wall))
  rw [unitOf_eq_iff, add_right_comm, unitStart_cycle, unitStart_cycle]
  omega

/-- A reading of a step whose number is some cycles higher lies in the other step,
those cycles before. -/
theorem unitOf_sub_cycle {plan : Plan} {early step : Nat} {cycles : Int}
    (hnumber : plan.number step = plan.number early + plan.frequency.cycleUnits * cycles)
    {wall : Int} (h : plan.unitOf wall = plan.number step) :
    plan.unitOf (wall - cycleSeconds cycles) = plan.number early := by
  have hshift := plan.unitOf_cycle (wall - cycleSeconds cycles) cycles
  rw [sub_add_cancel, h, hnumber] at hshift
  omega

theorem number_cycle (plan : Plan) (step cycles : Nat) :
    plan.number (step + plan.frequency.cycleUnits * cycles) =
      plan.number step + plan.frequency.cycleUnits * (cycles * plan.interval : Nat) := by
  unfold number
  push_cast
  ring

theorem stepStart_cycle (plan : Plan) (step cycles : Nat) :
    plan.stepStart (step + plan.frequency.cycleUnits * cycles) =
      plan.stepStart step + cycleSeconds (cycles * plan.interval) := by
  unfold stepStart
  rw [number_cycle, unitStart_cycle]
  push_cast
  rfl

/-- Steps whose interval divides a cycle, or is some of them, come back to where they
were some cycles before. -/
theorem exists_early_of_dvd {interval cycle first stuck step : Nat} (hinterval : 0 < interval)
    (hcycle : 0 < cycle) (hdvd : interval ∣ cycle ∨ cycle ∣ interval)
    (hspan : first * interval + cycle ≤ stuck * interval) (hstep : stuck ≤ step) :
    ∃ early cycles, first ≤ early ∧ early < stuck ∧
      step * interval = early * interval + cycle * cycles := by
  rcases hdvd with ⟨n, rfl⟩ | ⟨n, rfl⟩
  · have hn : 0 < n := Nat.pos_of_mul_pos_left hcycle
    have hlast : first + n ≤ stuck := by
      apply Nat.le_of_mul_le_mul_right _ hinterval
      rwa [add_mul, mul_comm n]
    have hsplit := Nat.mod_add_div (step - stuck) n
    have hrest := Nat.mod_lt (step - stuck) hn
    -- The last `n` steps before `stuck` take all places in the cycle.
    refine ⟨stuck - n + (step - stuck) % n, (step - stuck) / n + 1, by omega, by omega, ?_⟩
    have hsum : step = stuck - n + (step - stuck) % n + n * ((step - stuck) / n + 1) := by
      rw [mul_add]
      omega
    conv_lhs => rw [hsum]
    ring
  · have hlast : first < stuck := by
      by_contra hle
      have := Nat.mul_le_mul_right (cycle * n) (not_lt.1 hle)
      omega
    -- Each step spans whole cycles, so that all have the same place.
    refine ⟨stuck - 1, (step - (stuck - 1)) * n, by omega, by omega, ?_⟩
    have hsum : step = stuck - 1 + (step - (stuck - 1)) := by omega
    conv_lhs => rw [hsum]
    ring

theorem Canonical.weekNumbers_eq_nil {plan : Plan} (hC : plan.Canonical)
    (h : plan.frequency ≠ .yearly) : plan.filter.weekNumbers = [] := by
  rw [hC.filter_eq]
  by_contra hweeks
  exact h (plan.pattern.fits.weekNumber hweeks)

/-- Steps of days begin in the last days of year -1 at the earliest, for an anchor
from year 0 on. -/
theorem unitStart_zero_ge {plan : Plan} (h : plan.frequency.isSubDaily = false)
    (hyear : 0 ≤ yearOf plan.anchor.day) : midnight (-719535) ≤ plan.unitStart 0 := by
  have hzero : yearStart 0 = -719528 := by decide
  have hanchor : -719528 ≤ plan.anchor.day :=
    hzero ▸ (yearStart_le_iff.2 hyear).trans (yearStart_yearOf_le _)
  unfold unitStart
  cases hf : plan.frequency with
  | secondly => simp [hf, Frequency.isSubDaily, Frequency.unitSeconds?] at h
  | minutely => simp [hf, Frequency.isSubDaily, Frequency.unitSeconds?] at h
  | hourly => simp [hf, Frequency.isSubDaily, Frequency.unitSeconds?] at h
  | daily =>
    rw [midnight_le_iff, dayOf_midnight]
    omega
  | weekly =>
    have hweek := lt_weekStart_add plan.pattern.weekStart plan.anchor.day
    rw [midnight_le_iff, dayOf_midnight]
    unfold firstWeek
    dsimp only
    split <;> omega
  | monthly =>
    have hmonth := (monthIndex_dateOf_div plan.anchor.day).1
    have hstart := monthStart_le_of_le
      (show 0 ≤ monthIndex (dateOf plan.anchor.day) by omega)
    have hfirst : monthStart 0 = -719528 := by decide
    rw [midnight_le_iff, dayOf_midnight, add_zero]
    omega
  | yearly =>
    have hstart := yearStart_le_iff.2 hyear
    rw [midnight_le_iff, dayOf_midnight, add_zero]
    omega

variable {plan : Plan} (hC : plan.Canonical) (hdays : plan.frequency.isSubDaily = false)
  (hyear : 0 ≤ yearOf plan.anchor.day)
  (hweek : InCalendar (weekStart plan.pattern.weekStart plan.anchor.day))

include hC hdays hyear hweek in
theorem Canonical.offers_of_cycle {step cycles : Nat} (hpos : 0 < cycles) {wall : Int}
    (h : wall ∈ plan.pattern.readings plan.anchor (step + plan.frequency.cycleUnits * cycles)) :
    plan.Offers step (wall - cycleSeconds (cycles * plan.interval)) := by
  have hcycles : (0 : Int) < cycles * plan.interval := by
    exact_mod_cast Nat.mul_pos hpos plan.interval_pos
  have hnumber := plan.number_cycle step cycles
  push_cast at hnumber
  have hunit := unitOf_sub_cycle hnumber
    (unitOf_eq_number_of_mem_readings (fun _ => hweek) h)
  obtain ⟨earlier, rfl⟩ : ∃ earlier, wall = earlier + cycleSeconds (cycles * plan.interval) :=
    ⟨wall - cycleSeconds (cycles * plan.interval), by omega⟩
  rw [add_sub_cancel_right] at hunit ⊢
  have hlow : -719535 ≤ dayOf earlier := by
    rw [← midnight_le_iff]
    apply (unitStart_zero_ge hdays hyear).trans
    apply le_unitOf_iff.1
    rw [hunit]
    exact Int.mul_nonneg (Int.natCast_nonneg _) (Int.natCast_nonneg _)
  have hhigh := h.representable.inCalendar.2
  refine ⟨hunit, ?_, ?_, .inr ?_⟩
  · have hday := h.day
    rw [dayOf_cycle] at hday
    rw [hC.filter_eq]
    refine DayFilter.accepts_of_cycle hcycles.le (.inr ?_) hday
    have hback : yearOf (-719535) = -1 := by decide
    have := yearOf_mono hlow
    unfold firstYear
    omega
  · exact (Pattern.timeFits_cycle _ _).1 h.time
  · rw [dayOf_cycle] at hhigh
    omega

/-- Nothing is selected from fewer readings than those from which positions select
nothing. -/
theorem not_selected_of_select_eq_nil {positions walls : List Int} {readings : Set Int}
    (h : select positions walls = []) (hfinite : readings.Finite)
    (hcard : readings.ncard ≤ walls.length) (wall : Int) :
    ¬ Selected positions readings wall := by
  rintro ⟨hmem, hpos⟩
  -- The readings on either side are fewer than the values, so that a position there would
  -- select one.
  have hfew : ∀ part : Set Int, wall ∉ part → (readings ∩ part).ncard < walls.length := by
    intro part hout
    refine lt_of_lt_of_le (Set.ncard_lt_ncard ?_ hfinite) hcard
    exact ⟨Set.inter_subset_left, fun hsub => hout (hsub hmem).2⟩
  have hbefore := hfew (Set.Iio wall) (lt_irrefl wall)
  have hafter := hfew (Set.Ioi wall) (lt_irrefl wall)
  by_cases hp : positions = []
  · subst hp
    have hwalls : walls = [] := by simpa [select] using h
    simp [hwalls] at hbefore
  · have hnone : ∀ i < walls.length,
        ¬ ((i + 1 : Int) ∈ positions ∨ (i - walls.length : Int) ∈ positions) := by
      intro i hi hlisted
      have hat : walls[i] ∈ select positions walls :=
        (mem_select_iff_getElem? hp).2 ⟨i, List.getElem?_eq_getElem hi, hlisted⟩
      rw [h] at hat
      exact List.not_mem_nil hat
    rcases hpos with hnil | hfront | hback
    · exact hp hnil
    · exact hnone _ hbefore (.inl hfront)
    · refine hnone (walls.length - 1 - (readings ∩ Set.Ioi wall).ncard) (by omega) (.inr ?_)
      convert hback using 1
      omega

theorem evaluate_of_missesTo? (hdays : plan.frequency.isSubDaily = false) {step next : Nat}
    {counted : Bool} (h : plan.missesTo? step = some (counted, next)) :
    Representable (plan.stepStart step) ∧
      select plan.pattern.lists.positions (plan.offered step) = [] ∧ next = step + 1 := by
  have hnone : plan.miss? (plan.stepStart step) = none := by simp [miss?, hdays]
  rcases missesTo?_cases h with ⟨byDay, he, -⟩ | ⟨he, -, rfl⟩
  · obtain ⟨-, -, target, hmiss, -⟩ := evaluate_eq_leap_iff.1 he
    rw [hnone] at hmiss
    cases hmiss
  · rw [evaluate_eq, hnone] at he
    split_ifs at he with hr
    exact ⟨hr, Step.candidates.inj he, rfl⟩

include hC in
theorem Canonical.not_selected_of_offered {step : Nat}
    (hnil : select plan.pattern.lists.positions (plan.offered step) = []) {readings : Set Int}
    {shift : Int} (hoffered : ∀ wall ∈ readings, wall - shift ∈ plan.offered step) (wall : Int) :
    ¬ Selected plan.pattern.lists.positions readings wall := by
  have hmaps : (readings.image (· - shift)) ⊆ {v | v ∈ plan.offered step} := by
    rintro _ ⟨v, hv, rfl⟩
    exact hoffered v hv
  have hinjective : Set.InjOn (· - shift) readings := (sub_left_injective).injOn
  have hfinite := (List.finite_toSet (plan.offered step)).subset hmaps
  apply not_selected_of_select_eq_nil hnil (hfinite.of_finite_image hinjective)
  rw [← hinjective.ncard_image,
    ← ncard_of_nodup ((hC.offered_pairwise step).imp ne_of_lt)]
  exact Set.ncard_le_ncard hmaps (List.finite_toSet _)

include hC hdays in
theorem Canonical.not_selected_of_shift {step : Nat}
    (hmiss : (plan.missesTo? step).isSome = true) {readings : Set Int} {shift : Int}
    (hoffers : ∀ wall ∈ readings, plan.Offers step (wall - shift)) (wall : Int) :
    ¬ Selected plan.pattern.lists.positions readings wall := by
  obtain ⟨⟨counted, next⟩, hm⟩ := Option.isSome_iff_exists.1 hmiss
  obtain ⟨hr, hnil, -⟩ := evaluate_of_missesTo? hdays hm
  exact hC.not_selected_of_offered hnil
    (fun v hv => (hC.mem_offered_days hdays hr).2 (hoffers v hv)) wall

include hC hdays hyear hweek in
/-- Some cycles after a step without candidates nothing is selected, even on the
last day of the calendar. -/
theorem Canonical.not_selected_of_missesTo? {step cycles : Nat} (hpos : 0 < cycles)
    (hmiss : (plan.missesTo? step).isSome = true) {readings : Set Int}
    (hsub : readings ⊆ plan.pattern.readings plan.anchor
      (step + plan.frequency.cycleUnits * cycles)) (wall : Int) :
    ¬ Selected plan.pattern.lists.positions readings wall :=
  hC.not_selected_of_shift hdays hmiss
    (fun _ hw => hC.offers_of_cycle hdays hyear hweek hpos (hsub hw)) wall

end Plan
end Recurrence

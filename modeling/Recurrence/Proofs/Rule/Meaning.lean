import Mathlib
import Recurrence.Proofs.Rule.Judge
import Recurrence.Zone.Atlas

/-! What a rule means, told without its evaluation: the readings of each step by
the calendar alone, and positions that select among them. A run without an end
gives exactly these readings in order, but for those on the last day of the
calendar, which steps of days leave out. -/
namespace Recurrence
open Calendar

/-- The number of the unit of a frequency that holds a reading, for weeks that
begin on some day. -/
def Frequency.unitIndex (frequency : Frequency) (first : Weekday) (wall : Int) : Int :=
  match frequency with
  | .yearly => yearOf (dayOf wall)
  | .monthly => Plan.monthIndex (dateOf (dayOf wall))
  | .weekly => (dayOf wall + 3 - first.index) / 7
  | .daily => dayOf wall
  | .hourly => wall / 3600
  | .minutely => wall / 60
  | .secondly => wall

namespace Pattern

/-- The readings of a step: those of the unit that lies `step` intervals after
the anchor's, on days that pass the filter and at times that go with the lists. -/
structure Declares (pattern : Pattern) (anchor : DateTime) (step : Nat) (wall : Int) : Prop where
  representable : Representable wall
  unit : pattern.frequency.unitIndex pattern.weekStart wall =
    pattern.frequency.unitIndex pattern.weekStart anchor.wall + step * pattern.interval.toNat
  day : (DayFilter.ofPattern pattern anchor.day).accepts (dayOf wall) = true
  time : pattern.timeFits anchor wall

/-- The readings of a step before positions select among them. -/
def readings (pattern : Pattern) (anchor : DateTime) (step : Nat) : Set Int :=
  {wall | pattern.Declares anchor step wall}

/-- Those readings of a step that evaluation reaches. -/
def reachedReadings (pattern : Pattern) (anchor : DateTime) (step : Nat) : Set Int :=
  {wall | pattern.Declares anchor step wall ∧
    (pattern.frequency.isSubDaily = true ∨ dayOf wall < lastDay)}

end Pattern

theorem Calendar.representable_of_inCalendar {wall : Int} (h : InCalendar (dayOf wall)) :
    Representable wall := by
  unfold InCalendar dayOf at h
  unfold Representable firstSecond lastSecond midnight
  omega

namespace Plan

/-- Units are counted from the anchor's, whose week must begin in the calendar where
weeks are the units. -/
theorem unitOf_eq_unitIndex_of {plan : Plan}
    (h : plan.frequency = .weekly →
      InCalendar (weekStart plan.pattern.weekStart plan.anchor.day)) (wall : Int) :
    plan.unitOf wall = plan.frequency.unitIndex plan.pattern.weekStart wall -
      plan.frequency.unitIndex plan.pattern.weekStart plan.anchor.wall := by
  unfold unitOf Frequency.unitIndex
  cases hf : plan.frequency with
  | secondly => simp [base]
  | minutely =>
    simp only [base]
    omega
  | hourly =>
    simp only [base]
    omega
  | daily => simp only [DateTime.dayOf_wall]
  | weekly =>
    simp only [DateTime.dayOf_wall, firstWeek, if_pos (h hf)]
    unfold weekStart
    omega
  | monthly => simp only [DateTime.dayOf_wall]
  | yearly => simp only [DateTime.dayOf_wall]

theorem unitOf_eq_unitIndex {plan : Plan}
    (h : InCalendar (weekStart plan.pattern.weekStart plan.anchor.day)) (wall : Int) :
    plan.unitOf wall = plan.frequency.unitIndex plan.pattern.weekStart wall -
      plan.frequency.unitIndex plan.pattern.weekStart plan.anchor.wall :=
  unitOf_eq_unitIndex_of (fun _ => h) wall

theorem unitOf_eq_number_of_mem_readings {plan : Plan}
    (hweek : plan.frequency = .weekly →
      InCalendar (weekStart plan.pattern.weekStart plan.anchor.day)) {step : Nat} {wall : Int}
    (h : wall ∈ plan.pattern.readings plan.anchor step) : plan.unitOf wall = plan.number step := by
  have hunit := h.unit
  rw [unitOf_eq_unitIndex_of hweek]
  simp only [number, interval, frequency]
  omega

theorem Canonical.offers_iff {plan : Plan} (hC : plan.Canonical)
    (hweek : InCalendar (weekStart plan.pattern.weekStart plan.anchor.day)) {step : Nat}
    (hr : Representable (plan.stepStart step)) {wall : Int} :
    plan.Offers step wall ↔ wall ∈ plan.pattern.reachedReadings plan.anchor step := by
  have hunit : plan.unitOf wall = plan.number step ↔
      plan.pattern.frequency.unitIndex plan.pattern.weekStart wall =
        plan.pattern.frequency.unitIndex plan.pattern.weekStart plan.anchor.wall +
          step * plan.pattern.interval.toNat := by
    rw [unitOf_eq_unitIndex hweek]
    simp only [number, interval, frequency]
    omega
  constructor
  · intro ho
    refine ⟨⟨?_, hunit.1 ho.unit, hC.filter_eq ▸ ho.day, ho.time⟩, ho.reached⟩
    have hstart := hr.inCalendar
    -- The last day of the calendar is left out, so that a reading of the unit lies in it.
    apply representable_of_inCalendar
    by_cases hsub : plan.frequency.isSubDaily = true
    · rw [((unitOf_eq_iff_fields hsub).1 ho.unit).1]
      exact hstart
    · have hlow := dayOf_mono (le_unitOf_iff.1 ho.unit.ge)
      have hhigh := ho.reached.resolve_left hsub
      exact ⟨hstart.1.trans hlow, hhigh.le⟩
  · rintro ⟨hd, hreached⟩
    exact ⟨hunit.2 hd.unit, hC.filter_eq ▸ hd.day, hd.time, hreached⟩

theorem Canonical.mem_yields_iff {plan : Plan} (hC : plan.Canonical)
    (hweek : InCalendar (weekStart plan.pattern.weekStart plan.anchor.day))
    (hopen : ∀ wall, plan.isPastStop wall = false) {step : Nat} {wall : Int} :
    wall ∈ plan.yields step ↔ Selected plan.pattern.lists.positions
      (plan.pattern.reachedReadings plan.anchor step) wall := by
  rw [yields_eq]
  by_cases hr : Representable (plan.stepStart step)
  · cases hm : plan.miss? (plan.stepStart step) with
    | none =>
      have hset : {v | v ∈ plan.offered step} =
          plan.pattern.reachedReadings plan.anchor step := by
        ext v
        exact (hC.mem_offered hr hm).trans (hC.offers_iff hweek hr)
      rw [if_pos ⟨hr, hopen _, rfl⟩, mem_select (hC.offered_pairwise step), hset]
    | some miss =>
      simp only [reduceCtorEq, and_false, if_false, List.not_mem_nil, false_iff]
      rintro ⟨hmem, -⟩
      simp [hC.miss?_of_offers ((hC.offers_iff hweek hr).2 hmem)] at hm
  · rw [if_neg (by simp [hr])]
    simp only [List.not_mem_nil, false_iff]
    rintro ⟨⟨hd, -⟩, -⟩
    have hunit := unitOf_eq_number_of_mem_readings (fun _ => hweek) hd
    rw [hC.representable_iff] at hr
    exact hr ((le_unitOf_iff.1 hunit.ge).trans hd.representable.2)

end Plan
/-- The instance of a reading in the form of an anchor without a zone. -/
def DateTime.instanceAt (anchor : DateTime) (wall : Int) : Instance :=
  match anchor with
  | .date _ => ⟨.date (dayOf wall), ⟨midnight (dayOf wall), false⟩⟩
  | .time _ form => ⟨.time wall form, ⟨wall, true⟩⟩

theorem DateTime.instanceAt_instant {anchor : DateTime} {wall : Int}
    (h : anchor.hasTime = true ∨ secondOfDay wall = 0) :
    (anchor.instanceAt wall).key.instant = wall := by
  cases anchor with
  | date day =>
    have hzero : secondOfDay wall = 0 := by simpa [hasTime] using h
    unfold secondOfDay at hzero
    simp only [instanceAt, midnight, dayOf]
    omega
  | time first form => rfl

namespace Plan

theorem instanceAt_eq {plan : Plan} (h : plan.clock = none) (wall : Int) :
    plan.instanceAt wall = .ok (plan.anchor.instanceAt wall) := by
  unfold instanceAt DateTime.instanceAt
  rw [h]
  cases plan.anchor <;> rfl

theorem judged_endless {plan : Plan} (hr : plan.resume = none) (hh : plan.horizon = none)
    (hc : plan.pattern.count? = none) (hb : plan.bound = none) (hclock : plan.clock = none)
    (behind : List Run.Item) {walls : List Int} (hw : walls.Pairwise (· < ·))
    (htime : ∀ wall ∈ walls, plan.anchor.hasTime = true ∨ secondOfDay wall = 0) {emitted : Nat}
    {latest : Option TimelineKey} (hl : ∀ key ∈ latest, ∀ wall ∈ walls, key.instant < wall) :
    plan.judged behind emitted latest walls =
      (walls.filter (plan.anchor.wall ≤ ·)).map (fun wall => .ok (plan.anchor.instanceAt wall)) ++
        behind := by
  induction walls generalizing emitted latest with
  | nil => rfl
  | cons wall walls ih =>
    rw [List.pairwise_cons] at hw
    have htime' : ∀ wall ∈ walls, plan.anchor.hasTime = true ∨ secondOfDay wall = 0 :=
      fun v hv => htime v (List.mem_cons_of_mem _ hv)
    rw [judged, judge_of_endless hr hh hc]
    by_cases hlt : wall < plan.anchor.wall
    · rw [List.filter_cons_of_neg (by simpa using hlt)]
      simp only [hlt, if_true]
      exact ih hw.2 htime' fun key hkey v hv => hl key hkey v (List.mem_cons_of_mem _ hv)
    · have hinstant := DateTime.instanceAt_instant (htime wall List.mem_cons_self)
      -- The readings ascend, so none has been seen before.
      have hnew : latest.any ((plan.anchor.instanceAt wall).key ≤ ·) = false := by
        rw [Bool.eq_false_iff]
        intro hany
        obtain ⟨key, hkey, hle⟩ := (Option.any_eq_true _ _).1 hany
        have hle := TimelineKey.instant_le_of_le (of_decide_eq_true hle)
        have hless := hl key hkey wall List.mem_cons_self
        omega
      have hbound : plan.isPastBound (plan.anchor.instanceAt wall) = false := by
        simp [isPastBound, hb]
      rw [List.filter_cons_of_pos (by simpa using hlt)]
      simp only [hlt, if_false, instanceAt_eq hclock, hbound, hnew, Bool.false_eq_true, if_true,
        List.map_cons, List.cons_append, List.nil_append, List.cons.injEq, true_and]
      apply ih hw.2 htime'
      rintro _ ⟨⟩ v hv
      rw [hinstant]
      exact hw.1 v hv

end Plan
/-- Whether items are the instances of some readings, each once and in order,
from an anchor on: all of them, or those before a failure. -/
def Run.Enumerates (anchor : DateTime) (declared : Int → Prop) (items : List Run.Item) : Prop :=
  ∃ (walls : List Int) (failure : List Run.Item), items = walls.map (fun wall => .ok (anchor.instanceAt wall)) ++ failure ∧
    walls.Pairwise (· < ·) ∧ (failure = [] ∨ ∃ error, failure = [.error error]) ∧
    (∀ wall ∈ walls, anchor.wall ≤ wall ∧ declared wall) ∧
    ∀ wall, anchor.wall ≤ wall → declared wall →
      wall ∈ walls ∨ failure ≠ [] ∧ ∀ v ∈ walls, v < wall

theorem Calendar.day_bounds {day : Int} (h : 0 ≤ yearOf day ∧ yearOf day ≤ 9999) :
    -719528 ≤ day ∧ day < 2932897 := by
  have h0 : yearStart 0 = -719528 := by decide
  have h1 : yearStart 10000 = 2932897 := by decide
  rw [← h0, ← h1]
  have hlow := yearStart_le_iff.2 h.1
  have hhigh := yearStart_le_iff.2 (show yearOf day + 1 ≤ 10000 by omega)
  exact ⟨hlow.trans (yearStart_yearOf_le day), (lt_yearStart_yearOf_succ day).trans_le hhigh⟩

theorem Calendar.weekStart_mem_of_year (first : Weekday) {day : Int}
    (h : 0 ≤ yearOf day ∧ yearOf day ≤ 9999) : InCalendar (weekStart first day) := by
  have hbounds := day_bounds h
  have hle := weekStart_le first day
  have hlt := lt_weekStart_add first day
  unfold InCalendar firstDay lastDay
  omega

theorem DateTime.inCalendar_of_year {value : DateTime}
    (h : 0 ≤ yearOf value.day ∧ yearOf value.day ≤ 9999) : value.InCalendar := by
  have hbounds := day_bounds h
  apply representable_of_inCalendar
  rw [dayOf_wall]
  unfold Calendar.InCalendar firstDay lastDay
  omega

theorem Plan.Opens.enumerates {clocks : Clocks} {pattern : Pattern} {anchor : DateTime}
    {plan : Plan} (h : plan.Opens clocks pattern anchor) (hnever : pattern.ending = .never)
    (hzone : anchor.tzid? = none) (hyear : 0 ≤ yearOf anchor.day ∧ yearOf anchor.day ≤ 9999) :
    Run.Enumerates anchor (fun wall => ∃ step, Selected pattern.lists.positions
      (pattern.reachedReadings anchor step) wall) (Run.toList ⟨plan, .before 0⟩) := by
  have hclock := h.clock_eq_none hzone
  have hcount : pattern.count? = none := by simp [Pattern.count?, hnever]
  have hbound := h.bound_eq_none (by simp [Pattern.until?, hnever])
  have hopen := isPastStop_eq_false hbound h.horizon_eq
  have hweek := weekStart_mem_of_year pattern.weekStart hyear
  have hC := h.canonical (DateTime.inCalendar_of_year hyear)
  obtain rfl := h.pattern_eq
  obtain rfl := h.anchor_eq
  obtain ⟨walls, gaveUp, hwalks⟩ := hC.exists_walks (.before 0)
  have hyields : ∀ wall, (∃ step, Selected plan.pattern.lists.positions
      (plan.pattern.reachedReadings plan.anchor step) wall) ↔ ∃ step, wall ∈ plan.yields step := by
    intro wall
    simp only [hC.mem_yields_iff hweek hopen]
  have htime : ∀ wall ∈ walls, plan.anchor.hasTime = true ∨ secondOfDay wall = 0 := by
    intro wall hw
    obtain ⟨step, -, hy⟩ := hwalks.exists_step wall hw
    have ht := ((hC.mem_yields_iff hweek hopen).1 hy).1.1.time
    unfold Pattern.timeFits at ht
    split at ht
    · exact .inl ‹_›
    · exact .inr ht
  refine ⟨walls.filter (plan.anchor.wall ≤ ·), plan.ending gaveUp, ?_, ?_, ?_, ?_, ?_⟩
  · rw [Run.toList_eq_judged hC hwalks, judged_endless h.resume_eq h.horizon_eq hcount hbound hclock
      _ (hC.walks_pairwise hwalks) htime (by simp)]
  · exact (hC.walks_pairwise hwalks).filter _
  · cases gaveUp with
    | false => exact .inl rfl
    | true => exact .inr ⟨_, rfl⟩
  · intro wall hw
    obtain ⟨hmem, hle⟩ := List.mem_filter.1 hw
    obtain ⟨step, -, hy⟩ := hwalks.exists_step wall hmem
    exact ⟨of_decide_eq_true hle, (hyields wall).2 ⟨step, hy⟩⟩
  · intro wall hle hd
    obtain ⟨step, hy⟩ := (hyields wall).1 hd
    -- A walk misses only what follows a cursor where the run gives up.
    rcases hC.mem_of_walks hwalks (Nat.zero_le step) hy with hmem | ⟨rfl, hlater⟩
    · exact .inl (List.mem_filter.2 ⟨hmem, decide_eq_true hle⟩)
    · refine .inr ⟨by simp [ending], fun v hv => ?_⟩
      exact hlater v (List.mem_filter.1 hv).1

/-- A run without an end, of a rule from an anchor without a zone, enumerates the
readings of its steps. Only steps of days leave out the last day of the calendar. -/
theorem Run.enumerates_readings {clocks : Clocks} {pattern : Pattern} {anchor : DateTime} {run : Run}
    (hstart : Run.start clocks pattern anchor = .ok run) (hnever : pattern.ending = .never)
    (hzone : anchor.tzid? = none) (hyear : 0 ≤ yearOf anchor.day ∧ yearOf anchor.day ≤ 9999)
    (limit : UInt32) :
    Enumerates anchor (fun wall => ∃ step, Plan.Selected pattern.lists.positions
      (pattern.reachedReadings anchor step) wall) (run.withEmptyLimit limit).toList ∧
    ((pattern.frequency.isSubDaily = true ∨
        ∀ step, ∀ wall ∈ pattern.readings anchor step, dayOf wall < lastDay) →
      Enumerates anchor (fun wall => ∃ step, Plan.Selected pattern.lists.positions
        (pattern.readings anchor step) wall) (run.withEmptyLimit limit).toList) := by
  obtain ⟨hcursor, hopens⟩ := Run.opens_withEmptyLimit hstart limit
  generalize run.withEmptyLimit limit = run at hopens hcursor ⊢
  have hall : Enumerates anchor (fun wall => ∃ step, Plan.Selected pattern.lists.positions
      (pattern.reachedReadings anchor step) wall) run.toList := by
    obtain ⟨plan, cursor⟩ := run
    obtain rfl : cursor = .before 0 := hcursor
    exact hopens.enumerates hnever hzone hyear
  refine ⟨hall, fun hlast => ?_⟩
  have hsets : ∀ step, pattern.readings anchor step = pattern.reachedReadings anchor step := by
    intro step
    ext wall
    constructor
    · intro hd
      exact ⟨hd, hlast.imp_right fun h => h step wall hd⟩
    · exact And.left
  simpa only [hsets] using hall

/-- The last of the quarters of nine and of five o'clock, on Mondays. -/
def lastQuarters : Pattern :=
  { Pattern.ofFrequency .hourly with
    lists := { ByLists.empty with
      hours := [9, 17]
      minutes := [0, 15, 30, 45]
      days := [⟨none, .monday⟩]
      positions := [-1] }
    inRange := by constructor <;> simp [ByLists.empty, CountsWithin]
    fits := by constructor <;> simp [ByLists.empty] }

/-- The readings of nine o'clock on the first Monday of 1970. -/
theorem readings_lastQuarters : lastQuarters.readings (.time 0 .utc) 105 =
    {wall | wall - midnight 4 ∈ [32400, 33300, 34200, 35100]} := by
  ext wall
  simp only [Set.mem_ofPred_eq, List.mem_cons, List.not_mem_nil, or_false]
  constructor
  · rintro ⟨-, hunit, -, htime⟩
    have hhour : wall / 3600 = 105 := hunit
    have hminute : minuteOf wall ∈ [0, 15, 30, 45] := htime.2.1
    have hsecond : secondOf wall = 0 := htime.2.2.resolve_left (by decide)
    simp only [List.mem_cons, List.not_mem_nil, or_false] at hminute
    unfold minuteOf secondOfDay at hminute
    unfold secondOf secondOfDay at hsecond
    unfold midnight
    omega
  · intro hwall
    have hcases : wall = 378000 ∨ wall = 378900 ∨ wall = 379800 ∨ wall = 380700 := by
      unfold midnight at hwall
      omega
    rcases hcases with rfl | rfl | rfl | rfl <;>
      exact ⟨by decide, by decide, by decide, show hourOf _ ∈ [9, 17] by decide,
        show minuteOf _ ∈ [0, 15, 30, 45] by decide, .inr (by decide)⟩

/-- From the quarters of nine o'clock on the first Monday of 1970 the rule takes the last. -/
theorem Run.enumerates_lastQuarters : ∃ run,
    Run.start (Resolver.empty Zone.Atlas.database).clocks lastQuarters (.time 0 .utc) = .ok run ∧
    Enumerates (.time 0 .utc) (fun wall => ∃ step, Plan.Selected [-1]
      (lastQuarters.readings (.time 0 .utc) step) wall) (run.withEmptyLimit 1000).toList ∧
    Plan.Selected [-1] (lastQuarters.readings (.time 0 .utc) 105) (midnight 4 + 35100) ∧
    midnight 4 + 34200 ∈ lastQuarters.readings (.time 0 .utc) 105 ∧
    ¬ Plan.Selected [-1] (lastQuarters.readings (.time 0 .utc) 105) (midnight 4 + 34200) := by
  cases hrun : Run.start (Resolver.empty Zone.Atlas.database).clocks lastQuarters
      (.time 0 .utc) with
  | error error => exact absurd hrun (by rintro ⟨⟩)
  | ok run =>
    refine ⟨run, rfl, (enumerates_readings hrun rfl rfl (by decide) 1000).2 (.inl rfl), ?_⟩
    rw [readings_lastQuarters]
    have hlast : {wall | wall - midnight 4 ∈ [32400, 33300, 34200, 35100]} ∩
        Set.Ioi (midnight 4 + 35100) = ∅ := by
      ext wall
      simp only [List.mem_cons, List.not_mem_nil, or_false, Set.mem_inter_iff, Set.mem_ofPred_eq,
        Set.mem_Ioi, Set.mem_empty_iff_false, iff_false, not_and, not_lt]
      omega
    have hlater : {wall | wall - midnight 4 ∈ [32400, 33300, 34200, 35100]} ∩
        Set.Ioi (midnight 4 + 34200) = {midnight 4 + 35100} := by
      ext wall
      simp only [List.mem_cons, List.not_mem_nil, or_false, Set.mem_inter_iff, Set.mem_ofPred_eq,
        Set.mem_Ioi, Set.mem_singleton_iff]
      omega
    refine ⟨⟨by simp, .inr (.inr (by rw [hlast]; simp))⟩, by simp, ?_⟩
    rintro ⟨-, hnil | hfront | hback⟩
    · cases hnil
    · rw [List.mem_singleton] at hfront
      omega
    · rw [hlater, Set.ncard_singleton] at hback
      exact absurd hback (by decide)

/-- Two days of which the second is the last of the calendar. -/
def toLastDay : Pattern :=
  { Pattern.ofFrequency .daily with interval := 95026236, interval_pos := by decide }

def planToLastDay : Plan where
  pattern := toLastDay
  anchor := .date 0
  clock := none
  bound := none
  filter := .ofPattern toLastDay 0
  hours := []
  minutes := []
  seconds := []
  times := [0]
  emptyLimit := Plan.defaultEmptyLimit
  resume := none
  horizon := none

theorem start_toLastDay (clocks : Clocks) :
    Run.start clocks toLastDay (.date 0) = .ok ⟨planToLastDay, .before 0⟩ := by
  cbv

/-- The second step yields nothing, and the third begins beyond the calendar. -/
theorem items_planToLastDay :
    planToLastDay.items (.before 0) = [.ok ⟨.date 0, ⟨0, false⟩⟩] := by
  have first : planToLastDay.items (.before 0) =
      planToLastDay.items ⟨1, [0], 0, 0, none, none⟩ := by
    rw [Plan.items_of_no_walls rfl]
    rfl
  have found : planToLastDay.items ⟨1, [0], 0, 0, none, none⟩ =
      .ok ⟨.date 0, ⟨0, false⟩⟩ ::
        planToLastDay.items ⟨1, [], 1, 0, none, some ⟨0, false⟩⟩ := by
    rw [Plan.items_of_walls rfl]
    rfl
  have second : planToLastDay.items ⟨1, [], 1, 0, none, some ⟨0, false⟩⟩ =
      planToLastDay.items ⟨2, [], 1, 1, some (midnight lastDay), some ⟨0, false⟩⟩ := by
    rw [Plan.items_of_no_walls rfl]
    rfl
  have third : planToLastDay.items
      ⟨2, [], 1, 1, some (midnight lastDay), some ⟨0, false⟩⟩ = [] := by
    rw [Plan.items_of_no_walls rfl]
    rfl
  rw [first, found, second, third]

/-- The last day of the calendar is a reading of a step, but no instance. -/
theorem Run.not_enumerates_toLastDay : ∃ run,
    Run.start (Resolver.empty Zone.Atlas.database).clocks toLastDay (.date 0) = .ok run ∧
    ¬ Enumerates (.date 0) (fun wall => ∃ step, Plan.Selected toLastDay.lists.positions
      (toLastDay.readings (.date 0) step) wall) run.toList := by
  refine ⟨_, start_toLastDay _, ?_⟩
  rintro ⟨walls, failure, hitems, -, hfailure, -, hcomplete⟩
  rw [show Run.toList ⟨planToLastDay, .before 0⟩ = _ from items_planToLastDay] at hitems
  have hread : toLastDay.Declares (.date 0) 1 (midnight lastDay) :=
    ⟨by decide, by decide, by decide, show secondOfDay (midnight lastDay) = 0 by decide⟩
  rcases hcomplete (midnight lastDay) (by decide) ⟨1, hread, .inl rfl⟩ with hmem | ⟨hfailed, -⟩
  · have hitem : Except.ok (DateTime.instanceAt (.date 0) (midnight lastDay)) ∈
        ([.ok ⟨.date 0, ⟨0, false⟩⟩] : List Run.Item) := by
      rw [hitems]
      exact List.mem_append_left _ (List.mem_map_of_mem hmem)
    rw [List.mem_singleton, Except.ok.injEq] at hitem
    exact absurd hitem (by decide)
  · obtain ⟨error, rfl⟩ := hfailure.resolve_left hfailed
    have herror : Except.error error ∈ ([.ok ⟨.date 0, ⟨0, false⟩⟩] : List Run.Item) := by
      rw [hitems]
      exact List.mem_append_right _ List.mem_cons_self
    simp at herror

end Recurrence

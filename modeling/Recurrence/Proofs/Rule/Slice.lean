import Mathlib
import Recurrence.Proofs.Rule.Between
import Recurrence.Zone.Atlas

/-! A run that resumes at an instant and ends after another gives a slice of the
whole run. Past the end of the slice the limited run may give up where the whole
one has ended before. -/
namespace Recurrence
open Calendar

namespace Plan

/-- Whether the end of a plan is a moment of the timeline: a last day is one of
the calendar that a zone's clock shows, and that clock must not be in between. -/
def EndsAtMoment (plan : Plan) : Prop :=
  ∀ last, plan.bound = some (.day last) → plan.clock = none

theorem isPastBound_iff {plan : Plan} (hm : plan.EndsAtMoment) {wall : Int} {found : Instance}
    (hf : plan.instanceAt wall = .ok found) :
    plan.isPastBound found = true ↔ ∃ bound ∈ plan.bound, bound.moment < found.key.instant := by
  unfold isPastBound
  cases hb : plan.bound with
  | none => simp
  | some bound =>
    simp only [Option.mem_def, Option.some.injEq, exists_eq_left']
    cases bound with
    | instant last => simp [Bound.moment]
    | day last =>
      have hclock := hm last hb
      unfold instanceAt at hf
      split at hf
      · obtain rfl := Except.ok.inj hf
        rw [decide_eq_true_eq]
        simp only [DateTime.day, Bound.moment, midnight]
        omega
      · next h => simp [hclock] at h
      · obtain rfl := Except.ok.inj hf
        rw [decide_eq_true_eq]
        simp only [DateTime.day, Bound.moment, midnight, dayOf]
        omega

end Plan

/-- Behind the end of the slice a run has no instance, and fails at most once. -/
theorem Plan.judged_of_late {plan : Plan} (hm : plan.EndsAtMoment) {first last : Option Int}
    (hlate : plan.IsLate first last) (gaveUp : Bool) (walls : List Int) (emitted : Nat)
    (latest : Option TimelineKey) :
    (plan.limited first last).judged (plan.ending gaveUp) emitted latest walls = [] ∨
      ∃ error, (plan.limited first last).judged (plan.ending gaveUp) emitted latest walls =
        [.error error] := by
  induction walls generalizing emitted latest with
  | nil =>
    cases gaveUp with
    | false => exact .inl rfl
    | true => exact .inr ⟨_, rfl⟩
  | cons wall walls ih =>
    rw [judged]
    cases hj : (plan.limited first last).judge emitted latest wall with
    | pass => exact ih emitted latest
    | stop => exact .inl rfl
    | fail error => exact .inr ⟨error, rfl⟩
    | found found shown final =>
      obtain ⟨-, hf, hbound, hhorizon, -, rfl⟩ := of_judge_found hj
      have hbound' : ¬ ∃ bound ∈ plan.bound, bound.moment < found.key.instant := by
        rw [← isPastBound_iff hm (show plan.instanceAt wall = .ok found from hf),
          show plan.isPastBound found = false from hbound]
        decide
      -- An instance within all bounds lies before the first instant, since the slice holds
      -- none.
      have hhide : (plan.limited first last).shows found = false := by
        obtain ⟨start, hstart, h⟩ := hlate
        rw [Option.mem_def] at hstart
        simp only [shows, limited, hstart, decide_eq_false_iff_not, not_le]
        rcases h with ⟨stop, hlast, hlt⟩ | ⟨bound, hb, hlt⟩
        · rw [Option.mem_def] at hlast
          simp only [isPastHorizon, limited, hlast, decide_eq_false_iff_not] at hhorizon
          omega
        · by_contra hle
          exact hbound' ⟨bound, hb, by omega⟩
      rw [hhide]
      cases final with
      | true => exact .inl rfl
      | false => simpa using ih (emitted + 1) (some found.key)

theorem Plan.slice_of_late {plan : Plan} (hm : plan.EndsAtMoment) {first last : Option Int}
    (hlate : plan.IsLate first last) (gaveUp : Bool) (walls : List Int) (emitted : Nat)
    (latest : Option TimelineKey) :
    Run.slice first last (plan.judged (plan.ending gaveUp) emitted latest walls) = [] := by
  apply Run.slice_eq_nil
  intro found hmem
  obtain ⟨wall, -, -, hf, hbound, -⟩ := exists_wall_of_mem_judged (ok_notMem_ending plan _) hmem
  obtain ⟨start, hstart, h⟩ := hlate
  rw [Option.mem_def] at hstart
  rcases h with ⟨stop, hlast, hlt⟩ | ⟨bound, hb, hlt⟩
  · rw [Option.mem_def] at hlast
    simp only [Instance.isWithin, hstart, hlast, Option.all_some, Bool.and_eq_false_iff,
      decide_eq_false_iff_not]
    omega
  · simp only [Instance.isWithin, hstart, Option.all_some, Bool.and_eq_false_iff,
      decide_eq_false_iff_not]
    left
    intro hle
    rw [Bool.eq_false_iff, ne_eq, isPastBound_iff hm hf] at hbound
    exact hbound ⟨bound, hb, by omega⟩

namespace Run

theorem endsAtMoment_of_opens {clocks : Clocks} {pattern : Pattern} {anchor : DateTime}
    {plan : Plan} (h : plan.Opens clocks pattern anchor)
    (hu : ∀ day, pattern.until? = some (.date day) → anchor.tzid? = none) :
    plan.EndsAtMoment := by
  intro last hb
  exact h.clock_eq_none (hu last (h.until?_of_day hb))

/-- A run between two instants gives the slice of the whole run between them. Only
where nothing can lie in the slice may it fail instead. -/
theorem toList_between {resolver : Resolver} {pattern : Pattern} {anchor : DateTime} {run : Run}
    (hstart : Run.start resolver.clocks pattern anchor = .ok run) (hA : anchor.InCalendar)
    (hu : ∀ day, pattern.until? = some (.date day) → anchor.tzid? = none) (limit : UInt32)
    (first last : Option Int) (hreach : Reaches last (run.withEmptyLimit limit).toList) :
    (¬ run.plan.IsLate first last →
      ((run.withEmptyLimit limit).between first last).toList =
        slice first last (run.withEmptyLimit limit).toList) ∧
    (run.plan.IsLate first last →
      slice first last (run.withEmptyLimit limit).toList = [] ∧
      (((run.withEmptyLimit limit).between first last).toList = [] ∨
        ∃ error, ((run.withEmptyLimit limit).between first last).toList = [.error error])) := by
  obtain ⟨hcursor, hopens⟩ := Run.opens_withEmptyLimit hstart limit
  have hlimit : run.plan.IsLate first last ↔ (run.withEmptyLimit limit).plan.IsLate first last :=
    Iff.rfl
  rw [hlimit]
  -- The limit of empty steps plays no part from here on.
  generalize run.withEmptyLimit limit = run at hopens hcursor hreach ⊢
  have hC := hopens.canonical hA
  have hm := endsAtMoment_of_opens hopens hu
  constructor
  · intro hlate
    have hopen : ∀ start ∈ first, ∀ stop ∈ last, start ≤ stop := by
      intro start hs stop ht
      by_contra hlt
      exact hlate ⟨start, hs, .inl ⟨stop, ht, not_le.1 hlt⟩⟩
    obtain ⟨tail, htail, hnone⟩ := between_eq_append hC hopens.isNear hcursor hopens.resume_eq
      hopens.horizon_eq hopen
    have hpass : ∀ start ∈ first, ¬ run.plan.Passes start := by
      rintro start hs ⟨wall, found, -, hwall, hf, hbound⟩
      obtain ⟨bound, hb, hlt⟩ := (Plan.isPastBound_iff hm hf).1 hbound
      have := hopens.isNear wall found hf
      exact hlate ⟨start, hs, .inr ⟨bound, hb, by omega⟩⟩
    rw [htail, hnone hreach hpass, List.append_nil]
  · intro hlate
    obtain ⟨walls, gaveUp, hwalks⟩ := hC.exists_walks (.before 0)
    obtain ⟨step, hbetween, -⟩ := between_eq hcursor hopens.resume_eq hopens.horizon_eq first last
    obtain ⟨kept, goesOn, hkept⟩ := (hC.limited first last).exists_walks (.before step)
    have hwhole : run.toList = run.plan.judged (run.plan.ending gaveUp) 0 none walls := by
      rw [← toList_eq_judged hC hwalks, ← hcursor]
    rw [hbetween, toList_eq_judged (hC.limited first last) hkept, hwhole]
    exact ⟨Plan.slice_of_late hm hlate _ _ _ _, Plan.judged_of_late hm hlate _ _ _ _⟩

/-- The minutes of the tenth hour of a day, up to half a minute past nine. -/
def minutesAfterNine : Pattern :=
  { Pattern.ofFrequency .minutely with
    ending := .upTo (.dateTime (.time 32430 .utc))
    lists := { ByLists.empty with hours := [9] }
    inRange := by constructor <;> simp [ByLists.empty]
    fits := by constructor <;> simp [ByLists.empty] }

/-- The plan of those minutes from nine on, with a limit of one empty step. -/
def planAfterNine : Plan where
  pattern := minutesAfterNine
  anchor := .time 32400 .utc
  clock := none
  bound := some (.instant 32430)
  filter := .ofPattern minutesAfterNine 0
  hours := [9]
  minutes := []
  seconds := []
  times := [32400]
  emptyLimit := 1
  resume := none
  horizon := none

theorem start_minutesAfterNine (clocks : Clocks) :
    (Run.start clocks minutesAfterNine (.time 32400 .utc)).map (Run.withEmptyLimit · 1) =
      .ok ⟨planAfterNine, .before 0⟩ := by
  cbv

theorem items_planAfterNine :
    planAfterNine.items (.before 0) = [.ok ⟨.time 32400 .utc, ⟨32400, true⟩⟩] := by
  have first : planAfterNine.items (.before 0) =
      planAfterNine.items ⟨1, [32400], 0, 0, none, none⟩ := by
    rw [Plan.items_of_no_walls rfl]
    rfl
  have found : planAfterNine.items ⟨1, [32400], 0, 0, none, none⟩ =
      .ok ⟨.time 32400 .utc, ⟨32400, true⟩⟩ ::
        planAfterNine.items ⟨1, [], 1, 0, none, some ⟨32400, true⟩⟩ := by
    rw [Plan.items_of_walls rfl]
    rfl
  have second : planAfterNine.items ⟨1, [], 1, 0, none, some ⟨32400, true⟩⟩ =
      planAfterNine.items ⟨2, [32460], 1, 0, none, some ⟨32400, true⟩⟩ := by
    rw [Plan.items_of_no_walls rfl]
    rfl
  have past : planAfterNine.items ⟨2, [32460], 1, 0, none, some ⟨32400, true⟩⟩ = [] := by
    rw [Plan.items_of_walls rfl]
    rfl
  rw [first, found, second, past]

/-- A run that resumes behind its end gives up where the whole run has ended
without a failure. -/
theorem toList_between_ne_slice : ∃ run,
    Run.start (Resolver.empty Zone.Atlas.database).clocks minutesAfterNine (.time 32400 .utc) =
      .ok run ∧
    Reaches none (run.withEmptyLimit 1).toList ∧
    slice (some 126000) none (run.withEmptyLimit 1).toList = [] ∧
    ((run.withEmptyLimit 1).between (some 126000) none).toList =
      [.error (.evaluation (.emptySteps 1))] := by
  obtain ⟨run, hrun, hlimit⟩ :=
    map_eq_ok_iff.1 (start_minutesAfterNine (Resolver.empty Zone.Atlas.database).clocks)
  have hwhole : (run.withEmptyLimit 1).toList = [.ok ⟨.time 32400 .utc, ⟨32400, true⟩⟩] := by
    rw [hlimit]
    exact items_planAfterNine
  refine ⟨run, hrun, ?_, ?_, ?_⟩
  · rw [hwhole]
    exact .inl (by simp)
  · rw [hwhole]
    rfl
  · have hmissed : (planAfterNine.limited (some 126000) none).items (.before 120) =
        (planAfterNine.limited (some 126000) none).items ⟨180, [], 0, 1, some 39600, none⟩ := by
      rw [Plan.items_of_no_walls rfl]
      rfl
    rw [hlimit]
    change (planAfterNine.limited (some 126000) none).items (.before 120) = _
    rw [hmissed, Plan.items_of_no_walls rfl]
    rfl

/-- Nine o'clock on the first six days of 1970. -/
def sixMornings : Pattern :=
  { Pattern.ofFrequency .daily with
    ending := .upTo (.dateTime (.time (midnight 5 + 32400) .utc)) }

def planOfMornings : Plan where
  pattern := sixMornings
  anchor := .time 32400 .utc
  clock := none
  bound := some (.instant (midnight 5 + 32400))
  filter := .ofPattern sixMornings 0
  hours := []
  minutes := []
  seconds := []
  times := [32400]
  emptyLimit := 1
  resume := none
  horizon := none

theorem start_sixMornings (clocks : Clocks) :
    (Run.start clocks sixMornings (.time 32400 .utc)).map (Run.withEmptyLimit · 1) =
      .ok ⟨planOfMornings, .before 0⟩ := by
  cbv

def morning (day : Nat) : Instance :=
  ⟨.time (midnight day + 32400) .utc, ⟨midnight day + 32400, true⟩⟩

/-- Where the run stands behind some mornings. -/
def afterMornings (days : Nat) : Cursor :=
  ⟨days, [], days, 0, none, if days = 0 then none else some (morning (days - 1)).key⟩

theorem items_afterMornings {day : Nat} (h : day < 6) :
    planOfMornings.items (afterMornings day) =
      .ok (morning day) :: planOfMornings.items (afterMornings (day + 1)) := by
  have offered : planOfMornings.items (afterMornings day) = planOfMornings.items
      { afterMornings day with step := day + 1, walls := [midnight day + 32400] } := by
    rw [Plan.items_of_no_walls rfl]
    interval_cases day <;> rfl
  rw [offered, Plan.items_of_walls rfl]
  interval_cases day <;> rfl

theorem items_planOfMornings :
    planOfMornings.items (.before 0) = (List.range 6).map (.ok ∘ morning) := by
  have past : planOfMornings.items (afterMornings 6) = [] := by
    have offered : planOfMornings.items (afterMornings 6) = planOfMornings.items
        { afterMornings 6 with step := 7, walls := [midnight 6 + 32400] } := by
      rw [Plan.items_of_no_walls rfl]
      rfl
    rw [offered, Plan.items_of_walls rfl]
    rfl
  have since : ∀ days ≤ 6, planOfMornings.items (.before 0) =
      (List.range days).map (.ok ∘ morning) ++ planOfMornings.items (afterMornings days) := by
    intro days h
    induction days with
    | zero => rfl
    | succ days ih =>
      rw [ih (by omega), items_afterMornings (by omega), List.range_succ, List.map_append,
        List.append_assoc]
      rfl
  rw [since 6 le_rfl, past, List.append_nil]

/-- From the fourth midnight to the noon after the next there are two mornings. The run for
them begins at the third day. -/
theorem toList_between_sixMornings : ∃ run,
    Run.start (Resolver.empty Zone.Atlas.database).clocks sixMornings (.time 32400 .utc) =
      .ok run ∧
    ((run.withEmptyLimit 1).between (some (midnight 3)) (some (midnight 4 + 43200))).cursor.step =
      2 ∧
    ((run.withEmptyLimit 1).between (some (midnight 3)) (some (midnight 4 + 43200))).toList =
      [.ok (morning 3), .ok (morning 4)] := by
  obtain ⟨run, hrun, hlimit⟩ :=
    map_eq_ok_iff.1 (start_sixMornings (Resolver.empty Zone.Atlas.database).clocks)
  have hwhole : (run.withEmptyLimit 1).toList = (List.range 6).map (.ok ∘ morning) := by
    rw [hlimit]
    exact items_planOfMornings
  have hlate : ¬ run.plan.IsLate (some (midnight 3)) (some (midnight 4 + 43200)) := by
    change ¬ (run.withEmptyLimit 1).plan.IsLate (some (midnight 3)) (some (midnight 4 + 43200))
    rw [hlimit]
    rintro ⟨_, ⟨⟩, ⟨_, ⟨⟩, h⟩ | ⟨_, ⟨⟩, h⟩⟩
    · exact absurd h (by decide)
    · exact absurd h (by decide)
  refine ⟨run, hrun, ?_, ?_⟩
  · rw [hlimit]
    rfl
  · have hslice := (toList_between hrun (by decide) (by intro day h; cases h) 1 (some (midnight 3))
      (some (midnight 4 + 43200)) (.inl (by simp [hwhole]))).1 hlate
    rw [hslice, hwhole]
    rfl

end Run
end Recurrence

import Mathlib
import Recurrence.Proofs.DateTime.Sum
import Recurrence.Proofs.DateTime.Timeline
import Recurrence.Proofs.Failure
import Recurrence.Proofs.Rule.Walk
import Recurrence.Proofs.Zone.Clock

/-! What becomes of readings. An instance of a run comes from one of them, within
all bounds, and the keys of instances ascend. -/
namespace Recurrence
open Calendar

/-- A plan as it is before its first step: of a pattern and an anchor, without
limits but that of empty steps. -/
structure Plan.Opens (clocks : Clocks) (pattern : Pattern) (anchor : DateTime) (plan : Plan) :
    Prop where
  pattern_eq : plan.pattern = pattern
  anchor_eq : plan.anchor = anchor
  clock_eq : anchor.clock? clocks = .ok plan.clock
  bound_eq : boundOf clocks plan.clock anchor pattern.until? = .ok plan.bound
  filter_eq : plan.filter = .ofPattern pattern anchor.day
  hours_eq : plan.hours = ascending pattern.lists.hours
  minutes_eq : plan.minutes = ascending pattern.lists.minutes
  seconds_eq : plan.seconds = ascending pattern.lists.seconds
  times_eq : plan.times =
    if anchor.hasTime then
      timeGrid (orElse plan.hours (hourOf anchor.wall)) (orElse plan.minutes (minuteOf anchor.wall))
        (orElse plan.seconds (secondOf anchor.wall))
    else [0]
  timed : pattern.frequency.isSubDaily = true → anchor.hasTime = true
  resume_eq : plan.resume = none
  horizon_eq : plan.horizon = none

theorem Run.opens {clocks : Clocks} {pattern : Pattern} {anchor : DateTime} {run : Run}
    (h : Run.start clocks pattern anchor = .ok run) :
    run.cursor = .before 0 ∧ run.plan.Opens clocks pattern anchor := by
  unfold Run.start Plan.of at h
  by_cases htimed : (pattern.frequency.isSubDaily && !anchor.hasTime) = true
  · simp [htimed] at h
  · rw [if_neg htimed] at h
    simp only [bind_eq_ok_iff, pure_eq_ok_iff, orZone_eq_ok_iff] at h
    obtain ⟨_, ⟨clock, hclock, bound, hbound, rfl⟩, rfl⟩ := h
    refine ⟨rfl, rfl, rfl, hclock, hbound, rfl, rfl, rfl, rfl, rfl, ?_, rfl, rfl⟩
    simpa using htimed

theorem Run.opens_withEmptyLimit {clocks : Clocks} {pattern : Pattern} {anchor : DateTime}
    {run : Run} (h : Run.start clocks pattern anchor = .ok run) (limit : UInt32) :
    (run.withEmptyLimit limit).cursor = .before 0 ∧
      (run.withEmptyLimit limit).plan.Opens clocks pattern anchor := by
  obtain ⟨hcursor, h1, h2, h3, h4, h5, h6, h7, h8, h9, h10, h11, h12⟩ := Run.opens h
  exact ⟨hcursor, h1, h2, h3, h4, h5, h6, h7, h8, h9, h10, h11, h12⟩

theorem Run.toList_eq_judged {plan : Plan} (hC : plan.Canonical) {step : Nat} {walls : List Int}
    {gaveUp : Bool} (h : plan.Walks (.before step) walls gaveUp) :
    toList ⟨plan, .before step⟩ = plan.judged (plan.ending gaveUp) 0 none walls :=
  hC.items_of_walks h 0 none

namespace Plan

theorem Opens.canonical {clocks : Clocks} {pattern : Pattern} {anchor : DateTime} {plan : Plan}
    (h : plan.Opens clocks pattern anchor) (hA : anchor.InCalendar) : plan.Canonical := by
  obtain ⟨rfl, rfl, -, -, hfilter, hhours, hminutes, hseconds, htimes, htimed, -, -⟩ := h
  exact ⟨hA, hfilter, hhours, hminutes, hseconds, htimes, htimed⟩

theorem Opens.clock_eq_none {clocks : Clocks} {pattern : Pattern} {anchor : DateTime} {plan : Plan}
    (h : plan.Opens clocks pattern anchor) (hz : anchor.tzid? = none) : plan.clock = none :=
  Except.ok.inj (h.clock_eq.symm.trans (DateTime.clock?_unzoned hz))

theorem Opens.bound_eq_none {clocks : Clocks} {pattern : Pattern} {anchor : DateTime} {plan : Plan}
    (h : plan.Opens clocks pattern anchor) (hu : pattern.until? = none) : plan.bound = none := by
  have hbound := h.bound_eq
  rw [hu] at hbound
  exact (Except.ok.inj hbound).symm

theorem isPastStop_eq_false {plan : Plan} (hb : plan.bound = none) (hh : plan.horizon = none)
    (wall : Int) : plan.isPastStop wall = false := by
  simp [isPastStop, stopAfter?, hb, hh]

theorem Opens.until?_of_day {clocks : Clocks} {pattern : Pattern} {anchor : DateTime} {plan : Plan}
    (h : plan.Opens clocks pattern anchor) {last : Int} (hb : plan.bound = some (.day last)) :
    pattern.until? = some (.date last) := by
  have hbound := h.bound_eq
  rw [hb] at hbound
  unfold Plan.boundOf at hbound
  split at hbound
  · simp at hbound
  · next hday => simpa [hday] using hbound
  · split at hbound
    · simp at hbound
    · rw [orZone_eq_ok_iff] at hbound
      have hinstant : ∀ result : Except ZoneError TimelineKey,
          (do let key ← result; return some (Bound.instant key.instant)) ≠
            .ok (some (.day last)) := by
        intro result hresult
        obtain ⟨key, -, hkey⟩ := bind_eq_ok_iff.1 hresult
        cases pure_eq_ok_iff.1 hkey
      split at hbound
      · exact absurd hbound (hinstant _)
      · exact absurd hbound (hinstant _)

/-- Whether the readings of a plan and the instants of their instances are less
than a day apart. -/
def IsNear (plan : Plan) : Prop :=
  ∀ wall found, plan.instanceAt wall = .ok found →
    wall - 86400 < found.key.instant ∧ found.key.instant < wall + 86400

theorem instanceAt_of_clock {plan : Plan} {wall : Int} {found : Instance}
    (h : plan.instanceAt wall = .ok found) :
    found.key.instant = midnight (dayOf wall) ∨ found.key.instant = wall ∨
      ∃ clock, plan.clock = some clock ∧ clock.toUtc wall = .ok found.key.instant := by
  unfold instanceAt at h
  split at h
  · obtain rfl := Except.ok.inj h
    exact .inl rfl
  · next clock _ hclock =>
    simp only [bind_eq_ok_iff, pure_eq_ok_iff] at h
    obtain ⟨instant, hutc, rfl⟩ := h
    exact .inr (.inr ⟨clock, hclock, hutc⟩)
  · obtain rfl := Except.ok.inj h
    exact .inr (.inl rfl)

theorem isNear_of_clock {plan : Plan} (h : ∀ clock, plan.clock = some clock → clock.IsNear) :
    plan.IsNear := by
  intro wall found hf
  rcases instanceAt_of_clock hf with hk | hk | ⟨clock, hclock, hutc⟩
  · rw [hk]
    unfold midnight dayOf
    omega
  · omega
  · exact h clock hclock wall _ hutc

theorem Opens.isNear {resolver : Resolver} {pattern : Pattern} {anchor : DateTime} {plan : Plan}
    (h : plan.Opens resolver.clocks pattern anchor) : plan.IsNear := by
  apply isNear_of_clock
  intro clock hclock
  obtain ⟨tzid, -, hzone⟩ := DateTime.clock?_eq_some_iff.1 (hclock ▸ h.clock_eq)
  exact Resolver.clocks_isNear hzone

/-- Why a reading comes to a verdict. -/
inductive Judges (plan : Plan) (emitted : Nat) (latest : Option TimelineKey) (wall : Int) :
    Verdict → Prop
  | early (h : wall < plan.anchor.wall) : Judges plan emitted latest wall .pass
  | failed {error : ZoneError} (hf : plan.instanceAt wall = .error error) :
      Judges plan emitted latest wall (.fail (.zone error))
  | past {found : Instance} (hw : plan.anchor.wall ≤ wall) (hf : plan.instanceAt wall = .ok found)
      (hbound : plan.isPastBound found = true) : Judges plan emitted latest wall .stop
  | old {found : Instance} {key : TimelineKey} (hf : plan.instanceAt wall = .ok found)
      (hkey : key ∈ latest) (hle : found.key ≤ key) : Judges plan emitted latest wall .pass
  | counted {count : UInt32} (hc : count ∈ plan.pattern.count?) (hle : count.toNat ≤ emitted) :
      Judges plan emitted latest wall .stop
  | beyond {found : Instance} (hf : plan.instanceAt wall = .ok found)
      (hhorizon : plan.isPastHorizon found = true) : Judges plan emitted latest wall .stop
  | found {found : Instance} (hw : plan.anchor.wall ≤ wall) (hf : plan.instanceAt wall = .ok found)
      (hbound : plan.isPastBound found = false) (hhorizon : plan.isPastHorizon found = false)
      (hlater : ∀ key ∈ latest, key < found.key)
      (hcount : ∀ count ∈ plan.pattern.count?, emitted < count.toNat) :
      Judges plan emitted latest wall (.found found (plan.shows found)
        (plan.pattern.count?.any (emitted + 1 == ·.toNat)))

/-- Every verdict has its reason, told by the tests in the order they are made. -/
theorem judges (plan : Plan) (emitted : Nat) (latest : Option TimelineKey) (wall : Int) :
    plan.Judges emitted latest wall (plan.judge emitted latest wall) := by
  unfold judge
  by_cases hw : wall < plan.anchor.wall
  · rw [if_pos hw]
    exact .early hw
  · rw [if_neg hw]
    cases hf : plan.instanceAt wall with
    | error error => exact .failed hf
    | ok one =>
      dsimp only
      cases hbound : plan.isPastBound one with
      | true =>
        rw [if_pos rfl]
        exact .past (not_lt.1 hw) hf hbound
      | false =>
        by_cases hold : latest.any (one.key ≤ ·) = true
        · obtain ⟨key, hkey, hle⟩ := (Option.any_eq_true _ _).1 hold
          simp only [hold, Bool.false_eq_true, if_false, if_true]
          exact .old hf hkey (of_decide_eq_true hle)
        · have hlater : ∀ key ∈ latest, key < one.key := by
            intro key hkey
            rw [Option.mem_def] at hkey
            simpa [hkey] using hold
          simp only [hold, Bool.false_eq_true, if_false]
          cases hc : plan.pattern.count? with
          | none =>
            cases hhorizon : plan.isPastHorizon one with
            | true => exact .beyond hf hhorizon
            | false => simpa [hc] using Judges.found (not_lt.1 hw) hf hbound hhorizon hlater (by simp [hc])
          | some count =>
            by_cases hle : count.toNat ≤ emitted
            · simp only [hle, if_true]
              exact .counted hc hle
            · simp only [hle, if_false]
              cases hhorizon : plan.isPastHorizon one with
              | true => exact .beyond hf hhorizon
              | false =>
                simpa [hc] using Judges.found (not_lt.1 hw) hf hbound hhorizon hlater
                  (by simpa [hc] using hle)

section Verdict

variable {plan : Plan} {emitted : Nat} {latest : Option TimelineKey} {wall : Int}

theorem of_judge_found {found : Instance} {shown final : Bool}
    (h : plan.judge emitted latest wall = .found found shown final) :
    plan.anchor.wall ≤ wall ∧ plan.instanceAt wall = .ok found ∧
      plan.isPastBound found = false ∧ plan.isPastHorizon found = false ∧
      (∀ key ∈ latest, key < found.key) ∧ shown = plan.shows found := by
  have hjudges := plan.judges emitted latest wall
  rw [h] at hjudges
  cases hjudges with
  | found hw hf hbound hhorizon hlater hcount => exact ⟨hw, hf, hbound, hhorizon, hlater, rfl⟩

theorem count_of_judge_found {found : Instance} {shown final : Bool}
    (h : plan.judge emitted latest wall = .found found shown final) :
    (∀ count ∈ plan.pattern.count?, emitted < count.toNat) ∧
      final = plan.pattern.count?.any (emitted + 1 == ·.toNat) := by
  have hjudges := plan.judges emitted latest wall
  rw [h] at hjudges
  cases hjudges with
  | found hw hf hbound hhorizon hlater hcount => exact ⟨hcount, rfl⟩

theorem of_judge_stop (hh : plan.horizon = none) (hc : plan.pattern.count? = none)
    (h : plan.judge emitted latest wall = .stop) : ∃ found, plan.anchor.wall ≤ wall ∧
      plan.instanceAt wall = .ok found ∧ plan.isPastBound found = true := by
  have hjudges := plan.judges emitted latest wall
  rw [h] at hjudges
  cases hjudges with
  | past hw hf hbound => exact ⟨_, hw, hf, hbound⟩
  | counted hcount => simp [hc] at hcount
  | beyond hf hhorizon => simp [isPastHorizon, hh] at hhorizon

theorem of_judge_fail {error : Failure} (h : plan.judge emitted latest wall = .fail error) :
    ∃ cause, plan.instanceAt wall = .error cause ∧ error = .zone cause := by
  have hjudges := plan.judges emitted latest wall
  rw [h] at hjudges
  cases hjudges with
  | failed hf => exact ⟨_, hf, rfl⟩

end Verdict

theorem judge_of_endless {plan : Plan} (hr : plan.resume = none) (hh : plan.horizon = none)
    (hc : plan.pattern.count? = none) (emitted : Nat) (latest : Option TimelineKey) (wall : Int) :
    plan.judge emitted latest wall =
      if wall < plan.anchor.wall then .pass
      else
        match plan.instanceAt wall with
        | .error error => .fail (.zone error)
        | .ok found =>
          if plan.isPastBound found then .stop
          else if latest.any (found.key ≤ ·) then .pass
          else .found found true false := by
  unfold judge
  by_cases hw : wall < plan.anchor.wall
  · rw [if_pos hw, if_pos hw]
  · rw [if_neg hw, if_neg hw]
    cases plan.instanceAt wall with
    | error error => rfl
    | ok found => simp [hc, isPastHorizon, shows, hr, hh]

theorem exists_wall_of_mem_judged {plan : Plan} {behind : List Run.Item}
    (hb : ∀ found, .ok found ∉ behind) {walls : List Int} {emitted : Nat}
    {latest : Option TimelineKey} {found : Instance}
    (h : .ok found ∈ plan.judged behind emitted latest walls) :
    ∃ wall ∈ walls, plan.anchor.wall ≤ wall ∧ plan.instanceAt wall = .ok found ∧
      plan.isPastBound found = false ∧ plan.isPastHorizon found = false ∧
      plan.shows found = true ∧ ∀ key ∈ latest, key < found.key := by
  induction walls generalizing emitted latest with
  | nil => exact absurd h (hb found)
  | cons wall walls ih =>
    rw [judged] at h
    cases hj : plan.judge emitted latest wall with
    | pass =>
      rw [hj] at h
      obtain ⟨later, hmem, hrest⟩ := ih h
      exact ⟨later, List.mem_cons_of_mem _ hmem, hrest⟩
    | stop => simp [hj] at h
    | fail error => simp [hj] at h
    | found one shown final =>
      obtain ⟨hle, hone, hbound, hhorizon, hlater, hshown⟩ := of_judge_found hj
      simp only [hj, List.mem_append] at h
      rcases h with h | h
      · split at h
        · next hs =>
          simp only [List.mem_singleton, Except.ok.injEq] at h
          subst h
          exact ⟨wall, List.mem_cons_self, hle, hone, hbound, hhorizon, hshown ▸ hs, hlater⟩
        · simp at h
      · split at h
        · simp at h
        · obtain ⟨later, hmem, h1, h2, h3, h4, h5, h6⟩ := ih h
          refine ⟨later, List.mem_cons_of_mem _ hmem, h1, h2, h3, h4, h5, fun key hkey => ?_⟩
          -- It lies behind this instance, and that behind the latest one before.
          exact (hlater key hkey).trans (h6 one.key rfl)

theorem ok_notMem_ending (plan : Plan) (gaveUp : Bool) (found : Instance) :
    .ok found ∉ plan.ending gaveUp := by
  cases gaveUp <;> simp [ending]

@[simp] theorem successes_ending (plan : Plan) (gaveUp : Bool) :
    successes (plan.ending gaveUp) = [] := by
  cases gaveUp <;> rfl

end Plan
end Recurrence

import Mathlib
import Recurrence.Proofs.Rule.Between
import Recurrence.Proofs.Rule.Cycle
import Recurrence.Zone.Atlas

/-! When a rule of days gives up. The moves of a run are told one by one, with what
its cursor remembers of the steps missed. A run gives up behind a whole cycle of
steps that missed, so that no step from there on has a candidate. -/
namespace Recurrence
open Calendar Relation

namespace Plan

/-- The moves of a run from one cursor to the next, past a candidate or a step. -/
inductive Goes (plan : Plan) : Cursor → Cursor → Prop
  | passed {cursor : Cursor} {wall : Int} {walls : List Int} (hw : cursor.walls = wall :: walls)
      (hj : plan.judge cursor.emitted cursor.latest wall = .pass) :
      Goes plan cursor { cursor with walls }
  | found {cursor : Cursor} {wall : Int} {walls : List Int} {found : Instance} {shown : Bool}
      (hw : cursor.walls = wall :: walls)
      (hj : plan.judge cursor.emitted cursor.latest wall = .found found shown false) :
      Goes plan cursor
        { cursor with walls, emitted := cursor.emitted + 1, latest := some found.key }
  | missed {cursor : Cursor} {counted : Bool} {next : Nat} (hw : cursor.walls = [])
      (hg : plan.givesUp cursor = false) (hm : plan.missesTo? cursor.step = some (counted, next)) :
      Goes plan cursor (plan.missed cursor counted next)
  | yielded {cursor : Cursor} (hw : cursor.walls = []) (hg : plan.givesUp cursor = false)
      (hy : plan.yields cursor.step ≠ []) :
      Goes plan cursor
        { cursor with
          step := cursor.step + 1, walls := plan.yields cursor.step
          emptySteps := 0, emptySince := none }

/-- Whether a run from one cursor comes to another and gives up there. -/
def Strands (plan : Plan) (cursor stuck : Cursor) : Prop :=
  ReflTransGen plan.Goes cursor stuck ∧ stuck.walls = [] ∧ plan.givesUp stuck = true

theorem Canonical.items_of_goes {plan : Plan} (hC : plan.Canonical) {cursor next : Cursor}
    (h : plan.Goes cursor next) : ∃ shown, plan.items cursor = shown ++ plan.items next := by
  cases h with
  | passed hw hj => exact ⟨[], by rw [items_of_walls hw, hj, List.nil_append]⟩
  | @found wall walls found shown hw hj =>
    refine ⟨if shown then [.ok found] else [], ?_⟩
    rw [items_of_walls hw, hj]
    rfl
  | @missed counted next hw hg hm =>
    have hlt := hC.lt_stepLimit (evaluate_ne_exhausted_of_missesTo? hm)
    refine ⟨[], ?_⟩
    rw [items_of_no_walls hw, if_neg (by simp [hg]), if_neg (not_le.2 hlt), hm, List.nil_append]
  | yielded hw hg hy =>
    have he := evaluate_ne_exhausted_of_yields hy
    refine ⟨[], ?_⟩
    rw [items_of_no_walls hw, if_neg (by simp [hg]), if_neg (not_le.2 (hC.lt_stepLimit he)),
      missesTo?_of_yields hy, List.nil_append]
    simp only [if_neg he]

theorem stuck_or_goes_of_mem_items {plan : Plan} {cursor : Cursor}
    (h : .error (.evaluation (.emptySteps plan.emptyLimit)) ∈ plan.items cursor) :
    cursor.walls = [] ∧ plan.givesUp cursor = true ∨ ∃ next, plan.Goes cursor next ∧
      next.Less cursor ∧
        .error (.evaluation (.emptySteps plan.emptyLimit)) ∈ plan.items next := by
  cases hw : cursor.walls with
  | cons wall walls =>
    rw [items_of_walls hw] at h
    cases hj : plan.judge cursor.emitted cursor.latest wall with
    | pass =>
      rw [hj] at h
      exact .inr ⟨_, .passed hw hj, Cursor.less_of_walls rfl hw, h⟩
    | stop => simp [hj] at h
    | fail error =>
      obtain ⟨cause, -, rfl⟩ := of_judge_fail hj
      simp [hj] at h
    | found found shown final =>
      rw [hj] at h
      cases final with
      | true => cases shown <;> simp at h
      | false =>
        refine .inr ⟨_, .found hw hj, Cursor.less_of_walls rfl hw, ?_⟩
        rcases List.mem_append.1 h with h | h
        · cases shown <;> simp at h
        · exact h
  -- No candidate is left: the run gives up, stops, or takes its next step.
  | nil =>
    rw [items_of_no_walls hw] at h
    cases hg : plan.givesUp cursor with
    | true => exact .inl ⟨rfl, rfl⟩
    | false =>
      rw [if_neg (by simp [hg])] at h
      by_cases hlimit : stepLimit ≤ cursor.step
      · simp [hlimit] at h
      · rw [if_neg hlimit] at h
        rcases plan.evaluate_outcome cursor.step with he | ⟨counted, next, hm⟩ | hy
        · simp [missesTo?_of_exhausted he, he] at h
        · rw [hm] at h
          exact .inr ⟨_, .missed hw hg hm,
            Cursor.less_of_step (not_le.1 hlimit) (lt_of_missesTo? hm), h⟩
        · have he := evaluate_ne_exhausted_of_yields hy
          rw [missesTo?_of_yields hy] at h
          simp only [if_neg he] at h
          exact .inr ⟨_, .yielded hw hg hy,
            Cursor.less_of_step (not_le.1 hlimit) (Nat.lt_succ_self _), h⟩

/-- A run fails for its empty steps exactly if it comes to a cursor where it gives
up. -/
theorem Canonical.mem_items_iff_strands {plan : Plan} (hC : plan.Canonical) (cursor : Cursor) :
    .error (.evaluation (.emptySteps plan.emptyLimit)) ∈ plan.items cursor ↔
      ∃ stuck, plan.Strands cursor stuck := by
  constructor
  · induction cursor using (InvImage.wf Cursor.remaining
        (Prod.instWellFoundedRelation (α := Nat) (β := Nat)).wf).induction with
    | _ cursor ih =>
    intro h
    rcases stuck_or_goes_of_mem_items h with ⟨hw, hg⟩ | ⟨next, hmove, hless, hmem⟩
    · exact ⟨cursor, .refl, hw, hg⟩
    · obtain ⟨stuck, hpath, hstuck⟩ := ih next hless hmem
      exact ⟨stuck, hpath.head hmove, hstuck⟩
  · rintro ⟨stuck, hpath, hw, hg⟩
    induction hpath using ReflTransGen.head_induction_on with
    | refl => simp [items_of_no_walls hw, hg]
    | head hmove _ ih =>
      obtain ⟨shown, hitems⟩ := hC.items_of_goes hmove
      rw [hitems]
      exact List.mem_append_right _ ih

/-- Whether every step has missed since the one that a cursor remembers as the
first to do so. -/
def Recalls (plan : Plan) (cursor : Cursor) : Prop :=
  ∀ since ∈ cursor.emptySince, ∃ first, since = plan.stepStart first ∧
    ∀ step, first ≤ step → step < cursor.step → (plan.missesTo? step).isSome = true

theorem recalls_of_none {plan : Plan} {cursor : Cursor} (h : cursor.emptySince = none) :
    plan.Recalls cursor := by
  intro since hs
  simp [h] at hs

variable {plan : Plan} (hdays : plan.frequency.isSubDaily = false)

include hdays in
theorem Recalls.missed {cursor : Cursor} (h : plan.Recalls cursor) {counted : Bool} {next : Nat}
    (hm : plan.missesTo? cursor.step = some (counted, next)) :
    plan.Recalls (plan.missed cursor counted next) := by
  obtain ⟨-, -, rfl⟩ := evaluate_of_missesTo? hdays hm
  have hhere : (plan.missesTo? cursor.step).isSome = true := by simp [hm]
  intro since hs
  rcases mem_emptySince_missed.1 hs with hs | ⟨-, -, rfl⟩
  · obtain ⟨first, rfl, hall⟩ := h since hs
    refine ⟨first, rfl, fun step hle hlt => ?_⟩
    rcases Nat.lt_succ_iff_lt_or_eq.1 hlt with hlt | rfl
    · exact hall step hle hlt
    · exact hhere
  · refine ⟨cursor.step, rfl, fun step hle hlt => ?_⟩
    obtain rfl : step = cursor.step := Nat.le_antisymm (Nat.lt_succ_iff.1 hlt) hle
    exact hhere

include hdays in
theorem Recalls.goes {cursor next : Cursor} (h : plan.Recalls cursor)
    (hmove : plan.Goes cursor next) : plan.Recalls next := by
  cases hmove with
  | passed hw hj => exact h
  | found hw hj => exact h
  | missed hw hg hm => exact h.missed hdays hm
  | yielded hw hg hy => exact recalls_of_none rfl

include hdays in
theorem Recalls.reaches {cursor stuck : Cursor} (h : plan.Recalls cursor)
    (hpath : ReflTransGen plan.Goes cursor stuck) : plan.Recalls stuck := by
  induction hpath with
  | refl => exact h
  | tail _ hmove ih => exact ih.goes hdays hmove

include hdays in
/-- A run gives up behind a cycle of steps that have missed. -/
theorem Recalls.exists_cycle {stuck : Cursor} (h : plan.Recalls stuck)
    (hg : plan.givesUp stuck = true) : ∃ first, first + plan.frequency.cycleUnits ≤ stuck.step ∧
      ∀ step, first ≤ step → step < stuck.step → (plan.missesTo? step).isSome = true := by
  rw [givesUp_iff, if_neg (by simp [hdays]), hasSpanned_iff] at hg
  obtain ⟨-, since, hs, -, hspan⟩ := hg
  obtain ⟨first, rfl, hall⟩ := h since hs
  refine ⟨first, ?_, hall⟩
  have hcycle := plan.stepStart_cycle first 1
  rw [mul_one] at hcycle
  apply (@stepStart_le_iff plan _ _).1
  rw [hcycle]
  simp only [hdays, gregorianCycle, Bool.false_eq_true, if_false] at hspan
  push_cast at hspan
  unfold cycleSeconds
  push_cast
  omega

include hdays in
/-- Where a run gives up, every step from there on lies some cycles behind one of the
last cycle, which has missed. -/
theorem Recalls.exists_missed {stuck : Cursor} (h : plan.Recalls stuck)
    (hg : plan.givesUp stuck = true) {step : Nat} (hstep : stuck.step ≤ step) :
    ∃ early cycles, stuck.step ≤ early + plan.frequency.cycleUnits ∧ 0 < cycles ∧
      step = early + plan.frequency.cycleUnits * cycles ∧
        (plan.missesTo? early).isSome = true := by
  obtain ⟨first, hcycle, hall⟩ := h.exists_cycle hdays hg
  have hspan : (stuck.step - plan.frequency.cycleUnits) * 1 + plan.frequency.cycleUnits ≤
      stuck.step * 1 := by omega
  obtain ⟨early, cycles, hfirst, hlast, hearly⟩ := exists_early_of_dvd Nat.one_pos
    plan.frequency.cycleUnits_pos (.inl (one_dvd _)) hspan hstep
  rw [mul_one, mul_one] at hearly
  refine ⟨early, cycles, by omega, Nat.pos_of_ne_zero ?_, hearly, hall early (by omega) hlast⟩
  rintro rfl
  omega

include hdays in
theorem Canonical.not_selected_of_givesUp (hC : plan.Canonical)
    (hyear : 0 ≤ yearOf plan.anchor.day ∧ yearOf plan.anchor.day ≤ 9999) {stuck : Cursor}
    (h : plan.Recalls stuck) (hg : plan.givesUp stuck = true) {step : Nat}
    (hstep : stuck.step ≤ step) {readings : Set Int}
    (hsub : readings ⊆ plan.pattern.readings plan.anchor step) (wall : Int) :
    ¬ Selected plan.pattern.lists.positions readings wall := by
  obtain ⟨early, cycles, -, hcycles, rfl, hmiss⟩ := h.exists_missed hdays hg hstep
  exact hC.not_selected_of_missesTo? hdays hyear.1 (weekStart_mem_of_year _ hyear) hcycles hmiss
    hsub wall

include hdays in
theorem Canonical.yields_of_givesUp (hC : plan.Canonical)
    (hyear : 0 ≤ yearOf plan.anchor.day ∧ yearOf plan.anchor.day ≤ 9999) {stuck : Cursor}
    (h : plan.Recalls stuck) (hg : plan.givesUp stuck = true) {step : Nat}
    (hstep : stuck.step ≤ step) : plan.yields step = [] := by
  rw [List.eq_nil_iff_forall_not_mem]
  intro wall hw
  rw [yields_eq] at hw
  split at hw
  · next hopen =>
    obtain ⟨hr, -, hm⟩ := hopen
    have hsub : {v | v ∈ plan.offered step} ⊆ plan.pattern.readings plan.anchor step := by
      intro v hv
      have hweek := weekStart_mem_of_year plan.pattern.weekStart hyear
      exact ((hC.offers_iff hweek hr).1 ((hC.mem_offered hr hm).1 hv)).1
    exact hC.not_selected_of_givesUp hdays hyear h hg hstep hsub wall
      ((mem_select (hC.offered_pairwise step)).1 hw)
  · exact List.not_mem_nil hw

/-- Whether walks miss nothing that steps yield, given up or not. -/
def MissesNone (plan : Plan) : Prop :=
  ∀ {step : Nat} {walls : List Int} {gaveUp : Bool}, plan.Walks (.before step) walls gaveUp →
    ∀ wall, wall ∈ walls ↔ ∃ later, step ≤ later ∧ wall ∈ plan.yields later

include hdays in
/-- A walk misses nothing if nothing follows a cursor where it gives up, as far as
that is known from what misses keep. -/
theorem Canonical.mem_walks_iff_of_known (hC : plan.Canonical) (known : Cursor → Prop)
    (hbefore : ∀ step, known (.before step))
    (hmissed : ∀ {cursor counted next}, known cursor →
      plan.missesTo? cursor.step = some (counted, next) → known (plan.missed cursor counted next))
    (hlast : ∀ {stuck step}, known stuck → plan.givesUp stuck = true → stuck.step ≤ step →
      plan.yields step = [])
    {cursor : Cursor} {walls : List Int} {gaveUp : Bool} (h : plan.Walks cursor walls gaveUp)
    (hr : known cursor) {wall : Int} :
    wall ∈ walls ↔ ∃ step, cursor.step ≤ step ∧ wall ∈ plan.yields step := by
  refine ⟨h.exists_step wall, ?_⟩
  rintro ⟨step, hstep, hw⟩
  induction h with
  | gaveUp hg => simp [hlast hr hg hstep] at hw
  | exhausted hg he => simp [yields_of_exhausted (hC.exhausted_mono hstep he)] at hw
  | @missed cursor counted next walls gaveUp hg hm rest ih =>
    apply ih (hmissed hr hm)
    rcases eq_or_lt_of_le hstep with rfl | hlt
    · simp [yields_of_missesTo? hm] at hw
    · obtain ⟨-, -, rfl⟩ := evaluate_of_missesTo? hdays hm
      exact hlt
  | @yielded cursor walls gaveUp hg hy rest ih =>
    rcases eq_or_lt_of_le hstep with rfl | hlt
    · exact List.mem_append_left _ hw
    · exact List.mem_append_right _ (ih (hbefore _) hlt)

include hdays in
/-- The walk of a rule of days has all that its steps yield, given up or not. -/
theorem Canonical.mem_walks_iff (hC : plan.Canonical)
    (hyear : 0 ≤ yearOf plan.anchor.day ∧ yearOf plan.anchor.day ≤ 9999) {cursor : Cursor}
    {walls : List Int} {gaveUp : Bool} (h : plan.Walks cursor walls gaveUp)
    (hr : plan.Recalls cursor) {wall : Int} :
    wall ∈ walls ↔ ∃ step, cursor.step ≤ step ∧ wall ∈ plan.yields step :=
  hC.mem_walks_iff_of_known hdays plan.Recalls (fun _ => recalls_of_none rfl)
    (fun hr hm => hr.missed hdays hm) (fun hr hg hstep => hC.yields_of_givesUp hdays hyear hr hg hstep) h hr

theorem successes_judged {behind : List Run.Item} (h : successes behind = [])
    (walls : List Int) (emitted : Nat) (latest : Option TimelineKey) :
    successes (plan.judged behind emitted latest walls) =
      successes (plan.judged [] emitted latest walls) := by
  induction walls generalizing emitted latest with
  | nil => exact h
  | cons wall walls ih =>
    rw [judged, judged]
    cases plan.judge emitted latest wall with
    | pass => exact ih emitted latest
    | stop => rfl
    | fail error => rfl
    | found found shown final =>
      cases final with
      | true => rfl
      | false =>
        simp only [Bool.false_eq_true, if_false, successes_append]
        rw [ih]

include hdays in
theorem strands_or_goes_of_misses {count : Nat}
    (hmiss : ∀ step < count, plan.missesTo? step = some (true, step + 1)) (n : Nat) (hn : n ≤ count) :
    (∃ stuck, plan.Strands (.before 0) stuck) ∨
      ∃ cursor, ReflTransGen plan.Goes (.before 0) cursor ∧ cursor.walls = [] ∧
        cursor.step = n ∧ cursor.emptySteps = n ∧
        cursor.emptySince = if n = 0 then none else some (plan.stepStart 0) := by
  induction n with
  | zero => exact .inr ⟨_, .refl, rfl, rfl, rfl, rfl⟩
  | succ n ih =>
    rcases ih (by omega) with hstuck | ⟨cursor, hpath, hw, rfl, hempty, hsince⟩
    · exact .inl hstuck
    · cases hg : plan.givesUp cursor with
      | true => exact .inl ⟨cursor, hpath, hw, hg⟩
      | false =>
        have hm := hmiss cursor.step (by omega)
        have hstart := (evaluate_of_missesTo? hdays hm).1
        refine .inr ⟨_, hpath.tail (.missed hw hg hm), hw, rfl, congrArg (· + 1) hempty, ?_⟩
        simp only [Plan.missed, hsince, stepStart?_eq, hstart, if_true]
        split
        · next hzero => simp [hzero]
        · simp

include hdays in
/-- Steps of days that all miss make a run give up, at the latest behind a cycle of
them and as many as the limit. -/
theorem exists_strands_of_misses {count : Nat} (hlimit : plan.emptyLimit.toNat ≤ count)
    (hcycle : plan.frequency.cycleUnits ≤ count) (hr : Representable (plan.stepStart count))
    (hmiss : ∀ step < count, plan.missesTo? step = some (true, step + 1)) :
    ∃ stuck, plan.Strands (.before 0) stuck := by
  rcases strands_or_goes_of_misses hdays hmiss count le_rfl with hstuck | ⟨cursor, hmoves, hw, rfl, hempty, hsince⟩
  · exact hstuck
  · have hspan := plan.stepStart_cycle 0 1
    have hle : plan.stepStart (0 + plan.frequency.cycleUnits * 1) ≤ plan.stepStart cursor.step :=
      stepStart_le_iff.2 (by omega)
    rw [if_neg (plan.frequency.cycleUnits_pos.trans_le hcycle).ne'] at hsince
    refine ⟨cursor, hmoves, hw, ?_⟩
    rw [givesUp_iff, if_neg (by simp [hdays]), hasSpanned_iff]
    refine ⟨hempty ▸ hlimit, _, hsince, hr, ?_⟩
    rw [hspan] at hle
    simp only [hdays, gregorianCycle, Bool.false_eq_true, if_false]
    unfold cycleSeconds at hle
    push_cast at hle ⊢
    omega

/-- A plan with another limit of empty steps. -/
def tolerating (plan : Plan) (limit : UInt32) : Plan := { plan with emptyLimit := limit }

theorem judged_tolerating (limit : UInt32) (behind : List Run.Item) (walls : List Int)
    (emitted : Nat) (latest : Option TimelineKey) :
    (plan.tolerating limit).judged behind emitted latest walls =
      plan.judged behind emitted latest walls := by
  have hjudge : (plan.tolerating limit).judge = plan.judge := rfl
  induction walls generalizing emitted latest with
  | nil => rfl
  | cons wall walls ih => simp only [judged, hjudge, ih]

theorem Canonical.tolerating (hC : plan.Canonical) (limit : UInt32) :
    (plan.tolerating limit).Canonical :=
  ⟨hC.anchor_mem, hC.filter_eq, hC.hours_eq, hC.minutes_eq, hC.seconds_eq, hC.times_eq, hC.timed⟩

/-- A rule has the same instances under two limits of empty steps if its walks miss
nothing under either. -/
theorem Canonical.successes_tolerating_of_missesNone (hC : plan.Canonical) (step : Nat)
    {limit other : UInt32} (hlimit : (plan.tolerating limit).MissesNone)
    (hother : (plan.tolerating other).MissesNone) :
    successes ((plan.tolerating limit).items (.before step)) =
      successes ((plan.tolerating other).items (.before step)) := by
  -- Walks that miss nothing have the same readings in the same order.
  have hinstances : ∀ limit, (plan.tolerating limit).MissesNone →
      ∃ walls : List Int, walls.Pairwise (· < ·) ∧
        (∀ wall, wall ∈ walls ↔ ∃ later, step ≤ later ∧ wall ∈ plan.yields later) ∧
        successes ((plan.tolerating limit).items (.before step)) =
          successes (plan.judged [] 0 none walls) := by
    intro limit hmisses
    have hC' := hC.tolerating limit
    obtain ⟨walls, gaveUp, hwalks⟩ := hC'.exists_walks (.before step)
    refine ⟨walls, hC'.walks_pairwise hwalks, hmisses hwalks, ?_⟩
    have hitems := Run.toList_eq_judged hC' hwalks
    unfold Run.toList at hitems
    rw [hitems, successes_judged (successes_ending _ _), judged_tolerating]
  obtain ⟨walls, hpairwise, hmem, hitems⟩ := hinstances limit hlimit
  obtain ⟨walls', hpairwise', hmem', hitems'⟩ := hinstances other hother
  have hwalls : walls = walls' := by
    apply hpairwise.eq_of_mem_iff hpairwise'
    intro wall
    rw [hmem, hmem']
  rw [hitems, hitems', hwalls]

include hdays in
theorem Canonical.successes_tolerating (hC : plan.Canonical)
    (hyear : 0 ≤ yearOf plan.anchor.day ∧ yearOf plan.anchor.day ≤ 9999) (step : Nat)
    (limit other : UInt32) : successes ((plan.tolerating limit).items (.before step)) =
      successes ((plan.tolerating other).items (.before step)) := by
  have hmisses : ∀ limit, (plan.tolerating limit).MissesNone := by
    intro limit step walls gaveUp hwalks wall
    have hdays' : (plan.tolerating limit).frequency.isSubDaily = false := hdays
    exact (hC.tolerating limit).mem_walks_iff hdays' hyear hwalks (recalls_of_none rfl)
  exact hC.successes_tolerating_of_missesNone step (hmisses limit) (hmisses other)

end Plan

namespace Run

theorem between_withEmptyLimit (run : Run) (limit : UInt32) (first last : Option Int) :
    (run.withEmptyLimit limit).between first last =
      (run.between first last).withEmptyLimit limit := by
  have hresumed : ∀ start, (run.withEmptyLimit limit).resumingFrom start =
      (run.resumingFrom start).withEmptyLimit limit := by
    intro start
    unfold resumingFrom
    dsimp only [withEmptyLimit]
    split
    · rfl
    · split <;> rfl
  cases first with
  | none => cases last <;> rfl
  | some start =>
    simp only [between, hresumed]
    cases last <;> rfl

/-- A rule of days that gives up has no candidate from there on, not even where its
end or the calendar's would have hidden it, and no instance is lost to its limit. -/
theorem nothing_behind_emptySteps {clocks : Clocks} {pattern : Pattern} {anchor : DateTime}
    {run : Run} (hstart : Run.start clocks pattern anchor = .ok run)
    (hdays : pattern.frequency.isSubDaily = false)
    (hyear : 0 ≤ yearOf anchor.day ∧ yearOf anchor.day ≤ 9999) (limit : UInt32)
    (first last : Option Int) :
    let part := (run.withEmptyLimit limit).between first last
    (.error (.evaluation (.emptySteps limit)) ∈ part.toList ↔
      ∃ stuck, part.plan.Strands part.cursor stuck) ∧
    (∀ stuck, part.plan.Strands part.cursor stuck → ∀ step, stuck.step ≤ step →
      ∀ wall, ¬ Plan.Selected pattern.lists.positions (pattern.readings anchor step) wall) ∧
    ∀ other, successes ((run.withEmptyLimit other).between first last).toList =
      successes part.toList := by
  intro part
  obtain ⟨hcursor, hopens⟩ := Run.opens hstart
  have hC := (hopens.canonical (DateTime.inCalendar_of_year hyear)).limited first last
  obtain rfl := hopens.pattern_eq
  obtain rfl := hopens.anchor_eq
  have hdays' : (run.plan.limited first last).frequency.isSubDaily = false := hdays
  obtain ⟨step, hbetween, -⟩ :=
    between_eq hcursor hopens.resume_eq hopens.horizon_eq first last
  have hpart : ∀ limit, (run.withEmptyLimit limit).between first last =
      ⟨(run.plan.limited first last).tolerating limit, .before step⟩ := by
    intro limit
    rw [between_withEmptyLimit, hbetween]
    rfl
  have hpart' : part = _ := hpart limit
  rw [hpart']
  refine ⟨(hC.tolerating limit).mem_items_iff_strands _, ?_, ?_⟩
  · rintro stuck ⟨hpath, -, hg⟩ later hlater wall
    have htolerant : ((run.plan.limited first last).tolerating limit).frequency.isSubDaily =
      false := hdays
    have hrecalls := (Plan.recalls_of_none rfl).reaches htolerant hpath
    exact (hC.tolerating limit).not_selected_of_givesUp htolerant hyear hrecalls hg hlater
      subset_rfl wall
  · intro other
    rw [hpart other]
    exact hC.successes_tolerating hdays' hyear step other limit

end Run

/-- Every 30 February. -/
def thirtiethOfFebruary : Pattern :=
  { Pattern.ofFrequency .yearly with
    lists := { ByLists.empty with months := [2], monthDays := [30] }
    inRange := by constructor <;> simp [ByLists.empty, CountsWithin]
    fits := by constructor <;> simp [ByLists.empty] }

theorem accepts_thirtiethOfFebruary (anchorDay day : Int) :
    (DayFilter.ofPattern thirtiethOfFebruary anchorDay).accepts day = false := by
  rw [Bool.eq_false_iff]
  intro h
  have hle := dateOf_day_le day
  have hshort : monthLength (yearOf day) 2 ≤ 29 := by
    cases hleap : isLeapYear (yearOf day) <;> simp [monthLength, hleap]
  simp [DayFilter.accepts, DayFilter.ofPattern, DayFilter.leavesDayOpen, DayFilter.listed,
    thirtiethOfFebruary, ByLists.empty] at h
  obtain ⟨hmonth, hday⟩ := h
  rw [hmonth] at hle hday
  omega

theorem Plan.Opens.missesTo?_thirtiethOfFebruary {clocks : Clocks} {plan : Plan}
    (h : plan.Opens clocks thirtiethOfFebruary (.date 0)) {step : Nat} (hstep : step ≤ 1000) :
    Representable (plan.stepStart step) ∧ plan.missesTo? step = some (true, step + 1) := by
  have hC := h.canonical (by decide)
  have hfrequency : plan.frequency = .yearly := congrArg Pattern.frequency h.pattern_eq
  have hinterval : plan.interval = 1 := congrArg (·.interval.toNat) h.pattern_eq
  have hr : Representable (plan.stepStart step) := by
    have hyear : yearOf (DateTime.date 0).day = 1970 := by decide
    simp only [stepStart, unitStart, hfrequency, number, hinterval, h.anchor_eq, hyear,
      representable_midnight_iff, yearStart_mem_iff, firstYear, lastYear]
    omega
  have hstop := isPastStop_eq_false (h.bound_eq_none rfl) h.horizon_eq
  have hmiss : plan.miss? (plan.stepStart step) = none := by
    simp [miss?, hfrequency, Frequency.isSubDaily, Frequency.unitSeconds?]
  have hnone : plan.offered step = [] := by
    rw [List.eq_nil_iff_forall_not_mem]
    intro wall hw
    have hday := ((hC.mem_offered hr hmiss).1 hw).day
    rw [h.filter_eq, accepts_thirtiethOfFebruary] at hday
    exact absurd hday (by decide)
  refine ⟨hr, ?_⟩
  unfold missesTo?
  rw [evaluate_eq, hstop, hmiss, hnone, select_nil]
  simp [hr]

theorem Plan.Opens.exists_strands_thirtiethOfFebruary {clocks : Clocks} {plan : Plan}
    (h : plan.Opens clocks thirtiethOfFebruary (.date 0)) (hlimit : plan.emptyLimit.toNat ≤ 1000) :
    ∃ stuck, plan.Strands (.before 0) stuck := by
  have hfrequency : plan.frequency = .yearly := congrArg Pattern.frequency h.pattern_eq
  apply Plan.exists_strands_of_misses (by simp [hfrequency, Frequency.isSubDaily,
    Frequency.unitSeconds?]) hlimit
  · simp [hfrequency, Frequency.cycleUnits]
  · exact (h.missesTo?_thirtiethOfFebruary le_rfl).1
  · exact fun step hstep => (h.missesTo?_thirtiethOfFebruary hstep.le).2

/-- A rule for a day that does not exist gives up, and rightly so. -/
theorem Run.nothing_behind_thirtiethOfFebruary : ∃ run stuck,
    Run.start (Resolver.empty Zone.Atlas.database).clocks thirtiethOfFebruary (.date 0) =
      .ok run ∧
    (run.withEmptyLimit 1000).plan.Strands run.cursor stuck ∧
    .error (.evaluation (.emptySteps 1000)) ∈ (run.withEmptyLimit 1000).toList ∧
    ∀ step, stuck.step ≤ step → ∀ wall, ¬ Plan.Selected []
      (thirtiethOfFebruary.readings (.date 0) step) wall := by
  cases hrun : Run.start (Resolver.empty Zone.Atlas.database).clocks thirtiethOfFebruary
      (.date 0) with
  | error error => exact absurd hrun (by rintro ⟨⟩)
  | ok run =>
    obtain ⟨hcursor, hopens⟩ := Run.opens_withEmptyLimit hrun 1000
    obtain ⟨stuck, hstuck⟩ :=
      hopens.exists_strands_thirtiethOfFebruary (show (1000 : UInt32).toNat ≤ 1000 by decide)
    obtain ⟨hfails, hbehind, -⟩ :=
      nothing_behind_emptySteps hrun rfl (by decide) 1000 none none
    rw [← hcursor] at hstuck
    exact ⟨run, stuck, rfl, hstuck, hfails.2 ⟨stuck, hstuck⟩, hbehind stuck hstuck⟩

end Recurrence

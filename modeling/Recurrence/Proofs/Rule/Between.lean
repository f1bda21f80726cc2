import Mathlib
import Recurrence.Proofs.Rule.Follow

/-! A run between two instants beside the whole run. Readings before the resumed
step are more than a day early, so that their instances would be hidden; behind it
both runs judge the same readings. The limited run gives a slice of the whole run,
and more only where that has failed, or has passed its end, before the slice. -/
namespace Recurrence
open Calendar

namespace Plan

/-- Whether a reading more than a day before an instant lies past the end. -/
def Passes (plan : Plan) (start : Int) : Prop :=
  ∃ wall found, plan.anchor.wall ≤ wall ∧ wall + 86400 ≤ start ∧
    plan.instanceAt wall = .ok found ∧ plan.isPastBound found = true

/-- Whether a step is the first one or, where instances are not counted, begins a day
or more before an instant. -/
def BeginsBefore (plan : Plan) (first : Option Int) (step : Nat) : Prop :=
  step = 0 ∨ plan.pattern.count? = none ∧ ∃ start ∈ first, plan.stepStart step + 86400 ≤ start

theorem BeginsBefore.mono {plan : Plan} {start later : Int} {step : Nat}
    (h : plan.BeginsBefore (some start) step) (hle : start ≤ later) :
    plan.BeginsBefore (some later) step := by
  refine h.imp_right fun ⟨hc, first, hfirst, hstep⟩ => ⟨hc, later, rfl, ?_⟩
  cases hfirst
  exact hstep.trans hle

/-- Readings more than a day before the first instant bring nothing into the slice,
unless the run ends with them. -/
theorem slice_append {plan : Plan} (hr : plan.resume = none) (hh : plan.horizon = none)
    (hn : plan.IsNear) (hc : plan.pattern.count? = none) {first last : Option Int}
    (hopen : ∀ start ∈ first, ∀ stop ∈ last, start ≤ stop) {behind : List Run.Item}
    {pre : List Int} (hpre : ∀ wall ∈ pre, ∃ start ∈ first, wall + 86400 ≤ start)
    (post : List Int) {emitted : Nat} {latest : Option TimelineKey}
    (hhidden : ∀ key ∈ latest, ∃ start ∈ first, key.instant < start) :
    (Run.slice first last (plan.judged behind emitted latest (pre ++ post)) = [] ∧
      (Run.Reaches last (plan.judged behind emitted latest (pre ++ post)) →
        ∃ start ∈ first, plan.Passes start)) ∨
    ∃ emitted' latest', (∀ key ∈ latest', ∃ start ∈ first, key.instant < start) ∧
      (Run.Reaches last (plan.judged behind emitted latest (pre ++ post)) →
        Run.Reaches last (plan.judged behind emitted' latest' post)) ∧
      Run.slice first last (plan.judged behind emitted latest (pre ++ post)) =
        Run.slice first last (plan.judged behind emitted' latest' post) := by
  induction pre generalizing emitted latest with
  | nil => exact .inr ⟨emitted, latest, hhidden, id, rfl⟩
  | cons wall pre ih =>
    have hpre' : ∀ wall ∈ pre, ∃ start ∈ first, wall + 86400 ≤ start :=
      fun v hv => hpre v (List.mem_cons_of_mem _ hv)
    obtain ⟨start, hstart, hwall⟩ := hpre wall List.mem_cons_self
    rw [List.cons_append, judged]
    cases hj : plan.judge emitted latest wall with
    | pass => exact ih hpre' hhidden
    | stop =>
      obtain ⟨found, hw, hf, hbound⟩ := of_judge_stop hh hc hj
      exact .inl ⟨rfl, fun _ => ⟨start, hstart, wall, found, hw, hwall, hf, hbound⟩⟩
    | fail error => exact .inl ⟨rfl, fun hreach => absurd hreach Run.not_reaches_error⟩
    | found found shown final =>
      obtain ⟨-, hf, -, -, -, rfl⟩ := of_judge_found hj
      obtain ⟨-, rfl⟩ := count_of_judge_found hj
      have hearly : found.key.instant < start := by
        have := hn wall found hf
        omega
      -- The instance is hidden, and the next reading is judged behind it.
      have hwithin : found.isWithin first last = false := by
        rw [Option.mem_def] at hstart
        simp only [Instance.isWithin, hstart, Option.all_some, not_le.2 hearly, decide_false,
          Bool.false_and]
      have hin : ∀ stop ∈ last, found.key.instant ≤ stop :=
        fun stop hstop => hearly.le.trans (hopen start hstart stop hstop)
      have hhidden' : ∀ key ∈ some found.key, ∃ start ∈ first, key.instant < start := by
        rintro _ ⟨⟩
        exact ⟨start, hstart, hearly⟩
      have hshown : plan.shows found = true := by simp [shows, hr]
      simp only [hshown, hc, Option.any_none, if_true, Bool.false_eq_true, if_false,
        List.singleton_append, Run.slice_ok_cons, hwithin, List.nil_append]
      rcases ih hpre' hhidden' with ⟨hnil, hpass⟩ | ⟨emitted', latest', hlatest, hrest, hslice⟩
      · exact .inl ⟨hnil, fun h => hpass (h.of_cons hin)⟩
      · exact .inr ⟨emitted', latest', hlatest, fun h => hrest (h.of_cons hin), hslice⟩

theorem Canonical.eq_nil_of_before_zero {plan : Plan} (hC : plan.Canonical) {cursor : Cursor}
    {pre post : List Int} {gaveUp : Bool} (h : plan.Walks cursor (pre ++ post) gaveUp)
    (hpre : ∀ wall ∈ pre, wall < plan.stepStart 0) : pre = [] := by
  apply List.eq_nil_iff_forall_not_mem.2
  intro wall hmem
  obtain ⟨first, -, hy⟩ := h.exists_step wall (List.mem_append_left _ hmem)
  have hlow := hC.stepStart_le_of_mem_yields hy
  have hzero : plan.stepStart 0 ≤ plan.stepStart first := stepStart_le_iff.2 (Nat.zero_le _)
  have := hpre wall hmem
  omega

end Plan

namespace Run

/-- A run between two instants, where they are given. -/
def between (run : Run) (first last : Option Int) : Run :=
  let run := match first with
    | some instant => run.resumingFrom instant
    | none => run
  match last with
  | some instant => run.withHorizon instant
  | none => run

theorem between_none {run : Run} (hr : run.plan.resume = none) (hh : run.plan.horizon = none)
    (last : Option Int) : run.between none last = ⟨run.plan.limited none last, run.cursor⟩ := by
  obtain ⟨⟨_, _, _, _, _, _, _, _, _, _, resume, horizon⟩, cursor⟩ := run
  obtain rfl : resume = none := hr
  obtain rfl : horizon = none := hh
  cases last <;> rfl

theorem plan_resumingFrom (run : Run) (start : Int) :
    (run.resumingFrom start).plan = { run.plan with resume := some start } := by
  unfold resumingFrom
  dsimp only
  split
  · rfl
  · split <;> rfl

theorem between_some {run : Run} (hh : run.plan.horizon = none) (start : Int)
    (last : Option Int) : run.between (some start) last =
      ⟨run.plan.limited (some start) last, (run.resumingFrom start).cursor⟩ := by
  have hplan := run.plan_resumingFrom start
  rcases hresumed : run.resumingFrom start with ⟨plan, cursor⟩
  rw [hresumed] at hplan
  obtain rfl : plan = _ := hplan
  simp only [between, hresumed]
  obtain ⟨⟨_, _, _, _, _, _, _, _, _, _, resume, horizon⟩, _⟩ := run
  obtain rfl : horizon = none := hh
  cases last <;> rfl

theorem cursor_resumingFrom {run : Run} (hcursor : run.cursor = .before 0) (start : Int) :
    ∃ step, (run.resumingFrom start).cursor = .before step ∧
      run.plan.BeginsBefore (some start) step := by
  unfold resumingFrom
  dsimp only
  split
  · exact ⟨0, hcursor, .inl rfl⟩
  · next hc =>
    split
    · exact ⟨0, hcursor, .inl rfl⟩
    · next target ht =>
      obtain ⟨rfl, -⟩ := move?_eq_some_iff.1 ht
      -- The step of a day before, which begins no later than that day.
      refine ⟨run.plan.stepContaining (start + -secondsPerDay), ?_, ?_⟩
      · rw [hcursor]
        simp only [Cursor.before, Nat.zero_max]
        rfl
      · rw [Plan.BeginsBefore, or_iff_not_imp_left]
        intro hstep
        refine ⟨by simpa using hc, start, rfl, ?_⟩
        have := Plan.stepStart_stepContaining_le hstep
        unfold secondsPerDay at this ⊢
        omega

theorem between_eq {run : Run} (hcursor : run.cursor = .before 0) (hr : run.plan.resume = none)
    (hh : run.plan.horizon = none) (first last : Option Int) :
    ∃ step, run.between first last = ⟨run.plan.limited first last, .before step⟩ ∧
      run.plan.BeginsBefore first step := by
  cases first with
  | none => exact ⟨0, hcursor ▸ between_none hr hh last, .inl rfl⟩
  | some start =>
    obtain ⟨step, hresumed, hstep⟩ := cursor_resumingFrom hcursor start
    exact ⟨step, hresumed ▸ between_some hh start last, hstep⟩

/-- A run between two moments is limited by the whole seconds between them. -/
theorem resumingFromMoment_eq {run : Run} (hcursor : run.cursor = .before 0)
    (first last : Moment) : ∃ step,
    (run.withHorizonMoment last).resumingFromMoment first =
      ⟨run.plan.limited (some first.ceiling) (some last.second), .before step⟩ ∧
      run.plan.BeginsBefore (some first.ceiling) step := by
  have hbefore : (run.withHorizonMoment last).cursor = .before 0 := hcursor
  obtain ⟨step, hresumed, hstep⟩ := cursor_resumingFrom hbefore first.second
  refine ⟨step, ?_, hstep.mono first.ceiling_bounds.1⟩
  rw [resumingFromMoment, hresumed]
  rfl

/-- A limited run gives the slice of the whole run between its instants, from whatever
step it may begin at, and nothing else if that reaches the last instant and has not
ended long before the first. -/
theorem limited_eq_append {run : Run} (hC : run.plan.Canonical) (hn : run.plan.IsNear)
    (hcursor : run.cursor = .before 0) (hr : run.plan.resume = none)
    (hh : run.plan.horizon = none) {first last : Option Int}
    (hopen : ∀ start ∈ first, ∀ stop ∈ last, start ≤ stop) {step : Nat}
    (hstep : run.plan.BeginsBefore first step) : ∃ tail,
    (Run.mk (run.plan.limited first last) (.before step)).toList =
      slice first last run.toList ++ tail ∧
      (Reaches last run.toList → (∀ start ∈ first, ¬ run.plan.Passes start) → tail = []) := by
  obtain ⟨walls, gaveUp, hwalks⟩ := hC.exists_walks (.before 0)
  have hwhole : run.toList = run.plan.judged (run.plan.ending gaveUp) 0 none walls := by
    rw [← toList_eq_judged hC hwalks, ← hcursor]
  obtain ⟨pre, post, more, goesOn, rfl, hpart, hpre, hmore⟩ :=
    hC.walks_resume hwalks (Plan.behind_before _ 0) (Nat.zero_le step)
  obtain ⟨kept, cut, end', hsplit, hkept, hcut, hend⟩ := hC.walks_limited hh first last hpart
  have htrims := Plan.trims_of_append hsplit hcut hmore hend
  rw [toList_eq_judged (hC.limited first last) hkept, hwhole]
  rcases hstep with rfl | ⟨hc, start, hs, hle⟩
  · -- The run begins with the first step as well.
    obtain rfl := hC.eq_nil_of_before_zero hwalks hpre
    obtain ⟨tail, htail, htrim⟩ :=
      Plan.judged_of_trims hr hh hn hopen htrims (.inl ⟨.inl rfl, rfl⟩)
    exact ⟨tail, htail, fun hreach _ => htrim hreach⟩
  · -- The run begins later; what it leaves out would be hidden, or has ended the whole run.
    have hearly : ∀ wall ∈ pre, ∃ start ∈ first, wall + 86400 ≤ start := by
      intro wall hmem
      have := hpre wall hmem
      exact ⟨start, hs, by omega⟩
    have hnone : ∀ key ∈ (none : Option TimelineKey), ∃ start ∈ first, key.instant < start :=
      fun key hkey => nomatch hkey
    rcases Plan.slice_append hr hh hn hc hopen hearly post hnone with
      ⟨hnil, hpass⟩ | ⟨emitted, latest, hhidden, hreach, hslice⟩
    · rw [hnil]
      refine ⟨_, rfl, fun hreach hopen => ?_⟩
      obtain ⟨start, hstart, hp⟩ := hpass hreach
      exact absurd hp (hopen start hstart)
    · have hbefore : ∀ key' ∈ (none : Option TimelineKey), ∃ key ∈ latest, key' ≤ key :=
        fun key hkey => nomatch hkey
      obtain ⟨tail, htail, htrim⟩ :=
        Plan.judged_of_trims hr hh hn hopen htrims (.inr ⟨hc, hbefore, hhidden⟩)
      exact ⟨tail, hslice ▸ htail, fun h _ => htrim (hreach h)⟩

/-- A run between two instants gives the slice of the whole run between them. -/
theorem between_eq_append {run : Run} (hC : run.plan.Canonical) (hn : run.plan.IsNear)
    (hcursor : run.cursor = .before 0) (hr : run.plan.resume = none)
    (hh : run.plan.horizon = none) {first last : Option Int}
    (hopen : ∀ start ∈ first, ∀ stop ∈ last, start ≤ stop) : ∃ tail,
    (run.between first last).toList = slice first last run.toList ++ tail ∧
      (Reaches last run.toList → (∀ start ∈ first, ¬ run.plan.Passes start) → tail = []) := by
  obtain ⟨step, hbetween, hstep⟩ := between_eq hcursor hr hh first last
  rw [hbetween]
  exact limited_eq_append hC hn hcursor hr hh hopen hstep

theorem of_mem_limited {run : Run} (hC : run.plan.Canonical) {first last : Option Int} {step : Nat}
    {found : Instance}
    (h : .ok found ∈ (Run.mk (run.plan.limited first last) (.before step)).toList) : ∃ wall,
    run.plan.anchor.wall ≤ wall ∧ run.plan.instanceAt wall = .ok found ∧
      run.plan.isPastBound found = false ∧ found.isWithin first last = true := by
  obtain ⟨walls, gaveUp, hwalks⟩ := (hC.limited first last).exists_walks (.before step)
  rw [toList_eq_judged (hC.limited first last) hwalks] at h
  obtain ⟨wall, -, hle, hf, hbound, hhorizon, hshows, -⟩ :=
    Plan.exists_wall_of_mem_judged (Plan.ok_notMem_ending _ _) h
  refine ⟨wall, hle, hf, hbound, ?_⟩
  unfold Plan.isPastHorizon at hhorizon
  unfold Plan.shows at hshows
  cases first <;> cases last <;> simp_all [Instance.isWithin, Plan.limited]

theorem of_mem_between {run : Run} (hC : run.plan.Canonical) (hcursor : run.cursor = .before 0)
    (hr : run.plan.resume = none) (hh : run.plan.horizon = none) {first last : Option Int}
    {found : Instance} (h : .ok found ∈ (run.between first last).toList) : ∃ wall,
    run.plan.anchor.wall ≤ wall ∧ run.plan.instanceAt wall = .ok found ∧
      run.plan.isPastBound found = false ∧ found.isWithin first last = true := by
  obtain ⟨step, hbetween, -⟩ := between_eq hcursor hr hh first last
  exact of_mem_limited hC (hbetween ▸ h)

/-- A run between two instants has no instance that the whole run lacks, if the
first instant lies less than a day behind the anchor: it begins with the first step
as well. -/
theorem mem_of_mem_between_early {run : Run} (hC : run.plan.Canonical)
    (hcursor : run.cursor = .before 0) (hr : run.plan.resume = none)
    (hh : run.plan.horizon = none) {first last : Option Int}
    (hearly : ∀ start ∈ first, start < run.plan.anchor.wall + 86400) {found : Instance}
    (h : .ok found ∈ (run.between first last).toList) : .ok found ∈ run.toList := by
  obtain ⟨step, hbetween, hstep⟩ := between_eq hcursor hr hh first last
  obtain rfl : step = 0 := by
    rcases hstep with hzero | ⟨-, start, hs, hle⟩
    · exact hzero
    · have := hearly start hs
      have hbefore : run.plan.stepStart step ≤ run.plan.anchor.wall := by omega
      exact Plan.eq_zero_of_stepStart_le hbefore
  obtain ⟨walls, gaveUp, hwalks⟩ := hC.exists_walks (.before 0)
  obtain ⟨kept, cut, end', rfl, hkept, -, -⟩ := hC.walks_limited hh first last hwalks
  rw [hbetween, toList_eq_judged (hC.limited first last) hkept] at h
  have hwhole : run.toList = run.plan.judged (run.plan.ending gaveUp) 0 none (kept ++ cut) := by
    rw [← toList_eq_judged hC hwalks, ← hcursor]
  rw [hwhole]
  exact Plan.mem_judged_of_limited hr hh (Plan.ok_notMem_ending _ end') cut h

end Run
end Recurrence

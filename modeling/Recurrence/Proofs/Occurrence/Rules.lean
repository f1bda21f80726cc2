import Mathlib
import Recurrence.Proofs.Occurrence.Place
import Recurrence.Proofs.Occurrence.Start
import Recurrence.Proofs.Rule.Limited

/-! What the rules of a set bring into its stream. In a window they are looked at
between two instants, and at one place they all have one value. -/
namespace Recurrence

namespace RecurrenceSet

/-- Whether one of some rules of a set has an instance in a window. -/
def RecursIn (clocks : Clocks) (set : RecurrenceSet) (window : Window) (patterns : List Pattern)
    (found : Instance) : Prop :=
  ∃ pattern ∈ patterns, ∃ run, set.runIn clocks window pattern = .ok run ∧ .ok found ∈ run.toList

theorem runIn_eq (clocks : Clocks) (set : RecurrenceSet) (window : Window) (pattern : Pattern) :
    set.runIn clocks window pattern = (Run.start clocks pattern set.start).map
      (·.between (set.resumeAt? window) window.stop) := by
  unfold runIn
  cases Run.start clocks pattern set.start with
  | error error => rfl
  | ok run => cases set.resumeAt? window <;> rfl

section Lists

variable {clocks : Clocks} {set : RecurrenceSet} {window : Window} {patterns : List Pattern}
  {runs : List Run}

theorem recursIn_iff (h : patterns.map (set.runIn clocks window) = runs.map .ok)
    (found : Instance) : set.RecursIn clocks window patterns found ↔
      found ∈ (runs.map Lookahead.ofSource).flatMap Instances.all := by
  rw [List.mem_flatMap]
  constructor
  · rintro ⟨pattern, hp, run, hrun, hf⟩
    have hmem : run ∈ runs := (mem_of_map_eq_ok h).2 ⟨pattern, hp, hrun⟩
    exact ⟨_, List.mem_map_of_mem hmem, mem_successes.2 hf⟩
  · rintro ⟨_, hahead, hf⟩
    obtain ⟨run, hmem, rfl⟩ := List.mem_map.1 hahead
    obtain ⟨pattern, hp, hrun⟩ := (mem_of_map_eq_ok h).1 hmem
    exact ⟨pattern, hp, run, hrun, mem_successes.1 hf⟩

theorem forall_runs_iff (h : patterns.map (set.runIn clocks window) = runs.map .ok)
    (holds : List Run.Item → Prop) :
    (∀ ahead ∈ runs.map Lookahead.ofSource, holds (Lookahead.toList ahead)) ↔
      ∀ pattern ∈ patterns, ∀ run, set.runIn clocks window pattern = .ok run → holds run.toList := by
  rw [List.forall_mem_map]
  constructor
  · intro hall pattern hp run hrun
    exact hall run ((mem_of_map_eq_ok h).2 ⟨pattern, hp, hrun⟩)
  · intro hall run hmem
    obtain ⟨pattern, hp, hrun⟩ := (mem_of_map_eq_ok h).1 hmem
    exact hall pattern hp run hrun

end Lists

section Opens

variable {clocks : Clocks} {set : RecurrenceSet} {window : Window} {stream : Occurrences}
  (h : set.Opens clocks window stream)
include h

theorem Opens.excludes_iff (key : TimelineKey) : stream.Excludes key ↔
    ∃ found, set.RecursIn clocks window set.exclusionRules found ∧ found.key = key := by
  obtain ⟨runs, hruns, hexclusion⟩ := h.exclusionRules
  unfold Occurrences.Excludes
  simp only [hexclusion, recursIn_iff hruns, List.mem_flatMap]
  constructor
  · rintro ⟨ahead, ha, found, hf, hk⟩
    exact ⟨found, ⟨ahead, ha, hf⟩, hk⟩
  · rintro ⟨found, ⟨ahead, ha, hf⟩, hk⟩
    exact ⟨ahead, ha, found, hf, hk⟩

theorem Opens.forall_exclusionRules_iff (holds : List Run.Item → Prop) :
    (∀ ahead ∈ stream.exclusionRules, holds ahead.toList) ↔ ∀ pattern ∈ set.exclusionRules, ∀ run,
      set.runIn clocks window pattern = .ok run → holds run.toList := by
  obtain ⟨runs, hruns, hexclusion⟩ := h.exclusionRules
  rw [hexclusion, forall_runs_iff hruns]

theorem Opens.forall_generated_iff (holds : List Run.Item → Prop) :
    (∀ ahead ∈ stream.generated, holds ahead.toList) ↔
      holds [.ok ⟨set.start, stream.startKey⟩] ∧ ∀ pattern ∈ set.rules, ∀ run,
        set.runIn clocks window pattern = .ok run → holds run.toList := by
  obtain ⟨runs, hruns, hgenerated⟩ := h.generated
  rw [hgenerated, List.forall_mem_cons, forall_runs_iff hruns]
  rfl

theorem Opens.mem_generated_iff (found : Instance) :
    found ∈ stream.generated.flatMap Instances.all ↔
      found = ⟨set.start, stream.startKey⟩ ∨ set.RecursIn clocks window set.rules found := by
  obtain ⟨runs, hruns, hgenerated⟩ := h.generated
  rw [hgenerated, List.flatMap_cons, List.mem_append, recursIn_iff hruns]
  simp [Instances.all]

/-- At a place a single occurrence wins, then the last of those generated. -/
theorem Opens.last?_offers (key : TimelineKey) : Candidate.last? key stream.offers =
      ((stream.added.find? (·.start = key)).map .declared).or
        (((stream.generated.flatMap Instances.all).filter (·.key = key)).getLast?.map .generated) := by
  rw [Occurrences.offers, Candidate.last?_append, Candidate.last?_declared h.ordered.added,
    Candidate.last?_generated]

theorem Opens.last?_eq_declared_iff {key : TimelineKey} {one : Added} :
    Candidate.last? key stream.offers = some (.declared one) ↔
      stream.added.find? (·.start = key) = some one := by
  rw [h.last?_offers]
  cases stream.added.find? (·.start = key) <;> simp

theorem Opens.of_getLast? {key : TimelineKey} {found : Instance}
    (hl : ((stream.generated.flatMap Instances.all).filter (·.key = key)).getLast? = some found) :
    found.key = key ∧ (set.RecursIn clocks window set.rules found ∨
      found = ⟨set.start, stream.startKey⟩ ∧
        ∀ other, set.RecursIn clocks window set.rules other → other.key ≠ key) := by
  obtain ⟨runs, hruns, hgenerated⟩ := h.generated
  have hk : found.key = key := by simpa using (List.mem_filter.1 (List.mem_of_getLast? hl)).2
  refine ⟨hk, ?_⟩
  rw [hgenerated, List.flatMap_cons, List.filter_append, List.getLast?_append] at hl
  cases hrec : (((runs.map Lookahead.ofSource).flatMap Instances.all).filter
      (·.key = key)).getLast? with
  | some other =>
    rw [hrec] at hl
    cases hl
    exact .inl ((recursIn_iff hruns found).2 (List.mem_filter.1 (List.mem_of_getLast? hrec)).1)
  | none =>
    rw [hrec, Option.none_or] at hl
    have hmem := (List.mem_filter.1 (List.mem_of_getLast? hl)).1
    refine .inr ⟨by simpa [Instances.all] using hmem, fun other hother heq => ?_⟩
    have hnil := List.getLast?_eq_none_iff.1 hrec
    rw [List.filter_eq_nil_iff] at hnil
    exact hnil other ((recursIn_iff hruns other).1 hother) (decide_eq_true heq)

end Opens

/-- Whether the rules of a set in a window are looked at from before a place. -/
def LooksAt (set : RecurrenceSet) (window : Window) (key : TimelineKey) : Prop :=
  ∀ start ∈ set.resumeAt? window, start ≤ key.instant

section Instances

variable {resolver : Resolver} {set : RecurrenceSet} {window : Window} {patterns : List Pattern}
  {found : Instance}

theorem recursIn_iff_between {clocks : Clocks} : set.RecursIn clocks window patterns found ↔
    ∃ pattern ∈ patterns, ∃ run, Run.start clocks pattern set.start = .ok run ∧
      .ok found ∈ (run.between (set.resumeAt? window) window.stop).toList := by
  unfold RecursIn
  simp only [runIn_eq, map_eq_ok_iff]
  refine exists_congr fun pattern => and_congr_right fun _ => ?_
  constructor
  · rintro ⟨_, ⟨run, hrun, rfl⟩, hf⟩
    exact ⟨run, hrun, hf⟩
  · rintro ⟨run, hrun, hf⟩
    exact ⟨_, ⟨run, hrun, rfl⟩, hf⟩

theorem RecursIn.exists_wall {clocks : Clocks} (h : set.RecursIn clocks window patterns found)
    (hA : set.start.InCalendar) : ∃ (plan : Plan) (pattern : Pattern) (wall : Int),
      plan.Opens clocks pattern set.start ∧ plan.anchor.wall ≤ wall ∧
      plan.instanceAt wall = .ok found ∧ found.isWithin (set.resumeAt? window) window.stop = true := by
  obtain ⟨pattern, -, run, hrun, hf⟩ := recursIn_iff_between.1 h
  obtain ⟨hcursor, hopens⟩ := Run.opens hrun
  obtain ⟨wall, hle, hwall, -, hwithin⟩ := Run.of_mem_between (hopens.canonical hA) hcursor
    hopens.resume_eq hopens.horizon_eq hf
  exact ⟨run.plan, pattern, wall, hopens, hle, hwall, hwithin⟩

theorem RecursIn.looksAt {clocks : Clocks} (h : set.RecursIn clocks window patterns found)
    (hA : set.start.InCalendar) : set.LooksAt window found.key := by
  obtain ⟨_, _, _, -, -, -, hwithin⟩ := h.exists_wall hA
  unfold Instance.isWithin at hwithin
  rw [Bool.and_eq_true, Option.all_eq_true] at hwithin
  exact fun start hs => of_decide_eq_true (hwithin.1 start hs)

theorem RecursIn.inj {clocks : Clocks} {found' : Instance} {patterns' : List Pattern}
    {window' : Window} (h : set.RecursIn clocks window patterns found)
    (h' : set.RecursIn clocks window' patterns' found') (hA : set.start.InCalendar)
    (hk : found.key = found'.key) : found = found' := by
  obtain ⟨plan, _, _, hopens, -, hf, -⟩ := h.exists_wall hA
  obtain ⟨plan', _, _, hopens', -, hf', -⟩ := h'.exists_wall hA
  have hanchor : plan.anchor = plan'.anchor := hopens.anchor_eq.trans hopens'.anchor_eq.symm
  have hclock : plan.clock = plan'.clock :=
    Except.ok.inj (hopens.clock_eq.symm.trans hopens'.clock_eq)
  exact Plan.instanceAt_inj hanchor hclock hf hf' hk

theorem RecursIn.placed {clocks : Clocks} {clock : Option Clock}
    (h : set.RecursIn clocks window patterns found) (hA : set.start.InCalendar)
    (hclock : set.start.clock? clocks = .ok clock) : found.Placed clock := by
  obtain ⟨plan, _, _, hopens, hle, hf, -⟩ := h.exists_wall hA
  obtain rfl := Except.ok.inj (hopens.clock_eq.symm.trans hclock)
  exact hopens.placed hA hle hf

theorem RecursIn.hasTime {clocks : Clocks} (h : set.RecursIn clocks window patterns found)
    (hA : set.start.InCalendar) : found.value.hasTime = set.start.hasTime := by
  obtain ⟨plan, _, _, hopens, -, hf, -⟩ := h.exists_wall hA
  rw [Plan.hasTime_of_instanceAt hf, hopens.anchor_eq]

theorem Opens.last?_eq_generated_iff {clocks : Clocks} {stream : Occurrences}
    (h : set.Opens clocks window stream) (hA : set.start.InCalendar) :
    Candidate.last? found.key stream.offers = some (.generated found) ↔
      stream.added.find? (·.start = found.key) = none ∧
        (set.RecursIn clocks window set.rules found ∨ found = ⟨set.start, stream.startKey⟩ ∧
          ∀ other, set.RecursIn clocks window set.rules other → other.key ≠ found.key) := by
  rw [h.last?_offers]
  cases hadded : stream.added.find? (·.start = found.key) with
  | some one => simp
  | none =>
    rw [Option.map_none, Option.none_or, Option.map_eq_some_iff]
    constructor
    · rintro ⟨_, hl, heq⟩
      cases heq
      exact ⟨rfl, (h.of_getLast? hl).2⟩
    · rintro ⟨-, hg⟩
      have hmem : found ∈ (stream.generated.flatMap Instances.all).filter (·.key = found.key) := by
        refine List.mem_filter.2 ⟨(h.mem_generated_iff found).2 ?_, decide_eq_true rfl⟩
        rcases hg with hr | ⟨hstart, -⟩
        · exact .inr hr
        · exact .inl hstart
      have hl := List.getLast?_eq_some_getLast (List.ne_nil_of_mem hmem)
      refine ⟨_, hl, congrArg Candidate.generated ?_⟩
      obtain ⟨hk, hr | ⟨hstart, hnone⟩⟩ := h.of_getLast? hl
      · rcases hg with hr' | ⟨-, hnone⟩
        · exact hr.inj hr' hA hk
        · exact absurd hk (hnone _ hr)
      · rcases hg with hr' | ⟨hstart', -⟩
        · exact absurd rfl (hnone _ hr')
        · exact hstart.trans hstart'.symm

end Instances

section Window

variable {resolver : Resolver} {set : RecurrenceSet} {window : Window} {patterns : List Pattern}
  {found : Instance}
variable (hA : set.start.InCalendar)
include hA

/-- A rule with an instance in a window has not ended long before, unless it ends
on a date that its clock comes back to. -/
theorem not_passes_of_mem {pattern : Pattern} {run : Run} {clock : Option Clock}
    (hrun : Run.start resolver.clocks pattern set.start = .ok run)
    (hclock : set.start.clock? resolver.clocks = .ok clock) (hs : ∀ c ∈ clock, c.IsSteady)
    (hdates : ∀ last, pattern.until? = some (.date last) → ∀ c ∈ clock, c.KeepsDates)
    (hf : .ok found ∈ (run.between (set.resumeAt? window) window.stop).toList) :
    ∀ start ∈ set.resumeAt? window, ¬ run.plan.Passes start := by
  intro start hstart hpass
  obtain ⟨hcursor, hopens⟩ := Run.opens hrun
  obtain ⟨wall, -, hwall, hbound, hwithin⟩ := Run.of_mem_between (hopens.canonical hA) hcursor
    hopens.resume_eq hopens.horizon_eq hf
  unfold Instance.isWithin at hwithin
  rw [Bool.and_eq_true, Option.all_eq_true] at hwithin
  obtain rfl := Except.ok.inj (hopens.clock_eq.symm.trans hclock)
  obtain ⟨last, hday, c, hc, hkeeps⟩ := Plan.of_passes hopens.isNear hs hpass hwall hbound
    (of_decide_eq_true (hwithin.1 start hstart))
  exact hkeeps (hdates last (hopens.until?_of_day hday) c hc)

variable (hopen : ∀ start ∈ set.resumeAt? window, ∀ stop ∈ window.stop, start ≤ stop)
include hopen

theorem recursIn_window (h : set.RecursIn resolver.clocks .unbounded patterns found)
    (hlook : set.LooksAt window found.key) (hpast : window.isPast found.key = false) :
    set.RecursIn resolver.clocks window patterns found := by
  obtain ⟨pattern, hp, run, hrun, hf⟩ := recursIn_iff_between.1 h
  obtain ⟨hcursor, hopens⟩ := Run.opens hrun
  refine recursIn_iff_between.2 ⟨pattern, hp, run, hrun, ?_⟩
  refine Run.mem_between hcursor hopens hA hopen hf ?_
  unfold Instance.isWithin
  rw [Bool.and_eq_true, Option.all_eq_true, Option.all_eq_true]
  refine ⟨fun start hs => decide_eq_true (hlook start hs), fun stop hs => decide_eq_true ?_⟩
  unfold Window.isPast at hpast
  rw [Option.mem_def.1 hs, Option.any_some, decide_eq_false_iff_not] at hpast
  omega

theorem recursIn_of_window (h : set.RecursIn resolver.clocks window patterns found)
    {clock : Option Clock} (hclock : set.start.clock? resolver.clocks = .ok clock)
    (hs : ∀ c ∈ clock, c.IsSteady)
    (hdates : ∀ pattern ∈ patterns, ∀ last, pattern.until? = some (.date last) →
      ∀ c ∈ clock, c.KeepsDates)
    (ha : ∀ pattern ∈ patterns, ∀ run, Run.start resolver.clocks pattern set.start = .ok run →
      Arrives (found.key ≤ ·.key) run.toList) :
    set.RecursIn resolver.clocks .unbounded patterns found := by
  obtain ⟨pattern, hp, run, hrun, hf⟩ := recursIn_iff_between.1 h
  obtain ⟨hcursor, hopens⟩ := Run.opens hrun
  have hpass := not_passes_of_mem hA hrun hclock hs (hdates pattern hp) hf
  have hmem := Run.mem_of_mem_between hcursor hopens hA hopen hf (ha pattern hp run hrun) hpass
  exact recursIn_iff_between.2 ⟨pattern, hp, run, hrun, hmem⟩

theorem arrives_window {pattern : Pattern} {run : Run} {test : Instance → Prop}
    (hrun : Run.start resolver.clocks pattern set.start = .ok run)
    (hp : ∀ start ∈ set.resumeAt? window, ¬ run.plan.Passes start)
    (htest : ∀ later, test later → set.LooksAt window later.key) (ha : Arrives test run.toList) :
    Arrives test (run.between (set.resumeAt? window) window.stop).toList := by
  obtain ⟨hcursor, hopens⟩ := Run.opens hrun
  exact Run.arrives_between hcursor hopens hA hopen ha htest hp

end Window

end RecurrenceSet
end Recurrence

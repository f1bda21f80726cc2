import Mathlib
import Recurrence.Zone.Observance
import Recurrence.Proofs.Rule.Patient
import Recurrence.Proofs.Sorted

/-! The onsets of an observance. A rule of days gives between two moments just those
onsets of its whole run that lie between them, although it runs on the wall clock and
between bounds moved there. So the latest onset is found, and the same one whether two
years are looked back or all. Onsets are whole seconds: what lies in the second of a
moment decides which of them it comes behind. -/
namespace Recurrence
open Calendar Zone

/-- Whether an instant lies some days from either end of the calendar. -/
def Calendar.IsInside (days instant : Int) : Prop :=
  firstSecond + days * 86400 ≤ instant ∧ instant ≤ lastSecond - days * 86400

theorem Calendar.IsInside.mono {days fewer instant : Int} (h : IsInside days instant)
    (hle : fewer ≤ days) : IsInside fewer instant := by
  obtain ⟨hlow, hhigh⟩ := h
  constructor <;> omega

theorem Calendar.IsInside.move? {moment : Moment} {days seconds : Int}
    (h : IsInside days moment.second) (hlow : -(days * 86400) ≤ seconds)
    (hhigh : seconds ≤ days * 86400) : moment.move? seconds = some (moment.add seconds) := by
  obtain ⟨hfirst, hlast⟩ := h
  exact if_pos ⟨by omega, by omega⟩

theorem Calendar.IsInside.second_before {moment : Moment} {days fewer : Int}
    (h : IsInside days moment.second) (hlt : fewer < days) :
    IsInside fewer (moment.add (-1)).second := by
  obtain ⟨hlow, hhigh⟩ := h
  rw [Moment.second_add]
  constructor <;> omega

namespace Plan

theorem fold_eq {β : Type} (plan : Plan) (f : β → Instance → β) (acc : β) (cursor : Cursor) :
    plan.fold f acc cursor = (successes (plan.items cursor)).foldl f acc := by
  fun_induction plan.items cursor generalizing acc with
  | case1 cursor hn =>
    rw [fold]
    split <;> simp_all
  | case2 cursor item hn =>
    rw [fold]
    cases item with
    | error error => split <;> simp_all
    | ok found => split <;> simp_all
  | case3 cursor item rest hn ih =>
    rw [fold]
    cases item with
    | error error => exact absurd (rest_of_next?_error hn) (Option.some_ne_none rest)
    | ok found => split <;> simp_all

end Plan

theorem Run.instances_eq (run : Run) : run.instances = successes run.toList := by
  rw [instances, Plan.fold_eq, List.foldl_flip_cons_eq_append', List.append_nil,
    List.reverse_reverse]
  rfl

theorem Run.le_of_mem_toList {clocks : Clocks} {pattern : Pattern} {wall : Int} {run : Run}
    (hwall : Representable wall)
    (hstart : Run.start clocks pattern (.time wall .floating) = .ok run) {found : Instance}
    (h : .ok found ∈ run.toList) : wall ≤ found.key.instant := by
  obtain ⟨hcursor, hopens⟩ := Run.opens hstart
  have hanchor : (DateTime.time wall .floating).InCalendar := hwall
  obtain ⟨reading, hle, hfound, -⟩ := @Run.of_mem_between run (hopens.canonical hanchor) hcursor
    hopens.resume_eq hopens.horizon_eq none none found h
  rw [Plan.instanceAt_eq (hopens.clock_eq_none rfl)] at hfound
  rw [← Except.ok.inj hfound]
  rw [hopens.anchor_eq] at hle ⊢
  exact hle

namespace Zone

theorem mem_distinctSorted {values : List Int} {value : Int} :
    value ∈ distinctSorted values ↔ value ∈ values := by
  fun_induction distinctSorted values with
  | case1 b rest ih => rw [ih, List.mem_cons, List.mem_cons, List.mem_cons, or_self_left]
  | case2 a b rest h ih => simp only [List.mem_cons, ih]
  | case3 => rfl

theorem distinctSorted_pairwise {values : List Int} (h : values.Pairwise (· ≤ ·)) :
    (distinctSorted values).Pairwise (· < ·) := by
  fun_induction distinctSorted values with
  | case1 b rest ih => exact ih h.of_cons
  | case2 a b rest hne ih =>
    rw [List.pairwise_cons] at h
    refine List.pairwise_cons.2 ⟨fun value hmem => ?_, ih h.2⟩
    rw [mem_distinctSorted] at hmem
    -- The second value differs from the first, and the others follow it.
    have hle := h.1 b List.mem_cons_self
    rcases List.mem_cons.1 hmem with rfl | hmem
    · omega
    · have := (List.pairwise_cons.1 h.2).1 value hmem
      omega
  | case3 short hshort =>
    cases short with
    | nil => exact List.Pairwise.nil
    | cons a rest =>
      cases rest with
      | nil => exact List.pairwise_singleton _ _
      | cons b rest => exact absurd rfl (hshort a b rest)

namespace Observance

variable {clocks : Clocks} {o : Observance}

/-- Whether an observance comes into effect at an instant, by an onset listed or by
an instance of its rule. -/
def HasOnset (clocks : Clocks) (o : Observance) (instant : Int) : Prop :=
  (∃ wall ∈ o.start :: o.extra, o.onsetAt? wall = some instant) ∨
  ∃ pattern ∈ o.rule, ∃ run,
    Run.start clocks (o.localPattern pattern) (.time o.start .floating) = .ok run ∧
    ∃ found, .ok found ∈ run.toList ∧ o.onsetAt? found.value.wall = some instant

/-- Whether an observance starts in the calendar, with a rule of days if any. -/
structure IsDaily (o : Observance) : Prop where
  start_mem : Representable o.start
  rule_days : ∀ pattern ∈ o.rule, pattern.frequency.isSubDaily = false

theorem frequency_localPattern (o : Observance) (pattern : Pattern) :
    (o.localPattern pattern).frequency = pattern.frequency := by
  unfold localPattern
  split
  · split <;> rfl
  · rfl

theorem localBound_eq (o : Observance) {moment : Moment} (h : IsInside 1 moment.second) :
    o.localBound moment = moment.add o.offsetFrom.seconds := by
  have hday := o.offsetFrom.within_day
  rw [localBound, h.move? (by omega) (by omega), Option.getD_some]

theorem onsetAt?_eq_some_iff {wall instant : Int} : o.onsetAt? wall = some instant ↔
    instant = wall - o.offsetFrom.seconds ∧ Representable instant := by
  rw [onsetAt?, move?_eq_some_iff, Int.sub_eq_add_neg]

theorem key_of_mem_toList {pattern : Pattern} {wall : Int} {run : Run} {found : Instance}
    (hstart : Run.start clocks pattern (.time wall .floating) = .ok run)
    (hmem : .ok found ∈ run.toList) : found.key.instant = found.value.wall := by
  obtain ⟨-, hopens⟩ := Run.opens hstart
  obtain ⟨reading, hf⟩ := Plan.exists_wall_of_mem_items hmem
  unfold Plan.instanceAt at hf
  rw [hopens.anchor_eq, hopens.clock_eq_none rfl] at hf
  cases hf
  rfl

/-- No onset comes before the first one, unless one is listed. -/
theorem le_of_hasOnset (hstart : Representable o.start) (hextra : ∀ wall ∈ o.extra, o.start ≤ wall)
    {instant : Int} (h : o.HasOnset clocks instant) :
    o.start - o.offsetFrom.seconds ≤ instant := by
  rcases h with ⟨wall, hw, hat⟩ | ⟨pattern, -, run, hrun, found, hmem, hat⟩
  · obtain ⟨rfl, -⟩ := onsetAt?_eq_some_iff.1 hat
    have hle : o.start ≤ wall := List.forall_mem_cons.2 ⟨le_rfl, hextra⟩ wall hw
    omega
  · obtain ⟨rfl, -⟩ := onsetAt?_eq_some_iff.1 hat
    have hle := Run.le_of_mem_toList hstart hrun hmem
    rw [key_of_mem_toList hrun hmem] at hle
    omega

/-- The run for the onsets of a rule is one limited on the wall clock, by the first
whole second not before the one bound and by the second of the other. -/
theorem ruleOnsets_eq {pattern : Pattern} {run : Run}
    (hstart : Run.start clocks (o.localPattern pattern) (.time o.start .floating) = .ok run)
    (first : Option Moment) (last : Moment) : ∃ step,
    run.plan.BeginsBefore (first.map fun m => (o.localBound m).ceiling) step ∧
    o.ruleOnsets clocks pattern first last =
      (successes (Run.mk (run.plan.limited (first.map fun m => (o.localBound m).ceiling)
        (some (o.localBound last).second)) (.before step)).toList).filterMap
          fun found => o.onsetAt? found.value.wall := by
  obtain ⟨hcursor, hopens⟩ := Run.opens hstart
  unfold ruleOnsets
  rw [hstart]
  dsimp only
  rw [Run.instances_eq]
  cases first with
  | none =>
    have hnone := Run.between_none hopens.resume_eq hopens.horizon_eq
      (some (o.localBound last).second)
    refine ⟨0, .inl rfl, ?_⟩
    rw [Option.map_none, ← hcursor, ← hnone]
    rfl
  | some first =>
    obtain ⟨step, hlimited, hstep⟩ :=
      Run.resumingFromMoment_eq hcursor (o.localBound first) (o.localBound last)
    refine ⟨step, hstep, ?_⟩
    dsimp only
    rw [hlimited]
    rfl

/-- The bounds on the wall clock are those of the moments, moved by the same offset. -/
theorem isWithin_localBound_iff {first : Option Moment} {last : Moment}
    (hfirst : ∀ start ∈ first, IsInside 1 start.second) (hlast : IsInside 1 last.second)
    {found : Instance} (hkey : found.key.instant = found.value.wall) :
    found.isWithin (first.map fun m => (o.localBound m).ceiling)
        (some (o.localBound last).second) = true ↔
      (∀ start ∈ first, start.ceiling ≤ found.value.wall - o.offsetFrom.seconds) ∧
        found.value.wall - o.offsetFrom.seconds ≤ last.second := by
  simp only [Instance.isWithin, Bool.and_eq_true, Option.all_eq_true, Option.all_some,
    decide_eq_true_eq, hkey, o.localBound_eq hlast, Moment.second_add]
  refine and_congr ⟨fun h start hs => ?_, ?_⟩ (by omega)
  · have := h _ (Option.mem_map_of_mem _ hs)
    rw [o.localBound_eq (hfirst start hs), Moment.ceiling_add] at this
    omega
  · rintro h _ hs
    obtain ⟨start, hstart, rfl⟩ := Option.mem_map.1 hs
    have := h start hstart
    rw [o.localBound_eq (hfirst start hstart), Moment.ceiling_add]
    omega

theorem onsets_pairwise (clocks : Clocks) (o : Observance) (first : Option Moment)
    (last : Moment) :
    (o.onsets clocks first last).Pairwise (· < ·) :=
  distinctSorted_pairwise (List.pairwise_mergeSort' (· ≤ ·) _)

section Between

variable (hdaily : o.IsDaily) {first : Option Moment} {last : Moment}
  (hfirst : ∀ start ∈ first, IsInside 1 start.second) (hlast : IsInside 1 last.second)
include hdaily hfirst hlast

theorem mem_ruleOnsets_iff {pattern : Pattern} (hrule : o.rule = some pattern)
    (hopen : ∀ start ∈ first, start.ceiling ≤ last.second) {instant : Int} :
    instant ∈ o.ruleOnsets clocks pattern first last ↔ (∃ run,
      Run.start clocks (o.localPattern pattern) (.time o.start .floating) = .ok run ∧
      ∃ found, .ok found ∈ run.toList ∧ o.onsetAt? found.value.wall = some instant) ∧
      (∀ start ∈ first, start.ceiling ≤ instant) ∧ instant ≤ last.second := by
  cases hstart : Run.start clocks (o.localPattern pattern) (.time o.start .floating) with
  | error error => simp [ruleOnsets, hstart]
  | ok run =>
    have hdays : (o.localPattern pattern).frequency.isSubDaily = false := by
      rw [frequency_localPattern]
      exact hdaily.rule_days pattern hrule
    have hopen' : ∀ start ∈ first.map fun m => (o.localBound m).ceiling,
        ∀ stop ∈ some (o.localBound last).second, start ≤ stop := by
      rintro _ hs _ ⟨⟩
      obtain ⟨start, hmem, rfl⟩ := Option.mem_map.1 hs
      have := hopen start hmem
      rw [o.localBound_eq (hfirst start hmem), o.localBound_eq hlast, Moment.ceiling_add,
        Moment.second_add]
      omega
    obtain ⟨step, hstep, honsets⟩ := ruleOnsets_eq hstart first last
    rw [honsets, List.mem_filterMap]
    simp only [mem_successes,
      Run.mem_limited_of_days hstart hdaily.start_mem hdays hopen' hstep, onsetAt?_eq_some_iff,
      Except.ok.injEq, exists_eq_left']
    have hwithin : ∀ found : Instance, .ok found ∈ run.toList →
        (found.isWithin (first.map fun m => (o.localBound m).ceiling)
            (some (o.localBound last).second) = true ↔
          (∀ start ∈ first, start.ceiling ≤ found.value.wall - o.offsetFrom.seconds) ∧
            found.value.wall - o.offsetFrom.seconds ≤ last.second) := fun found hmem =>
      isWithin_localBound_iff hfirst hlast (key_of_mem_toList hstart hmem)
    constructor
    · rintro ⟨found, ⟨hmem, hin⟩, rfl, hr⟩
      exact ⟨⟨found, hmem, rfl, hr⟩, (hwithin found hmem).1 hin⟩
    · rintro ⟨⟨found, hmem, rfl, hr⟩, hin⟩
      exact ⟨found, ⟨hmem, (hwithin found hmem).2 hin⟩, rfl, hr⟩

theorem mem_onsets_iff {instant : Int} : instant ∈ o.onsets clocks first last ↔
    o.HasOnset clocks instant ∧ (∀ start ∈ first, start.ceiling ≤ instant) ∧
      instant ≤ last.second := by
  unfold onsets
  rw [mem_distinctSorted, List.mem_mergeSort, List.mem_filter, List.mem_append,
    List.mem_filterMap, Bool.and_eq_true, Option.all_eq_true, decide_eq_true_eq]
  simp only [decide_eq_true_eq, Moment.le_ofSecond_iff, Moment.ofSecond_le_iff]
  rw [HasOnset]
  refine and_congr_left fun hin => ?_
  cases hrule : o.rule with
  | none => simp
  | some pattern =>
    have hopen : ∀ start ∈ first, start.ceiling ≤ last.second :=
      fun start hs => (hin.1 start hs).trans hin.2
    simp only [mem_ruleOnsets_iff hdaily hfirst hlast hrule hopen, Option.mem_def,
      Option.some.injEq, exists_eq_left']
    exact or_congr_right (and_iff_left hin)

theorem isGreatest_of_getLast?_onsets {latest : Int}
    (h : (o.onsets clocks first last).getLast? = some latest) :
    IsGreatest {onset | o.HasOnset clocks onset ∧ onset ≤ last.second} latest := by
  obtain ⟨hmem, hgreatest⟩ := isGreatest_of_getLast? (o.onsets_pairwise clocks first last) h
  obtain ⟨honset, hstart, hle⟩ := (mem_onsets_iff hdaily hfirst hlast).1 hmem
  refine ⟨⟨honset, hle⟩, fun other hother => ?_⟩
  by_contra hlt
  apply hlt
  apply hgreatest
  exact (mem_onsets_iff hdaily hfirst hlast).2
    ⟨hother.1, fun start hs => (hstart start hs).trans (not_le.1 hlt).le, hother.2⟩

end Between

theorem getLast?_onsets_eq_some_iff (hdaily : o.IsDaily) {moment : Moment} {latest : Int}
    (hinside : IsInside 1 moment.second) :
    (o.onsets clocks none moment).getLast? = some latest ↔
      IsGreatest {onset | o.HasOnset clocks onset ∧ onset ≤ moment.second} latest := by
  have hnone : ∀ start ∈ (none : Option Moment), IsInside 1 start.second := by simp
  refine ⟨isGreatest_of_getLast?_onsets hdaily hnone hinside, fun h => ?_⟩
  cases hall : (o.onsets clocks none moment).getLast? with
  | some other => rw [(isGreatest_of_getLast?_onsets hdaily hnone hinside hall).unique h]
  | none =>
    have hmem : latest ∈ o.onsets clocks none moment :=
      (mem_onsets_iff hdaily hnone hinside).2 ⟨h.1.1, by simp, h.1.2⟩
    rw [List.getLast?_eq_none_iff.1 hall] at hmem
    cases hmem

/-- The latest onset not after a moment is the greatest there is, although one of the
last two years is preferred. -/
theorem latestOnset?_eq_some_iff_moment (hdaily : o.IsDaily) {moment : Moment} {latest : Int}
    (hinside : IsInside 733 moment.second) : o.latestOnset? clocks moment = some latest ↔
      IsGreatest {onset | o.HasOnset clocks onset ∧ onset ≤ moment.second} latest := by
  have hlast : IsInside 1 moment.second := hinside.mono (by omega)
  have hrecent : ∀ start ∈ moment.move? (-recentSeconds), IsInside 1 start.second := by
    obtain ⟨hlow, hhigh⟩ := hinside
    have hseconds : recentSeconds = 732 * 86400 := rfl
    rw [IsInside.move? ⟨hlow, hhigh⟩ (by omega) (by omega)]
    rintro _ ⟨⟩
    exact ⟨by rw [Moment.second_add]; omega, by rw [Moment.second_add]; omega⟩
  unfold latestOnset?
  cases hlate : (o.onsets clocks (moment.move? (-recentSeconds)) moment).getLast? with
  | some other =>
    have hother := isGreatest_of_getLast?_onsets hdaily hrecent hlast hlate
    change some other = some latest ↔ _
    rw [Option.some.injEq]
    exact ⟨fun heq => heq ▸ hother, fun h => hother.unique h⟩
  | none => exact getLast?_onsets_eq_some_iff hdaily hlast

theorem latestOnset?_eq_some_iff (hdaily : o.IsDaily) {instant latest : Int}
    (hinside : IsInside 733 instant) : o.latestOnset? clocks instant = some latest ↔
      IsGreatest {onset | o.HasOnset clocks onset ∧ onset ≤ instant} latest := by
  have hsecond : IsInside 733 (Moment.ofSecond instant).second := hinside
  exact latestOnset?_eq_some_iff_moment hdaily hsecond

/-- Onsets are whole seconds, so that a moment comes behind the same ones as its second. -/
theorem latestOnset?_eq_second (hdaily : o.IsDaily) {moment : Moment}
    (hinside : IsInside 733 moment.second) :
    o.latestOnset? clocks moment = o.latestOnset? clocks moment.second := by
  apply Option.ext
  intro latest
  rw [latestOnset?_eq_some_iff_moment hdaily hinside, latestOnset?_eq_some_iff hdaily hinside]

theorem latestOnset?_eq_getLast? (hdaily : o.IsDaily) {instant : Int}
    (hinside : IsInside 733 instant) :
    o.latestOnset? clocks instant = (o.onsets clocks none instant).getLast? := by
  have hlast : IsInside 1 (Moment.ofSecond instant).second := hinside.mono (by omega)
  apply Option.ext
  intro latest
  rw [latestOnset?_eq_some_iff hdaily hinside, getLast?_onsets_eq_some_iff hdaily hlast,
    Moment.second_ofSecond]

end Observance
end Zone
end Recurrence

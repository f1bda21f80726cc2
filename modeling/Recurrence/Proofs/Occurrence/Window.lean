import Mathlib
import Recurrence.Proofs.Occurrence.Clean
import Recurrence.Proofs.Occurrence.Extent

/-! The stream of a set in a window beside its whole stream. Both visit the same
candidates among those that reach into the window: what the rules are not looked
at for lies too early, but for single occurrences that last longer than others. -/
namespace Recurrence.RecurrenceSet

/-- Whether no rule of a set ends on a date that the clock of its start comes back
to. -/
def KeepsDates (clocks : Clocks) (set : RecurrenceSet) : Prop :=
  ∀ pattern ∈ set.rules ++ set.exclusionRules, ∀ last, pattern.until? = some (.date last) →
    ∀ clock, set.start.clock? clocks = .ok (some clock) → clock.KeepsDates

/-- Whether the exclusion rules of a set are looked at wherever they take away a
single occurrence that reaches into a window. -/
def SeesRemovals (clocks : Clocks) (set : RecurrenceSet) (window : Window) : Prop :=
  ∀ found period, set.Recurs clocks set.exclusionRules found →
    set.declaredAt? clocks found.key = some period →
      (set.extended period).reaches clocks window found.key = true → set.LooksAt window found.key

/-- Whether no rule of a set fails in a window before it has an instance. -/
def BeginsWell (clocks : Clocks) (set : RecurrenceSet) (window : Window) : Prop :=
  ∀ pattern ∈ set.rules ++ set.exclusionRules, ∀ run, set.runIn clocks window pattern = .ok run →
    Arrives (fun _ => True) run.toList

section Beside

variable {clocks : Clocks} {set : RecurrenceSet} {window other : Window}
  {stream stream' : Occurrences}
variable (h : set.Opens clocks window stream) (h' : set.Opens clocks other stream')
include h h'

theorem Opens.clock_congr : stream.clock = stream'.clock :=
  Except.ok.inj (h.clock_eq.symm.trans h'.clock_eq)

theorem Opens.startKey_congr : stream.startKey = stream'.startKey :=
  Except.ok.inj (h.key_start.symm.trans h'.key_start)

theorem Opens.added_congr : stream.added = stream'.added := by
  obtain ⟨placed, hplaced, hadded⟩ := h.added
  obtain ⟨placed', hplaced', hadded'⟩ := h'.added
  have hsame : placed = placed' :=
    List.map_injective_iff.2 (fun _ _ => Except.ok.inj) (hplaced.symm.trans hplaced')
  rw [hadded, hadded', hsame]

theorem Opens.isTaken_congr (key : TimelineKey) : stream.isTaken key = stream'.isTaken key := by
  rw [Bool.eq_iff_iff, h.isTaken_iff, h'.isTaken_iff]

theorem Opens.build_congr (ho : stream.ordinal = stream'.ordinal) :
    stream.build = stream'.build := by
  funext candidate
  unfold Occurrences.build
  rw [h.clock_congr h', h.startKey_congr h', h.set_eq, h'.set_eq, ho]

end Beside

theorem ordered_resumeAt? (set : RecurrenceSet) {window : Window} (hw : window.IsProper) :
    ∀ start ∈ set.resumeAt? window, ∀ stop ∈ window.stop, start ≤ stop := by
  intro start hstart stop hstop
  have hle := hw.ordered _ (mem_of_resumeAt? hstart) stop hstop
  have htotal := set.totalSeconds_nonneg
  omega

theorem looksAt_of_isPast {set : RecurrenceSet} {window : Window} {key : TimelineKey}
    (hw : window.IsProper) (hp : window.isPast key = true) : set.LooksAt window key := by
  intro start hstart
  obtain ⟨stop, hstop, hle⟩ := (Option.any_eq_true _ _).1 hp
  exact (ordered_resumeAt? set hw start hstart stop hstop).trans (of_decide_eq_true hle)

theorem LooksAt.mono {set : RecurrenceSet} {window : Window} {key later : TimelineKey}
    (h : set.LooksAt window key) (hle : key ≤ later) : set.LooksAt window later :=
  fun start hstart => (h start hstart).trans (TimelineKey.instant_le_of_le hle)

theorem arrives_at {window : Window} {key : TimelineKey} {items : List Run.Item}
    (hpast : window.isPast key = false)
    (ha : Arrives (fun later => window.isPast later.key = true) items) :
    Arrives (key ≤ ·.key) items := by
  refine ha.imp fun later hlater => ?_
  by_contra hlt
  have := Window.isPast_mono (not_le.1 hlt).le hlater
  rw [hpast] at this
  cases this

/-- The whole stream of a set, which comes to the end of a window without a
failure, and its stream in that window. -/
structure Faces (resolver : Resolver) (set : RecurrenceSet) (window : Window)
    (whole part : Occurrences) : Prop where
  opensWhole : set.Opens resolver.clocks .unbounded whole
  opensPart : set.Opens resolver.clocks window part
  ordinal : whole.ordinal = 0 ∧ part.ordinal = 0
  inCalendar : set.start.InCalendar
  proper : window.IsProper
  steady : ∀ clock ∈ whole.clock, clock.IsSteady
  keepsDates : set.KeepsDates resolver.clocks
  clean : whole.Clean (window.isPast · = true)

namespace Faces

variable {resolver : Resolver} {set : RecurrenceSet} {window : Window} {whole part : Occurrences}
  {candidate : Candidate} {found : Instance} {key : TimelineKey}
variable (h : Faces resolver set window whole part)
include h

theorem endsBefore_whole (key : TimelineKey) : whole.endsBefore key = false := by
  rw [Occurrences.endsBefore, h.opensWhole.window_eq, h.opensWhole.cutoff_eq]
  rfl

theorem endsBefore_part (key : TimelineKey) : part.endsBefore key = window.isPast key := by
  rw [Occurrences.endsBefore, h.opensPart.window_eq, h.opensPart.cutoff_eq, Option.any_none, Bool.or_false]

theorem arrives_rules : ∀ pattern ∈ set.rules, ∀ run,
    Run.start resolver.clocks pattern set.start = .ok run →
      Arrives (fun later => window.isPast later.key = true) run.toList := by
  have hall := ((h.opensWhole.forall_generated_iff _).1 h.clean.generated).2
  simpa only [runIn_unbounded] using hall

theorem arrives_exclusionRules (hmem : candidate ∈ whole.offers)
    (hpast : window.isPast candidate.key = false) (hkept : whole.isTaken candidate.key = false) :
    ∀ pattern ∈ set.exclusionRules, ∀ run,
      Run.start resolver.clocks pattern set.start = .ok run →
        Arrives (candidate.key ≤ ·.key) run.toList := by
  have hall := (h.opensWhole.forall_exclusionRules_iff _).1
    (h.clean.exclusionRules candidate hmem (ne_true_of_eq_false hpast) hkept)
  simpa only [runIn_unbounded] using hall

theorem keepsDates_clock {pattern : Pattern} (hp : pattern ∈ set.rules ++ set.exclusionRules) :
    ∀ last, pattern.until? = some (.date last) → ∀ clock ∈ whole.clock, clock.KeepsDates := by
  intro last hlast clock hc
  apply h.keepsDates pattern hp last hlast clock
  rw [h.opensWhole.clock_eq, Option.mem_def.1 hc]

/-- Rules have the same instances in a window and without one, where they are
looked at and come without a failure. -/
theorem recursIn_iff {patterns : List Pattern}
    (hsub : ∀ pattern ∈ patterns, pattern ∈ set.rules ++ set.exclusionRules)
    (ha : ∀ pattern ∈ patterns, ∀ run, Run.start resolver.clocks pattern set.start = .ok run →
      Arrives (found.key ≤ ·.key) run.toList)
    (hlook : set.LooksAt window found.key) (hpast : window.isPast found.key = false) :
    set.RecursIn resolver.clocks window patterns found ↔
      set.RecursIn resolver.clocks .unbounded patterns found := by
  have hopen := ordered_resumeAt? set h.proper
  constructor
  · intro hf
    refine recursIn_of_window h.inCalendar hopen hf h.opensWhole.clock_eq h.steady ?_ ha
    exact fun pattern hp => h.keepsDates_clock (hsub pattern hp)
  · intro hf
    exact recursIn_window h.inCalendar hopen hf hlook hpast

theorem recursIn_rules_iff (hlook : set.LooksAt window found.key)
    (hpast : window.isPast found.key = false) :
    set.RecursIn resolver.clocks window set.rules found ↔
      set.RecursIn resolver.clocks .unbounded set.rules found := by
  refine h.recursIn_iff (fun _ hp => List.mem_append_left _ hp) ?_ hlook hpast
  intro pattern hp run hrun
  exact arrives_at hpast (h.arrives_rules pattern hp run hrun)

theorem last?_iff (hpast : window.isPast candidate.key = false)
    (hlook : ∀ found, candidate = .generated found → set.LooksAt window found.key) :
    Candidate.last? candidate.key part.offers = some candidate ↔
      Candidate.last? candidate.key whole.offers = some candidate := by
  have hadded := h.opensPart.added_congr h.opensWhole
  cases candidate with
  | declared one =>
    rw [h.opensPart.last?_eq_declared_iff, h.opensWhole.last?_eq_declared_iff, hadded]
  | generated found =>
    have hlook := hlook found rfl
    have hsame : ∀ other : Instance, other.key = found.key →
        (set.RecursIn resolver.clocks window set.rules other ↔
          set.RecursIn resolver.clocks .unbounded set.rules other) := by
      intro other hk
      exact h.recursIn_rules_iff (hk ▸ hlook) (hk ▸ hpast)
    -- Rules look the same at this place, with and without the window; at others they may not.
    have hnone : (∀ other, set.RecursIn resolver.clocks window set.rules other →
        other.key ≠ found.key) ↔ ∀ other, set.RecursIn resolver.clocks .unbounded set.rules other →
          other.key ≠ found.key := by
      refine forall_congr' fun other => ?_
      by_cases hk : other.key = found.key
      · rw [hsame other hk]
      · simp [hk]
    have hstart := h.opensPart.startKey_congr h.opensWhole
    rw [Candidate.key, h.opensPart.last?_eq_generated_iff h.inCalendar,
      h.opensWhole.last?_eq_generated_iff h.inCalendar, hadded, hstart, hsame found rfl, hnone]

theorem looksAt_of_outcome (hmem : Candidate.generated found ∈ part.offers ∨
      Candidate.generated found ∈ whole.offers)
    (hout : part.outcome (.generated found) ≠ none) : set.LooksAt window found.key := by
  have hclock := h.opensPart.clock_congr h.opensWhole
  have hsuits : set.Suits whole.clock found := by
    rcases hmem with hmem | hmem
    · rw [← hclock]
      exact h.opensPart.suits h.inCalendar hmem
    · exact h.opensWhole.suits h.inCalendar hmem
  by_contra hearly
  obtain ⟨stop, he, hover⟩ := hsuits.early h.opensWhole.clock_eq h.steady h.proper hearly
  apply hout
  rw [Occurrences.outcome, h.opensPart.build_generated h.ordinal.2 hsuits.form, he, h.opensPart.window_eq]
  simp [Except.map, Candidate.key, hover]

/-- Where a whole stream has a place taken away, the rules are looked at if
anything there reaches into the window. -/
theorem looksAt_of_excludes (hsees : set.SeesRemovals resolver.clocks window)
    (hlast : Candidate.last? candidate.key whole.offers = some candidate)
    (hout : part.outcome candidate ≠ none) (hx : whole.Excludes candidate.key) :
    set.LooksAt window candidate.key := by
  cases candidate with
  | generated found => exact h.looksAt_of_outcome (.inr (Candidate.of_last? hlast).1) hout
  | declared one =>
    obtain ⟨found, hf, hk⟩ := (h.opensWhole.excludes_iff _).1 hx
    rw [recursIn_unbounded] at hf
    rw [h.opensWhole.last?_eq_declared_iff] at hlast
    have hdeclared := h.opensWhole.find?_added (Candidate.declared one).key
    rw [hlast] at hdeclared
    obtain ⟨period, hperiod, heq⟩ := Option.map_eq_some_iff.1 hdeclared.symm
    change set.LooksAt window one.start
    change found.key = one.start at hk
    rw [← hk]
    refine hsees found period hf (hk ▸ hperiod) ?_
    rw [heq, hk, h.opensWhole.reaches_added (List.mem_of_find?_eq_some hlast)]
    by_contra hover
    apply hout
    rw [Occurrences.outcome, h.opensPart.build_declared h.ordinal.2, h.opensPart.window_eq]
    simp [Candidate.key, hover]

theorem excludes_iff (hsees : set.SeesRemovals resolver.clocks window)
    (hlast : Candidate.last? candidate.key whole.offers = some candidate)
    (hpast : window.isPast candidate.key = false) (hkept : whole.isTaken candidate.key = false)
    (hout : part.outcome candidate ≠ none) :
    part.Excludes candidate.key ↔ whole.Excludes candidate.key := by
  have hmem := (Candidate.of_last? hlast).1
  have hsame : ∀ found : Instance, found.key = candidate.key →
      set.LooksAt window candidate.key →
        (set.RecursIn resolver.clocks window set.exclusionRules found ↔
          set.RecursIn resolver.clocks .unbounded set.exclusionRules found) := by
    intro found hk hlook
    refine h.recursIn_iff (fun _ hp => List.mem_append_right _ hp) ?_ (hk ▸ hlook) (hk ▸ hpast)
    rw [hk]
    exact h.arrives_exclusionRules hmem hpast hkept
  rw [h.opensPart.excludes_iff, h.opensWhole.excludes_iff]
  constructor
  · rintro ⟨found, hf, hk⟩
    exact ⟨found, (hsame found hk (hk ▸ hf.looksAt h.inCalendar)).1 hf, hk⟩
  · rintro ⟨found, hf, hk⟩
    have hlook := h.looksAt_of_excludes hsees hlast hout
      ((h.opensWhole.excludes_iff _).2 ⟨found, hf, hk⟩)
    exact ⟨found, (hsame found hk hlook).2 hf, hk⟩

/-- What gives something in a window is visited there if it is at all. -/
theorem visits_iff (hsees : set.SeesRemovals resolver.clocks window)
    (hpast : window.isPast candidate.key = false) (hout : part.outcome candidate ≠ none) :
    part.Visits candidate ↔ whole.Visits candidate := by
  have htaken := h.opensPart.isTaken_congr h.opensWhole candidate.key
  have hlast : Candidate.last? candidate.key part.offers = some candidate ↔
      Candidate.last? candidate.key whole.offers = some candidate := by
    constructor
    · intro hl
      refine (h.last?_iff hpast ?_).1 hl
      rintro found rfl
      exact h.looksAt_of_outcome (.inl (Candidate.of_last? hl).1) hout
    · intro hl
      refine (h.last?_iff hpast ?_).2 hl
      rintro found rfl
      exact h.looksAt_of_outcome (.inr (Candidate.of_last? hl).1) hout
  rw [Occurrences.visits_iff, Occurrences.visits_iff, h.endsBefore_part, h.endsBefore_whole,
    hpast, htaken, hlast]
  refine and_congr_right fun hl => and_congr_right fun _ => and_congr_right fun hkept => ?_
  rw [h.excludes_iff hsees hl hpast hkept hout]

theorem build_eq : part.build = whole.build :=
  h.opensPart.build_congr h.opensWhole (h.ordinal.2.trans h.ordinal.1.symm)

theorem reaches_of_build {occurrence : Occurrence} {stop : TimelineKey}
    (hmem : candidate ∈ whole.offers) (hb : whole.build candidate = .ok (occurrence, stop)) :
    occurrence.period.reaches resolver.clocks window occurrence.key =
      window.overlaps candidate.key stop :=
  h.opensWhole.reaches_of_build h.ordinal.1 h.inCalendar h.steady hmem hb

theorem mem_successes_iff (hsees : set.SeesRemovals resolver.clocks window)
    (occurrence : Occurrence) : occurrence ∈ successes part.toList ↔
      occurrence ∈ successes whole.toList ∧
        occurrence.period.reaches resolver.clocks window occurrence.key = true := by
  rw [Occurrences.mem_successes_toList h.opensPart.ordered,
    Occurrences.mem_successes_toList h.opensWhole.ordered]
  constructor
  · rintro ⟨candidate, hv, hout⟩
    obtain ⟨stop, hbuild, hover⟩ := Occurrences.outcome_eq_ok_iff.1 hout
    rw [h.opensPart.window_eq] at hover
    have hv' := (h.visits_iff hsees (Window.isPast_eq_false_of_overlaps hover) (by simp [hout])).1 hv
    rw [h.build_eq] at hbuild
    refine ⟨⟨candidate, hv', Occurrences.outcome_eq_ok_iff.2 ⟨stop, hbuild, ?_⟩⟩, ?_⟩
    · rw [h.opensWhole.window_eq]
      rfl
    · rw [h.reaches_of_build (Candidate.of_last? hv'.last).1 hbuild, hover]
  · rintro ⟨⟨candidate, hv, hout⟩, hreach⟩
    obtain ⟨stop, hbuild, -⟩ := Occurrences.outcome_eq_ok_iff.1 hout
    rw [h.reaches_of_build (Candidate.of_last? hv.last).1 hbuild] at hreach
    have hout' : part.outcome candidate = some (.ok occurrence) := by
      refine Occurrences.outcome_eq_ok_iff.2 ⟨stop, h.build_eq ▸ hbuild, ?_⟩
      rw [h.opensPart.window_eq]
      exact hreach
    have hpast := Window.isPast_eq_false_of_overlaps hreach
    exact ⟨candidate, (h.visits_iff hsees hpast (by simp [hout'])).2 hv, hout'⟩

theorem successes_eq (hsees : set.SeesRemovals resolver.clocks window) :
    successes part.toList = (successes whole.toList).filter fun occurrence =>
      occurrence.period.reaches resolver.clocks window occurrence.key := by
  have hpart := Occurrences.pairwise_successes h.opensPart.ordered
  have hwhole := Occurrences.pairwise_successes h.opensWhole.ordered
  refine hpart.eq_of_mem_iff (hwhole.filter _) fun occurrence => ?_
  rw [List.mem_filter]
  exact h.mem_successes_iff hsees occurrence

theorem arrives_runIn {pattern : Pattern} {run : Run} {test : Instance → Prop}
    (hp : pattern ∈ set.rules ++ set.exclusionRules)
    (hbegins : set.BeginsWell resolver.clocks window)
    (hrun : set.runIn resolver.clocks window pattern = .ok run)
    (htest : ∀ later, test later → set.LooksAt window later.key)
    (ha : ∀ run, Run.start resolver.clocks pattern set.start = .ok run → Arrives test run.toList) :
    Arrives test run.toList := by
  have hbegin := hbegins pattern hp run hrun
  rw [runIn_eq, map_eq_ok_iff] at hrun
  obtain ⟨own, hown, rfl⟩ := hrun
  have hopen := ordered_resumeAt? set h.proper
  by_cases hpass : ∀ start ∈ set.resumeAt? window, ¬ own.plan.Passes start
  · exact arrives_window h.inCalendar hopen hown hpass htest (ha own hown)
  · -- A rule that has ended long before has no instance left.
    have hnone : successes (own.between (set.resumeAt? window) window.stop).toList = [] := by
      apply List.eq_nil_iff_forall_not_mem.2
      intro found hf
      exact hpass (not_passes_of_mem h.inCalendar hown h.opensWhole.clock_eq h.steady
        (h.keepsDates_clock hp) (mem_successes.1 hf))
    rw [hbegin.eq_nil hnone]
    trivial

theorem exists_offer (hmem : candidate ∈ part.offers) (hpast : window.isPast candidate.key = false) :
    ∃ other ∈ whole.offers, other.key = candidate.key := by
  have hadded := h.opensPart.added_congr h.opensWhole
  have hstart := h.opensPart.startKey_congr h.opensWhole
  cases candidate with
  | declared one =>
    refine ⟨.declared one, ?_, rfl⟩
    unfold Occurrences.offers at hmem ⊢
    rw [← hadded]
    simpa using hmem
  | generated found =>
    refine ⟨.generated found, ?_, rfl⟩
    have hmem : found ∈ part.generated.flatMap Instances.all := by
      simpa [Occurrences.offers] using hmem
    have hmem' : found ∈ whole.generated.flatMap Instances.all := by
      rw [h.opensPart.mem_generated_iff, hstart] at hmem
      rw [h.opensWhole.mem_generated_iff]
      refine hmem.imp_right fun hf => ?_
      exact (h.recursIn_rules_iff (hf.looksAt h.inCalendar) hpast).1 hf
    simpa [Occurrences.offers] using hmem'

theorem arrives_exclusionRules_part (hbegins : set.BeginsWell resolver.clocks window)
    (hmem : candidate ∈ part.offers) (hpast : window.isPast candidate.key = false)
    (hkept : part.isTaken candidate.key = false) {pattern : Pattern} (hp : pattern ∈ set.exclusionRules)
    {run : Run} (hrun : set.runIn resolver.clocks window pattern = .ok run) :
    Arrives (candidate.key ≤ ·.key) run.toList := by
  have hsub := List.mem_append_right set.rules hp
  by_cases hlook : set.LooksAt window candidate.key
  · refine h.arrives_runIn hsub hbegins hrun (fun later hle => hlook.mono hle) ?_
    obtain ⟨other, hother, hk⟩ := h.exists_offer hmem hpast
    rw [h.opensPart.isTaken_congr h.opensWhole, ← hk] at hkept
    rw [← hk] at hpast ⊢
    exact h.arrives_exclusionRules hother hpast hkept pattern hp
  · -- All that the rule has in the window lies behind a place before it is looked at.
    have hbegin := hbegins pattern hsub run hrun
    have hlater : ∀ later, .ok later ∈ run.toList → candidate.key ≤ later.key := by
      intro later hl
      have hlook' := RecursIn.looksAt ⟨pattern, hp, run, hrun, hl⟩ h.inCalendar
      by_contra hlt
      exact hlook (hlook'.mono (not_le.1 hlt).le)
    exact hbegin.imp_of_mem fun later hl _ => hlater later hl

theorem clean_part (hsees : set.SeesRemovals resolver.clocks window)
    (hbegins : set.BeginsWell resolver.clocks window) : part.Clean (window.isPast · = true) where
  deferred := h.opensPart.deferred_eq
  generated := by
    refine (h.opensPart.forall_generated_iff _).2 ⟨.inr trivial, fun pattern hp run hrun => ?_⟩
    refine h.arrives_runIn (List.mem_append_left _ hp) hbegins hrun ?_ ?_
    · exact fun later hlater => looksAt_of_isPast h.proper hlater
    · exact h.arrives_rules pattern hp
  exclusionRules := by
    intro candidate hmem hpast hkept
    rw [Bool.not_eq_true] at hpast
    refine (h.opensPart.forall_exclusionRules_iff _).2 fun pattern hp run hrun => ?_
    exact h.arrives_exclusionRules_part hbegins hmem hpast hkept hp hrun
  built := by
    intro candidate hv hpast error hout
    have hpast' := Bool.eq_false_iff.2 hpast
    refine h.clean.built candidate ((h.visits_iff hsees hpast' (by simp [hout])).1 hv) hpast error ?_
    rw [Occurrences.outcome_eq_error_iff] at hout ⊢
    rw [← h.build_eq]
    exact hout

theorem failures_eq_nil (hsees : set.SeesRemovals resolver.clocks window)
    (hbegins : set.BeginsWell resolver.clocks window) : failures part.toList = [] := by
  refine (Occurrences.sweeps_toList part).failures_eq_nil h.opensPart.ordered ?_
    (h.clean_part hsees hbegins)
  intro key hends
  rw [← h.endsBefore_part, hends]
  exact Bool.false_ne_true

end Faces

theorem exists_runs {clocks : Clocks} {set : RecurrenceSet} {patterns : List Pattern}
    {runs : List Run} (h : patterns.mapM (set.runIn clocks .unbounded) = .ok runs)
    (window : Window) : ∃ runs', patterns.mapM (set.runIn clocks window) = .ok runs' := by
  rw [mapM_eq_ok_iff] at h
  have hall : ∀ pattern ∈ patterns, ∃ run, set.runIn clocks window pattern = .ok run := by
    intro pattern hp
    have hmem : set.runIn clocks .unbounded pattern ∈ patterns.map (set.runIn clocks .unbounded) :=
      List.mem_map_of_mem hp
    rw [h] at hmem
    obtain ⟨run, -, hrun⟩ := List.mem_map.1 hmem
    rw [runIn_unbounded] at hrun
    exact ⟨_, by rw [runIn_eq, ← hrun]; rfl⟩
  obtain ⟨runs', hruns⟩ := exists_map_eq_ok hall
  exact ⟨runs', mapM_eq_ok_iff.2 hruns⟩

theorem exists_occurrences {clocks : Clocks} {set : RecurrenceSet} {whole : Occurrences}
    (h : set.occurrences clocks .unbounded = .ok whole) (window : Window) :
    ∃ part, set.occurrences clocks window = .ok part := by
  unfold occurrences occurrencesAt at h ⊢
  simp only [bind_eq_ok_iff, pure_eq_ok_iff] at h ⊢
  obtain ⟨clock, hclock, startKey, hkey, rules, hrules, exclusionRules, hexclusion, added, hadded,
    excluded, hexcluded, -⟩ := h
  obtain ⟨rules', hrules'⟩ := exists_runs hrules window
  obtain ⟨exclusionRules', hexclusion'⟩ := exists_runs hexclusion window
  exact ⟨_, clock, hclock, startKey, hkey, rules', hrules', exclusionRules', hexclusion', added,
    hadded, excluded, hexcluded, rfl⟩

/-- The stream of a set in a window has the occurrences of the whole stream that
reach into the window, where that comes to the end of it without a failure. It has
no failure itself if no rule begins with one. -/
theorem occurrences_window {resolver : Resolver} {set : RecurrenceSet} {window : Window}
    {whole : Occurrences} (hA : set.start.InCalendar) (hw : window.IsProper)
    (hs : ∀ clock, set.start.clock? resolver.clocks = .ok (some clock) → clock.IsSteady)
    (hdates : set.KeepsDates resolver.clocks) (hsees : set.SeesRemovals resolver.clocks window)
    (hwhole : set.occurrences resolver.clocks .unbounded = .ok whole)
    (ha : Arrives (fun occurrence => window.isPast occurrence.key = true) whole.toList) :
    ∃ part, set.occurrences resolver.clocks window = .ok part ∧
      successes part.toList = (successes whole.toList).filter (fun occurrence =>
        occurrence.period.reaches resolver.clocks window occurrence.key) ∧
      (set.BeginsWell resolver.clocks window → failures part.toList = []) := by
  obtain ⟨part, hpart⟩ := exists_occurrences hwhole window
  obtain ⟨hopens, hordinal⟩ := opens hwhole
  obtain ⟨hopens', hordinal'⟩ := opens hpart
  have hends : ∀ key, whole.endsBefore key = true → window.isPast key = true := by
    intro key hends
    rw [Occurrences.endsBefore, hopens.window_eq, hopens.cutoff_eq] at hends
    cases hends
  have hclean : whole.Clean (window.isPast · = true) :=
    (Occurrences.sweeps_toList whole).clean hopens.ordered hends
      (fun _ _ hle => Window.isPast_mono hle) ha
  have hsteady : ∀ clock ∈ whole.clock, clock.IsSteady := by
    intro clock hc
    apply hs clock
    rw [hopens.clock_eq, Option.mem_def.1 hc]
  have hfaces : Faces resolver set window whole part :=
    ⟨hopens, hopens', ⟨hordinal, hordinal'⟩, hA, hw, hsteady, hdates, hclean⟩
  exact ⟨part, hpart, hfaces.successes_eq hsees, hfaces.failures_eq_nil hsees⟩

/-- A month from some second on. -/
def month (wall : Int) : Period := ⟨.time wall .utc, .lasting ⟨false, 0, 30, 0, 0, 0⟩⟩

/-- A month that is declared from some second on, and a start that a rule takes
away. -/
def monthFrom (wall : Int) : RecurrenceSet where
  uid := "event"
  start := .time 0 .utc
  duration := .zero
  rules := []
  exclusionRules := [onceDaily]
  added := [month wall]
  excluded := []
  replaces := none
  duration_ok := rfl

/-- From the tenth day on. -/
def fromTenthDay : Window := ⟨some 864000, none⟩

section MonthFrom

variable {clocks : Clocks} {wall : Int}

theorem recurs_onceDaily {found : Instance} : (monthFrom wall).Recurs clocks [onceDaily] found ↔
    found = ⟨.time 0 .utc, ⟨0, true⟩⟩ := by
  have hrun : ∀ run, Run.start clocks onceDaily (monthFrom wall).start = .ok run ↔
      run = ⟨planOnce, .before 0⟩ := by
    intro run
    change Run.start clocks onceDaily (.time 0 .utc) = _ ↔ _
    rw [start_onceDaily, Except.ok.injEq, eq_comm]
  have hitems : Run.toList ⟨planOnce, .before 0⟩ = [.ok ⟨.time 0 .utc, ⟨0, true⟩⟩] := items_planOnce
  unfold Recurs
  simp [hrun, hitems]

theorem declaredAt?_monthFrom (key : TimelineKey) : (monthFrom wall).declaredAt? clocks key =
    if ⟨wall, true⟩ = key then some (month wall) else none := by
  have hkey : (month wall).start.key clocks = .ok ⟨wall, true⟩ := rfl
  unfold declaredAt? monthFrom
  by_cases hk : (⟨wall, true⟩ : TimelineKey) = key <;> simp [hkey, hk, Except.toOption]

theorem exists_occurrences_monthFrom {one : Added}
    (h : (monthFrom wall).place clocks (month wall) = .ok one) :
    ∃ stream, (monthFrom wall).occurrences clocks .unbounded = .ok stream := by
  have hrun : (monthFrom wall).runIn clocks .unbounded onceDaily = .ok ⟨planOnce, .before 0⟩ := by
    rw [runIn_unbounded]
    exact start_onceDaily clocks
  have hrules : (monthFrom wall).exclusionRules.mapM ((monthFrom wall).runIn clocks .unbounded) =
      .ok [⟨planOnce, .before 0⟩] := by
    rw [mapM_eq_ok_iff]
    exact congrArg (fun one => [one]) hrun
  have hadded : (monthFrom wall).added.mapM ((monthFrom wall).place clocks) = .ok [one] := by
    rw [mapM_eq_ok_iff]
    exact congrArg (fun one => [one]) h
  unfold occurrences occurrencesAt
  rw [hrules, hadded]
  exact ⟨_, rfl⟩

theorem includes_monthFrom_iff (key : TimelineKey) :
    (monthFrom wall).Includes clocks key ↔ key = ⟨wall, true⟩ ∧ wall ≠ 0 := by
  have hstart : (monthFrom wall).start.key clocks = .ok ⟨0, true⟩ := rfl
  have hmonth : (month wall).start.key clocks = .ok ⟨wall, true⟩ := rfl
  have hrecurs : ∀ found, (monthFrom wall).Recurs clocks (monthFrom wall).exclusionRules found ↔
      found = ⟨.time 0 .utc, ⟨0, true⟩⟩ := fun found => recurs_onceDaily
  unfold Includes Removes
  simp only [hrecurs, hstart, exists_eq_left]
  simp only [monthFrom, Recurs, hmonth, List.mem_singleton, exists_eq_left, Except.ok.injEq,
    List.not_mem_nil, false_and, exists_false, false_or]
  constructor
  · rintro ⟨rfl | rfl, hfree⟩
    · exact absurd rfl hfree
    · exact ⟨rfl, fun hzero => hfree (by rw [hzero])⟩
  · rintro ⟨rfl, hzero⟩
    refine ⟨.inr rfl, fun hsame => hzero ?_⟩
    exact (congrArg TimelineKey.instant hsame).symm

theorem error_notMem_onceDaily : ∀ pattern ∈ (monthFrom wall).rules ++ (monthFrom wall).exclusionRules,
    ∀ run, Run.start clocks pattern (monthFrom wall).start = .ok run →
      ∀ error, .error error ∉ run.toList := by
  intro pattern hp run hrun error
  obtain rfl : pattern = onceDaily := by simpa [monthFrom] using hp
  obtain rfl : (⟨planOnce, .before 0⟩ : Run) = run :=
    Except.ok.inj ((start_onceDaily _).symm.trans hrun)
  have hitems : Run.toList ⟨planOnce, .before 0⟩ = [.ok ⟨.time 0 .utc, ⟨0, true⟩⟩] := items_planOnce
  simp [hitems]

theorem failures_monthFrom {stream : Occurrences}
    (h : (monthFrom wall).occurrences clocks .unbounded = .ok stream) :
    failures stream.toList = [] := by
  obtain ⟨hopens, ho⟩ := opens h
  refine hopens.failures_eq_nil ho error_notMem_onceDaily fun found hg => ?_
  rcases hg with hr | ⟨hvalue, -⟩
  · obtain ⟨pattern, hp, -⟩ := hr
    cases hp
  · unfold endOf
    rw [hvalue]
    exact ⟨⟨0, true⟩, by cbv⟩

theorem resumeAt?_monthFrom : (monthFrom wall).resumeAt? fromTenthDay = some 777600 := by
  simp only [resumeAt?, fromTenthDay, monthFrom, Option.bind_some]
  decide

theorem beginsWell_monthFrom : (monthFrom wall).BeginsWell clocks fromTenthDay := by
  intro pattern hp run hrun
  obtain rfl : pattern = onceDaily := by simpa [monthFrom] using hp
  rw [runIn_eq, resumeAt?_monthFrom] at hrun
  change (Run.start _ onceDaily (.time 0 .utc)).map _ = _ at hrun
  rw [start_onceDaily] at hrun
  obtain rfl := Except.ok.inj hrun
  -- The one instance lies before the instant from which the rule is looked at.
  have hitems : (planOnce.limited (some 777600) none).items (.before 0) = [] := by
    have first : (planOnce.limited (some 777600) none).items (.before 0) =
        (planOnce.limited (some 777600) none).items ⟨1, [0], 0, 0, none, none⟩ := by
      rw [Plan.items_of_no_walls rfl]
      rfl
    rw [first, Plan.items_of_walls rfl]
    rfl
  change Arrives _ ((planOnce.limited (some 777600) none).items (.before 0))
  rw [hitems]
  trivial

/-- In the window the rule is not looked at early enough to take the month away. -/
theorem visits_month {part : Occurrences}
    (hopens : Opens clocks (monthFrom 0) fromTenthDay part) {one : Added}
    (hone : part.added.find? (·.start = ⟨0, true⟩) = some one) (hkey : one.start = ⟨0, true⟩) :
    part.Visits (.declared one) := by
  have hfirst : part.added.find? (·.start = (Candidate.declared one).key) = some one := by
    rw [Candidate.key, hkey]
    exact hone
  refine ⟨hopens.last?_eq_declared_iff.2 hfirst, ?_, ?_, ?_⟩
  · rw [Occurrences.endsBefore, hopens.window_eq, hopens.cutoff_eq]
    rfl
  · apply Bool.eq_false_iff.2
    rw [ne_eq, hopens.isTaken_iff]
    rintro ⟨_, hmem, -⟩
    cases hmem
  · rw [hopens.excludes_iff]
    rintro ⟨found, hf, hk⟩
    have hlook := hf.looksAt (show Calendar.Representable 0 by decide) 777600 resumeAt?_monthFrom
    rw [hk] at hlook
    change (777600 : Int) ≤ one.start.instant at hlook
    rw [hkey] at hlook
    cases hlook

end MonthFrom

/-- A month that starts behind the start of the set is found in the window. -/
theorem occurrences_window_month : ∃ whole part,
    (monthFrom 7200).occurrences (Resolver.empty Zone.Atlas.database).clocks .unbounded =
      .ok whole ∧
    (monthFrom 7200).occurrences (Resolver.empty Zone.Atlas.database).clocks fromTenthDay =
      .ok part ∧
    successes part.toList = (successes whole.toList).filter (fun occurrence =>
      occurrence.period.reaches (Resolver.empty Zone.Atlas.database).clocks fromTenthDay
        occurrence.key) ∧
    failures part.toList = [] := by
  obtain ⟨whole, hwhole⟩ : ∃ whole,
      (monthFrom 7200).occurrences (Resolver.empty Zone.Atlas.database).clocks .unbounded =
        .ok whole := exists_occurrences_monthFrom rfl
  have hproper : fromTenthDay.IsProper := by
    refine ⟨?_, ?_⟩
    · rintro _ ⟨⟩
      decide
    · rintro _ _ _ ⟨⟩
  have hdates : (monthFrom 7200).KeepsDates (Resolver.empty Zone.Atlas.database).clocks := by
    intro _ _ _ _ _ hclock
    cases hclock
  have hsees : (monthFrom 7200).SeesRemovals (Resolver.empty Zone.Atlas.database).clocks
      fromTenthDay := by
    intro found period hf hd
    obtain rfl := recurs_onceDaily.1 hf
    rw [declaredAt?_monthFrom] at hd
    cases hd
  have hstart : (monthFrom 7200).start.InCalendar := by
    change Calendar.Representable 0
    decide
  obtain ⟨part, hpart, hsame, hclean⟩ := occurrences_window hstart hproper
    (fun _ hclock => by cases hclock) hdates hsees hwhole
    (arrives_of_failures (failures_monthFrom hwhole))
  exact ⟨whole, part, hwhole, hpart, hsame, hclean beginsWell_monthFrom⟩

/-- A month that starts with the set is taken away, but not in a window that the
rule does not reach. -/
theorem not_occurrences_window_month : ∃ whole part,
    (monthFrom 0).occurrences (Resolver.empty Zone.Atlas.database).clocks .unbounded = .ok whole ∧
    (monthFrom 0).occurrences (Resolver.empty Zone.Atlas.database).clocks fromTenthDay = .ok part ∧
    Arrives (fun occurrence => fromTenthDay.isPast occurrence.key = true) whole.toList ∧
    successes whole.toList = [] ∧ successes part.toList ≠ [] := by
  obtain ⟨whole, hwhole⟩ : ∃ whole,
      (monthFrom 0).occurrences (Resolver.empty Zone.Atlas.database).clocks .unbounded =
        .ok whole := exists_occurrences_monthFrom rfl
  obtain ⟨part, hpart⟩ := exists_occurrences hwhole fromTenthDay
  obtain ⟨hopens, ho⟩ := opens hwhole
  obtain ⟨hopens', ho'⟩ := opens hpart
  refine ⟨whole, part, hwhole, hpart, arrives_of_failures (failures_monthFrom hwhole), ?_, ?_⟩
  · apply List.eq_nil_iff_forall_not_mem.2
    intro occurrence hmem
    obtain ⟨candidate, hv, -⟩ := (Occurrences.mem_successes_toList hopens.ordered _).1 hmem
    obtain ⟨-, hzero⟩ := (includes_monthFrom_iff _).1 ((hopens.includes_iff _).2 ⟨candidate, hv, rfl⟩)
    exact hzero rfl
  · have hdeclared := hopens'.find?_added ⟨0, true⟩
    rw [declaredAt?_monthFrom, if_pos rfl, Option.map_some] at hdeclared
    obtain ⟨one, hone, hperiod⟩ := Option.map_eq_some_iff.1 hdeclared
    have hkey : one.start = ⟨0, true⟩ := by simpa using List.find?_some hone
    have hv : part.Visits (.declared one) := visits_month hopens' hone hkey
    have hreach : fromTenthDay.overlaps one.start one.stop = true := by
      rw [← hopens'.reaches_added (List.mem_of_find?_eq_some hone), hperiod, hkey]
      cbv
    have hout := Occurrences.outcome_eq_ok_iff.2
      ⟨one.stop, hopens'.build_declared ho' one, hopens'.window_eq ▸ hreach⟩
    exact List.ne_nil_of_mem ((Occurrences.mem_successes_toList hopens'.ordered _).2 ⟨_, hv, hout⟩)

end Recurrence.RecurrenceSet

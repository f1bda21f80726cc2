import Mathlib
import Recurrence.Proofs.DateTime.Sum
import Recurrence.Proofs.Occurrence.Rules
import Recurrence.Proofs.Occurrence.Visit
import Recurrence.Zone.Atlas

/-! The occurrences of a set as set algebra: the start, the instances of the rules
and the single occurrences, without what single values and rules take away. -/
namespace Recurrence.RecurrenceSet

/-- Whether one of some rules of a set has an instance. -/
def Recurs (clocks : Clocks) (set : RecurrenceSet) (patterns : List Pattern) (found : Instance) :
    Prop :=
  ∃ pattern ∈ patterns, ∃ run, Run.start clocks pattern set.start = .ok run ∧
    .ok found ∈ run.toList

/-- Whether a set generates an instance, by a rule or else as its start. -/
def Generates (clocks : Clocks) (set : RecurrenceSet) (found : Instance) : Prop :=
  set.Recurs clocks set.rules found ∨ found.value = set.start ∧
    set.start.key clocks = .ok found.key ∧
      ∀ other, set.Recurs clocks set.rules other → other.key ≠ found.key

/-- Whether a single value or a rule takes a place away. -/
def Removes (clocks : Clocks) (set : RecurrenceSet) (key : TimelineKey) : Prop :=
  (∃ value ∈ set.excluded, value.key clocks = .ok key) ∨
    ∃ found, set.Recurs clocks set.exclusionRules found ∧ found.key = key

/-- The first single occurrence that is declared at a place. -/
def declaredAt? (clocks : Clocks) (set : RecurrenceSet) (key : TimelineKey) : Option Period :=
  set.added.find? fun period => (period.start.key clocks).toOption = some key

/-- The places where a set has an occurrence. -/
def Includes (clocks : Clocks) (set : RecurrenceSet) (key : TimelineKey) : Prop :=
  (set.start.key clocks = .ok key ∨
    (∃ found, set.Recurs clocks set.rules found ∧ found.key = key) ∨
    ∃ period ∈ set.added, period.start.key clocks = .ok key) ∧ ¬ set.Removes clocks key

/-- A single occurrence, of which a start alone lasts as long as the base. -/
def extended (set : RecurrenceSet) (period : Period) : Period :=
  if period.isInstant then .lasting period.start set.duration else period

/-- The occurrence of a period at a place. -/
def occurrenceAt (clocks : Clocks) (set : RecurrenceSet) (key : TimelineKey) (period : Period) :
    Occurrence :=
  let recurrenceId :=
    match set.replaces with
    | some id => if (set.start.key clocks).toOption = some key then id.value else period.start
    | none => period.start
  ⟨set, 0, period, recurrenceId, key⟩

/-- Where a generated instance ends. -/
def endOf (clocks : Clocks) (set : RecurrenceSet) (found : Instance) :
    Except Failure TimelineKey := do
  let stop ← found.value.add clocks set.duration
  orZone (stop.key clocks)

/-- What a stream has at a place: the single occurrence, else a generated one,
which fails where it has no end. -/
inductive HasAt (clocks : Clocks) (set : RecurrenceSet) : TimelineKey → Occurrences.Item → Prop
  | declared {key : TimelineKey} {period : Period}
      (hd : set.declaredAt? clocks key = some period) :
      HasAt clocks set key (.ok (set.occurrenceAt clocks key (set.extended period)))
  | generated {found : Instance} {stop : TimelineKey}
      (hd : set.declaredAt? clocks found.key = none) (hg : set.Generates clocks found)
      (he : set.endOf clocks found = .ok stop) :
      HasAt clocks set found.key
        (.ok (set.occurrenceAt clocks found.key (.lasting found.value set.duration)))
  | endless {found : Instance} {error : Failure}
      (hd : set.declaredAt? clocks found.key = none) (hg : set.Generates clocks found)
      (he : set.endOf clocks found = .error error) : HasAt clocks set found.key (.error error)

theorem runIn_unbounded (clocks : Clocks) (set : RecurrenceSet) (pattern : Pattern) :
    set.runIn clocks .unbounded pattern = Run.start clocks pattern set.start := by
  unfold runIn
  cases Run.start clocks pattern set.start <;> rfl

theorem recursIn_unbounded (clocks : Clocks) (set : RecurrenceSet) :
    set.RecursIn clocks .unbounded = set.Recurs clocks := by
  funext patterns found
  simp only [RecursIn, Recurs, runIn_unbounded]

theorem extended_start (set : RecurrenceSet) (period : Period) :
    (set.extended period).start = period.start := by
  unfold extended
  split <;> rfl

theorem of_place {clocks : Clocks} {set : RecurrenceSet} {period : Period} {one : Added}
    (h : set.place clocks period = .ok one) :
    one.period = set.extended period ∧ period.start.key clocks = .ok one.start := by
  unfold place at h
  simp only [bind_eq_ok_iff, pure_eq_ok_iff, orZone_eq_ok_iff] at h
  obtain ⟨start, hstart, last, -, stop, -, rfl⟩ := h
  change (set.extended period).start.key clocks = .ok start at hstart
  rw [extended_start] at hstart
  exact ⟨rfl, hstart⟩

theorem find?_placed {clocks : Clocks} {set : RecurrenceSet} {periods : List Period}
    {placed : List Added} (h : periods.map (set.place clocks) = placed.map .ok)
    (key : TimelineKey) :
    (placed.find? (·.start = key)).map (·.period) =
      (periods.find? fun period => (period.start.key clocks).toOption = some key).map
        set.extended := by
  induction periods generalizing placed with
  | nil =>
    obtain rfl : placed = [] := by simpa using h.symm
    rfl
  | cons period periods ih =>
    cases placed with
    | nil => cases h
    | cons one placed =>
      rw [List.map_cons, List.map_cons, List.cons.injEq] at h
      obtain ⟨hperiod, hstart⟩ := of_place h.1
      rw [List.find?_cons, List.find?_cons, hstart]
      by_cases hk : one.start = key
      · simp [hk, hperiod, Except.toOption]
      · simpa [hk, Except.toOption] using ih h.2

section Opens

variable {clocks : Clocks} {set : RecurrenceSet} {stream : Occurrences}

theorem Opens.key_start {window : Window} (h : set.Opens clocks window stream) :
    set.start.key clocks = .ok stream.startKey := by
  rw [DateTime.key_eq_keyBy h.clock_eq]
  exact h.startKey_eq

theorem Opens.find?_added {window : Window} (h : set.Opens clocks window stream)
    (key : TimelineKey) : (stream.added.find? (·.start = key)).map (·.period) =
      (set.declaredAt? clocks key).map set.extended := by
  obtain ⟨placed, hplaced, hadded⟩ := h.added
  rw [hadded, RecurrenceSet.find?_added]
  exact find?_placed hplaced key

theorem Opens.isTaken_iff {window : Window} (h : set.Opens clocks window stream)
    (key : TimelineKey) : stream.isTaken key = true ↔
      ∃ value ∈ set.excluded, value.key clocks = .ok key := by
  unfold Occurrences.isTaken
  rw [h.replaced_eq]
  simp [mem_of_map_eq_ok h.excluded]

theorem Opens.occurrenceAt_eq {window : Window} (h : set.Opens clocks window stream)
    (ho : stream.ordinal = 0) (key : TimelineKey) (period : Period) :
    set.occurrenceAt clocks key period =
      ⟨stream.set, stream.ordinal, period,
        match stream.set.replaces with
        | some id => if key = stream.startKey then id.value else period.start
        | none => period.start, key⟩ := by
  rw [occurrenceAt, h.key_start, h.set_eq, ho]
  cases set.replaces with
  | none => rfl
  | some id => simp [Except.toOption, eq_comm]

theorem Opens.build_declared {window : Window} (h : set.Opens clocks window stream)
    (ho : stream.ordinal = 0) (one : Added) : stream.build (.declared one) =
      .ok (set.occurrenceAt clocks one.start one.period, one.stop) := by
  rw [h.occurrenceAt_eq ho]
  rfl

theorem Opens.build_generated {window : Window} (h : set.Opens clocks window stream)
    (ho : stream.ordinal = 0) {found : Instance} (hf : found.value.form = set.start.form) :
    stream.build (.generated found) = (set.endOf clocks found).map fun stop =>
      (set.occurrenceAt clocks found.key (.lasting found.value set.duration), stop) := by
  have hclock : found.value.clock? clocks = .ok stream.clock :=
    (DateTime.clock?_congr hf).trans h.clock_eq
  rw [endOf, DateTime.add_eq_addBy hclock, h.occurrenceAt_eq ho, Occurrences.build, h.set_eq]
  cases hstop : found.value.addBy stream.clock set.duration with
  | error error => rfl
  | ok stop =>
    have hkey : stop.key clocks = stop.keyBy stream.clock := by
      apply DateTime.key_eq_keyBy
      rw [DateTime.clock?_congr (DateTime.form_of_addBy hstop), hclock]
    simp only [bind, Except.bind, hkey]
    cases orZone (stop.keyBy stream.clock) <;> rfl

theorem form_of_recurs {patterns : List Pattern} {found : Instance}
    (h : set.Recurs clocks patterns found) : found.value.form = set.start.form := by
  obtain ⟨pattern, -, run, hrun, hf⟩ := h
  obtain ⟨wall, hwall⟩ := Plan.exists_wall_of_mem_items hf
  rw [Plan.form_of_instanceAt hwall, (Run.opens hrun).2.anchor_eq]

theorem form_of_generates {found : Instance} (h : set.Generates clocks found) :
    found.value.form = set.start.form := by
  rcases h with hr | ⟨hs, -⟩
  · exact form_of_recurs hr
  · rw [hs]

theorem Opens.generates_of_getLast? (h : set.Opens clocks .unbounded stream) {key : TimelineKey}
    {found : Instance}
    (hl : ((stream.generated.flatMap Instances.all).filter (·.key = key)).getLast? = some found) :
    set.Generates clocks found := by
  obtain ⟨rfl, hg⟩ := h.of_getLast? hl
  rw [recursIn_unbounded] at hg
  rcases hg with hr | ⟨rfl, hnone⟩
  · exact .inl hr
  · exact .inr ⟨rfl, h.key_start, hnone⟩

theorem Opens.hasAt (h : set.Opens clocks .unbounded stream) (ho : stream.ordinal = 0)
    {candidate : Candidate} (hl : Candidate.last? candidate.key stream.offers = some candidate) :
    ∃ item, stream.outcome candidate = some item ∧ set.HasAt clocks candidate.key item := by
  have hdeclared := h.find?_added candidate.key
  have hopen : ∀ start stop, stream.window.overlaps start stop = true := by
    intro start stop
    rw [h.window_eq]
    rfl
  rw [h.last?_offers] at hl
  cases hf : stream.added.find? (·.start = candidate.key) with
  | some one =>
    rw [hf] at hl hdeclared
    cases hl
    obtain ⟨period, hperiod, heq⟩ := Option.map_eq_some_iff.1 hdeclared.symm
    refine ⟨_, ?_, .declared hperiod⟩
    rw [Occurrences.outcome, h.build_declared ho, heq]
    simp [hopen, Candidate.key]
  | none =>
    rw [hf] at hl hdeclared
    rw [Option.map_none, Option.none_or] at hl
    obtain ⟨found, hlast, rfl⟩ := Option.map_eq_some_iff.1 hl
    have hg := h.generates_of_getLast? hlast
    have hnone : set.declaredAt? clocks found.key = none := Option.map_eq_none_iff.1 hdeclared.symm
    rw [Occurrences.outcome, h.build_generated ho (form_of_generates hg)]
    cases he : set.endOf clocks found with
    | error error => exact ⟨_, rfl, .endless hnone hg he⟩
    | ok stop =>
      refine ⟨_, ?_, .generated hnone hg he⟩
      simp [Except.map, hopen]

theorem Opens.exists_added_iff {window : Window} (h : set.Opens clocks window stream)
    (key : TimelineKey) : (∃ one ∈ stream.added, one.start = key) ↔
      ∃ period ∈ set.added, period.start.key clocks = .ok key := by
  have hsome := congrArg Option.isSome (h.find?_added key)
  rw [Option.isSome_map, Option.isSome_map, declaredAt?, Bool.eq_iff_iff, List.find?_isSome,
    List.find?_isSome] at hsome
  have hkey : ∀ period : Period, (period.start.key clocks).toOption = some key ↔
      period.start.key clocks = .ok key := by
    intro period
    cases period.start.key clocks <;> simp [Except.toOption]
  simpa only [decide_eq_true_eq, hkey] using hsome

theorem Opens.exists_offer_iff (h : set.Opens clocks .unbounded stream) (key : TimelineKey) :
    (∃ candidate ∈ stream.offers, candidate.key = key) ↔
      set.start.key clocks = .ok key ∨
        (∃ found, set.Recurs clocks set.rules found ∧ found.key = key) ∨
        ∃ period ∈ set.added, period.start.key clocks = .ok key := by
  have hstart : set.start.key clocks = .ok key ↔ stream.startKey = key := by
    rw [h.key_start, Except.ok.injEq]
  rw [← h.exists_added_iff, hstart, Occurrences.offers, ← recursIn_unbounded]
  simp only [List.mem_append, List.mem_map, h.mem_generated_iff]
  constructor
  · rintro ⟨_, ⟨found, rfl | hf, rfl⟩ | ⟨one, hone, rfl⟩, hk⟩
    · exact .inl hk
    · exact .inr (.inl ⟨found, hf, hk⟩)
    · exact .inr (.inr ⟨one, hone, hk⟩)
  · rintro (hk | ⟨found, hf, hk⟩ | ⟨one, hone, hk⟩)
    · exact ⟨_, .inl ⟨_, .inl rfl, rfl⟩, hk⟩
    · exact ⟨_, .inl ⟨found, .inr hf, rfl⟩, hk⟩
    · exact ⟨_, .inr ⟨one, hone, rfl⟩, hk⟩

/-- A stream without bounds visits the places of its set. -/
theorem Opens.includes_iff (h : set.Opens clocks .unbounded stream) (key : TimelineKey) :
    set.Includes clocks key ↔ ∃ candidate, stream.Visits candidate ∧ candidate.key = key := by
  have hends : ∀ place, stream.endsBefore place = false := by
    intro place
    rw [Occurrences.endsBefore, h.window_eq, h.cutoff_eq]
    rfl
  have htaken : stream.isTaken key = false ↔ ¬ ∃ value ∈ set.excluded, value.key clocks = .ok key := by
    rw [← h.isTaken_iff, Bool.not_eq_true]
  unfold Includes Removes
  rw [← h.exists_offer_iff, not_or, ← htaken, ← recursIn_unbounded, ← h.excludes_iff]
  constructor
  · rintro ⟨⟨candidate, hmem, rfl⟩, hkept, hfree⟩
    obtain ⟨last, hlast⟩ := Candidate.exists_last? hmem
    have hk := (Candidate.of_last? hlast).2
    exact ⟨last, ⟨hk ▸ hlast, hends _, hk ▸ hkept, hk ▸ hfree⟩, hk⟩
  · rintro ⟨candidate, hv, rfl⟩
    exact ⟨⟨candidate, (Candidate.of_last? hv.last).1, rfl⟩, hv.kept, hv.free⟩

theorem Opens.isFree (h : set.Opens clocks .unbounded stream)
    (hclean : ∀ pattern ∈ set.rules ++ set.exclusionRules, ∀ run,
      Run.start clocks pattern set.start = .ok run → ∀ error, .error error ∉ run.toList) :
    stream.IsFree := by
  have hruns : ∀ pattern ∈ set.rules ++ set.exclusionRules, ∀ run,
      set.runIn clocks .unbounded pattern = .ok run → failures run.toList = [] := by
    intro pattern hp run hrun
    rw [runIn_unbounded] at hrun
    apply List.eq_nil_iff_forall_not_mem.2
    intro error hmem
    exact hclean pattern hp run hrun error (mem_failures.1 hmem)
  refine ⟨h.deferred_eq, (h.forall_generated_iff (failures · = [])).2 ⟨rfl, ?_⟩,
    (h.forall_exclusionRules_iff (failures · = [])).2 ?_⟩
  · exact fun pattern hp => hruns pattern (List.mem_append_left _ hp)
  · exact fun pattern hp => hruns pattern (List.mem_append_right _ hp)

theorem Opens.failures_eq_nil (h : set.Opens clocks .unbounded stream) (ho : stream.ordinal = 0)
    (hclean : ∀ pattern ∈ set.rules ++ set.exclusionRules, ∀ run,
      Run.start clocks pattern set.start = .ok run → ∀ error, .error error ∉ run.toList)
    (hend : ∀ found, set.Generates clocks found → ∃ stop, set.endOf clocks found = .ok stop) :
    failures stream.toList = [] := by
  obtain ⟨visited, -, hmem, -, hitems⟩ :=
    (Occurrences.sweeps_toList stream).exists_visited h.ordered
  rw [hitems (h.isFree hclean), List.eq_nil_iff_forall_not_mem]
  intro error herror
  obtain ⟨candidate, hc, hout⟩ := List.mem_filterMap.1 (mem_failures.1 herror)
  obtain ⟨item, hitem, hat⟩ := h.hasAt ho ((hmem candidate).1 hc).last
  cases hout.symm.trans hitem
  generalize candidate.key = key at hat
  cases hat with
  | endless hd hg he =>
    obtain ⟨stop, hstop⟩ := hend _ hg
    cases hstop.symm.trans he

/-- The stream of a set without bounds is its set algebra, and in every window the
starts ascend. -/
theorem occurrences_eq_setAlgebra (clocks : Clocks) (set : RecurrenceSet) :
    (∀ stream, set.occurrences clocks .unbounded = .ok stream →
      (∀ pattern ∈ set.rules ++ set.exclusionRules, ∀ run,
        Run.start clocks pattern set.start = .ok run → ∀ error, .error error ∉ run.toList) →
      ∃ keys : List TimelineKey, keys.Pairwise (· < ·) ∧
        (∀ key, key ∈ keys ↔ set.Includes clocks key) ∧
        List.Forall₂ (set.HasAt clocks) keys stream.toList) ∧
    ∀ window stream, set.occurrences clocks window = .ok stream →
      (successes stream.toList).Pairwise (·.key < ·.key) := by
  refine ⟨fun stream hstream hclean => ?_, fun window stream hstream => ?_⟩
  · obtain ⟨hopens, ho⟩ := opens hstream
    obtain ⟨visited, hascend, hmem, -, hitems⟩ :=
      (Occurrences.sweeps_toList stream).exists_visited hopens.ordered
    have hhas : ∀ candidate ∈ visited, ∃ item,
        stream.outcome candidate = some item ∧ set.HasAt clocks candidate.key item :=
      fun candidate hc => hopens.hasAt ho ((hmem candidate).1 hc).last
    refine ⟨visited.map (·.key), List.pairwise_map.2 hascend, fun key => ?_, ?_⟩
    · rw [hopens.includes_iff, List.mem_map]
      simp only [hmem]
    · rw [hitems (hopens.isFree hclean), List.forall₂_map_left_iff]
      -- The candidates visited give their items one by one.
      clear hascend hmem hitems
      induction visited with
      | nil => exact List.Forall₂.nil
      | cons first others ih =>
        obtain ⟨item, hitem, hat⟩ := hhas first List.mem_cons_self
        rw [List.filterMap_cons_some hitem]
        exact .cons hat (ih fun candidate hc => hhas candidate (List.mem_cons_of_mem _ hc))
  · exact Occurrences.pairwise_successes (opens hstream).1.ordered

end Opens

/-- One instance of a daily rule. -/
def onceDaily : Pattern := { Pattern.ofFrequency .daily with ending := .count 1 }

/-- The plan of that rule from the first second of the calendar's zero day on. -/
def planOnce : Plan where
  pattern := onceDaily
  anchor := .time 0 .utc
  clock := none
  bound := none
  filter := .ofPattern onceDaily 0
  hours := []
  minutes := []
  seconds := []
  times := [0]
  emptyLimit := 1000
  resume := none
  horizon := none

theorem start_onceDaily (clocks : Clocks) :
    Run.start clocks onceDaily (.time 0 .utc) = .ok ⟨planOnce, .before 0⟩ := by
  cbv

theorem items_planOnce : planOnce.items (.before 0) = [.ok ⟨.time 0 .utc, ⟨0, true⟩⟩] := by
  have first : planOnce.items (.before 0) = planOnce.items ⟨1, [0], 0, 0, none, none⟩ := by
    rw [Plan.items_of_no_walls rfl]
    rfl
  rw [first, Plan.items_of_walls rfl]
  rfl

/-- An event of an hour by that rule, and once more two hours later. -/
def onceAndLater : RecurrenceSet where
  uid := "event"
  start := .time 0 .utc
  duration := ⟨false, 0, 0, 1, 0, 0⟩
  rules := [onceDaily]
  exclusionRules := []
  added := [.instant (.time 7200 .utc)]
  excluded := []
  replaces := none
  duration_ok := rfl

theorem exists_occurrences_onceAndLater (clocks : Clocks) : ∃ stream,
    onceAndLater.occurrences clocks .unbounded = .ok stream := by
  have hrun : onceAndLater.runIn clocks .unbounded onceDaily = .ok ⟨planOnce, .before 0⟩ := by
    rw [runIn_unbounded]
    exact start_onceDaily clocks
  have hrules : onceAndLater.rules.mapM (onceAndLater.runIn clocks .unbounded) =
      .ok [⟨planOnce, .before 0⟩] := by
    rw [mapM_eq_ok_iff]
    exact congrArg (fun one => [one]) hrun
  unfold occurrences occurrencesAt
  rw [hrules]
  exact ⟨_, rfl⟩

theorem occurrences_onceAndLater : ∃ stream,
    onceAndLater.occurrences (Resolver.empty Zone.Atlas.database).clocks .unbounded = .ok stream ∧
    (∃ keys : List TimelineKey, keys.Pairwise (· < ·) ∧
      (∀ key, key ∈ keys ↔
        onceAndLater.Includes (Resolver.empty Zone.Atlas.database).clocks key) ∧
      List.Forall₂ (onceAndLater.HasAt (Resolver.empty Zone.Atlas.database).clocks) keys
        stream.toList) ∧
    (successes stream.toList).Pairwise (·.key < ·.key) := by
  obtain ⟨stream, hstream⟩ :=
    exists_occurrences_onceAndLater (Resolver.empty Zone.Atlas.database).clocks
  have halgebra := occurrences_eq_setAlgebra (Resolver.empty Zone.Atlas.database).clocks onceAndLater
  refine ⟨stream, hstream, halgebra.1 stream hstream ?_, halgebra.2 .unbounded stream hstream⟩
  intro pattern hp run hrun error hmem
  obtain rfl : pattern = onceDaily := by simpa [onceAndLater] using hp
  obtain rfl : (⟨planOnce, .before 0⟩ : Run) = run :=
    Except.ok.inj ((start_onceDaily _).symm.trans hrun)
  change .error error ∈ planOnce.items (.before 0) at hmem
  rw [items_planOnce] at hmem
  simp at hmem

end Recurrence.RecurrenceSet

import Mathlib
import Recurrence.Proofs.Occurrence.Offer
import Recurrence.Proofs.Occurrence.Sweep

/-! Which candidates a stream gives: of those at each place the last, where
nothing takes the place away, in order and up to the end of the window. -/
namespace Recurrence.Occurrences

/-- A candidate that a stream comes to and that nothing takes away. -/
@[mk_iff] structure Visits (stream : Occurrences) (candidate : Candidate) : Prop where
  last : Candidate.last? candidate.key stream.offers = some candidate
  starts : stream.endsBefore candidate.key = false
  kept : stream.isTaken candidate.key = false
  free : ¬ stream.Excludes candidate.key

/-- A stream whose sources never fail. -/
structure IsFree (stream : Occurrences) : Prop where
  deferred : stream.deferred = []
  generated : ∀ ahead ∈ stream.generated, failures ahead.toList = []
  exclusionRules : ∀ ahead ∈ stream.exclusionRules, failures ahead.toList = []

section Steps

variable {stream : Occurrences} {key : TimelineKey}

theorem endsBefore_mono {earlier later : TimelineKey} (hle : earlier ≤ later)
    (h : stream.endsBefore earlier = true) : stream.endsBefore later = true := by
  have hinstant := TimelineKey.instant_le_of_le hle
  unfold endsBefore Window.isPast at *
  simp only [Bool.or_eq_true, Option.any_eq_true, decide_eq_true_eq] at *
  rcases h with ⟨stop, hs, hpast⟩ | ⟨cutoff, hc, hpast⟩
  · exact .inl ⟨stop, hs, hpast.trans hinstant⟩
  · exact .inr ⟨cutoff, hc, hpast.trans hle⟩

theorem IsFree.fillAll (hs : stream.IsFree) {generated : List Instances}
    (hf : Lookahead.fillAll stream.generated = (none, generated)) :
    IsFree { stream with generated } := by
  have hall : ∀ items ∈ generated.map Lookahead.toList, failures items = [] := by
    rw [(Lookahead.toList_of_fillAll hf).1]
    exact List.forall_mem_map.2 hs.generated
  exact ⟨hs.deferred, fun ahead ha => hall _ (List.mem_map_of_mem ha), hs.exclusionRules⟩

theorem IsFree.fillAll_ne_error (hs : stream.IsFree) {error : Failure} {generated : List Instances} :
    Lookahead.fillAll stream.generated ≠ (some error, generated) := by
  intro hf
  obtain ⟨before, items, after, hbefore, -⟩ := Lookahead.toList_of_fillAll_error hf
  have hall : ∀ items ∈ stream.generated.map Lookahead.toList, failures items = [] :=
    List.forall_mem_map.2 hs.generated
  rw [hbefore, List.forall_mem_append, List.forall_mem_cons] at hall
  cases hall.2.1

theorem IsFree.dropAt (hs : stream.IsFree) (key : TimelineKey) : (stream.dropAt key).IsFree := by
  refine ⟨hs.deferred, List.forall_mem_map.2 fun ahead ha => ?_, hs.exclusionRules⟩
  rw [Instances.failures_dropIf]
  exact hs.generated ahead ha

theorem IsFree.exclude (hs : stream.IsFree) (key : TimelineKey) :
    (stream.exclude key).2.IsFree := by
  have hseek : ∀ ahead ∈ stream.exclusionRules,
      (Instances.seek key ahead).1 = [] ∧ failures (Instances.seek key ahead).2.toList = [] := by
    intro ahead ha
    obtain ⟨passed, ⟨hsplit, -, -, -⟩, herrors⟩ := Instances.seek_seeks key ahead
    have hnone := hs.exclusionRules ahead ha
    rw [hsplit, failures_append, List.append_eq_nil_iff] at hnone
    exact ⟨herrors.trans hnone.1, hnone.2⟩
  rw [exclude_eq]
  refine ⟨?_, hs.generated, List.forall_mem_map.2 fun ahead ha => (hseek ahead ha).2⟩
  rw [hs.deferred, List.nil_append, List.flatMap_eq_nil_iff]
  exact fun ahead ha => (hseek ahead ha).1

theorem offers_visit (behind : Occurrences) (candidate : Candidate) :
    (visit behind candidate).2.offers = behind.offers := by
  unfold visit
  split <;> rfl

theorem generated_visit (behind : Occurrences) (candidate : Candidate) :
    (visit behind candidate).2.generated = behind.generated := by
  unfold visit
  split <;> rfl

theorem outcome_visit (behind : Occurrences) (candidate : Candidate) :
    (visit behind candidate).2.outcome = behind.outcome := by
  unfold visit
  split <;> rfl

theorem endsBefore_visit (behind : Occurrences) (candidate : Candidate) :
    (visit behind candidate).2.endsBefore = behind.endsBefore := by
  unfold visit
  split <;> rfl

theorem isTaken_visit (behind : Occurrences) (candidate : Candidate) :
    (visit behind candidate).2.isTaken = behind.isTaken := by
  unfold visit
  split <;> rfl

theorem Ordered.visit {behind : Occurrences} (ho : behind.Ordered) (candidate : Candidate) :
    (visit behind candidate).2.Ordered := by
  unfold Occurrences.visit
  split
  · exact ho
  · exact ho.exclude candidate.key

theorem IsFree.visit {behind : Occurrences} (hs : behind.IsFree) (candidate : Candidate) :
    (visit behind candidate).2.IsFree := by
  unfold Occurrences.visit
  split
  · exact hs
  · exact hs.exclude candidate.key

end Steps

/-- A stream at its earliest candidate, with what lies behind. -/
structure Meets (stream : Occurrences) (candidate : Candidate) (behind : Occurrences) : Prop where
  least : ∀ other ∈ stream.offers, candidate.key ≤ other.key
  last : Candidate.last? candidate.key stream.offers = some candidate
  offers : behind.offers = stream.offers.filter (·.key ≠ candidate.key)
  ordered : behind.Ordered
  endsBefore : behind.endsBefore = stream.endsBefore
  isTaken : behind.isTaken = stream.isTaken
  excludes : behind.Excludes = stream.Excludes
  outcome : behind.outcome = stream.outcome

theorem Ordered.meets {stream : Occurrences} (ho : stream.Ordered) {generated : List Instances}
    {candidate : Candidate} (hf : Lookahead.fillAll stream.generated = (none, generated))
    (hc : Candidate.earliest? { stream with generated }.candidates = some candidate) :
    stream.Meets candidate ({ stream with generated }.dropAt candidate.key) := by
  have hr := (Lookahead.toList_of_fillAll hf).2
  have ho' := ho.fillAll hf
  obtain ⟨hleast, hlast⟩ := Candidate.of_earliest? hc
  have hsame := offers_of_fillAll hf
  refine ⟨?_, ?_, ?_, ho'.dropAt hr hleast, rfl, rfl, rfl, rfl⟩
  · rw [← hsame]
    exact le_of_mem_offers ho' hr hleast
  · rw [← hsame, Candidate.last?, offers_at ho' hr hleast]
    exact hlast
  · rw [offers_dropAt ho' hr hleast, hsame]

section Meets

variable {stream behind : Occurrences} {candidate : Candidate}

/-- A visit gives the candidate unless something takes it away. -/
theorem Meets.visit_fst (hm : stream.Meets candidate behind)
    (he : stream.endsBefore candidate.key = false) (item : Item) :
    (visit behind candidate).1 = some item ↔
      stream.Visits candidate ∧ stream.outcome candidate = some item := by
  have hlooked : (behind.exclude candidate.key).2.outcome = stream.outcome := hm.outcome
  unfold visit
  rw [hm.isTaken]
  cases ht : stream.isTaken candidate.key with
  | true =>
    simp only [if_true, reduceCtorEq, false_iff, not_and]
    intro hv
    simp [hv.kept] at ht
  | false =>
    simp only [Bool.false_eq_true, if_false, hlooked]
    have hx := exclude_fst hm.ordered candidate.key
    rw [hm.excludes] at hx
    by_cases hfree : stream.Excludes candidate.key
    · simp only [hx.2 hfree, if_true, reduceCtorEq, false_iff, not_and]
      exact fun hv => absurd hfree hv.free
    · rw [if_neg (mt hx.1 hfree)]
      exact (and_iff_right ⟨hm.last, he, ht, hfree⟩).symm

theorem Meets.lt_of_visits (hm : stream.Meets candidate behind) {other : Candidate}
    (hv : (visit behind candidate).2.Visits other) : candidate.key < other.key := by
  have hoffer := (Candidate.of_last? hv.last).1
  rw [offers_visit, hm.offers, List.mem_filter] at hoffer
  have hne : other.key ≠ candidate.key := by simpa using hoffer.2
  exact lt_of_le_of_ne (hm.least other hoffer.1) hne.symm

theorem Meets.excludes_visit_iff (hm : stream.Meets candidate behind) {later : TimelineKey}
    (hle : candidate.key ≤ later) :
    (visit behind candidate).2.Excludes later ↔ stream.Excludes later := by
  rw [← hm.excludes]
  unfold visit
  split
  · exact Iff.rfl
  · exact excludes_exclude hm.ordered hle

/-- What a stream visits is its earliest candidate and what is visited behind
it. -/
theorem Meets.visits_iff (hm : stream.Meets candidate behind) (other : Candidate) :
    stream.Visits other ↔ (other = candidate ∧ stream.Visits candidate) ∨
      (visit behind candidate).2.Visits other := by
  have hoffers : (visit behind candidate).2.offers =
      stream.offers.filter (·.key ≠ candidate.key) := (offers_visit _ _).trans hm.offers
  have hends : (visit behind candidate).2.endsBefore = stream.endsBefore :=
    (endsBefore_visit _ _).trans hm.endsBefore
  have htaken : (visit behind candidate).2.isTaken = stream.isTaken :=
    (isTaken_visit _ _).trans hm.isTaken
  by_cases hk : other.key = candidate.key
  · constructor
    · intro hv
      have hlast := hv.last
      rw [hk, hm.last, Option.some.injEq] at hlast
      exact .inl ⟨hlast.symm, hlast ▸ hv⟩
    · rintro (⟨rfl, hv⟩ | hv)
      · exact hv
      · exact absurd hk (hm.lt_of_visits hv).ne'
  · have hne : other ≠ candidate := fun heq => hk (heq ▸ rfl)
    simp only [hne, false_and, false_or]
    constructor
    · intro hv
      have hle := hm.least other (Candidate.of_last? hv.last).1
      refine ⟨?_, hends ▸ hv.starts, htaken ▸ hv.kept, mt (hm.excludes_visit_iff hle).1 hv.free⟩
      rw [hoffers, Candidate.last?_off hk]
      exact hv.last
    · intro hv
      have hlast := hv.last
      rw [hoffers, Candidate.last?_off hk] at hlast
      have hle := (hm.lt_of_visits hv).le
      exact ⟨hlast, hends ▸ hv.starts, htaken ▸ hv.kept, mt (hm.excludes_visit_iff hle).2 hv.free⟩

end Meets

/-- Candidates that are those a stream visits, in order, and that give its items
but for the failures of its sources. -/
structure Traces (stream : Occurrences) (items : List Item) (visited : List Candidate) : Prop where
  ascends : visited.Pairwise (·.key < ·.key)
  mem_iff : ∀ candidate, candidate ∈ visited ↔ stream.Visits candidate
  successes_eq : successes items = successes (visited.filterMap stream.outcome)
  items_eq : stream.IsFree → items = visited.filterMap stream.outcome

theorem Meets.exists_visited {stream behind : Occurrences} {first : Candidate}
    {later : List Candidate} (hm : stream.Meets first behind)
    (he : stream.endsBefore first.key = false) (hascend : later.Pairwise (·.key < ·.key))
    (hmem : ∀ candidate, candidate ∈ later ↔ (visit behind first).2.Visits candidate) :
    ∃ visited : List Candidate, visited.Pairwise (·.key < ·.key) ∧
      (∀ candidate, candidate ∈ visited ↔ stream.Visits candidate) ∧
      visited.filterMap stream.outcome =
        (visit behind first).1.toList ++ later.filterMap stream.outcome := by
  have hitem := hm.visit_fst he
  by_cases hv : stream.Visits first
  · have hout : (visit behind first).1 = stream.outcome first := by
      apply Option.ext
      intro item
      rw [hitem, and_iff_right hv]
    refine ⟨first :: later, List.pairwise_cons.2 ⟨?_, hascend⟩, fun candidate => ?_, ?_⟩
    · exact fun candidate hc => hm.lt_of_visits ((hmem candidate).1 hc)
    · rw [List.mem_cons, hmem, hm.visits_iff, and_iff_left hv]
    · rw [hout]
      cases ho : stream.outcome first <;> simp [ho]
  · have hout : (visit behind first).1 = none := by
      apply Option.eq_none_iff_forall_ne_some.2
      intro item h
      exact hv ((hitem item).1 h).1
    refine ⟨later, hascend, fun candidate => ?_, by rw [hout]; rfl⟩
    rw [hmem, hm.visits_iff]
    simp [hv]

theorem Meets.exists_traces {stream behind : Occurrences} {first : Candidate} {items : List Item}
    {later : List Candidate} (hm : stream.Meets first behind)
    (he : stream.endsBefore first.key = false) (hfree : stream.IsFree → behind.IsFree)
    (h : (visit behind first).2.Traces items later) :
    ∃ visited, stream.Traces ((visit behind first).1.toList ++ items) visited := by
  obtain ⟨hascend, hmem, hsame, hitems⟩ := h
  rw [outcome_visit, hm.outcome] at hsame hitems
  obtain ⟨visited, hascends, hvisits, hout⟩ := hm.exists_visited he hascend hmem
  refine ⟨visited, hascends, hvisits, ?_, fun hs => ?_⟩
  · rw [hout, successes_append, successes_append, hsame]
  · rw [hout, hitems ((hfree hs).visit first)]

theorem traces_nil {stream : Occurrences}
    (h : ∀ candidate ∈ stream.offers, stream.endsBefore candidate.key = true) :
    stream.Traces [] [] := by
  refine ⟨List.Pairwise.nil, fun candidate => ?_, rfl, fun _ => rfl⟩
  simp only [List.not_mem_nil, false_iff]
  intro hv
  have hend := h candidate (Candidate.of_last? hv.last).1
  rw [hv.starts] at hend
  cases hend

theorem Sweeps.exists_visited {stream : Occurrences} {items : List Item} (h : stream.Sweeps items)
    (ho : stream.Ordered) : ∃ visited, stream.Traces items visited := by
  induction h with
  | deferred hd rest ih =>
    obtain ⟨visited, hascend, hmem, hsame, -⟩ := ih ⟨ho.generated, ho.added, ho.exclusionRules⟩
    refine ⟨visited, hascend, fun candidate => (hmem candidate).trans ?_, hsame, fun hs => ?_⟩
    · rw [visits_iff, visits_iff]
      rfl
    · rw [hs.deferred] at hd
      cases hd
  | failed hd hf rest ih =>
    obtain ⟨visited, hascend, hmem, hsame, -⟩ := ih (ho.fillAll_error hf)
    refine ⟨visited, hascend, fun candidate => (hmem candidate).trans ?_, hsame, fun hs => ?_⟩
    · rw [visits_iff, visits_iff, offers_of_fillAll hf]
      rfl
    · exact absurd hf hs.fillAll_ne_error
  | done hd hf hc =>
    have hnil := offers_eq_nil (ho.fillAll hf) (Lookahead.toList_of_fillAll hf).2
      (Candidate.earliest?_eq_none hc)
    rw [offers_of_fillAll hf] at hnil
    refine ⟨[], traces_nil ?_⟩
    simp [hnil]
  | ended hd hf hc he =>
    exact ⟨[], traces_nil fun candidate hoffer =>
      endsBefore_mono ((ho.meets hf hc).least candidate hoffer) he⟩
  | visited hd hf hc he rest ih =>
    have hm := ho.meets hf hc
    obtain ⟨visited, htraces⟩ := ih (hm.ordered.visit _)
    exact hm.exists_traces he (fun hs => (hs.fillAll hf).dropAt _) htraces

/-- What a stream gives are the outcomes of the candidates that it visits. -/
theorem mem_successes_toList {stream : Occurrences} (ho : stream.Ordered) (occurrence : Occurrence) :
    occurrence ∈ successes stream.toList ↔
      ∃ candidate, stream.Visits candidate ∧ stream.outcome candidate = some (.ok occurrence) := by
  obtain ⟨visited, -, hmem, hsame, -⟩ := (sweeps_toList stream).exists_visited ho
  rw [hsame, mem_successes, List.mem_filterMap]
  simp only [hmem]

theorem outcome_eq_ok_iff {stream : Occurrences} {candidate : Candidate} {occurrence : Occurrence} :
    stream.outcome candidate = some (.ok occurrence) ↔ ∃ stop,
      stream.build candidate = .ok (occurrence, stop) ∧
        stream.window.overlaps candidate.key stop = true := by
  unfold outcome
  cases stream.build candidate with
  | error error => simp
  | ok built =>
    simp only [Except.ok.injEq]
    constructor
    · intro h
      split at h
      · next hover =>
        cases h
        exact ⟨built.2, rfl, hover⟩
      · cases h
    · rintro ⟨stop, rfl, hover⟩
      rw [if_pos hover]

theorem outcome_eq_error_iff {stream : Occurrences} {candidate : Candidate} {error : Failure} :
    stream.outcome candidate = some (.error error) ↔ stream.build candidate = .error error := by
  unfold outcome
  cases stream.build candidate with
  | error error => simp
  | ok built =>
    obtain ⟨first, stop⟩ := built
    by_cases h : stream.window.overlaps candidate.key stop = true <;> simp [h]

theorem pairwise_successes {stream : Occurrences} (ho : stream.Ordered) :
    (successes stream.toList).Pairwise (·.key < ·.key) := by
  obtain ⟨visited, hascend, -, hsame, -⟩ := (sweeps_toList stream).exists_visited ho
  have hkeys : ∀ (candidates : List Candidate) (occurrence : Occurrence),
      occurrence ∈ successes (candidates.filterMap stream.outcome) →
      ∃ candidate ∈ candidates, occurrence.key = candidate.key := by
    intro candidates occurrence hmem
    obtain ⟨candidate, hc, ho⟩ := List.mem_filterMap.1 (mem_successes.1 hmem)
    exact ⟨candidate, hc, key_of_outcome ho⟩
  rw [hsame]
  clear hsame
  induction visited with
  | nil => exact List.Pairwise.nil
  | cons first others ih =>
    obtain ⟨hfirst, hothers⟩ := List.pairwise_cons.1 hascend
    rw [List.filterMap_cons]
    match ho : stream.outcome first with
    | none => exact ih hothers
    | some (.error error) => exact ih hothers
    | some (.ok occurrence) =>
      refine List.pairwise_cons.2 ⟨fun later hl => ?_, ih hothers⟩
      obtain ⟨candidate, hc, hk⟩ := hkeys others later hl
      rw [hk, key_of_outcome ho]
      exact hfirst candidate hc

end Recurrence.Occurrences

import Mathlib
import Recurrence.Proofs.Occurrence.Visit

/-! Streams that come to a place without a failure. Whether they do can be read
off their sources: the generated instances have to come to the place, and the
exclusion rules to each candidate before it. -/
namespace Recurrence

namespace Instances

variable {ahead : Instances} {key later : TimelineKey}

theorem arrives_dropIf {test : Instance → Prop} {drop : Instance → Bool}
    (h : ∀ found, drop found = true → ¬ test found) :
    Arrives test (ahead.dropIf drop).toList ↔ Arrives test ahead.toList := by
  unfold Lookahead.dropIf
  split
  · next hany =>
    obtain ⟨found, hh, hdrop⟩ := (Option.any_eq_true _ _).1 hany
    rw [Lookahead.toList_of_head hh]
    exact (or_iff_right (h found hdrop)).symm
  · rfl

theorem arrives_at_seek (key : TimelineKey) (ahead : Instances) :
    Arrives (key ≤ ·.key) (ahead.seek key).2.toList := by
  obtain ⟨_, ⟨-, -, hready, hbehind⟩, -⟩ := seek_seeks key ahead
  cases hh : (ahead.seek key).2.head with
  | none => rw [hready hh]; trivial
  | some found => rw [Lookahead.toList_of_head hh]; exact .inl (hbehind found hh)

/-- A rule comes to a place when a search up to there has no failure. -/
theorem arrives_seek_iff (hle : key ≤ later) : Arrives (later ≤ ·.key) ahead.toList ↔
    (ahead.seek key).1 = [] ∧ Arrives (later ≤ ·.key) (ahead.seek key).2.toList := by
  obtain ⟨passed, ⟨hsplit, hbefore, -, -⟩, herrors⟩ := seek_seeks key ahead
  rw [hsplit, herrors]
  constructor
  · intro h
    exact h.of_append fun found hf => not_le.2 ((hbefore found hf).trans_le hle)
  · rintro ⟨hnone, h⟩
    exact arrives_append_right hnone h

end Instances

namespace Occurrences

/-- A stream whose sources come to their end or past some place without a
failure. -/
structure Clean (past : TimelineKey → Prop) (stream : Occurrences) : Prop where
  deferred : stream.deferred = []
  generated : ∀ ahead ∈ stream.generated, Arrives (fun found => past found.key) ahead.toList
  exclusionRules : ∀ candidate ∈ stream.offers, ¬ past candidate.key →
    stream.isTaken candidate.key = false →
      ∀ ahead ∈ stream.exclusionRules, Arrives (candidate.key ≤ ·.key) ahead.toList
  built : ∀ candidate, stream.Visits candidate → ¬ past candidate.key →
    ∀ error, stream.outcome candidate ≠ some (.error error)

section Step

variable {past : TimelineKey → Prop} {stream : Occurrences} {generated : List Instances}
  {candidate : Candidate}

theorem arrives_fillAll_iff (hf : Lookahead.fillAll stream.generated = (none, generated))
    (test : Instance → Prop) : (∀ ahead ∈ generated, Arrives test ahead.toList) ↔
      ∀ ahead ∈ stream.generated, Arrives test ahead.toList := by
  have hsame := (Lookahead.toList_of_fillAll hf).1
  have hlists : ∀ aheads : List Instances, (∀ ahead ∈ aheads, Arrives test ahead.toList) ↔
      ∀ items ∈ aheads.map Lookahead.toList, Arrives test items :=
    fun aheads => List.forall_mem_map.symm
  rw [hlists, hlists, hsame]

theorem arrives_of_earliest? (hmono : ∀ one other, one ≤ other → past one → past other)
    (hf : Lookahead.fillAll stream.generated = (none, generated))
    (hc : Candidate.earliest? { stream with generated }.candidates = some candidate)
    (hp : past candidate.key) :
    ∀ ahead ∈ stream.generated, Arrives (fun found => past found.key) ahead.toList := by
  rw [← arrives_fillAll_iff hf]
  intro ahead ha
  have hready := (Lookahead.toList_of_fillAll hf).2 ahead ha
  have hleast := (Candidate.of_earliest? hc).1
  cases hh : ahead.head with
  | none => rw [hready hh]; trivial
  | some found =>
    rw [Lookahead.toList_of_head hh]
    exact .inl (hmono _ _ (le_of_mem_head hleast ahead ha found hh) hp)

theorem arrives_dropAt_iff (hf : Lookahead.fillAll stream.generated = (none, generated))
    (hp : ¬ past candidate.key) :
    (∀ ahead ∈ ({ stream with generated }.dropAt candidate.key).generated,
        Arrives (fun found => past found.key) (Lookahead.toList ahead)) ↔
      ∀ ahead ∈ stream.generated, Arrives (fun found => past found.key) ahead.toList := by
  rw [← arrives_fillAll_iff hf]
  unfold dropAt
  rw [List.forall_mem_map]
  refine forall₂_congr fun ahead _ => Instances.arrives_dropIf fun found hat => ?_
  rw [of_decide_eq_true hat]
  exact hp

/-- Whether exclusion rules come to all candidates that are not past and not taken away. -/
def ExclusionsArrive (past : TimelineKey → Prop) (stream : Occurrences) : Prop :=
  ∀ other ∈ stream.offers, ¬ past other.key → stream.isTaken other.key = false →
    ∀ ahead ∈ stream.exclusionRules, Arrives (other.key ≤ ·.key) (Lookahead.toList ahead)

theorem Meets.mem_offers_iff {behind : Occurrences} (hm : stream.Meets candidate behind)
    (other : Candidate) :
    other ∈ behind.offers ↔ other ∈ stream.offers ∧ other.key ≠ candidate.key := by
  rw [hm.offers, List.mem_filter, decide_eq_true_eq]

theorem Meets.arrives_iff_of_taken {behind : Occurrences} (hm : stream.Meets candidate behind)
    (hrules : behind.exclusionRules = stream.exclusionRules)
    (ht : stream.isTaken candidate.key = true) :
    behind.ExclusionsArrive past ↔ stream.ExclusionsArrive past := by
  unfold ExclusionsArrive
  rw [hrules, hm.isTaken]
  constructor
  · intro h other ho hpast hkept
    refine h other ((hm.mem_offers_iff other).2 ⟨ho, fun hk => ?_⟩) hpast hkept
    rw [hk, ht] at hkept
    cases hkept
  · intro h other ho
    exact h other ((hm.mem_offers_iff other).1 ho).1

/-- Looking at the exclusion rules brings them to the candidate, and they come to the
others from there as they would have anyway. -/
theorem Meets.arrives_iff_of_kept {behind : Occurrences} (hm : stream.Meets candidate behind)
    (hp : ¬ past candidate.key) (ht : stream.isTaken candidate.key = false) :
    ((∀ ahead ∈ stream.exclusionRules, (Instances.seek candidate.key ahead).1 = []) ∧
      ∀ other ∈ behind.offers, ¬ past other.key → stream.isTaken other.key = false →
        ∀ ahead ∈ stream.exclusionRules,
          Arrives (other.key ≤ ·.key) (Instances.seek candidate.key ahead).2.toList) ↔
      stream.ExclusionsArrive past := by
  constructor
  · rintro ⟨hnone, h⟩ other ho hpast hkept ahead ha
    refine (Instances.arrives_seek_iff (hm.least other ho)).2 ⟨hnone ahead ha, ?_⟩
    by_cases hk : other.key = candidate.key
    · rw [hk]
      exact Instances.arrives_at_seek candidate.key ahead
    · exact h other ((hm.mem_offers_iff other).2 ⟨ho, hk⟩) hpast hkept ahead ha
  · intro h
    refine ⟨fun ahead ha => ?_, fun other ho hpast hkept ahead ha => ?_⟩
    · have hlast := (Candidate.of_last? hm.last).1
      exact ((Instances.arrives_seek_iff le_rfl).1 (h candidate hlast hp ht ahead ha)).1
    · have ho' := ((hm.mem_offers_iff other).1 ho).1
      exact ((Instances.arrives_seek_iff (hm.least other ho')).1
        (h other ho' hpast hkept ahead ha)).2

/-- The exclusion rules come to all candidates if a visit has no failure to give
later and what lies behind comes to its candidates. -/
theorem Meets.arrives_iff {behind : Occurrences} (hm : stream.Meets candidate behind)
    (hrules : behind.exclusionRules = stream.exclusionRules) (hd : behind.deferred = [])
    (hp : ¬ past candidate.key) :
    ((visit behind candidate).2.deferred = [] ∧
      (visit behind candidate).2.ExclusionsArrive past) ↔ stream.ExclusionsArrive past := by
  cases ht : behind.isTaken candidate.key with
  | true =>
    have hvisit : visit behind candidate = (none, behind) := by rw [visit, if_pos ht]
    rw [hvisit, and_iff_right hd]
    exact hm.arrives_iff_of_taken hrules (hm.isTaken ▸ ht)
  | false =>
    have hvisit : (visit behind candidate).2 = (behind.exclude candidate.key).2 := by
      rw [visit, if_neg (ne_true_of_eq_false ht)]
    have htaken : (behind.exclude candidate.key).2.isTaken = stream.isTaken := hm.isTaken
    have hoffers := offers_visit behind candidate
    rw [hvisit] at hoffers
    rw [hvisit, ExclusionsArrive, htaken, hoffers, exclude_eq, hd, hrules, List.nil_append,
      List.flatMap_eq_nil_iff]
    simp only [List.forall_mem_map]
    exact hm.arrives_iff_of_kept hp (hm.isTaken ▸ ht)

theorem Meets.built_iff {behind : Occurrences} (hm : stream.Meets candidate behind)
    (he : stream.endsBefore candidate.key = false) (hp : ¬ past candidate.key) :
    (∀ other, stream.Visits other → ¬ past other.key →
        ∀ error, stream.outcome other ≠ some (.error error)) ↔
      (∀ other, (visit behind candidate).2.Visits other → ¬ past other.key →
        ∀ error, (visit behind candidate).2.outcome other ≠ some (.error error)) ∧
      ∀ error, (visit behind candidate).1 ≠ some (.error error) := by
  rw [outcome_visit, hm.outcome]
  constructor
  · intro h
    refine ⟨fun other hv => h other ((hm.visits_iff other).2 (.inr hv)), fun error herror => ?_⟩
    obtain ⟨hv, hout⟩ := (hm.visit_fst he _).1 herror
    exact h candidate hv hp error hout
  · rintro ⟨hlater, hfirst⟩ other hv hpast error herror
    rcases (hm.visits_iff other).1 hv with ⟨rfl, hv⟩ | hv
    · exact hfirst error ((hm.visit_fst he _).2 ⟨hv, herror⟩)
    · exact hlater other hv hpast error herror

/-- A visit is clean on the way if and only if what lies behind is. -/
theorem clean_visit_iff (ho : stream.Ordered) (hd : stream.deferred = [])
    (hf : Lookahead.fillAll stream.generated = (none, generated))
    (hc : Candidate.earliest? { stream with generated }.candidates = some candidate)
    (he : stream.endsBefore candidate.key = false) (hp : ¬ past candidate.key) :
    stream.Clean past ↔
      (visit ({ stream with generated }.dropAt candidate.key) candidate).2.Clean past ∧
        ∀ error, (visit ({ stream with generated }.dropAt candidate.key) candidate).1 ≠
          some (.error error) := by
  have hm := ho.meets hf hc
  have hgenerated := arrives_dropAt_iff hf hp
  generalize hbehind : { stream with generated }.dropAt candidate.key = behind at hm hgenerated ⊢
  have hrules : behind.exclusionRules = stream.exclusionRules := hbehind ▸ rfl
  have hwaiting : behind.deferred = [] := hbehind ▸ hd
  rw [← generated_visit behind candidate] at hgenerated
  have hexclusion := hm.arrives_iff hrules hwaiting hp
  have hbuilt := hm.built_iff he hp
  constructor
  · intro h
    obtain ⟨hdeferred, hother⟩ := hexclusion.2 h.exclusionRules
    obtain ⟨hlater, hfirst⟩ := hbuilt.1 h.built
    exact ⟨⟨hdeferred, hgenerated.2 h.generated, hother, hlater⟩, hfirst⟩
  · rintro ⟨h, hfirst⟩
    exact ⟨hd, hgenerated.1 h.generated, hexclusion.1 ⟨h.deferred, h.exclusionRules⟩,
      hbuilt.2 ⟨h.built, hfirst⟩⟩

end Step

theorem clean_of_past {past : TimelineKey → Prop} {stream : Occurrences}
    {generated : List Instances} {candidate : Candidate} (ho : stream.Ordered)
    (hmono : ∀ one other, one ≤ other → past one → past other) (hd : stream.deferred = [])
    (hf : Lookahead.fillAll stream.generated = (none, generated))
    (hc : Candidate.earliest? { stream with generated }.candidates = some candidate)
    (hp : past candidate.key) : stream.Clean past := by
  have hall : ∀ other ∈ stream.offers, past other.key :=
    fun other hmem => hmono _ _ ((ho.meets hf hc).least other hmem) hp
  refine ⟨hd, arrives_of_earliest? hmono hf hc hp, ?_, ?_⟩
  · exact fun other hmem hpast => absurd (hall other hmem) hpast
  · exact fun other hv hpast => absurd (hall other (Candidate.of_last? hv.last).1) hpast

theorem clean_of_done {past : TimelineKey → Prop} {stream : Occurrences}
    {generated : List Instances} (ho : stream.Ordered) (hd : stream.deferred = [])
    (hf : Lookahead.fillAll stream.generated = (none, generated))
    (hc : Candidate.earliest? { stream with generated }.candidates = none) :
    stream.Clean past := by
  have hready := (Lookahead.toList_of_fillAll hf).2
  have hnil := offers_eq_nil (ho.fillAll hf) hready (Candidate.earliest?_eq_none hc)
  rw [offers_of_fillAll hf] at hnil
  have hheads := (List.append_eq_nil_iff.1 (Candidate.earliest?_eq_none hc)).1
  rw [List.map_eq_nil_iff, List.filterMap_eq_nil_iff] at hheads
  refine ⟨hd, (arrives_fillAll_iff hf _).1 fun ahead ha => ?_, ?_, ?_⟩
  · rw [hready ahead ha (hheads ahead ha)]
    trivial
  · intro candidate hmem
    rw [hnil] at hmem
    cases hmem
  · intro candidate hv
    simpa [hnil] using (Candidate.of_last? hv.last).1

/-- A stream that ends past a place at the earliest, and whose items come past it
too, has clean sources up to there. -/
theorem Sweeps.clean {past : TimelineKey → Prop} {stream : Occurrences} {items : List Item}
    (h : stream.Sweeps items) (ho : stream.Ordered)
    (hends : ∀ key, stream.endsBefore key = true → past key)
    (hmono : ∀ one other, one ≤ other → past one → past other)
    (ha : Arrives (fun occurrence => past occurrence.key) items) : stream.Clean past := by
  induction h with
  | deferred => cases ha
  | failed => cases ha
  | done hd hf hc => exact clean_of_done ho hd hf hc
  | ended hd hf hc he => exact clean_of_past ho hmono hd hf hc (hends _ he)
  | @visited stream generated first items hd hf hc he rest ih =>
    have hm := ho.meets hf hc
    by_cases hp : past first.key
    · exact clean_of_past ho hmono hd hf hc hp
    · rw [clean_visit_iff ho hd hf hc he hp]
      have hends' : ∀ key, (visit ({ stream with generated }.dropAt first.key) first).2.endsBefore
          key = true → past key := by
        rw [endsBefore_visit, hm.endsBefore]
        exact hends
      have hitem := hm.visit_fst he
      have ho' := hm.ordered.visit first
      generalize visit ({ stream with generated }.dropAt first.key) first = visited at *
      obtain ⟨_ | error | occurrence, next⟩ := visited
      · exact ⟨ih ho' hends' ha, by simp⟩
      · cases ha
      · have hk := key_of_outcome ((hitem _).1 rfl).2
        refine ⟨ih ho' hends' (ha.resolve_left fun hpast => hp ?_), by simp⟩
        rwa [← hk]

theorem Sweeps.failures_eq_nil {past : TimelineKey → Prop} {stream : Occurrences}
    {items : List Item} (h : stream.Sweeps items) (ho : stream.Ordered)
    (hends : ∀ key, stream.endsBefore key = false → ¬ past key) (hs : stream.Clean past) :
    failures items = [] := by
  induction h with
  | deferred hd =>
    rw [hs.deferred] at hd
    cases hd
  | @failed stream error generated items hd hf rest ih =>
    -- A failure in front of a source contradicts that it comes to the place.
    obtain ⟨before, items, after, hbefore, -⟩ := Lookahead.toList_of_fillAll_error hf
    have hall := List.forall_mem_map.2 hs.generated
    rw [hbefore, List.forall_mem_append, List.forall_mem_cons] at hall
    cases hall.2.1
  | done => rfl
  | ended => rfl
  | @visited stream generated first items hd hf hc he rest ih =>
    have hm := ho.meets hf hc
    obtain ⟨hs', hfirst⟩ := (clean_visit_iff ho hd hf hc he (hends _ he)).1 hs
    have hrest := ih (hm.ordered.visit first) (by rwa [endsBefore_visit, hm.endsBefore]) hs'
    rw [failures_append, hrest, List.append_nil]
    cases hitem : (visit ({ stream with generated }.dropAt first.key) first).1 with
    | none => rfl
    | some item =>
      cases item with
      | ok occurrence => rfl
      | error error => exact absurd hitem (hfirst error)

end Occurrences
end Recurrence

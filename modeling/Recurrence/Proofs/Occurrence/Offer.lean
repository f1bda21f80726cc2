import Mathlib
import Recurrence.Occurrence.Stream
import Recurrence.Proofs.Occurrence.Candidate

/-! What is still to come from a stream whose parts ascend. Its candidates are
made ready from the least place on, and dropping that place takes just that
away. -/
namespace Recurrence.Occurrences

/-- The candidates still to come, those of one place in the order in which later
ones win. -/
def offers (stream : Occurrences) : List Candidate :=
  (stream.generated.flatMap Instances.all).map .generated ++ stream.added.map .declared

/-- A stream whose parts ascend. -/
structure Ordered (stream : Occurrences) : Prop where
  generated : ∀ ahead ∈ stream.generated, Instances.Ascends ahead
  added : stream.added.Pairwise (·.start < ·.start)
  exclusionRules : ∀ ahead ∈ stream.exclusionRules, Instances.Ascends ahead

section Ready

variable {stream : Occurrences} {key : TimelineKey}

theorem offers_of_fillAll {error : Option Failure} {generated : List Instances}
    (hf : Lookahead.fillAll stream.generated = (error, generated)) :
    { stream with generated }.offers = stream.offers := by
  unfold offers
  rw [Instances.flatMap_all_of_fillAll hf]

theorem le_of_mem_offers (ho : stream.Ordered) (hr : ∀ ahead ∈ stream.generated, ahead.IsReady)
    (hle : ∀ candidate ∈ stream.candidates, key ≤ candidate.key) :
    ∀ candidate ∈ stream.offers, key ≤ candidate.key := by
  intro candidate hmem
  rcases List.mem_append.1 hmem with hg | hd
  · obtain ⟨found, hfound, rfl⟩ := List.mem_map.1 hg
    obtain ⟨ahead, ha, hf⟩ := List.mem_flatMap.1 hfound
    obtain ⟨first, hh, hfirst⟩ := Instances.head_le (hr ahead ha) (ho.generated ahead ha) hf
    refine (hle (.generated first) ?_).trans hfirst
    exact List.mem_append_left _ (List.mem_map_of_mem (List.mem_filterMap.2 ⟨ahead, ha, hh⟩))
  · obtain ⟨one, hone, rfl⟩ := List.mem_map.1 hd
    have hascends := ho.added
    cases hs : stream.added with
    | nil => simp [hs] at hone
    | cons first others =>
      rw [hs] at hone hascends
      refine (hle (.declared first) ?_).trans (first_le_of_ascending hascends hone)
      exact List.mem_append_right _ (by simp [hs])

theorem le_of_mem_head (hle : ∀ candidate ∈ stream.candidates, key ≤ candidate.key) :
    ∀ ahead ∈ stream.generated, ∀ found ∈ ahead.head, key ≤ found.key := by
  intro ahead ha found hh
  apply hle (.generated found)
  exact List.mem_append_left _ (List.mem_map_of_mem (List.mem_filterMap.2 ⟨ahead, ha, hh⟩))

theorem le_of_mem_head_added (hle : ∀ candidate ∈ stream.candidates, key ≤ candidate.key) :
    ∀ first ∈ stream.added.head?, key ≤ first.start := by
  intro first hfirst
  apply hle (.declared first)
  exact List.mem_append_right _ (List.mem_map_of_mem (Option.mem_toList.2 hfirst))

theorem offers_at (ho : stream.Ordered) (hr : ∀ ahead ∈ stream.generated, ahead.IsReady)
    (hle : ∀ candidate ∈ stream.candidates, key ≤ candidate.key) :
    stream.offers.filter (·.key = key) = stream.candidates.filter (·.key = key) := by
  unfold offers candidates
  rw [List.filter_append, List.filter_append]
  congr 1
  · rw [List.filter_map, List.filter_map, List.filterMap_eq_flatMap_toList]
    congr 1
    rw [List.filter_flatMap, List.filter_flatMap]
    apply List.flatMap_congr
    intro ahead ha
    exact Instances.filter_all_at (hr ahead ha) (ho.generated ahead ha) (le_of_mem_head hle ahead ha)
  · rw [List.filter_map, List.filter_map]
    congr 1
    have hascends := ho.added
    have hfirst := le_of_mem_head_added hle
    cases hs : stream.added with
    | nil => rfl
    | cons first others =>
      rw [hs] at hascends hfirst
      exact filter_at_of_ascending hascends (hfirst first rfl)

theorem offers_dropAt (ho : stream.Ordered) (hr : ∀ ahead ∈ stream.generated, ahead.IsReady)
    (hle : ∀ candidate ∈ stream.candidates, key ≤ candidate.key) :
    (stream.dropAt key).offers = stream.offers.filter (·.key ≠ key) := by
  unfold offers dropAt
  rw [List.filter_append, List.filter_map, List.filter_map, List.filter_flatMap, List.flatMap_map]
  congr 2
  · apply List.flatMap_congr
    intro ahead ha
    exact Instances.all_dropIf (hr ahead ha) (ho.generated ahead ha) (le_of_mem_head hle ahead ha)
  · have hascends := ho.added
    have hfirst := le_of_mem_head_added hle
    cases hs : stream.added with
    | nil => rfl
    | cons first others =>
      rw [hs] at hascends hfirst
      exact (filter_off_of_ascending hascends (hfirst first rfl)).symm

end Ready

/-- Whether an exclusion rule still to come takes a place away. -/
def Excludes (stream : Occurrences) (key : TimelineKey) : Prop :=
  ∃ ahead ∈ stream.exclusionRules, ∃ found ∈ Instances.all ahead, found.key = key

theorem exclude_eq (stream : Occurrences) (key : TimelineKey) : stream.exclude key =
    (stream.exclusionRules.any fun ahead =>
        (Instances.seek key ahead).2.head.any (Instance.isAt key),
      { stream with
        exclusionRules := stream.exclusionRules.map fun ahead => (Instances.seek key ahead).2
        deferred := stream.deferred ++
          stream.exclusionRules.flatMap fun ahead => (Instances.seek key ahead).1 }) := by
  rw [exclude, Instances.seekAll_eq]

section Steps

variable {stream : Occurrences} {key : TimelineKey}

theorem Ordered.fillAll (ho : stream.Ordered) {generated : List Instances}
    (hf : Lookahead.fillAll stream.generated = (none, generated)) :
    Ordered { stream with generated } := by
  have hall : ∀ items ∈ generated.map Lookahead.toList, Run.Ascends items := by
    rw [(Lookahead.toList_of_fillAll hf).1]
    exact List.forall_mem_map.2 ho.generated
  exact ⟨fun ahead ha => hall _ (List.mem_map_of_mem ha), ho.added, ho.exclusionRules⟩

theorem Ordered.fillAll_error (ho : stream.Ordered) {error : Failure} {generated : List Instances}
    (hf : Lookahead.fillAll stream.generated = (some error, generated)) :
    Ordered { stream with generated } := by
  obtain ⟨before, items, after, hbefore, hafter, -⟩ := Lookahead.toList_of_fillAll_error hf
  have hall : ∀ items ∈ stream.generated.map Lookahead.toList, Run.Ascends items :=
    List.forall_mem_map.2 ho.generated
  have hnext : ∀ items ∈ generated.map Lookahead.toList, Run.Ascends items := by
    rw [hbefore, List.forall_mem_append, List.forall_mem_cons] at hall
    rw [hafter, List.forall_mem_append, List.forall_mem_cons]
    exact hall
  exact ⟨fun ahead ha => hnext _ (List.mem_map_of_mem ha), ho.added, ho.exclusionRules⟩

theorem Ordered.dropAt (ho : stream.Ordered) (hr : ∀ ahead ∈ stream.generated, ahead.IsReady)
    (hle : ∀ candidate ∈ stream.candidates, key ≤ candidate.key) : (stream.dropAt key).Ordered := by
  refine ⟨?_, ?_, ho.exclusionRules⟩
  · rintro _ hmem
    obtain ⟨ahead, ha, rfl⟩ := List.mem_map.1 hmem
    have hascends := ho.generated ahead ha
    unfold Instances.Ascends
    rw [Instances.all_dropIf (hr ahead ha) hascends (le_of_mem_head hle ahead ha)]
    exact List.Pairwise.filter _ hascends
  · have hascends := ho.added
    change (Added.dropAt key stream.added).Pairwise _
    cases hs : stream.added with
    | nil => exact List.Pairwise.nil
    | cons first others =>
      rw [hs] at hascends
      by_cases hk : first.start = key
      · simpa [Added.dropAt, hk] using (List.pairwise_cons.1 hascends).2
      · simpa [Added.dropAt, hk] using hascends

theorem Ordered.exclude (ho : stream.Ordered) (key : TimelineKey) :
    (stream.exclude key).2.Ordered := by
  rw [exclude_eq]
  refine ⟨ho.generated, ho.added, List.forall_mem_map.2 fun ahead ha => ?_⟩
  exact Instances.ascends_seek (ho.exclusionRules ahead ha) key

theorem exclude_fst (ho : stream.Ordered) (key : TimelineKey) :
    (stream.exclude key).1 = true ↔ stream.Excludes key := by
  rw [exclude_eq, List.any_eq_true]
  constructor
  · rintro ⟨ahead, ha, hat⟩
    exact ⟨ahead, ha, (Instances.isAt_head_seek (ho.exclusionRules ahead ha) key).1 hat⟩
  · rintro ⟨ahead, ha, hf⟩
    exact ⟨ahead, ha, (Instances.isAt_head_seek (ho.exclusionRules ahead ha) key).2 hf⟩

theorem excludes_exclude (ho : stream.Ordered) {later : TimelineKey} (hle : key ≤ later) :
    (stream.exclude key).2.Excludes later ↔ stream.Excludes later := by
  rw [exclude_eq]
  unfold Excludes
  simp only [List.mem_map, exists_exists_and_eq_and]
  refine exists_congr fun ahead => and_congr_right fun ha => ?_
  rw [Instances.all_seek (ho.exclusionRules ahead ha)]
  constructor
  · rintro ⟨found, hf, rfl⟩
    exact ⟨found, (List.mem_filter.1 hf).1, rfl⟩
  · rintro ⟨found, hf, rfl⟩
    exact ⟨found, List.mem_filter.2 ⟨hf, decide_eq_true hle⟩, rfl⟩

theorem offers_eq_nil (ho : stream.Ordered) (hr : ∀ ahead ∈ stream.generated, ahead.IsReady)
    (hnone : stream.candidates = []) : stream.offers = [] := by
  apply List.eq_nil_iff_forall_not_mem.2
  intro candidate hmem
  have hat := @offers_at stream candidate.key ho hr (by simp [hnone])
  rw [hnone, List.filter_nil, List.filter_eq_nil_iff] at hat
  exact hat candidate hmem (decide_eq_true rfl)

end Steps

end Recurrence.Occurrences

import Mathlib
import Recurrence.Proofs.Occurrence.Visit

/-! A stream with its rules settled. In place of each rule stand its instances, each of them
a source of its own as the start is. Such a stream has the same occurrences, since the
candidates that a stream visits are told by the instances still to come. -/
namespace Recurrence

namespace Instances

/-- Instances, each a source of its own. -/
def singles (found : List Instance) : List Instances := found.map .single

@[simp] theorem flatMap_all_singles (found : List Instance) :
    (singles found).flatMap all = found := by
  simp [singles, List.flatMap_map, all]

end Instances

namespace Occurrences

/-- The stream with instances in place of its rules, and with no failure waiting. -/
def settled (stream : Occurrences) : Occurrences :=
  { stream with
    generated := Instances.singles (stream.generated.flatMap Instances.all)
    exclusionRules := Instances.singles (stream.exclusionRules.flatMap Instances.all)
    deferred := [] }

section Settled

variable (stream : Occurrences)

theorem offers_settled : stream.settled.offers = stream.offers := by
  unfold offers settled
  rw [Instances.flatMap_all_singles]

theorem excludes_settled (key : TimelineKey) :
    stream.settled.Excludes key ↔ stream.Excludes key := by
  have hmem (one : Occurrences) : one.Excludes key ↔
      ∃ found ∈ one.exclusionRules.flatMap Instances.all, found.key = key := by
    simp only [Excludes, List.mem_flatMap]
    tauto
  rw [hmem, hmem, settled, Instances.flatMap_all_singles]

theorem outcome_settled : stream.settled.outcome = stream.outcome := rfl

theorem visits_settled (candidate : Candidate) :
    stream.settled.Visits candidate ↔ stream.Visits candidate := by
  rw [visits_iff, visits_iff, offers_settled, excludes_settled]
  rfl

theorem isFree_settled : stream.settled.IsFree :=
  ⟨rfl, List.forall_mem_map.2 fun _ _ => rfl, List.forall_mem_map.2 fun _ _ => rfl⟩

theorem ordered_settled (ho : stream.Ordered) : stream.settled.Ordered := by
  refine ⟨List.forall_mem_map.2 ?_, ho.added, List.forall_mem_map.2 ?_⟩
  · exact fun found _ => Instances.ascends_single found
  · exact fun found _ => Instances.ascends_single found

theorem settled_of_fillAll {stream : Occurrences} {error : Option Failure}
    {generated : List Instances} (hf : Lookahead.fillAll stream.generated = (error, generated)) :
    { stream with generated }.settled = stream.settled := by
  unfold settled
  rw [Instances.flatMap_all_of_fillAll hf]

end Settled

theorem Ordered.exists_settled {stream : Occurrences} (ho : stream.Ordered) :
    ∃ visited : List Candidate, visited.Pairwise (·.key < ·.key) ∧
      (∀ candidate, candidate ∈ visited ↔ stream.Visits candidate) ∧
      stream.settled.toList = visited.filterMap stream.outcome := by
  obtain ⟨visited, hascend, hmem, -, hitems⟩ :=
    (sweeps_toList stream.settled).exists_visited (ordered_settled stream ho)
  refine ⟨visited, hascend, fun candidate => ?_, ?_⟩
  · rw [hmem, visits_settled]
  · rw [hitems (isFree_settled stream), outcome_settled]

/-- Failures of rules take no occurrence away, and bring none. -/
theorem successes_settled {stream : Occurrences} (ho : stream.Ordered) :
    successes stream.settled.toList = successes stream.toList := by
  obtain ⟨visited, hascend, hmem, hitems⟩ := ho.exists_settled
  obtain ⟨visited', hascend', hmem', hsame, -⟩ := (sweeps_toList stream).exists_visited ho
  have heq : visited = visited' :=
    hascend.eq_of_mem_iff hascend' fun candidate => (hmem candidate).trans (hmem' candidate).symm
  rw [hitems, hsame, heq]

/-- Where the stream visits its earliest candidate, the settled one gives the same. -/
theorem Meets.settled_toList {stream behind : Occurrences} {first : Candidate}
    (ho : stream.Ordered) (hm : stream.Meets first behind)
    (he : stream.endsBefore first.key = false) : stream.settled.toList =
      (visit behind first).1.toList ++ (visit behind first).2.settled.toList := by
  obtain ⟨visited, hascend, hmem, hitems⟩ := ho.exists_settled
  obtain ⟨later, hascend', hmem', hitems'⟩ := (hm.ordered.visit first).exists_settled
  rw [outcome_visit, hm.outcome] at hitems'
  obtain ⟨all, hall, hvisits, hout⟩ := hm.exists_visited he hascend' hmem'
  have heq : visited = all :=
    hascend.eq_of_mem_iff hall fun candidate => (hmem candidate).trans (hvisits candidate).symm
  rw [hitems, hitems', heq, hout]

end Occurrences
end Recurrence

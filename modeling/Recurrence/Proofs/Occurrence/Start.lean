import Mathlib
import Recurrence.Occurrence.Expansion
import Recurrence.Proofs.Occurrence.Offer
import Recurrence.Proofs.Sorted

/-! The stream of a set before its first item. Its single occurrences ascend, and
of those declared at one place the first is kept. -/
namespace Recurrence

namespace RecurrenceSet

theorem sublist_firstAtEach (added : List Added) : (firstAtEach added).Sublist added := by
  fun_induction firstAtEach added with
  | case1 first second rest _ ih =>
    exact ih.trans ((List.sublist_cons_self second rest).cons_cons first)
  | case2 first second rest _ ih => exact ih.cons_cons first
  | case3 added => exact List.Sublist.refl added

theorem pairwise_firstAtEach {added : List Added} (h : added.Pairwise (·.start ≤ ·.start)) :
    (firstAtEach added).Pairwise (·.start < ·.start) := by
  fun_induction firstAtEach added with
  | case1 first second rest _ ih =>
    exact ih (h.sublist ((List.sublist_cons_self second rest).cons_cons first))
  | case2 first second rest hne ih =>
    obtain ⟨hfirst, hrest⟩ := List.pairwise_cons.1 h
    refine List.pairwise_cons.2 ⟨fun later hl => ?_, ih hrest⟩
    have hsecond : first.start < second.start :=
      lt_of_le_of_ne (hfirst second List.mem_cons_self) (Ne.symm hne)
    rcases List.mem_cons.1 ((sublist_firstAtEach _).subset hl) with rfl | hl
    · exact hsecond
    · exact hsecond.trans_le ((List.pairwise_cons.1 hrest).1 later hl)
  | case3 added hshort =>
    match added, hshort with
    | [], _ => exact List.Pairwise.nil
    | [one], _ => exact List.pairwise_singleton _ one
    | first :: second :: rest, hshort => exact absurd rfl (hshort first second rest)

theorem find?_firstAtEach (key : TimelineKey) (added : List Added) :
    (firstAtEach added).find? (·.start = key) = added.find? (·.start = key) := by
  fun_induction firstAtEach added with
  | case1 first second rest heq ih =>
    rw [ih, List.find?_cons, List.find?_cons, List.find?_cons, heq]
    cases decide (first.start = key) <;> rfl
  | case2 first second rest _ ih =>
    rw [List.find?_cons, List.find?_cons, ih]
  | case3 => rfl

/-- The single occurrences of a stream: in order, at each place the one that is
declared first. -/
theorem find?_added (key : TimelineKey) (added : List Added) :
    (firstAtEach (added.mergeSort fun a b => a.start ≤ b.start)).find? (·.start = key) =
      added.find? (·.start = key) := by
  rw [find?_firstAtEach, ← List.head?_filter, filter_mergeSort_key Added.start key added,
    List.head?_filter]

theorem pairwise_added (added : List Added) :
    (firstAtEach (added.mergeSort fun a b => a.start ≤ b.start)).Pairwise (·.start < ·.start) := by
  apply pairwise_firstAtEach
  exact pairwise_mergeSort_key Added.start added

/-- A stream of a set before its first item. -/
structure Opens (clocks : Clocks) (set : RecurrenceSet) (window : Window) (stream : Occurrences) :
    Prop where
  set_eq : stream.set = set
  clock_eq : set.start.clock? clocks = .ok stream.clock
  startKey_eq : set.start.keyBy stream.clock = .ok stream.startKey
  window_eq : stream.window = window
  generated : ∃ runs : List Run, set.rules.map (set.runIn clocks window) = runs.map .ok ∧
    stream.generated = .single ⟨set.start, stream.startKey⟩ :: runs.map .ofSource
  exclusionRules : ∃ runs : List Run,
    set.exclusionRules.map (set.runIn clocks window) = runs.map .ok ∧
      stream.exclusionRules = runs.map .ofSource
  added : ∃ placed : List Added, set.added.map (set.place clocks) = placed.map .ok ∧
    stream.added = firstAtEach (placed.mergeSort fun a b => a.start ≤ b.start)
  excluded : set.excluded.map (fun value => orZone (value.key clocks)) = stream.excluded.map .ok
  replaced_eq : stream.replaced = []
  cutoff_eq : stream.cutoff = none
  deferred_eq : stream.deferred = []

theorem opens {clocks : Clocks} {set : RecurrenceSet} {window : Window} {ordinal : Nat}
    {stream : Occurrences} (h : set.occurrencesAt clocks window ordinal = .ok stream) :
    set.Opens clocks window stream ∧ stream.ordinal = ordinal := by
  unfold occurrencesAt at h
  simp only [bind_eq_ok_iff, pure_eq_ok_iff, orZone_eq_ok_iff, mapM_eq_ok_iff] at h
  obtain ⟨clock, hclock, startKey, hkey, rules, hrules, exclusionRules, hexclusion, placed, hplaced,
    excluded, hexcluded, rfl⟩ := h
  exact ⟨⟨rfl, hclock, hkey, rfl, ⟨rules, hrules, rfl⟩, ⟨exclusionRules, hexclusion, rfl⟩,
    ⟨placed, hplaced, rfl⟩, hexcluded, rfl, rfl, rfl⟩, rfl⟩

theorem Opens.ordered {clocks : Clocks} {set : RecurrenceSet} {window : Window}
    {stream : Occurrences} (h : set.Opens clocks window stream) : stream.Ordered := by
  obtain ⟨runs, -, hgenerated⟩ := h.generated
  obtain ⟨exclusions, -, hexclusion⟩ := h.exclusionRules
  obtain ⟨placed, -, hadded⟩ := h.added
  refine ⟨?_, hadded ▸ pairwise_added placed, ?_⟩
  · rw [hgenerated]
    refine List.forall_mem_cons.2 ⟨Instances.ascends_single _, List.forall_mem_map.2 ?_⟩
    exact fun run _ => Instances.ascends_ofSource run
  · rw [hexclusion]
    exact List.forall_mem_map.2 fun run _ => Instances.ascends_ofSource run

end RecurrenceSet
end Recurrence

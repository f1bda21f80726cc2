import Mathlib

/-! Sorted lists. Sorting by a key keeps the order of values that share one, and the
last value of an ascending list is its greatest. -/
namespace Recurrence

section Key

variable {α κ : Type} [LinearOrder κ] (key : α → κ)

theorem key_le_trans (a b c : α) (hab : decide (key a ≤ key b) = true)
    (hbc : decide (key b ≤ key c) = true) : decide (key a ≤ key c) = true :=
  decide_eq_true ((of_decide_eq_true hab).trans (of_decide_eq_true hbc))

theorem key_le_total (a b : α) : (decide (key a ≤ key b) || decide (key b ≤ key a)) = true := by
  simpa using le_total (key a) (key b)

theorem pairwise_mergeSort_key (values : List α) :
    (values.mergeSort fun a b => key a ≤ key b).Pairwise fun a b => key a ≤ key b :=
  (List.pairwise_mergeSort (key_le_trans key) (key_le_total key) values).imp of_decide_eq_true

theorem filter_mergeSort_key (place : κ) (values : List α) :
    (values.mergeSort fun a b => key a ≤ key b).filter (key · = place) =
      values.filter (key · = place) := by
  have hat : (values.filter (key · = place)).Pairwise fun a b => decide (key a ≤ key b) = true := by
    apply List.pairwise_of_forall_mem_list
    intro a ha b hb
    have ha : key a = place := by simpa using (List.mem_filter.1 ha).2
    have hb : key b = place := by simpa using (List.mem_filter.1 hb).2
    simp [ha, hb]
  have hsub := List.sublist_mergeSort (key_le_trans key) (key_le_total key) hat List.filter_sublist
  have hfilter := hsub.filter (key · = place)
  rw [List.filter_filter] at hfilter
  simp only [Bool.and_self] at hfilter
  exact (hfilter.eq_of_length ((List.mergeSort_perm values _).symm.filter _).length_eq).symm

variable {values : List α} {last : α}

theorem key_le_of_getLast? (h : values.Pairwise fun a b => key a ≤ key b)
    (hlast : values.getLast? = some last) {value : α} (hmem : value ∈ values) :
    key value ≤ key last := by
  obtain ⟨before, rfl⟩ := List.getLast?_eq_some_iff.1 hlast
  rcases List.mem_append.1 hmem with hmem | hmem
  · exact (List.pairwise_append.1 h).2.2 value hmem last (by simp)
  · rw [List.mem_singleton.1 hmem]

omit [LinearOrder κ] in
/-- The last value is also the last of those that share its key. -/
theorem getLast?_filter_key [DecidableEq κ] (hlast : values.getLast? = some last) :
    (values.filter (key · = key last)).getLast? = some last := by
  obtain ⟨before, rfl⟩ := List.getLast?_eq_some_iff.1 hlast
  simp

end Key

theorem isGreatest_of_getLast? {values : List Int} (h : values.Pairwise (· < ·)) {last : Int}
    (hlast : values.getLast? = some last) : IsGreatest {value | value ∈ values} last := by
  exact ⟨List.mem_of_getLast? hlast,
    fun value hmem => key_le_of_getLast? id (h.imp le_of_lt) hlast hmem⟩

end Recurrence

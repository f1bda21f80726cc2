import Mathlib
import Recurrence.Rule.Plan

/-! Which readings positions select. A position counts from 1 at the front of an
ascending list, or from -1 at its back, so a reading is selected by the number
of readings before it or after it. -/
namespace Recurrence.Plan

/-- Whether positions pick a reading out of some readings. No positions pick all
of them. -/
def Selected (positions : List Int) (readings : Set Int) (wall : Int) : Prop :=
  wall ∈ readings ∧ (positions = [] ∨
    ((readings ∩ Set.Iio wall).ncard + 1 : Int) ∈ positions ∨
    -((readings ∩ Set.Ioi wall).ncard + 1 : Int) ∈ positions)

theorem selected_nil {readings : Set Int} {wall : Int} :
    Selected [] readings wall ↔ wall ∈ readings := by
  simp [Selected]

@[simp] theorem select_nil (positions : List Int) : select positions [] = [] := by
  unfold select
  split <;> rfl

theorem select_sublist (positions walls : List Int) :
    (select positions walls).Sublist walls := by
  unfold select
  split
  · exact List.Sublist.refl _
  · refine (List.filter_sublist.map Prod.fst).trans ?_
    rw [List.zipIdx_map_fst]

theorem mem_select_iff_getElem? {positions walls : List Int} (hp : positions ≠ []) {wall : Int} :
    wall ∈ select positions walls ↔ ∃ i : Nat, walls[i]? = some wall ∧
      ((i + 1 : Int) ∈ positions ∨ (i - walls.length : Int) ∈ positions) := by
  unfold select
  rw [if_neg (by simpa using hp)]
  simp only [List.mem_map, List.mem_filter, Prod.exists, List.mem_zipIdx_iff_getElem?,
    Bool.or_eq_true, List.contains_iff_mem]
  constructor
  · rintro ⟨_, i, ⟨hi, hpos⟩, rfl⟩
    exact ⟨i, hi, hpos⟩
  · rintro ⟨i, hi, hpos⟩
    exact ⟨wall, i, ⟨hi, hpos⟩, rfl⟩

theorem ncard_of_nodup {walls : List Int} (h : walls.Nodup) :
    {v | v ∈ walls}.ncard = walls.length := by
  have hset : {v | v ∈ walls} = (walls.toFinset : Set Int) := by
    ext v
    simp
  rw [hset, Set.ncard_coe_finset, List.toFinset_card_of_nodup h]

/-- In an ascending list the place of a reading says how many are before it and
how many after. -/
theorem ncard_around {walls : List Int} (h : walls.Pairwise (· < ·)) {i : Nat} {wall : Int}
    (hi : walls[i]? = some wall) :
    ({v | v ∈ walls} ∩ Set.Iio wall).ncard = i ∧
      ({v | v ∈ walls} ∩ Set.Ioi wall).ncard + i + 1 = walls.length := by
  obtain ⟨hlt, hwall⟩ := List.getElem?_eq_some_iff.1 hi
  have hsplit : walls = walls.take i ++ wall :: walls.drop (i + 1) := by
    rw [← hwall, List.getElem_cons_drop, List.take_append_drop]
  have hmem : ∀ v, v ∈ walls ↔ v ∈ walls.take i ∨ v = wall ∨ v ∈ walls.drop (i + 1) := by
    intro v
    rw [← List.mem_cons, ← List.mem_append, ← hsplit]
  rw [hsplit, List.pairwise_append, List.pairwise_cons] at h
  obtain ⟨hfront, ⟨hafter, hback⟩, hbefore⟩ := h
  -- In an ascending list the values below stand in front, and those above behind.
  have hlow : {v | v ∈ walls} ∩ Set.Iio wall = {v | v ∈ walls.take i} := by
    ext v
    simp only [Set.mem_inter_iff, Set.mem_ofPred_eq, Set.mem_Iio, hmem]
    constructor
    · rintro ⟨hv | rfl | hv, hvlt⟩
      · exact hv
      · omega
      · have := hafter v hv
        omega
    · intro hv
      exact ⟨.inl hv, hbefore v hv wall List.mem_cons_self⟩
  have hhigh : {v | v ∈ walls} ∩ Set.Ioi wall = {v | v ∈ walls.drop (i + 1)} := by
    ext v
    simp only [Set.mem_inter_iff, Set.mem_ofPred_eq, Set.mem_Ioi, hmem]
    constructor
    · rintro ⟨hv | rfl | hv, hvlt⟩
      · have := hbefore v hv wall List.mem_cons_self
        omega
      · omega
      · exact hv
    · intro hv
      exact ⟨.inr (.inr hv), hafter v hv⟩
  rw [hlow, hhigh, ncard_of_nodup (hfront.imp ne_of_lt), ncard_of_nodup (hback.imp ne_of_lt)]
  simp only [List.length_take, List.length_drop]
  omega

/-- The readings selected from an ascending list are those that positions pick
out of its readings. -/
theorem mem_select {positions walls : List Int} (h : walls.Pairwise (· < ·)) {wall : Int} :
    wall ∈ select positions walls ↔ Selected positions {v | v ∈ walls} wall := by
  by_cases hp : positions = []
  · subst hp
    simp [selected_nil, select]
  · rw [mem_select_iff_getElem? hp]
    unfold Selected
    constructor
    · rintro ⟨i, hi, hpos⟩
      -- Counted from either end, a place says how many readings stand before or behind.
      obtain ⟨hbefore, hafter⟩ := ncard_around h hi
      refine ⟨List.mem_of_getElem? hi, .inr ?_⟩
      rw [hbefore]
      have hback : -((({v | v ∈ walls} ∩ Set.Ioi wall).ncard : Int) + 1) = i - walls.length := by
        omega
      rwa [hback]
    · rintro ⟨hmem, hnone | hpos⟩
      · exact absurd hnone hp
      · obtain ⟨i, hi⟩ := List.mem_iff_getElem?.1 hmem
        obtain ⟨hbefore, hafter⟩ := ncard_around h hi
        refine ⟨i, hi, ?_⟩
        have hback : (i : Int) - walls.length =
            -((({v | v ∈ walls} ∩ Set.Ioi wall).ncard : Int) + 1) := by
          omega
        rwa [hbefore, ← hback] at hpos

end Recurrence.Plan

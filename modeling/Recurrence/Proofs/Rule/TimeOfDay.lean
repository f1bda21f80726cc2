import Mathlib
import Recurrence.Proofs.Rule.Unit

/-! The times of day that lists of hours, minutes and seconds make. A grid of
ascending lists is itself ascending, and a reading has its time in the grid
exactly when each of its fields is in the list for it. -/
namespace Recurrence
open Calendar

namespace Calendar

theorem secondOfDay_lt (wall : Int) : secondOfDay wall < 86400 := by
  unfold secondOfDay
  omega

theorem hourOf_le (wall : Int) : hourOf wall ≤ 23 := by
  have := secondOfDay_lt wall
  unfold hourOf
  omega

theorem minuteOf_le (wall : Int) : minuteOf wall ≤ 59 := by
  unfold minuteOf
  omega

theorem secondOf_le (wall : Int) : secondOf wall ≤ 59 := by
  unfold secondOf
  omega

theorem timeOfDay_fields (wall : Int) :
    timeOfDay (hourOf wall) (minuteOf wall) (secondOf wall) = secondOfDay wall := by
  unfold timeOfDay hourOf minuteOf secondOf
  omega

theorem timeOfDay_eq_iff {h m s : Nat} (hm : m ≤ 59) (hs : s ≤ 59) (wall : Int) :
    secondOfDay wall = timeOfDay h m s ↔
      hourOf wall = h ∧ minuteOf wall = m ∧ secondOf wall = s := by
  unfold timeOfDay hourOf minuteOf secondOf
  omega

theorem eq_midnight_add_iff {day wall : Int} {time : Nat} (ht : time < 86400) :
    wall = midnight day + time ↔ dayOf wall = day ∧ secondOfDay wall = time := by
  unfold midnight dayOf secondOfDay
  omega

end Calendar

namespace Plan

/-- Induction as repetitions go: what comes again of the first value is gone from the others. -/
theorem eraseDups_induction [DecidableEq α] {motive : List α → Prop} (nil : motive [])
    (cons : ∀ value others, motive (others.filter fun other => !other == value) →
      motive (value :: others))
    (values : List α) : motive values := by
  induction h : values.length using Nat.strong_induction_on generalizing values with
  | _ n ih =>
    cases values with
    | nil => exact nil
    | cons value others =>
      have hshort := List.length_filter_le (fun other => !other == value) others
      rw [List.length_cons] at h
      exact cons value others (ih _ (by omega) _ rfl)

theorem nodup_eraseDups [DecidableEq α] (values : List α) : values.eraseDups.Nodup := by
  induction values using eraseDups_induction with
  | nil => exact .nil
  | cons value others ih =>
    rw [List.eraseDups_cons, List.nodup_cons]
    exact ⟨by simp, ih⟩

@[simp] theorem mem_ascending {value : Nat} {values : List Nat} :
    value ∈ ascending values ↔ value ∈ values := by
  simp [ascending]

theorem ascending_pairwise (values : List Nat) : (ascending values).Pairwise (· < ·) := by
  have hle : (ascending values).Pairwise (· ≤ ·) := by
    have h := @List.pairwise_mergeSort _ (fun a b : Nat => decide (a ≤ b))
      (by simpa using fun a b c => Nat.le_trans) (by simpa using Nat.le_total) values.eraseDups
    simpa [ascending] using h
  have hne : (ascending values).Pairwise (· ≠ ·) :=
    (List.mergeSort_perm _ _).nodup_iff.2 (nodup_eraseDups values)
  exact hle.imp₂ (fun _ _ hab hn => lt_of_le_of_ne hab hn) hne

theorem ascending_eq_nil_iff {values : List Nat} : ascending values = [] ↔ values = [] := by
  constructor
  · intro h
    apply List.eq_nil_iff_forall_not_mem.2
    intro value hv
    have := mem_ascending.2 hv
    rw [h] at this
    exact List.not_mem_nil this
  · rintro rfl
    simp [ascending]

theorem orElse_pairwise {values : List Nat} (h : values.Pairwise (· < ·)) (value : Nat) :
    (orElse values value).Pairwise (· < ·) := by
  unfold orElse
  split
  · exact List.pairwise_singleton _ _
  · exact h

theorem mem_orElse {values : List Nat} {value own : Nat} :
    value ∈ orElse values own ↔ values = [] ∧ value = own ∨ value ∈ values := by
  unfold orElse
  cases values <;> simp

theorem mem_timeGrid {hours minutes seconds : List Nat} {time : Nat} :
    time ∈ timeGrid hours minutes seconds ↔
      ∃ h ∈ hours, ∃ m ∈ minutes, ∃ s ∈ seconds, time = timeOfDay h m s := by
  simp only [timeGrid, List.mem_flatMap, List.mem_map]
  grind

/-- The fields that a clock shows. -/
structure Fields (hours minutes seconds : List Nat) : Prop where
  hours : ∀ h ∈ hours, h ≤ 23
  minutes : ∀ m ∈ minutes, m ≤ 59
  seconds : ∀ s ∈ seconds, s ≤ 59

theorem Fields.time_lt {hours minutes seconds : List Nat} (hf : Fields hours minutes seconds) :
    ∀ time ∈ timeGrid hours minutes seconds, time < 86400 := by
  intro time ht
  obtain ⟨h, hh, m, hm, s, hs, rfl⟩ := mem_timeGrid.1 ht
  have := hf.hours h hh
  have := hf.minutes m hm
  have := hf.seconds s hs
  unfold timeOfDay
  omega

theorem Fields.secondOfDay_mem_iff {hours minutes seconds : List Nat}
    (hf : Fields hours minutes seconds) (wall : Int) :
    secondOfDay wall ∈ timeGrid hours minutes seconds ↔
      hourOf wall ∈ hours ∧ minuteOf wall ∈ minutes ∧ secondOf wall ∈ seconds := by
  rw [mem_timeGrid]
  constructor
  · rintro ⟨h, hh, m, hm, s, hs, he⟩
    obtain ⟨rfl, rfl, rfl⟩ :=
      (timeOfDay_eq_iff (hf.minutes m hm) (hf.seconds s hs) wall).1 he
    exact ⟨hh, hm, hs⟩
  · rintro ⟨hh, hm, hs⟩
    exact ⟨_, hh, _, hm, _, hs, (timeOfDay_fields wall).symm⟩

theorem Fields.timeGrid_pairwise {hours minutes seconds : List Nat}
    (hf : Fields hours minutes seconds) (hh : hours.Pairwise (· < ·))
    (hm : minutes.Pairwise (· < ·)) (hs : seconds.Pairwise (· < ·)) :
    (timeGrid hours minutes seconds).Pairwise (· < ·) := by
  unfold timeGrid
  refine List.pairwise_flatMap.2 ⟨fun h _ => ?_, hh.imp fun {h h'} hlt => ?_⟩
  · refine List.pairwise_flatMap.2 ⟨fun m _ => ?_, hm.imp fun {m m'} hlt => ?_⟩
    · refine List.pairwise_map.2 (hs.imp fun {s s'} hlt => ?_)
      unfold timeOfDay
      omega
    -- An earlier minute cannot be made up for by its seconds, nor an earlier hour by its minutes.
    · intro a ha b hb
      obtain ⟨s, hs, rfl⟩ := List.mem_map.1 ha
      obtain ⟨s', hs', rfl⟩ := List.mem_map.1 hb
      have := hf.seconds s hs
      unfold timeOfDay
      omega
  · intro a ha b hb
    obtain ⟨m, hm, ha⟩ := List.mem_flatMap.1 ha
    obtain ⟨m', hm', hb⟩ := List.mem_flatMap.1 hb
    obtain ⟨s, hs, rfl⟩ := List.mem_map.1 ha
    obtain ⟨s', hs', rfl⟩ := List.mem_map.1 hb
    have := hf.minutes m hm
    have := hf.seconds s hs
    unfold timeOfDay
    omega

end Plan
end Recurrence

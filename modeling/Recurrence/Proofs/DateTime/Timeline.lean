import Mathlib
import Recurrence.DateTime.Timeline

/-! The order of places on the timeline. It is total: places of one rank are the
same, and the rank grows with the instant. -/
namespace Recurrence.TimelineKey

theorem le_iff_rank {a b : TimelineKey} : a ≤ b ↔ a.rank ≤ b.rank := Iff.rfl

theorem lt_iff_rank {a b : TimelineKey} : a < b ↔ a.rank < b.rank := Iff.rfl

instance (priority := low) : LinearOrder TimelineKey where
  le_refl a := le_refl a.rank
  le_trans _ _ _ hab hbc := Int.le_trans (le_iff_rank.1 hab) (le_iff_rank.1 hbc)
  lt_iff_le_not_ge a b := by
    rw [le_iff_rank, le_iff_rank, lt_iff_rank]
    omega
  le_antisymm _ _ hab hba := rank_inj.1 (Int.le_antisymm hab hba)
  le_total a b := Int.le_total a.rank b.rank
  toDecidableLE := inferInstance
  toDecidableLT := inferInstance
  toDecidableEq := inferInstance

theorem instant_le_of_le {a b : TimelineKey} (h : a ≤ b) : a.instant ≤ b.instant := by
  rw [le_iff_rank] at h
  unfold rank at h
  split at h <;> split at h <;> omega

theorem all_least? (key : TimelineKey) (keys : List TimelineKey) :
    (least? keys).all (key < ·) = keys.all (key < ·) := by
  induction keys with
  | nil => rfl
  | cons first others ih =>
    rw [List.all_cons, ← ih, least?]
    cases ho : least? others with
    | none => simp
    | some least =>
      by_cases hle : first ≤ least
      · have hlt : key < first → key < least := fun h => h.trans_le hle
        simpa [hle] using hlt
      · have hlt : key < least → key < first := fun h => h.trans (not_le.1 hle)
        simpa [hle] using hlt

end Recurrence.TimelineKey

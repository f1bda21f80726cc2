import Mathlib
import Recurrence.Proofs.Rule.Judge

/-! The order of a run. Its instances ascend from any cursor, and a failure is
its last item. -/
namespace Recurrence

/-- Whether the instances among items ascend. -/
def Run.Ascends (items : List Run.Item) : Prop := (successes items).Pairwise (·.key < ·.key)

namespace Plan

theorem rest_of_next?_error {plan : Plan} {cursor : Cursor} {error : Failure} {rest : Option Cursor}
    (h : plan.next? cursor = some (.error error, rest)) : rest = none := by
  fun_induction plan.next? cursor with
  | case1 _ _ _ _ _ ih => exact ih h
  | case2 => simp at h
  | case3 =>
    simp only [Option.some.injEq, Prod.mk.injEq] at h
    exact h.2.symm
  | case4 => simp at h
  | case5 => simp at h
  | case6 _ _ _ _ _ _ _ _ _ _ _ ih => exact ih h
  | case7 =>
    simp only [Option.some.injEq, Prod.mk.injEq] at h
    exact h.2.symm
  | case8 => simp at h
  | case9 => simp at h
  | case10 _ _ _ _ _ _ ih => exact ih h
  | case11 _ _ _ _ _ _ ih => exact ih h
  | case12 _ _ _ _ _ ih => exact ih h
  | case13 _ _ _ _ _ _ _ ih => exact ih h

theorem latest_of_next? {plan : Plan} {cursor : Cursor} {found : Instance} {rest : Option Cursor}
    (h : plan.next? cursor = some (.ok found, rest)) :
    (∀ key ∈ cursor.latest, key < found.key) ∧ (∀ next ∈ rest, next.latest = some found.key) ∧
      ∃ wall, plan.instanceAt wall = .ok found := by
  fun_induction plan.next? cursor with
  | case1 _ _ _ _ _ ih => exact ih h
  | case2 => simp at h
  | case3 => simp at h
  | case4 cursor wall walls hw one last next hj =>
    obtain ⟨-, hone, -, -, hlater, -⟩ := of_judge_found hj
    simp only [Option.some.injEq, Prod.mk.injEq, Except.ok.injEq] at h
    obtain ⟨rfl, rfl⟩ := h
    refine ⟨hlater, ?_, wall, hone⟩
    rintro _ hnext
    cases last with
    | true => simp at hnext
    | false =>
      simp only [Bool.false_eq_true, if_false, Option.mem_some_iff] at hnext
      exact hnext ▸ rfl
  | case5 => simp at h
  | case6 cursor wall walls hw one shown last hj next _ _ ih =>
    -- A hidden instance lies between the latest one and the next that is shown.
    obtain ⟨-, -, -, -, hlater, -⟩ := of_judge_found hj
    obtain ⟨hbehind, hrest⟩ := ih h
    exact ⟨fun key hkey => (hlater key hkey).trans (hbehind one.key rfl), hrest⟩
  | case7 => simp at h
  | case8 => simp at h
  | case9 => simp at h
  | case10 _ _ _ _ _ _ ih => exact ih h
  | case11 _ _ _ _ _ _ ih => exact ih h
  | case12 _ _ _ _ _ ih => exact ih h
  | case13 _ _ _ _ _ _ _ ih => exact ih h

theorem items_ascend (plan : Plan) (cursor : Cursor) : Run.Ascends (plan.items cursor) ∧
    ∀ found ∈ successes (plan.items cursor), ∀ key ∈ cursor.latest, key < found.key := by
  fun_induction plan.items cursor with
  | case1 => simp [Run.Ascends]
  | case2 cursor item hn =>
    cases item with
    | error error => simp [Run.Ascends]
    | ok found =>
      have hlatest := (latest_of_next? hn).1
      simp only [Run.Ascends, successes_ok_cons, successes_nil]
      exact ⟨List.pairwise_singleton _ _, by simpa using hlatest⟩
  | case3 cursor item rest hn ih =>
    cases item with
    | error error => exact absurd (rest_of_next?_error hn) (Option.some_ne_none rest)
    | ok found =>
      obtain ⟨hbehind, hnext, -⟩ := latest_of_next? hn
      obtain ⟨hrest, hlater⟩ := ih
      have hfound : ∀ later ∈ successes (plan.items rest), found.key < later.key := by
        intro later hmem
        exact hlater later hmem found.key (hnext rest rfl)
      simp only [Run.Ascends, successes_ok_cons, List.pairwise_cons, List.mem_cons,
        forall_eq_or_imp]
      refine ⟨⟨hfound, hrest⟩, hbehind, fun later hmem key hkey => ?_⟩
      exact (hbehind key hkey).trans (hfound later hmem)

theorem exists_wall_of_mem_items {plan : Plan} {cursor : Cursor} {found : Instance}
    (h : .ok found ∈ plan.items cursor) : ∃ wall, plan.instanceAt wall = .ok found := by
  fun_induction plan.items cursor with
  | case1 => cases h
  | case2 cursor item hn =>
    rw [List.mem_singleton] at h
    subst h
    exact (latest_of_next? hn).2.2
  | case3 cursor item rest hn ih =>
    rcases List.mem_cons.1 h with rfl | h
    · exact (latest_of_next? hn).2.2
    · exact ih h

theorem form_of_instanceAt {plan : Plan} {wall : Int} {found : Instance}
    (h : plan.instanceAt wall = .ok found) : found.value.form = plan.anchor.form := by
  unfold instanceAt at h
  split at h
  · next ha =>
    cases h
    rw [ha]
    rfl
  · next ha _ =>
    simp only [bind_eq_ok_iff, pure_eq_ok_iff] at h
    obtain ⟨_, -, rfl⟩ := h
    rw [ha]
    rfl
  · next ha _ =>
    cases h
    rw [ha]
    rfl

/-- The items from a cursor are instances and perhaps a failure behind them. -/
theorem items_eq_append (plan : Plan) (cursor : Cursor) : ∃ failures : List Failure,
    plan.items cursor = (successes (plan.items cursor)).map .ok ++ failures.map .error ∧
      failures.length ≤ 1 := by
  fun_induction plan.items cursor with
  | case1 => exact ⟨[], rfl, Nat.zero_le _⟩
  | case2 cursor item hn =>
    cases item with
    | error error => exact ⟨[error], rfl, le_rfl⟩
    | ok found => exact ⟨[], rfl, Nat.zero_le _⟩
  | case3 cursor item rest hn ih =>
    cases item with
    | error error => exact absurd (rest_of_next?_error hn) (Option.some_ne_none rest)
    | ok found =>
      obtain ⟨failures, heq, hle⟩ := ih
      refine ⟨failures, ?_, hle⟩
      rw [successes_ok_cons, List.map_cons, List.cons_append, ← heq]

end Plan
end Recurrence

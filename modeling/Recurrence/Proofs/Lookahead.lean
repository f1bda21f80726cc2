import Mathlib
import Recurrence.Proofs.Failure
import Recurrence.Source

/-! Lookaheads by what is still to come from them. Getting an item ready takes
nothing away but failures at the front. -/
namespace Recurrence.Lookahead

variable {σ α : Type} [Source σ α]

@[simp] theorem toList_ofSource (source : σ) :
    (ofSource source : Lookahead σ α).toList = Source.toList source := rfl

@[simp] theorem toList_single (item : α) : (single item : Lookahead σ α).toList = [.ok item] := rfl

theorem toList_of_head {ahead : Lookahead σ α} {item : α} (h : ahead.head = some item) :
    ahead.toList = .ok item :: Source.restList ahead.rest := by
  simp [toList, h]

/-- Whether an item is ready, unless none is to come. -/
def IsReady (ahead : Lookahead σ α) : Prop := ahead.head = none → ahead.toList = []

theorem toList_of_fill {ahead next : Lookahead σ α} (h : ahead.fill = (none, next)) :
    next.toList = ahead.toList ∧ next.IsReady := by
  obtain ⟨_ | item, _ | source⟩ := ahead
  · cases h
    exact ⟨rfl, fun _ => rfl⟩
  · simp only [fill] at h
    split at h
    · next hn =>
      cases h
      exact ⟨(Source.toList_eq_nil_iff.2 hn).symm, fun _ => rfl⟩
    · next hn =>
      cases h
      refine ⟨(Source.toList_of_next? hn).symm, ?_⟩
      intro hnone
      cases hnone
    · cases h
  · cases h
    exact ⟨rfl, fun hnone => nomatch hnone⟩
  · cases h
    exact ⟨rfl, fun hnone => nomatch hnone⟩

theorem toList_of_fill_error {ahead next : Lookahead σ α} {error : Failure}
    (h : ahead.fill = (some error, next)) : ahead.toList = .error error :: next.toList := by
  obtain ⟨_ | item, _ | source⟩ := ahead
  · cases h
  · simp only [fill] at h
    split at h
    · cases h
    · cases h
    · next hn =>
      cases h
      exact Source.toList_of_next? hn
  · cases h
  · cases h

theorem toList_of_fillAll {aheads next : List (Lookahead σ α)} (h : fillAll aheads = (none, next)) :
    next.map toList = aheads.map toList ∧ ∀ ahead ∈ next, ahead.IsReady := by
  induction aheads generalizing next with
  | nil =>
    cases h
    exact ⟨rfl, by simp⟩
  | cons ahead others ih =>
    unfold fillAll at h
    split at h
    · cases h
    · next first hf =>
      obtain ⟨hsame, hready⟩ := toList_of_fill hf
      rcases hr : fillAll others with ⟨failed, rest⟩
      rw [hr] at h
      cases h
      obtain ⟨hrest, hall⟩ := ih hr
      refine ⟨?_, List.forall_mem_cons.2 ⟨hready, hall⟩⟩
      rw [List.map_cons, List.map_cons, hsame, hrest]

theorem head?_of_isReady {ahead : Lookahead σ α} (h : ahead.IsReady) (error : Failure) :
    ahead.toList.head? ≠ some (.error error) := by
  cases hh : ahead.head with
  | none => simp [h hh]
  | some item => simp [toList_of_head hh]

/-- A failure comes from the front of the first of the lookaheads that has one there. -/
theorem toList_of_fillAll_error {aheads next : List (Lookahead σ α)} {error : Failure}
    (h : fillAll aheads = (some error, next)) : ∃ before items after,
      aheads.map toList = before ++ (.error error :: items) :: after ∧
        next.map toList = before ++ items :: after ∧
        ∀ items ∈ before, ∀ error, items.head? ≠ some (.error error) := by
  induction aheads generalizing next with
  | nil => cases h
  | cons ahead others ih =>
    unfold fillAll at h
    split at h
    · next hf =>
      cases h
      exact ⟨[], _, _, by rw [List.map_cons, toList_of_fill_error hf]; rfl, rfl, by simp⟩
    · next first hf =>
      rcases hr : fillAll others with ⟨failed, rest⟩
      rw [hr] at h
      cases h
      obtain ⟨hsame, hready⟩ := toList_of_fill hf
      obtain ⟨before, items, after, hbefore, hafter, hfront⟩ := ih hr
      refine ⟨ahead.toList :: before, items, after, ?_, ?_, ?_⟩
      · rw [List.map_cons, hbefore, List.cons_append]
      · rw [List.map_cons, hsame, hafter, List.cons_append]
      · exact List.forall_mem_cons.2 ⟨hsame ▸ head?_of_isReady hready, hfront⟩

end Recurrence.Lookahead

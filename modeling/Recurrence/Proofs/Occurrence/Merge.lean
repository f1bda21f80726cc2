import Mathlib
import Recurrence.Occurrence.Merged
import Recurrence.Proofs.DateTime.Timeline
import Recurrence.Proofs.Failure
import Recurrence.Proofs.Lookahead
import Recurrence.Proofs.Occurrence.Sweep
import Recurrence.Proofs.Occurrence.Sweep
import Recurrence.Proofs.Occurrence.Sweep

/-! Merged streams deal out what their members give, neither more nor less and each item in
its turn, as long as no two members give occurrences of one position. -/
namespace Recurrence

namespace Lookahead

variable {σ α : Type} {ahead : Lookahead σ α} {test : α → Bool}

theorem toList_dropIf [Source σ α] {item : α} (hh : ahead.head = some item)
    (ht : test item = true) : ahead.toList = .ok item :: (ahead.dropIf test).toList := by
  rw [toList_of_head hh]
  simp [dropIf, hh, ht, toList]

theorem dropIf_eq_self (h : ∀ item ∈ ahead.head, test item = false) : ahead.dropIf test = ahead := by
  unfold dropIf
  apply if_neg
  intro hany
  obtain ⟨item, hitem, ht⟩ := (Option.any_eq_true _ _).1 hany
  simp [h item hitem] at ht

end Lookahead

namespace Occurrence

theorem first?_eq_none {occurrences : List Occurrence} (h : first? occurrences = none) :
    occurrences = [] := by
  cases occurrences with
  | nil => rfl
  | cons first others =>
    unfold first? at h
    split at h
    · split at h <;> cases h
    · cases h

theorem precedes_iff {one other : Occurrence} : one.precedes other = true ↔
    one.key < other.key ∨ one.key = other.key ∧ one.ordinal < other.ordinal := by
  simp [precedes]

theorem precedes_iff_rank {one other : Occurrence} : one.precedes other = true ↔
    one.key.rank < other.key.rank ∨
      one.key.rank = other.key.rank ∧ one.ordinal < other.ordinal := by
  rw [precedes_iff, TimelineKey.lt_iff_rank, TimelineKey.rank_inj]

theorem not_precedes_first? {occurrences : List Occurrence} {first : Occurrence}
    (h : first? occurrences = some first) :
    ∀ other ∈ occurrences, ¬ other.precedes first = true := by
  induction occurrences generalizing first with
  | nil => cases h
  | cons head others ih =>
    have hself : ∀ one : Occurrence, ¬ one.precedes one = true := by
      intro one
      rw [precedes_iff_rank]
      omega
    unfold first? at h
    split at h
    · next least hleast =>
      have hall := ih hleast
      split at h
      · next hbefore =>
        cases h
        refine List.forall_mem_cons.2 ⟨?_, hall⟩
        rw [precedes_iff_rank] at hbefore ⊢
        omega
      · next hbehind =>
        cases h
        refine List.forall_mem_cons.2 ⟨hself _, fun other ho hother => ?_⟩
        have := hall other ho
        rw [precedes_iff_rank] at this hbehind hother
        omega
    · next hnone =>
      cases h
      obtain rfl := first?_eq_none hnone
      simpa using hself head

end Occurrence

namespace MergedOccurrences

abbrev Member := Lookahead Occurrences Occurrence

/-- Whether no two lists have occurrences of one position. -/
def Apart (lists : List (List (Except Failure Occurrence))) : Prop :=
  lists.Pairwise fun left right => ∀ one, .ok one ∈ left → ∀ other, .ok other ∈ right →
    one.ordinal ≠ other.ordinal

theorem Apart.tail {before after : List (List (Except Failure Occurrence))}
    {item : Except Failure Occurrence} {items : List (Except Failure Occurrence)}
    (h : Apart (before ++ (item :: items) :: after)) : Apart (before ++ items :: after) := by
  unfold Apart at h ⊢
  rw [List.pairwise_append, List.pairwise_cons] at h ⊢
  obtain ⟨hbefore, ⟨hitems, hafter⟩, hacross⟩ := h
  refine ⟨hbefore, ⟨?_, hafter⟩, ?_⟩
  · intro right hr one hone
    exact hitems right hr one (List.mem_cons_of_mem _ hone)
  · intro left hl right hr one hone other hother
    rcases List.mem_cons.1 hr with rfl | hr
    · exact hacross left hl _ List.mem_cons_self one hone other (List.mem_cons_of_mem _ hother)
    · exact hacross left hl right (List.mem_cons_of_mem _ hr) one hone other hother

theorem dropIf_isFrom_eq_self {member : Member} {ordinal : Nat}
    (h : ∀ one, .ok one ∈ member.toList → one.ordinal ≠ ordinal) :
    member.dropIf (Occurrence.isFrom ordinal) = member := by
  apply Lookahead.dropIf_eq_self
  intro one hone
  have hne := h one (by simp [Lookahead.toList_of_head hone])
  simpa [Occurrence.isFrom] using hne

/-- What one member holds ready is dropped there and nowhere else. -/
theorem Apart.exists_member {members : List Member} (h : Apart (members.map Lookahead.toList))
    {occurrence : Occurrence} (hmem : occurrence ∈ members.filterMap (·.head)) :
    ∃ before items after,
      members.map Lookahead.toList = before ++ (.ok occurrence :: items) :: after ∧
      (members.map (Lookahead.dropIf (Occurrence.isFrom occurrence.ordinal))).map
        Lookahead.toList = before ++ items :: after := by
  induction members with
  | nil => cases hmem
  | cons first others ih =>
    obtain ⟨hfirst, hothers⟩ := List.pairwise_cons.1 h
    by_cases hh : first.head = some occurrence
    · -- The members behind have no occurrence of this position.
      have hsame : others.map (Lookahead.dropIf (Occurrence.isFrom occurrence.ordinal)) =
          others := by
        refine (List.map_congr_left fun ahead ha => ?_).trans (List.map_id _)
        refine dropIf_isFrom_eq_self fun other hother => ?_
        exact (hfirst ahead.toList (List.mem_map_of_mem ha) occurrence
          (by simp [Lookahead.toList_of_head hh]) other hother).symm
      refine ⟨[], (first.dropIf (Occurrence.isFrom occurrence.ordinal)).toList,
        others.map Lookahead.toList, ?_, ?_⟩
      · have hat : Occurrence.isFrom occurrence.ordinal occurrence = true := decide_eq_true rfl
        rw [List.map_cons, Lookahead.toList_dropIf hh hat]
        rfl
      · rw [List.map_cons, hsame]
        rfl
    · have hlater : occurrence ∈ others.filterMap (·.head) := by
        rw [List.filterMap_cons] at hmem
        split at hmem
        · exact hmem
        · next item hi =>
          rcases List.mem_cons.1 hmem with rfl | hmem
          · exact absurd hi hh
          · exact hmem
      obtain ⟨ahead, ha, hhead⟩ := List.mem_filterMap.1 hlater
      have hkeep : first.dropIf (Occurrence.isFrom occurrence.ordinal) = first :=
        dropIf_isFrom_eq_self fun one hone =>
          hfirst ahead.toList (List.mem_map_of_mem ha) one hone occurrence
            (by simp [Lookahead.toList_of_head hhead])
      obtain ⟨before, items, after, hbefore, hafter⟩ := ih hothers hlater
      refine ⟨first.toList :: before, items, after, ?_, ?_⟩
      · rw [List.map_cons, hbefore, List.cons_append]
      · rw [List.map_cons, List.map_cons, hkeep, hafter, List.cons_append]

/-- Whether it is the turn of an item, with some lists before the one that it is in front of
and some behind. A failure waits for failures before it, an occurrence for all failures and for
the occurrences that it does not precede. -/
def IsTurn (before after : List (List Occurrences.Item)) : Occurrences.Item → Prop
  | .error _ => ∀ items ∈ before, ∀ error, items.head? ≠ some (.error error)
  | .ok occurrence => ∀ items ∈ before ++ after, ∀ front ∈ items.head?,
      ∃ other, front = .ok other ∧ occurrence.precedes other = true

theorem Apart.isTurn {members : List Member} {occurrence : Occurrence}
    {before after : List (List Occurrences.Item)} {items : List Occurrences.Item}
    (hsplit : members.map Lookahead.toList = before ++ (.ok occurrence :: items) :: after)
    (h : Apart (members.map Lookahead.toList)) (hready : ∀ ahead ∈ members, ahead.IsReady)
    (hfirst : Occurrence.first? (members.filterMap (·.head)) = some occurrence) :
    IsTurn before after (.ok occurrence) := by
  intro others hothers front hfront
  have hmem : others ∈ members.map Lookahead.toList := by
    rw [hsplit]
    exact List.perm_middle.mem_iff.2 (List.mem_cons_of_mem _ hothers)
  obtain ⟨ahead, ha, rfl⟩ := List.mem_map.1 hmem
  cases hh : ahead.head with
  | none =>
    rw [hready ahead ha hh] at hfront
    cases hfront
  | some other =>
    rw [Lookahead.toList_of_head hh] at hfront
    obtain rfl := Option.some.inj hfront
    refine ⟨other, rfl, ?_⟩
    have hnot := Occurrence.not_precedes_first? hfirst other (List.mem_filterMap.2 ⟨ahead, ha, hh⟩)
    have hother : .ok other ∈ ahead.toList := by simp [Lookahead.toList_of_head hh]
    have hne : occurrence.ordinal ≠ other.ordinal := by
      rw [hsplit] at h
      have happart := (List.perm_middle.pairwise_iff fun hlists one hone other hother =>
        (hlists other hother one hone).symm).1 h
      exact (List.pairwise_cons.1 happart).1 _ hothers _ List.mem_cons_self other hother
    rw [Occurrence.precedes_iff_rank] at hnot ⊢
    omega

/-- An answer of merged streams is the front of one member, and has its turn. -/
theorem of_next? {merged rest : MergedOccurrences} {item : Except Failure Occurrence}
    (happart : Apart (merged.members.map Lookahead.toList))
    (h : merged.next? = some (item, rest)) : ∃ before items after,
      merged.members.map Lookahead.toList = before ++ (item :: items) :: after ∧
        rest.members.map Lookahead.toList = before ++ items :: after ∧
        IsTurn before after item := by
  unfold next? at h
  split at h
  · next error members hf =>
    obtain ⟨before, items, after, hbefore, hafter, hturn⟩ := Lookahead.toList_of_fillAll_error hf
    cases h
    exact ⟨before, items, after, hbefore, hafter, hturn⟩
  · next members hf =>
    obtain ⟨occurrence, hfirst, hrest⟩ := Option.map_eq_some_iff.1 h
    obtain ⟨hsame, hready⟩ := Lookahead.toList_of_fillAll hf
    cases hrest
    rw [← hsame] at happart ⊢
    obtain ⟨before, items, after, hbefore, hafter⟩ :=
      happart.exists_member (Occurrence.mem_of_first? hfirst)
    exact ⟨before, items, after, hbefore, hafter, happart.isTurn hbefore hready hfirst⟩

theorem of_next?_none {merged : MergedOccurrences} (h : merged.next? = none) :
    ∀ items ∈ merged.members.map Lookahead.toList, items = [] := by
  unfold next? at h
  split at h
  · cases h
  · next members hf =>
    obtain ⟨hsame, hready⟩ := Lookahead.toList_of_fillAll hf
    have hnone := List.filterMap_eq_nil_iff.1 (Occurrence.first?_eq_none (Option.map_eq_none_iff.1 h))
    rw [← hsame, List.forall_mem_map]
    intro ahead ha
    exact hready ahead ha (hnone ahead ha)

theorem toList_members_ofStreams (streams : List Occurrences) :
    (ofStreams streams).members.map Lookahead.toList = streams.map Occurrences.toList := by
  unfold ofStreams
  rw [List.map_map]
  rfl

/-- Whether lists, each with a tag, are dealt out item by item, each item in its turn. -/
inductive Deals {τ : Type} : List (τ × List Occurrences.Item) → List (τ × Occurrences.Item) → Prop
  | done {hands : List (τ × List Occurrences.Item)} (h : ∀ hand ∈ hands, hand.2 = []) :
      Deals hands []
  | step {before after : List (τ × List Occurrences.Item)} {tag : τ} {item : Occurrences.Item}
      {items : List Occurrences.Item} {dealt : List (τ × Occurrences.Item)}
      (hturn : IsTurn (before.map (·.2)) (after.map (·.2)) item)
      (rest : Deals (before ++ (tag, items) :: after) dealt) :
      Deals (before ++ (tag, item :: items) :: after) ((tag, item) :: dealt)

section Deals

variable {τ : Type} {hands : List (τ × List Occurrences.Item)}
  {dealt : List (τ × Occurrences.Item)}

/-- Merged streams deal out what their members give. -/
theorem exists_deals {merged : MergedOccurrences}
    (hhands : hands.map (·.2) = merged.members.map Lookahead.toList)
    (h : Apart (merged.members.map Lookahead.toList)) :
    ∃ dealt, Deals hands dealt ∧ dealt.map (·.2) = merged.toList := by
  fun_induction toList merged generalizing hands with
  | case1 merged hn =>
    refine ⟨[], .done fun hand hmem => ?_, rfl⟩
    exact of_next?_none hn _ (hhands ▸ List.mem_map_of_mem hmem)
  | case2 merged item rest hn ih =>
    obtain ⟨before, items, after, hbefore, hafter, hturn⟩ := of_next? h hn
    rw [hbefore] at hhands h
    rw [hafter] at ih
    obtain ⟨front, back, rfl, rfl, hback⟩ := List.map_eq_append_iff.1 hhands
    obtain ⟨⟨tag, _⟩, behind, rfl, rfl, rfl⟩ := List.map_eq_cons_iff.1 hback
    obtain ⟨dealt, hdealt, hall⟩ := ih
      (show (front ++ (tag, items) :: behind).map (·.2) = _ by simp) h.tail
    exact ⟨(tag, item) :: dealt, .step hturn hdealt, by rw [List.map_cons, hall]⟩

theorem Deals.perm (h : Deals hands dealt) : (dealt.map (·.2)).Perm (hands.map (·.2)).flatten := by
  induction h with
  | done hnil => rw [List.flatten_eq_nil_iff.2 (List.forall_mem_map.2 hnil), List.map_nil]
  | @step before after tag item items dealt _ _ ih =>
    simp only [List.map_append, List.map_cons, List.flatten_append, List.flatten_cons] at ih ⊢
    exact (ih.cons item).trans List.perm_middle.symm

end Deals

theorem toList_perm {merged : MergedOccurrences}
    (h : Apart (merged.members.map Lookahead.toList)) :
    merged.toList.Perm (merged.members.map Lookahead.toList).flatten := by
  have hhands : ((merged.members.map Lookahead.toList).map fun items => ((), items)).map (·.2) =
      merged.members.map Lookahead.toList := by
    rw [List.map_map]
    exact List.map_id _
  obtain ⟨dealt, hdealt, hall⟩ := exists_deals hhands h
  rw [← hall, ← hhands]
  exact hdealt.perm

end MergedOccurrences
end Recurrence

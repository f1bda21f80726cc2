import Mathlib
import Recurrence.Proofs.Occurrence.Stable

/-! A deal depends on what there is to deal only. Lists have one deal, and where the positions of
sets change in a way that keeps their order, the deal is the same but for the positions. -/
namespace Recurrence

/-- An occurrence as it is where the positions of sets are others. -/
def Occurrence.relabelled (position : Nat → Nat) (occurrence : Occurrence) : Occurrence :=
  { occurrence with ordinal := position occurrence.ordinal }

namespace Occurrences

/-- A stream as it is where the positions of sets are others. -/
def relabelled (position : Nat → Nat) (stream : Occurrences) : Occurrences :=
  { stream with ordinal := position stream.ordinal }

theorem visit_relabelled (position : Nat → Nat) (behind : Occurrences) (candidate : Candidate) :
    (visit (behind.relabelled position) candidate).1 =
        (visit behind candidate).1.map (Except.map (Occurrence.relabelled position)) ∧
      (visit (behind.relabelled position) candidate).2 =
        (visit behind candidate).2.relabelled position := by
  have hlooked : (behind.relabelled position).exclude candidate.key =
      ((behind.exclude candidate.key).1,
        (behind.exclude candidate.key).2.relabelled position) := rfl
  have hout : ((behind.exclude candidate.key).2.relabelled position).outcome candidate =
      ((behind.exclude candidate.key).2.outcome candidate).map
        (Except.map (Occurrence.relabelled position)) := by
    apply outcome_map
    · intro period id key
      rfl
    all_goals rfl
  have htaken : (behind.relabelled position).isTaken candidate.key = behind.isTaken candidate.key :=
    rfl
  unfold visit
  rw [hlooked, htaken]
  by_cases ht : behind.isTaken candidate.key = true
  · rw [if_pos ht, if_pos ht]
    exact ⟨rfl, rfl⟩
  · rw [if_neg ht, if_neg ht]
    dsimp only
    rw [hout]
    refine ⟨?_, rfl⟩
    cases (behind.exclude candidate.key).1 <;> rfl

theorem Sweeps.relabelled {stream : Occurrences} {items : List Item} (position : Nat → Nat)
    (h : stream.Sweeps items) : (stream.relabelled position).Sweeps
      (items.map (Except.map (Occurrence.relabelled position))) := by
  induction h with
  | deferred hd _ ih => exact .deferred hd ih
  | failed hd hf _ ih => exact .failed hd hf ih
  | done hd hf hc => exact .done hd hf hc
  | ended hd hf hc he => exact .ended hd hf hc he
  | @visited stream generated candidate items hd hf hc he _ ih =>
    obtain ⟨hgiven, hbehind⟩ :=
      visit_relabelled position ({ stream with generated }.dropAt candidate.key) candidate
    rw [List.map_append, ← Option.toList_map, ← hgiven]
    exact .visited hd hf hc he (hbehind ▸ ih)

theorem toList_relabelled (position : Nat → Nat) (stream : Occurrences) :
    (stream.relabelled position).toList =
      stream.toList.map (Except.map (Occurrence.relabelled position)) :=
  ((sweeps_toList stream).relabelled position).eq_toList.symm

end Occurrences

namespace MergedOccurrences

variable {τ : Type} {hands : List (τ × List Occurrences.Item)}
  {dealt : List (τ × Occurrences.Item)}

theorem split_cases {α : Type} {before after before' after' : List α} {one other : α}
    (h : before ++ one :: after = before' ++ other :: after') :
    (before = before' ∧ one = other ∧ after = after') ∨ (one ∈ before' ∧ other ∈ after) ∨
      (other ∈ before ∧ one ∈ after') := by
  rcases List.append_eq_append_iff.1 h with ⟨between, rfl, hback⟩ | ⟨between, rfl, hback⟩
  · cases between with
    | nil =>
      obtain ⟨rfl, rfl⟩ := List.cons.inj hback
      exact .inl ⟨(List.append_nil _).symm, rfl, rfl⟩
    | cons first between =>
      obtain ⟨rfl, rfl⟩ := List.cons.inj hback
      exact .inr (.inl ⟨by simp, by simp⟩)
  · cases between with
    | nil =>
      obtain ⟨rfl, rfl⟩ := List.cons.inj hback
      exact .inl ⟨List.append_nil _, rfl, rfl⟩
    | cons first between =>
      obtain ⟨rfl, rfl⟩ := List.cons.inj hback
      exact .inr (.inr ⟨by simp, by simp⟩)

theorem IsTurn.asymm {before after before' after' : List (List Occurrences.Item)}
    {item item' : Occurrences.Item} {items items' : List Occurrences.Item}
    (h : IsTurn before after item) (h' : IsTurn before' after' item')
    (hbefore : item :: items ∈ before') (hafter : item' :: items' ∈ after) : False := by
  cases item with
  | error error =>
    cases item' with
    | error error' => exact h' _ hbefore error rfl
    | ok occurrence' =>
      obtain ⟨_, hok, -⟩ := h' _ (List.mem_append_left _ hbefore) _ rfl
      cases hok
  | ok occurrence =>
    obtain ⟨occurrence', rfl, hprecedes⟩ := h _ (List.mem_append_right _ hafter) _ rfl
    obtain ⟨_, hok, hprecedes'⟩ := h' _ (List.mem_append_left _ hbefore) _ rfl
    obtain rfl := Except.ok.inj hok
    rw [Occurrence.precedes_iff_rank] at hprecedes hprecedes'
    omega

theorem Deals.unique (h : Deals hands dealt) {other : List (τ × Occurrences.Item)}
    (h' : Deals hands other) : dealt = other := by
  induction h generalizing other with
  | done hnil =>
    cases h' with
    | done => rfl
    | @step _ _ tag item items => cases hnil (tag, item :: items) (by simp)
  | @step before after tag item items dealt hturn rest ih =>
    generalize hhands : before ++ (tag, item :: items) :: after = hands at h'
    cases h' with
    | done hnil => cases hnil (tag, item :: items) (by simp [← hhands])
    | @step before' after' tag' item' items' dealt' hturn' rest' =>
      rcases split_cases hhands with ⟨rfl, heq, rfl⟩ | ⟨hbefore, hafter⟩ | ⟨hbefore, hafter⟩
      · cases heq
        rw [ih rest']
      · exact (hturn.asymm hturn' (List.mem_map_of_mem hbefore) (List.mem_map_of_mem hafter)).elim
      · exact (hturn'.asymm hturn (List.mem_map_of_mem hbefore) (List.mem_map_of_mem hafter)).elim

theorem exists_deals_streams {streams : List Occurrences}
    (h : Apart (streams.map Occurrences.toList)) : ∃ dealt,
      Deals (streams.map fun stream => ((), stream.toList)) dealt ∧
        dealt.map (·.2) = (ofStreams streams).toList := by
  have hlists := toList_members_ofStreams streams
  refine exists_deals ?_ (hlists ▸ h)
  rw [hlists, List.map_map]
  rfl

section Relabelled

variable {position : Nat → Nat} {among : Set Nat} (hposition : StrictMonoOn position among)
include hposition

theorem precedes_relabelled {one other : Occurrence} (hone : one.ordinal ∈ among)
    (hother : other.ordinal ∈ among) (h : one.precedes other = true) :
    (one.relabelled position).precedes (other.relabelled position) = true := by
  rw [Occurrence.precedes_iff] at h ⊢
  exact h.imp id fun ⟨hkey, hordinal⟩ => ⟨hkey, hposition hone hother hordinal⟩

theorem IsTurn.relabelled {before after : List (List Occurrences.Item)} {item : Occurrences.Item}
    (h : IsTurn before after item)
    (hitem : ∀ occurrence, item = .ok occurrence → occurrence.ordinal ∈ among)
    (hothers : ∀ items ∈ before ++ after, ∀ occurrence, .ok occurrence ∈ items →
      occurrence.ordinal ∈ among) :
    IsTurn (before.map (List.map (Except.map (Occurrence.relabelled position))))
      (after.map (List.map (Except.map (Occurrence.relabelled position))))
      (item.map (Occurrence.relabelled position)) := by
  cases item with
  | error error =>
    refine List.forall_mem_map.2 fun items hitems failure hfront => ?_
    rw [List.head?_map, Option.map_eq_some_iff] at hfront
    obtain ⟨front | occurrence, hfront, heq⟩ := hfront
    · exact h items hitems front hfront
    · cases heq
  | ok occurrence =>
    intro items hitems front hfront
    rw [← List.map_append] at hitems
    obtain ⟨others, hmem, rfl⟩ := List.mem_map.1 hitems
    rw [Option.mem_def, List.head?_map, Option.map_eq_some_iff] at hfront
    obtain ⟨front, hfront, rfl⟩ := hfront
    obtain ⟨other, rfl, hprecedes⟩ := h others hmem front hfront
    refine ⟨other.relabelled position, rfl, ?_⟩
    have hother := hothers others hmem other (List.mem_of_head? hfront)
    exact precedes_relabelled hposition (hitem occurrence rfl) hother hprecedes

/-- New positions that keep their order change nothing else about a deal. -/
theorem Deals.relabelled (h : Deals hands dealt)
    (hamong : ∀ hand ∈ hands, ∀ occurrence, .ok occurrence ∈ hand.2 →
      occurrence.ordinal ∈ among) :
    Deals (hands.map (Prod.map id (List.map (Except.map (Occurrence.relabelled position)))))
      (dealt.map (Prod.map id (Except.map (Occurrence.relabelled position)))) := by
  induction h with
  | done hnil =>
    refine .done (List.forall_mem_map.2 fun hand hmem => ?_)
    rw [Prod.map_snd, hnil hand hmem, List.map_nil]
  | @step before after tag item items dealt hturn rest ih =>
    have hitems : ∀ occurrence, .ok occurrence ∈ item :: items → occurrence.ordinal ∈ among :=
      hamong (tag, item :: items) (by simp)
    have hothers : ∀ hand ∈ before ++ after, ∀ occurrence, .ok occurrence ∈ hand.2 →
        occurrence.ordinal ∈ among := by
      intro hand hmem
      exact hamong hand (List.perm_middle.mem_iff.2 (List.mem_cons_of_mem _ hmem))
    -- The rest of a hand keeps to the positions that the whole hand keeps to.
    have hrest := ih fun hand hmem => by
      rcases List.mem_cons.1 (List.perm_middle.mem_iff.1 hmem) with rfl | hmem
      · exact fun occurrence ho => hitems occurrence (List.mem_cons_of_mem _ ho)
      · exact hothers hand hmem
    have hturn' := hturn.relabelled hposition
      (fun occurrence ho => hitems occurrence (ho ▸ List.mem_cons_self))
      (fun items hmem => by
        rw [← List.map_append] at hmem
        obtain ⟨hand, hhand, rfl⟩ := List.mem_map.1 hmem
        exact hothers hand hhand)
    rw [List.map_append, List.map_cons] at hrest ⊢
    refine .step ?_ hrest
    rw [List.map_map, List.map_map] at hturn' ⊢
    exact hturn'

theorem Apart.relabelled {members : List Occurrences}
    (h : Apart (members.map Occurrences.toList))
    (hamong : ∀ stream ∈ members, ∀ occurrence, .ok occurrence ∈ stream.toList →
      occurrence.ordinal ∈ among) :
    Apart ((members.map (Occurrences.relabelled position)).map Occurrences.toList) := by
  unfold Apart at h ⊢
  rw [List.pairwise_map] at h
  rw [List.map_map, List.pairwise_map]
  refine h.imp_of_mem fun {left right} hleft hright hne => ?_
  simp only [Function.comp_apply, Occurrences.toList_relabelled]
  intro one hone other hother
  obtain ⟨_ | one', hone', heq⟩ := List.mem_map.1 hone
  · cases heq
  obtain ⟨_ | other', hother', heq'⟩ := List.mem_map.1 hother
  · cases heq'
  cases heq
  cases heq'
  exact hposition.injOn.ne (hamong left hleft one' hone') (hamong right hright other' hother')
    (hne one' hone' other' hother')

theorem toList_relabelled {members : List Occurrences} (h : Apart (members.map Occurrences.toList))
    (hamong : ∀ stream ∈ members, ∀ occurrence, .ok occurrence ∈ stream.toList →
      occurrence.ordinal ∈ among) :
    (ofStreams (members.map (Occurrences.relabelled position))).toList =
      (ofStreams members).toList.map (Except.map (Occurrence.relabelled position)) := by
  obtain ⟨dealt, hdeals, hall⟩ := exists_deals_streams h
  obtain ⟨dealt', hdeals', hall'⟩ := exists_deals_streams (h.relabelled hposition hamong)
  have hsame := hdeals.relabelled hposition (List.forall_mem_map.2 hamong)
  have hhands : (members.map fun stream => ((), stream.toList)).map
      (Prod.map id (List.map (Except.map (Occurrence.relabelled position)))) =
      (members.map (Occurrences.relabelled position)).map fun stream => ((), stream.toList) := by
    rw [List.map_map, List.map_map]
    refine List.map_congr_left fun stream _ => ?_
    simp only [Function.comp_apply, Prod.map_apply, id, Occurrences.toList_relabelled]
  rw [hhands] at hsame
  rw [← hall, ← hall', hdeals'.unique hsame, List.map_map, List.map_map]
  rfl

end Relabelled

end MergedOccurrences
end Recurrence

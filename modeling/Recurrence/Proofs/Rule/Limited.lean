import Mathlib
import Recurrence.Proofs.Rule.Between
import Recurrence.Proofs.Rule.Order
import Recurrence.Proofs.Zone.Steady

/-! A run between two instants beside the whole run, place by place. Both have
the same instances up to where the whole run has come without a failure, unless
the whole run ends on a date that a zone's clock comes back to. -/
namespace Recurrence
open Calendar

namespace Plan

variable {clocks : Clocks} {pattern : Pattern} {anchor : DateTime} {plan : Plan} {start : Int}

/-- Where a reading before an instant lies past the end, an instance behind it
does not only if a zone's clock has come back to an earlier date. -/
theorem of_passes (hn : plan.IsNear) (hs : ∀ clock ∈ plan.clock, clock.IsSteady)
    (hp : plan.Passes start) {wall : Int} {found : Instance} (hf : plan.instanceAt wall = .ok found)
    (hbound : plan.isPastBound found = false) (hle : start ≤ found.key.instant) :
    ∃ last, plan.bound = some (.day last) ∧
      ∃ clock, plan.clock = some clock ∧ ¬ clock.KeepsDates := by
  obtain ⟨wall', found', -, hearly, hf', hpast⟩ := hp
  have hnear := hn wall' found' hf'
  unfold isPastBound at hbound hpast
  cases hb : plan.bound with
  | none => simp [hb] at hpast
  | some bound =>
    cases bound with
    | instant last =>
      simp only [hb, decide_eq_true_eq, decide_eq_false_iff_not] at hbound hpast
      omega
    | day last =>
      simp only [hb, decide_eq_true_eq, decide_eq_false_iff_not] at hbound hpast
      unfold instanceAt at hf hf'
      split at hf
      · next ha =>
        rw [ha] at hf'
        cases hf
        cases hf'
        simp only [DateTime.day, midnight, dayOf] at hbound hpast hle
        omega
      · next clock ha hc =>
        rw [ha, hc] at hf'
        obtain ⟨instant, hi, rfl⟩ := map_eq_ok_iff.1 hf
        obtain ⟨instant', hi', rfl⟩ := map_eq_ok_iff.1 hf'
        obtain ⟨offsetAt, hshows, hsteady⟩ := hs clock hc
        simp only [DateTime.day] at hbound hpast hle
        -- Only the clock of a zone can show an earlier date at a later instant.
        refine ⟨last, rfl, clock, hc, fun hkeeps => ?_⟩
        have := hkeeps wall' instant' instant hi' (by omega) (hshows.of_toUtc hi).1
        omega
      · next ha hc =>
        rw [ha, hc] at hf'
        cases hf
        cases hf'
        simp only [DateTime.day] at hbound hpast
        unfold dayOf at hbound hpast
        dsimp only at hle
        omega

end Plan

namespace Run

variable {resolver : Resolver} {pattern : Pattern} {anchor : DateTime} {run : Run}
  {first last : Option Int}

theorem between_ascends (run : Run) (first last : Option Int) :
    Ascends (run.between first last).toList :=
  ((run.between first last).plan.items_ascend _).1

section Opens

variable (hcursor : run.cursor = .before 0) (hopens : run.plan.Opens resolver.clocks pattern anchor)
  (hA : anchor.InCalendar) (hopen : ∀ start ∈ first, ∀ stop ∈ last, start ≤ stop)
include hcursor hopens hA hopen

theorem mem_between {found : Instance} (hmem : .ok found ∈ run.toList)
    (hwithin : found.isWithin first last = true) : .ok found ∈ (run.between first last).toList := by
  obtain ⟨tail, htail, -⟩ := between_eq_append (hopens.canonical hA) hopens.isNear hcursor
    hopens.resume_eq hopens.horizon_eq hopen
  rw [htail]
  refine List.mem_append_left _ (List.mem_map_of_mem (List.mem_filter.2 ⟨?_, hwithin⟩))
  exact mem_successes.2 hmem

/-- What a run arrives at lies in the slice, or the run reaches the end of the
slice. -/
theorem between_eq_of_arrives {test : Instance → Prop} (ha : Arrives test run.toList)
    (hfirst : ∀ found, test found → ∀ start ∈ first, start ≤ found.key.instant)
    (hp : ∀ start ∈ first, ¬ run.plan.Passes start) : ∃ tail,
      (run.between first last).toList = slice first last run.toList ++ tail ∧
        (tail = [] ∨ ∃ found, test found ∧ .ok found ∈ slice first last run.toList) := by
  obtain ⟨tail, htail, hnone⟩ := between_eq_append (hopens.canonical hA) hopens.isNear hcursor
    hopens.resume_eq hopens.horizon_eq hopen
  refine ⟨tail, htail, ?_⟩
  rcases ha.cases_on_end with hclean | ⟨found, hmem, htest⟩
  · refine .inl (hnone (.inl fun error herror => ?_) hp)
    rw [← mem_failures, hclean] at herror
    cases herror
  · by_cases hbehind : ∃ stop ∈ last, stop < found.key.instant
    · obtain ⟨stop, hlast, hlt⟩ := hbehind
      exact .inl (hnone (.inr ⟨stop, hlast, found, hmem, hlt⟩) hp)
    · refine .inr ⟨found, htest, List.mem_map_of_mem (List.mem_filter.2 ?_)⟩
      refine ⟨mem_successes.2 hmem, ?_⟩
      unfold Instance.isWithin
      rw [Bool.and_eq_true, Option.all_eq_true, Option.all_eq_true]
      push Not at hbehind
      exact ⟨fun start hs => decide_eq_true (hfirst found htest start hs),
        fun stop hs => decide_eq_true (hbehind stop hs)⟩

theorem mem_of_mem_between {found : Instance} (hmem : .ok found ∈ (run.between first last).toList)
    (ha : Arrives (found.key ≤ ·.key) run.toList)
    (hp : ∀ start ∈ first, ¬ run.plan.Passes start) : .ok found ∈ run.toList := by
  obtain ⟨_, -, -, -, hwithin⟩ := of_mem_between (hopens.canonical hA) hcursor hopens.resume_eq
    hopens.horizon_eq hmem
  unfold Instance.isWithin at hwithin
  rw [Bool.and_eq_true, Option.all_eq_true] at hwithin
  have hfirst : ∀ later : Instance, found.key ≤ later.key → ∀ start ∈ first,
      start ≤ later.key.instant := by
    intro later hle start hs
    exact (of_decide_eq_true (hwithin.1 start hs)).trans (TimelineKey.instant_le_of_le hle)
  obtain ⟨tail, htail, hend⟩ := between_eq_of_arrives hcursor hopens hA hopen ha hfirst hp
  have hslice : .ok found ∈ slice first last run.toList → .ok found ∈ run.toList := by
    intro hs
    obtain ⟨_, hone, heq⟩ := List.mem_map.1 hs
    cases heq
    exact mem_successes.1 (List.mem_filter.1 hone).1
  have hascends := between_ascends run first last
  rw [htail] at hmem
  rcases List.mem_append.1 hmem with hmem | hmem
  · exact hslice hmem
  · rcases hend with rfl | ⟨later, hle, hlater⟩
    · cases hmem
    · unfold Ascends at hascends
      rw [htail, successes_append, List.pairwise_append] at hascends
      have hlt := hascends.2.2 later (mem_successes.2 hlater) found (mem_successes.2 hmem)
      exact absurd hlt (not_lt.2 hle)

theorem arrives_between {test : Instance → Prop} (ha : Arrives test run.toList)
    (hfirst : ∀ found, test found → ∀ start ∈ first, start ≤ found.key.instant)
    (hp : ∀ start ∈ first, ¬ run.plan.Passes start) :
    Arrives test (run.between first last).toList := by
  obtain ⟨tail, htail, hend⟩ := between_eq_of_arrives hcursor hopens hA hopen ha hfirst hp
  rw [htail]
  rcases hend with rfl | ⟨found, htest, hmem⟩
  · rw [List.append_nil]
    exact arrives_of_failures (failures_map_ok _)
  · exact arrives_append_left (failures_map_ok _) (mem_successes.2 hmem) htest

end Opens

end Run
end Recurrence

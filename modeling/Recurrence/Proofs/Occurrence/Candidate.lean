import Mathlib
import Recurrence.Occurrence.Candidate
import Recurrence.Proofs.Lookahead
import Recurrence.Proofs.Rule.Order

/-! Candidates and where they come from. Of lists that ascend only the front can
lie at the least place, so that dropping the fronts there drops that place. -/
namespace Recurrence

section Ascending

variable {α : Type} {place : α → TimelineKey} {first : α} {others : List α} {key : TimelineKey}

theorem filter_at_of_ascending (h : (first :: others).Pairwise (place · < place ·))
    (hle : key ≤ place first) :
    (first :: others).filter (place · = key) = [first].filter (place · = key) := by
  have hnone : others.filter (place · = key) = [] := by
    rw [List.filter_eq_nil_iff]
    intro other hmem
    have := hle.trans_lt ((List.pairwise_cons.1 h).1 other hmem)
    simpa using this.ne'
  rw [← List.singleton_append, List.filter_append, hnone, List.append_nil]

theorem filter_off_of_ascending (h : (first :: others).Pairwise (place · < place ·))
    (hle : key ≤ place first) : (first :: others).filter (place · ≠ key) =
      if place first = key then others else first :: others := by
  have hall : others.filter (place · ≠ key) = others := by
    rw [List.filter_eq_self]
    intro other hmem
    have := hle.trans_lt ((List.pairwise_cons.1 h).1 other hmem)
    simpa using this.ne'
  rw [List.filter_cons, hall]
  by_cases hk : place first = key <;> simp [hk]

theorem first_le_of_ascending (h : (first :: others).Pairwise (place · < place ·)) {one : α}
    (hmem : one ∈ first :: others) : place first ≤ place one := by
  rcases List.mem_cons.1 hmem with rfl | hmem
  · exact le_rfl
  · exact ((List.pairwise_cons.1 h).1 one hmem).le

end Ascending

namespace Candidate

/-- The last of some candidates at a place. -/
def last? (key : TimelineKey) (candidates : List Candidate) : Option Candidate :=
  (candidates.filter (·.key = key)).getLast?

theorem of_last? {key : TimelineKey} {candidates : List Candidate} {candidate : Candidate}
    (h : last? key candidates = some candidate) : candidate ∈ candidates ∧ candidate.key = key := by
  simpa using List.mem_filter.1 (List.mem_of_getLast? h)

theorem exists_last? {candidates : List Candidate} {candidate : Candidate}
    (h : candidate ∈ candidates) : ∃ last, last? candidate.key candidates = some last := by
  have hne : candidates.filter (·.key = candidate.key) ≠ [] := by
    rw [Ne, List.filter_eq_nil_iff]
    intro hall
    exact hall candidate h (decide_eq_true rfl)
  exact ⟨_, List.getLast?_eq_some_getLast hne⟩

theorem last?_append (key : TimelineKey) (left right : List Candidate) :
    last? key (left ++ right) = (last? key right).or (last? key left) := by
  unfold last?
  rw [List.filter_append, List.getLast?_append]

theorem last?_generated (key : TimelineKey) (instances : List Instance) :
    last? key (instances.map .generated) =
      (instances.filter (·.key = key)).getLast?.map .generated := by
  rw [last?, List.filter_map, List.getLast?_map]
  rfl

theorem last?_declared {added : List Added} (h : added.Pairwise (·.start < ·.start))
    (key : TimelineKey) :
    last? key (added.map .declared) = (added.find? (·.start = key)).map .declared := by
  induction added with
  | nil => rfl
  | cons first others ih =>
    obtain ⟨hfirst, hothers⟩ := List.pairwise_cons.1 h
    have hsplit := last?_append key [.declared first] (others.map .declared)
    rw [List.singleton_append, ih hothers] at hsplit
    rw [List.map_cons, hsplit, List.find?_cons]
    by_cases hk : first.start = key
    · have hnone : others.find? (·.start = key) = none := by
        rw [List.find?_eq_none]
        intro other hmem
        simpa [← hk] using (hfirst other hmem).ne'
      rw [hnone]
      simp [last?, Candidate.key, hk]
    · simp [last?, Candidate.key, hk]

theorem last?_off {key dropped : TimelineKey} (h : key ≠ dropped) (candidates : List Candidate) :
    last? key (candidates.filter (·.key ≠ dropped)) = last? key candidates := by
  unfold last?
  rw [List.filter_filter]
  congr 1
  apply List.filter_congr
  intro candidate _
  by_cases hk : candidate.key = key <;> simp [hk, h]

theorem earliest?_eq_none {candidates : List Candidate} (h : earliest? candidates = none) :
    candidates = [] := by
  cases candidates with
  | nil => rfl
  | cons first others =>
    unfold earliest? at h
    split at h
    · split at h <;> cases h
    · cases h

/-- The earliest candidate is the last at the least place. -/
theorem of_earliest? {candidates : List Candidate} {candidate : Candidate}
    (h : earliest? candidates = some candidate) :
    (∀ other ∈ candidates, candidate.key ≤ other.key) ∧
      last? candidate.key candidates = some candidate := by
  induction candidates generalizing candidate with
  | nil => cases h
  | cons first others ih =>
    have hsplit : ∀ key, last? key (first :: others) =
        (last? key others).or (last? key [first]) := fun key => last?_append key [first] others
    unfold earliest? at h
    cases ho : earliest? others with
    | none =>
      obtain rfl := earliest?_eq_none ho
      simp only [ho, Option.some.injEq] at h
      subst h
      simp [last?]
    | some other =>
      obtain ⟨hleast, hlast⟩ := ih ho
      simp only [ho] at h
      split at h
      · next hle =>
        cases h
        refine ⟨List.forall_mem_cons.2 ⟨hle, hleast⟩, ?_⟩
        rw [hsplit, hlast]
        rfl
      · next hlt =>
        cases h
        have hlt' : first.key < other.key := not_le.1 hlt
        refine ⟨List.forall_mem_cons.2 ⟨le_rfl, fun d hd => (hlt'.trans_le (hleast d hd)).le⟩, ?_⟩
        have hnone : last? first.key others = none := by
          unfold last?
          rw [List.getLast?_eq_none_iff, List.filter_eq_nil_iff]
          intro d hd
          simpa using (hlt'.trans_le (hleast d hd)).ne'
        rw [hsplit, hnone]
        simp [last?]

end Candidate

namespace Instances

/-- The instances that are still to come. -/
def all (ahead : Instances) : List Instance := successes ahead.toList

/-- Whether the instances still to come ascend. -/
def Ascends (ahead : Instances) : Prop := ahead.all.Pairwise (·.key < ·.key)

variable {ahead : Instances} {key : TimelineKey}

theorem all_of_head {found : Instance} (h : ahead.head = some found) :
    ahead.all = found :: successes (Source.restList ahead.rest) := by
  rw [all, Lookahead.toList_of_head h, successes_ok_cons]

theorem all_of_isReady (hr : ahead.IsReady) (h : ahead.head = none) : ahead.all = [] := by
  rw [all, hr h, successes_nil]

theorem ascends_ofSource (run : Run) : Ascends (.ofSource run) :=
  (run.plan.items_ascend run.cursor).1

theorem ascends_single (found : Instance) : Ascends (.single found) :=
  List.pairwise_singleton _ _

theorem head_le (hr : ahead.IsReady) (ha : ahead.Ascends) {found : Instance}
    (h : found ∈ ahead.all) : ∃ first, ahead.head = some first ∧ first.key ≤ found.key := by
  cases hh : ahead.head with
  | none => simp [all_of_isReady hr hh] at h
  | some first =>
    unfold Ascends at ha
    rw [all_of_head hh] at h ha
    exact ⟨first, rfl, first_le_of_ascending ha h⟩

theorem filter_all_at (hr : ahead.IsReady) (ha : ahead.Ascends)
    (hle : ∀ found ∈ ahead.head, key ≤ found.key) :
    ahead.all.filter (·.key = key) = ahead.head.toList.filter (·.key = key) := by
  cases hh : ahead.head with
  | none => rw [all_of_isReady hr hh]; rfl
  | some found =>
    unfold Ascends at ha
    rw [all_of_head hh] at ha ⊢
    exact filter_at_of_ascending ha (hle found hh)

theorem all_dropIf (hr : ahead.IsReady) (ha : ahead.Ascends)
    (hle : ∀ found ∈ ahead.head, key ≤ found.key) :
    all (ahead.dropIf (Instance.isAt key)) = ahead.all.filter (·.key ≠ key) := by
  cases hh : ahead.head with
  | none =>
    rw [Lookahead.dropIf, hh, Option.any_none, if_neg Bool.false_ne_true, all_of_isReady hr hh]
    rfl
  | some found =>
    have hall := all_of_head hh
    unfold Ascends at ha
    rw [hall] at ha ⊢
    rw [filter_off_of_ascending ha (hle found hh), Lookahead.dropIf, hh]
    by_cases hk : found.key = key
    · simp [Instance.isAt, hk, all, Lookahead.toList]
    · simpa [Instance.isAt, hk] using hall

theorem failures_dropIf (ahead : Instances) (test : Instance → Bool) :
    failures (ahead.dropIf test).toList = failures ahead.toList := by
  unfold Lookahead.dropIf
  split
  · next h =>
    obtain ⟨found, hh, -⟩ := (Option.any_eq_true _ _).1 h
    rw [Lookahead.toList_of_head hh]
    rfl
  · rfl

/-- Getting instances ready takes none away, also where it fails. -/
theorem map_all_of_fillAll {aheads next : List Instances} {error : Option Failure}
    (h : Lookahead.fillAll aheads = (error, next)) : next.map all = aheads.map all := by
  have hsame : next.map (successes ∘ Lookahead.toList) =
      aheads.map (successes ∘ Lookahead.toList) := by
    rw [← List.map_map, ← List.map_map]
    cases error with
    | none => rw [(Lookahead.toList_of_fillAll h).1]
    | some error =>
      obtain ⟨before, items, after, hbefore, hafter, -⟩ := Lookahead.toList_of_fillAll_error h
      rw [hbefore, hafter]
      simp
  exact hsame

theorem flatMap_all_of_fillAll {aheads next : List Instances} {error : Option Failure}
    (h : Lookahead.fillAll aheads = (error, next)) : next.flatMap all = aheads.flatMap all :=
  congrArg List.flatten (map_all_of_fillAll h)

/-- What a search for a place passes, and where it comes to rest. -/
structure Seeks (key : TimelineKey) (ahead next : Instances) (passed : List Run.Item) : Prop where
  split : ahead.toList = passed ++ next.toList
  before : ∀ found ∈ successes passed, found.key < key
  ready : next.IsReady
  behind : ∀ found ∈ next.head, key ≤ found.key

theorem seek_seeks (key : TimelineKey) (ahead : Instances) : ∃ passed,
    Seeks key ahead (ahead.seek key).2 passed ∧ (ahead.seek key).1 = failures passed := by
  fun_induction Instances.seek key ahead with
  | case1 found rest hlt ih =>
    obtain ⟨passed, ⟨hsplit, hbefore, hready, hbehind⟩, herrors⟩ := ih
    refine ⟨.ok found :: passed, ⟨?_, ?_, hready, hbehind⟩, herrors⟩
    · rw [List.cons_append, ← hsplit]
      rfl
    · simpa [hlt] using hbefore
  | case2 found rest hle =>
    refine ⟨[], ⟨rfl, by simp, ?_, ?_⟩, rfl⟩
    · intro hnone
      cases hnone
    · rintro _ ⟨⟩
      exact not_lt.1 hle
  | case3 => exact ⟨[], ⟨rfl, by simp, fun _ => rfl, by simp⟩, rfl⟩
  | case4 run hn =>
    exact ⟨[], ⟨Source.toList_eq_nil_iff.2 hn, by simp, fun _ => rfl, by simp⟩, rfl⟩
  | case5 run found rest hn ih =>
    obtain ⟨passed, ⟨hsplit, hbefore, hready, hbehind⟩, herrors⟩ := ih
    refine ⟨passed, ⟨?_, hbefore, hready, hbehind⟩, herrors⟩
    rw [← hsplit]
    exact Source.toList_of_next? hn
  | case6 run error rest hn errors next he ih =>
    rw [he] at ih
    obtain ⟨passed, ⟨hsplit, hbefore, hready, hbehind⟩, herrors⟩ := ih
    refine ⟨.error error :: passed, ⟨?_, hbefore, hready, hbehind⟩, congrArg (error :: ·) herrors⟩
    rw [List.cons_append, ← hsplit]
    exact Source.toList_of_next? hn

theorem all_seek (ha : ahead.Ascends) (key : TimelineKey) :
    all (ahead.seek key).2 = ahead.all.filter (key ≤ ·.key) := by
  obtain ⟨passed, ⟨hsplit, hbefore, hready, hbehind⟩, -⟩ := seek_seeks key ahead
  have hall : ahead.all = successes passed ++ all (ahead.seek key).2 := by
    rw [all, hsplit, successes_append, all]
  unfold Ascends at ha
  rw [hall] at ha
  have hnext := (List.pairwise_append.1 ha).2.1
  have hpassed : (successes passed).filter (key ≤ ·.key) = [] := by
    rw [List.filter_eq_nil_iff]
    intro found hf
    simpa using hbefore found hf
  rw [hall, List.filter_append, hpassed, List.nil_append, eq_comm, List.filter_eq_self]
  intro found hf
  rw [decide_eq_true_eq]
  obtain ⟨first, hfirst, hle⟩ := head_le hready hnext hf
  exact (hbehind first hfirst).trans hle

theorem ascends_seek (ha : ahead.Ascends) (key : TimelineKey) : Ascends (ahead.seek key).2 := by
  unfold Ascends
  rw [all_seek ha]
  exact List.Pairwise.filter _ ha

theorem isAt_head_seek (ha : ahead.Ascends) (key : TimelineKey) :
    (ahead.seek key).2.head.any (Instance.isAt key) = true ↔ ∃ found ∈ ahead.all, found.key = key := by
  obtain ⟨_, ⟨-, -, hready, hbehind⟩, -⟩ := seek_seeks key ahead
  have hall := filter_all_at hready (ascends_seek ha key) hbehind
  rw [all_seek ha, List.filter_filter] at hall
  constructor
  · intro h
    obtain ⟨found, hh, hat⟩ := (Option.any_eq_true _ _).1 h
    have hmem : found ∈ (ahead.seek key).2.head.toList.filter (·.key = key) := by
      simpa [hh, Instance.isAt] using hat
    rw [← hall] at hmem
    simp only [List.mem_filter, Bool.and_eq_true, decide_eq_true_eq] at hmem
    exact ⟨found, hmem.1, hmem.2.1⟩
  · rintro ⟨found, hf, rfl⟩
    have hmem : found ∈ ahead.all.filter fun f =>
        decide (f.key = found.key) && decide (found.key ≤ f.key) := by
      simpa using hf
    rw [hall] at hmem
    simp only [List.mem_filter, Option.mem_toList] at hmem
    rw [Option.any_eq_true]
    exact ⟨found, hmem.1, decide_eq_true rfl⟩

theorem seekAll_eq (key : TimelineKey) (aheads : List Instances) : seekAll key aheads =
    (aheads.flatMap fun ahead => (ahead.seek key).1,
      aheads.any fun ahead => (ahead.seek key).2.head.any (Instance.isAt key),
      aheads.map fun ahead => (ahead.seek key).2) := by
  induction aheads with
  | nil => rfl
  | cons ahead others ih => rw [seekAll, ih]; rfl

end Instances
end Recurrence

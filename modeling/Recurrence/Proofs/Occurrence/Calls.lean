import Mathlib
import Recurrence.Proofs.Occurrence.Sweep

/-! A stream as a loop. A call takes turns until one of them has an answer: a failure that
waits or that a rule comes to, or what a candidate gives. Nothing is the answer only where
the stream has finished, and that it has is kept from one call to the next. -/
namespace Recurrence.Occurrences

/-- A stream between two calls, or two turns of one. -/
structure Loop where
  stream : Occurrences
  /-- Whether no candidate is looked at any more. -/
  finished : Bool

/-- A stream before its first call. -/
def loop (stream : Occurrences) : Loop := ⟨stream, false⟩

/-- Whether a call comes to an answer after some turns, and with which loop. -/
inductive Answers : Loop → Nat → Option Item → Loop → Prop
  | deferred {stream : Occurrences} {finished : Bool} {error : Failure} {later : List Failure}
      (hd : stream.deferred = error :: later) : Answers ⟨stream, finished⟩ 0 (some (.error error))
        ⟨{ stream with deferred := later }, finished⟩
  | ended {stream : Occurrences} (hd : stream.deferred = []) :
      Answers ⟨stream, true⟩ 0 none ⟨stream, true⟩
  | failed {stream : Occurrences} {error : Failure} {generated : List Instances}
      (hd : stream.deferred = []) (hf : Lookahead.fillAll stream.generated = (some error, generated)) :
      Answers ⟨stream, false⟩ 0 (some (.error error)) ⟨{ stream with generated }, false⟩
  | finishes {stream : Occurrences} {generated : List Instances} {turns : Nat}
      {answer : Option Item} {next : Loop} (hd : stream.deferred = [])
      (hf : Lookahead.fillAll stream.generated = (none, generated))
      (hc : ∀ candidate ∈ Candidate.earliest? { stream with generated }.candidates,
        stream.endsBefore candidate.key = true)
      (rest : Answers ⟨{ stream with generated }, true⟩ turns answer next) :
      Answers ⟨stream, false⟩ (turns + 1) answer next
  | given {stream behind : Occurrences} {generated : List Instances} {candidate : Candidate}
      {item : Item} (hd : stream.deferred = [])
      (hf : Lookahead.fillAll stream.generated = (none, generated))
      (hc : Candidate.earliest? { stream with generated }.candidates = some candidate)
      (he : stream.endsBefore candidate.key = false)
      (hv : visit ({ stream with generated }.dropAt candidate.key) candidate = (some item, behind)) :
      Answers ⟨stream, false⟩ 0 (some item) ⟨behind, false⟩
  | passed {stream behind : Occurrences} {generated : List Instances} {candidate : Candidate}
      {turns : Nat} {answer : Option Item} {next : Loop} (hd : stream.deferred = [])
      (hf : Lookahead.fillAll stream.generated = (none, generated))
      (hc : Candidate.earliest? { stream with generated }.candidates = some candidate)
      (he : stream.endsBefore candidate.key = false)
      (hv : visit ({ stream with generated }.dropAt candidate.key) candidate = (none, behind))
      (rest : Answers ⟨behind, false⟩ turns answer next) :
      Answers ⟨stream, false⟩ (turns + 1) answer next

/-- The answers to calls in a row, and the loop behind them. -/
inductive Calls : Loop → List (Option Item) → Loop → Prop
  | none {loop : Loop} : Calls loop [] loop
  | call {loop next last : Loop} {turns : Nat} {answer : Option Item}
      {answers : List (Option Item)} (first : Answers loop turns answer next)
      (rest : Calls next answers last) : Calls loop (answer :: answers) last

namespace Loop

/-- The items that a loop still has to answer with. -/
def items (loop : Loop) : List Item :=
  if loop.finished then loop.stream.deferred.map .error else loop.stream.toList

/-- The turns that are left for a loop. -/
def left (loop : Loop) : Nat :=
  if loop.finished then 0 else loop.stream.weight + 1

variable (stream : Occurrences)

@[simp] theorem items_finished : items ⟨stream, true⟩ = stream.deferred.map .error := rfl

@[simp] theorem items_going : items ⟨stream, false⟩ = stream.toList := rfl

@[simp] theorem left_finished : left ⟨stream, true⟩ = 0 := rfl

@[simp] theorem left_going : left ⟨stream, false⟩ = stream.weight + 1 := rfl

end Loop

section Turns

variable {stream behind : Occurrences} {generated : List Instances} {candidate : Candidate}
  {item : Option Item} (hd : stream.deferred = [])
  (hf : Lookahead.fillAll stream.generated = (none, generated))
include hd hf

theorem toList_of_finishes
    (hc : ∀ candidate ∈ Candidate.earliest? { stream with generated }.candidates,
      stream.endsBefore candidate.key = true) : stream.toList = [] := by
  apply toList_of_next?_none
  rw [next?_of_ready hd hf]
  cases hcandidate : Candidate.earliest? { stream with generated }.candidates with
  | none => rfl
  | some candidate => exact if_pos (hc candidate hcandidate)

variable (hc : Candidate.earliest? { stream with generated }.candidates = some candidate)
  (hv : visit ({ stream with generated }.dropAt candidate.key) candidate = (item, behind))
include hc hv

theorem toList_of_visit_eq (he : stream.endsBefore candidate.key = false) :
    stream.toList = item.toList ++ behind.toList := by
  have hitems := toList_of_visit hd hf hc he
  rwa [hv] at hitems

omit hd in
theorem weight_visit_lt : behind.weight < stream.weight := by
  have hle := weight_visit_le ({ stream with generated }.dropAt candidate.key) candidate
  rw [hv] at hle
  exact hle.trans_lt (weight_behind_lt (congrArg Prod.snd hf) hc)

end Turns

theorem exists_answers (loop : Loop) :
    ∃ turns ≤ loop.left, ∃ answer next, Answers loop turns answer next := by
  obtain ⟨stream, finished⟩ := loop
  -- Each turn that passes a candidate without an answer takes weight off the stream.
  induction hw : stream.weight using Nat.strong_induction_on generalizing stream finished with
  | _ weight ih =>
    subst hw
    cases hd : stream.deferred with
    | cons error later => exact ⟨0, Nat.zero_le _, _, _, .deferred hd⟩
    | nil =>
      cases finished with
      | true => exact ⟨0, Nat.zero_le _, _, _, .ended hd⟩
      | false =>
        rcases hf : Lookahead.fillAll stream.generated with ⟨_ | error, generated⟩
        · by_cases hc : ∀ candidate ∈ Candidate.earliest? { stream with generated }.candidates,
              stream.endsBefore candidate.key = true
          · exact ⟨1, Nat.succ_le_succ (Nat.zero_le _), _, _, .finishes hd hf hc (.ended hd)⟩
          · simp only [not_forall, Bool.not_eq_true] at hc
            obtain ⟨candidate, hc, he⟩ := hc
            rcases hv : visit ({ stream with generated }.dropAt candidate.key) candidate with
              ⟨_ | item, behind⟩
            · have hlt := weight_visit_lt hf hc hv
              obtain ⟨turns, hle, answer, next, hanswers⟩ := ih _ hlt behind false rfl
              exact ⟨turns + 1, Nat.succ_le_succ (hle.trans hlt), answer, next,
                .passed hd hf hc he hv hanswers⟩
            · exact ⟨0, Nat.zero_le _, _, _, .given hd hf hc he hv⟩
        · exact ⟨0, Nat.zero_le _, _, _, .failed hd hf⟩

variable {loop next : Loop} {turns : Nat} {answer : Option Item}

/-- An answer is the first item that was left, or nothing where there was none. No turns are
left that were not before. -/
theorem Answers.spec (h : Answers loop turns answer next) :
    answer = loop.items.head? ∧ next.items = loop.items.tail ∧ next.left ≤ loop.left := by
  induction h with
  | @deferred stream finished error later hd =>
    have hn := next?_of_deferred hd
    cases finished with
    | true => simp [hd]
    | false => simp [toList_of_next? hn, (weight_lt_of_next? hn).le]
  | ended hd => simp [hd]
  | failed hd hf =>
    have hn := next?_of_failed hd hf
    simp [toList_of_next? hn, (weight_lt_of_next? hn).le]
  | finishes hd hf hc rest ih =>
    obtain ⟨hanswer, hitems, hleft⟩ := ih
    simp only [Loop.items_finished, hd, List.map_nil] at hanswer hitems
    rw [Loop.items_going, toList_of_finishes hd hf hc]
    exact ⟨hanswer, hitems, hleft.trans (Nat.zero_le _)⟩
  | given hd hf hc he hv =>
    simp [toList_of_visit_eq hd hf hc hv he, (weight_visit_lt hf hc hv).le]
  | passed hd hf hc he hv rest ih =>
    have hitems := toList_of_visit_eq hd hf hc hv he
    rw [Option.toList_none, List.nil_append] at hitems
    rw [Loop.items_going, hitems]
    exact ⟨ih.1, ih.2.1, ih.2.2.trans (Nat.succ_le_succ (weight_visit_lt hf hc hv).le)⟩

theorem Calls.spec {answers : List (Option Item)} (h : Calls loop answers next) :
    answers = (List.range answers.length).map (loop.items[·]?) ∧ next.left ≤ loop.left := by
  induction h with
  | none => exact ⟨rfl, le_rfl⟩
  | @call loop next last turns answer answers first rest ih =>
    obtain ⟨hanswer, hitems, hleft⟩ := first.spec
    obtain ⟨hanswers, hrest⟩ := ih
    refine ⟨?_, hrest.trans hleft⟩
    rw [List.length_cons, List.range_succ_eq_map, List.map_cons, List.map_map]
    congr 1
    · rw [hanswer, List.head?_eq_getElem?]
    · rw [hanswers, List.length_map, List.length_range, hitems]
      simp [Function.comp_def]

/-- Whether calls of a stream come to its items in turn, and then to nothing for good. -/
structure IsFused (stream : Occurrences) : Prop where
  /-- Every call comes to an answer, whatever calls came before. -/
  answers : ∀ {before loop}, Calls stream.loop before loop →
    ∃ turns ≤ stream.weight + 1, ∃ answer next, Answers loop turns answer next
  /-- The answers are the items of a finite list in turn, and then nothing. -/
  items : ∀ {before loop}, Calls stream.loop before loop →
    before = (List.range before.length).map (stream.toList[·]?)
  /-- An answer of nothing is followed by nothing. -/
  fused : ∀ {before loop}, Calls stream.loop before loop →
    before.Pairwise fun earlier later => earlier = none → later = none

theorem isFused (stream : Occurrences) : stream.IsFused := by
  refine ⟨fun hbefore => ?_, fun hbefore => hbefore.spec.1, fun hbefore => ?_⟩
  · obtain ⟨turns, hle, hanswers⟩ := exists_answers _
    exact ⟨turns, hle.trans hbefore.spec.2, hanswers⟩
  · rw [hbefore.spec.1, List.pairwise_map]
    refine List.pairwise_lt_range.imp fun {i j} hlt hnone => ?_
    rw [List.getElem?_eq_none_iff] at hnone ⊢
    omega

end Recurrence.Occurrences
